import ServiceBinding.Text.Base64
import ServiceBinding.Text.Blank
import ServiceBinding.Text.Search

/-!
PEM text: blocks of Base64 between a line that begins and a line that ends them, both with the
block's label. Blocks are found by searching for the marks of these lines one after the other;
what stands between blocks is skipped. The search for a mark starts afresh behind an octet that
does not fit, also where that octet could begin the mark.
-/
namespace ServiceBinding.Text.Pem

/-- A block and its label. -/
structure Block where
  label : String
  content : Bytes
deriving DecidableEq, Repr

/-! ### Searching -/

/-- Searches for a mark of which `found` octets have been seen, after the octets `seen`, the
latest first: what stands before the mark, and what follows it. -/
def searchFrom (mark : Bytes) (found : Nat) (seen : Bytes) : Bytes → Option (Bytes × Bytes)
  | [] => none
  | b :: rest =>
    let found := if mark[found]? == some b then found + 1 else 0
    let seen := b :: seen
    if found = mark.length then some ((seen.drop found).reverse, rest)
    else searchFrom mark found seen rest

/-- What stands before a mark and what follows it. -/
def search (mark : String) (b : Bytes) : Option (Bytes × Bytes) :=
  searchFrom (Bytes.ofText mark) 0 [] b

/-- The octets after spaces, tabs and line breaks. -/
def skipBlanks (b : Bytes) : Bytes :=
  b.dropWhile fun c => c == 0x20 || c == 0x09 || c == 0x0D || c == 0x0A

/-- A block as it is found: the labels of its two lines and what stands between them. -/
structure Found where
  label : Bytes
  payload : Bytes
  endLabel : Bytes
deriving DecidableEq, Repr

/-- The first block and what follows it. -/
def findBlock (b : Bytes) : Option (Found × Bytes) := do
  let (_, b) ← search "-----BEGIN " b
  let (label, b) ← search "-----" b
  let (payload, b) ← search "-----END " (skipBlanks b)
  let (endLabel, b) ← search "-----" b
  return (⟨label, payload, endLabel⟩, skipBlanks b)

/-- At most so many blocks, one after the other. -/
def findBlocks : Nat → Bytes → List Found
  | 0, _ => []
  | n + 1, b =>
    match findBlock b with
    | none => []
    | some (block, rest) => block :: findBlocks n rest

/-! ### Reading -/

/-- The headers and the data of a payload, which an empty line separates. -/
def splitPayload (payload : Bytes) : Bytes × Bytes :=
  ((search "\n\n" payload).or (search "\r\n\r\n" payload)).getD ([], payload)

/-- The lines of a text; a line break at its end begins none. -/
def lines (s : String) : List String :=
  let all := split s "\n"
  if all.getLast? == some "" then all.dropLast else all

/-- Whether a text consists of header lines, each a name and a value with a colon between. -/
def areHeaders (s : String) : Bool := (lines s).all (·.toList.contains ':')

/-- The block that has been found, if it is well-formed. -/
def Found.block? (f : Found) : Option Block := do
  let label ← f.label.toText?
  let endLabel ← f.endLabel.toText?
  let (headers, data) := splitPayload f.payload
  let headers ← headers.toText?
  let data ← data.toText?
  let content ← Base64.decodeChars? (data.toList.filter (!isBlank ·))
  if label.isEmpty || label != endLabel || !areHeaders headers then none
  else return ⟨label, content⟩

/-- The blocks of a text, if all of them are well-formed. -/
def read? (b : Bytes) : Option (List Block) := (findBlocks b.length b).mapM Found.block?

/-! ### Writing -/

/-- The characters of a text on lines of sixty-four. -/
def wrap : Nat → List Char → List Char
  | 0, _ => []
  | n + 1, s => if s.isEmpty then [] else s.take 64 ++ '\n' :: wrap n (s.drop 64)

def write (label : String) (content : Bytes) : String :=
  let body := Base64.encodeChars content
  "-----BEGIN " ++ label ++ "-----\n" ++ String.ofList (wrap body.length body) ++
    "-----END " ++ label ++ "-----\n"

end ServiceBinding.Text.Pem
