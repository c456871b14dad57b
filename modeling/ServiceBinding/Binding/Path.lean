import ServiceBinding.Error
import ServiceBinding.Json.Writer
import ServiceBinding.Text.Blank
import ServiceBinding.Text.Numeral
import ServiceBinding.Text.Search

/-!
Path expressions: the address of a single value in the JSON form of a resource, such as
`{.spec.ports[0].targetPort}`. Braces and the leading dot are optional. A path is read in one pass
over its characters, in or outside of brackets, and followed step by step; no step leads to or
through null.
-/
namespace ServiceBinding.Binding

/-- One step of a path. -/
inductive Step where
  /-- To a member of an object. -/
  | field (name : String)
  /-- To an item of an array. -/
  | index (i : Nat)
deriving DecidableEq, Repr

/-- Where a step leads, null counting as nowhere. -/
def Step.follow? (step : Step) (j : Json) : Option Json :=
  let next := match step, j with
    | .field name, .obj members => Json.lookup name members
    | .index i, .arr items => items[i]?
    | _, _ => none
  next.filter (!·.isNull)

/-- A path expression as it was written, and its steps. -/
structure Path where
  raw : String
  steps : List Step
deriving DecidableEq, Repr

namespace Path

/-! ### Reading -/

/-- Why a text is not a path expression. -/
inductive Fault where
  | unbalancedBraces
  | manyValued
  | emptyField
  | trailingDot
  | unclosedBracket
  | badBracket
  | unexpectedBracket
  | empty
deriving DecidableEq, Repr

def Fault.message : Fault → String
  | .unbalancedBraces => "unbalanced braces"
  | .manyValued => "only single-value paths are supported"
  | .emptyField => "empty field name"
  | .trailingDot => "trailing dot"
  | .unclosedBracket => "unclosed '['"
  | .badBracket => "brackets must hold an index or a quoted key"
  | .unexpectedBracket => "unexpected ']'"
  | .empty => "empty path"

/-- The text between two equal quotes, if there is any. -/
def unquote? (quote : Char) (s : List Char) : Option (List Char) :=
  match s with
  | first :: rest =>
    if first = quote ∧ rest.getLast? = some quote then some rest.dropLast else none
  | [] => none

/-- The step that the content of a pair of brackets writes: an index, or a name in quotes. -/
def bracket? (inner : List Char) : Option Step :=
  let inner := Text.trimWhere Text.isBlank inner
  match Text.numeral? UInt64.size inner with
  | some i => some (.index i)
  | none =>
    match (unquote? '\'' inner).or (unquote? '"' inner) with
    | some [] => none
    | some name => some (.field (String.ofList name))
    | none => none

/-- The steps of a field that ends here: one, or none where nothing has been read of it. -/
def finish (field : List Char) : List Step :=
  if field.isEmpty then [] else [.field (String.ofList field)]

/-- Where the reader is. -/
inductive Position where
  /-- In a field of which `field` has been read, `afterBracket` telling whether a bracket group
  ended just before. -/
  | outside (field : List Char) (afterBracket : Bool)
  /-- Within brackets, of whose content `inner` has been read. -/
  | inside (inner : List Char)

/-- The steps that the rest of a body writes. -/
def scan : Position → List Char → Except Fault (List Step)
  | .outside field _, [] => .ok (finish field)
  | .inside _, [] => .error .unclosedBracket
  | .outside field afterBracket, c :: rest =>
    if c = '.' then
      if field.isEmpty && !afterBracket then .error .emptyField
      else if rest.isEmpty then .error .trailingDot
      else do return finish field ++ (← scan (.outside [] false) rest)
    else if c = '[' then do return finish field ++ (← scan (.inside []) rest)
    else if c = ']' then .error .unexpectedBracket
    else scan (.outside (field ++ [c]) false) rest
  | .inside inner, c :: rest =>
    if c = ']' then
      match bracket? inner with
      | none => .error .badBracket
      | some step => do return step :: (← scan (.outside [] true) rest)
    else scan (.inside (inner ++ [c])) rest

/-- What a trimmed text holds between its braces, or all of it where it has none. -/
def body? (trimmed : List Char) : Option (List Char) :=
  match trimmed.head? == some '{', trimmed.getLast? == some '}' with
  | true, true => some trimmed.tail.dropLast
  | false, false => some trimmed
  | _, _ => none

/-- The steps that a text writes. -/
def steps? (raw : List Char) : Except Fault (List Step) :=
  match body? (Text.trimWhere Text.isBlank raw) with
  | none => .error .unbalancedBraces
  | some body =>
    if Text.occurs ['.', '.'] body || body.contains '*' || body.contains '?' then
      .error .manyValued
    else do
      let steps ← scan (.outside [] false) ((Text.after? ['.'] body).getD body)
      if steps.isEmpty then .error .empty else return steps

def parse (raw : String) : Result Path :=
  match steps? raw.toList with
  | .ok steps => .ok ⟨raw, steps⟩
  | .error fault => .error (.unattributed ("invalid path " ++ raw ++ ": " ++ fault.message))

/-! ### Following -/

/-- The error of a path that leads nowhere. -/
def unresolved (p : Path) : Error :=
  .unattributed ("path " ++ p.raw ++ " does not resolve to a value")

/-- The value that the path leads to. -/
def evaluate (p : Path) (root : Json) : Result Json :=
  match p.steps.foldlM (fun j step => step.follow? j) root with
  | some j => .ok j
  | none => .error p.unresolved

/-- The value that the path leads to, as text: strings verbatim, everything else as compact
JSON. -/
def resolve (p : Path) (root : Json) : Result String := do
  match ← p.evaluate root with
  | .str s => return s
  | j => return j.render

/-! ### Keys -/

/-- The characters a key of a secret may have. -/
def isKeyChar (c : Char) : Bool :=
  Text.isAsciiAlphanumeric c || c == '-' || c == '.' || c == '_'

/-- The key under which a value read by this path is kept: the characters of the expression that
keys may have. -/
def secretKey (p : Path) : Result String :=
  let key := (Text.trimWhere Text.isBlank p.raw.toList).filter isKeyChar
  if key.all (· == '.') then
    .error (.unattributed ("path " ++ p.raw ++ " does not yield a usable key name"))
  else .ok (String.ofList key)

end Path

end ServiceBinding.Binding
