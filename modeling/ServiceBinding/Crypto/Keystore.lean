import ServiceBinding.Crypto.Der
import ServiceBinding.Crypto.Digest
import ServiceBinding.Error
import ServiceBinding.Text.Utf16

/-!
Key stores in the JKS format, version 2: a magic number, the version, a count and that many
entries, followed by a digest over the password, a fixed text and everything before it. Private
keys are hidden under a stream of chained digests that starts from a salt, with a digest of the
password and the key behind them. Lengths and numbers are big-endian.
-/
namespace ServiceBinding.Crypto.Keystore

/-- An entry of a key store, with the name that it is kept under. -/
inductive Entry where
  /-- A certificate to trust. -/
  | trusted (name : String) (certificate : Bytes)
  /-- A private key and the chain of certificates for it, its own one first. -/
  | privateKey (name : String) (key : Bytes) (chain : List Bytes)
deriving DecidableEq, Repr

/-- The seed of a key's protection. -/
structure Salt where
  octets : Bytes
  length_octets : octets.length = digestLength

def magic : Nat := 0xFEEDFEED

def formatVersion : Nat := 2

def privateKeyMark : Nat := 1

def trustedMark : Nat := 2

/-- The name of the only type of certificates. -/
def certificateType : String := "X.509"

/-- The object identifier of the key protection, 1.3.6.1.4.1.42.2.17.1.1. -/
def protectorId : Bytes :=
  [0x06, 0x0A, 0x2B, 0x06, 0x01, 0x04, 0x01, 0x2A, 0x02, 0x11, 0x01, 0x01]

def truncated : CertificateError := .invalidStore "store is truncated"

/-! ### Digests -/

variable (d : Digest)

/-- The digest of a store's body. -/
def integrity (password body : Bytes) : Bytes :=
  d.apply (password ++ Bytes.ofText "Mighty Aphrodite" ++ body)

/-- Some digests in a row, each over the password and the one before it. -/
def chained (password : Bytes) : Nat → Bytes → Bytes
  | 0, _ => []
  | n + 1, previous =>
    let next := d.apply (password ++ previous)
    next ++ chained password n next

/-- The first octets of the stream that starts from a salt. -/
def keystream (password salt : Bytes) (length : Nat) : Bytes :=
  (chained d password ((length + 19) / digestLength) salt).take length

/-- The digest that tells whether a key has been uncovered correctly. -/
def keyCheck (password key : Bytes) : Bytes := d.apply (password ++ key)

/-! ### Protection of keys -/

/-- A key under protection: the salt, the hidden key, and its check. -/
def protectKey (password : Bytes) (salt : Salt) (key : Bytes) : Bytes :=
  salt.octets ++ Bytes.xor key (keystream d password salt.octets key.length) ++
    keyCheck d password key

/-- The key under protection. -/
def uncoverKey (password covered : Bytes) : Except CertificateError Bytes :=
  if covered.length < 2 * digestLength then
    .error (.invalidStore "protected key is truncated")
  else
    let salt := covered.take digestLength
    let rest := covered.drop digestLength
    let hidden := rest.take (rest.length - digestLength)
    let key := Bytes.xor hidden (keystream d password salt hidden.length)
    if keyCheck d password key = rest.drop (rest.length - digestLength) then .ok key
    else .error (.invalidStore "private key check digest mismatch")

/-- A protected key in its DER envelope, which names the protection. -/
def envelope (covered : Bytes) : Bytes :=
  Der.element Der.sequence
    (Der.element Der.sequence (protectorId ++ [0x05, 0x00]) ++
      Der.element Der.octetString covered)

/-- The element that some octets of an envelope begin with. -/
def envelopePart (b : Bytes) : Except CertificateError Der.Element :=
  match Der.read? b with
  | some e => .ok e
  | none => .error (.invalidStore "malformed DER")

/-- The protected key in an envelope. -/
def openEnvelope (b : Bytes) : Except CertificateError Bytes := do
  let outer ← envelopePart b
  if outer.tag ≠ Der.sequence then
    throw (.invalidStore "EncryptedPrivateKeyInfo is not a sequence")
  let algorithm ← envelopePart outer.content
  if algorithm.tag ≠ Der.sequence ∨ !protectorId.isPrefixOf algorithm.content then
    throw (.invalidStore "private key is not protected with the JKS key protector")
  let covered ← envelopePart algorithm.rest
  if covered.tag ≠ Der.octetString then
    throw (.invalidStore "protected key is not an octet string")
  return covered.content

/-! ### Writing -/

/-- Octets after their number. -/
def writeBytes (b : Bytes) : Except CertificateError Bytes :=
  if b.length < UInt32.size then .ok (Bytes.word 4 b.length ++ b)
  else .error (.invalidStore "entry too large")

/-- A text after the number of its octets. -/
def writeText (s : String) : Except CertificateError Bytes :=
  let octets := Bytes.ofText s
  if octets.length < UInt16.size then .ok (Bytes.word 2 octets.length ++ octets)
  else .error (.invalidStore ("alias too long: " ++ s))

/-- A certificate after its type. -/
def writeCertificate (certificate : Bytes) : Except CertificateError Bytes := do
  return (← writeText certificateType) ++ (← writeBytes certificate)

/-- A chain of certificates, one after the other. -/
def writeChain : List Bytes → Except CertificateError Bytes
  | [] => .ok []
  | certificate :: rest => do return (← writeCertificate certificate) ++ (← writeChain rest)

/-- What an entry begins with. -/
def writeHeader (mark : Nat) (name : String) (timestamp : Int64) :
    Except CertificateError Bytes := do
  return Bytes.word 4 mark ++ (← writeText name) ++
    Bytes.word 8 timestamp.toUInt64.toNat

/-- An entry, a private key in it being protected with a salt. -/
def writeEntry (password : Bytes) (timestamp : Int64) (salt : Salt) :
    Entry → Except CertificateError Bytes
  | .trusted name certificate => do
    return (← writeHeader trustedMark name timestamp) ++ (← writeCertificate certificate)
  | .privateKey name key chain => do
    return (← writeHeader privateKeyMark name timestamp) ++
      (← writeBytes (envelope (protectKey d password salt key))) ++
      Bytes.word 4 chain.length ++ (← writeChain chain)

/-- Entries one after the other, the one at place `i` with the salt of that place. -/
def writeEntries (password : Bytes) (timestamp : Int64) (salts : Nat → Salt) :
    Nat → List Entry → Except CertificateError Bytes
  | _, [] => .ok []
  | i, entry :: rest => do
    return (← writeEntry d password timestamp (salts i) entry) ++
      (← writeEntries password timestamp salts (i + 1) rest)

/-- The store that holds some entries under a password. -/
def encode (salts : Nat → Salt) (timestamp : Int64) (password : String) (entries : List Entry) :
    Except CertificateError Bytes := do
  let secret := Text.utf16 password
  let body := Bytes.word 4 magic ++ Bytes.word 4 formatVersion ++
    Bytes.word 4 entries.length ++ (← writeEntries d secret timestamp salts 0 entries)
  return body ++ integrity d secret body

/-! ### Reading -/

/-- A reading of the octets that are left of a store. -/
abbrev Reader (α : Type) := StateT Bytes (Except CertificateError) α

def takeBytes (n : Nat) : Reader Bytes := fun b =>
  if b.length < n then .error truncated else .ok (b.take n, b.drop n)

/-- The next number of some octets. -/
def takeWord (width : Nat) : Reader Nat := do return Bytes.value (← takeBytes width)

def takeText : Reader String := do
  let octets ← takeBytes (← takeWord 2)
  match octets.toText? with
  | some s => return s
  | none => throw (.invalidStore "alias is not valid UTF-8")

/-- The next octets, after their number. -/
def takeBlock : Reader Bytes := do takeBytes (← takeWord 4)

def takeCertificate : Reader Bytes := do
  let type ← takeText
  if type = certificateType then takeBlock
  else throw (.invalidStore ("unsupported certificate type " ++ type))

/-- Some readings in a row. -/
def takeMany (one : Reader α) : Nat → Reader (List α)
  | 0 => return []
  | n + 1 => do return (← one) :: (← takeMany one n)

def takeEntry (password : Bytes) : Reader Entry := do
  let mark ← takeWord 4
  let name ← takeText
  let _ ← takeWord 8
  if mark = trustedMark then return .trusted name (← takeCertificate)
  else if mark = privateKeyMark then
    let covered ← openEnvelope (← takeBlock)
    let key ← uncoverKey d password covered
    let chain ← takeMany takeCertificate (← takeWord 4)
    return .privateKey name key chain
  else throw (.invalidStore ("unknown entry tag " ++ toString mark))

/-- The entries of a store's body. -/
def takeBody (password : Bytes) : Reader (List Entry) := do
  if (← takeWord 4) ≠ magic then throw (.invalidStore "not a JKS store")
  let version ← takeWord 4
  if version ≠ formatVersion then
    throw (.invalidStore ("unsupported JKS version " ++ toString version))
  takeMany (takeEntry d password) (← takeWord 4)

/-- The entries of a store that was written under a password. -/
def decode (store : Bytes) (password : String) : Except CertificateError (List Entry) := do
  if store.length < digestLength then throw truncated
  let secret := Text.utf16 password
  let body := store.take (store.length - digestLength)
  if integrity d secret body ≠ store.drop (store.length - digestLength) then
    throw (.invalidStore "integrity check failed: wrong password or corrupted store")
  let (entries, rest) ← (takeBody d secret).run body
  if rest.isEmpty then return entries
  else throw (.invalidStore "trailing bytes after last entry")

end ServiceBinding.Crypto.Keystore
