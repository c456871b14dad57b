import ServiceBinding.Crypto.Certificate
import ServiceBinding.Crypto.Keystore
import ServiceBinding.Crypto.Sha1
import ServiceBinding.Text.Pem

/-!
Key stores from PEM material. A trust store holds every certificate of a text; a key store holds
one private key with a chain of certificates. The entries that a store should have are computed
separately from the store, so that a store from an earlier pass can be kept when it has them.
-/
namespace ServiceBinding.Crypto

/-- What stores are made with: a digest, and a judgement on certificates. -/
structure Primitives where
  digest : Digest
  isCertificate : Bytes → Bool

/-- The primitives in use. -/
def Primitives.standard : Primitives := ⟨.sha1, Certificate.accepts⟩

/-! ### Randomness -/

def passwordAlphabet : List Char :=
  "ABCDEFGHIJKLMNOPQRSTUVWXYZabcdefghijklmnopqrstuvwxyz0123456789".toList

abbrev passwordLength : Nat := 12

/-- What is drawn or read off the clock for one store. -/
structure Draw where
  letters : Fin passwordLength → Fin 62
  salt : Keystore.Salt
  /-- The milliseconds since the epoch. -/
  clock : Int64

/-- The password of a draw. -/
def Draw.password (r : Draw) : String :=
  String.ofList (List.ofFn fun i => passwordAlphabet.getD (r.letters i) 'A')

/-- The draw that a seed determines. -/
def Draw.ofSeed (seed : Bytes) : Draw where
  letters i := Fin.ofNat 62 ((Sha1.hash (0 :: seed)).getD i 0).toNat
  salt := ⟨Sha1.hash (1 :: seed), Sha1.length_hash _⟩
  clock := 0

namespace Material
variable (P : Primitives)

/-! ### Reading -/

def blocks (pem : Bytes) : Except CertificateError (List Text.Pem.Block) :=
  match Text.Pem.read? pem with
  | some blocks => .ok blocks
  | none => .error .malformedPem

/-- The certificates of a text, of which there must be one at least. -/
def certificates (pem : Bytes) : Except CertificateError (List Bytes) := do
  let found := ((← blocks pem).filter (·.label == "CERTIFICATE")).map (·.content)
  if found.isEmpty then throw .noCertificates
  match found.findIdx? (!P.isCertificate ·) with
  | some index => throw (.invalidCertificate index)
  | none => return found

/-- The octets that name the algorithm of RSA keys, 1.2.840.113549.1.1.1. -/
def rsaAlgorithm : Bytes :=
  [0x30, 0x0D, 0x06, 0x09, 0x2A, 0x86, 0x48, 0x86, 0xF7, 0x0D, 0x01, 0x01, 0x01, 0x05, 0x00]

/-- An RSA key with the name of its algorithm. -/
def wrapRsa (key : Bytes) : Bytes :=
  Der.element Der.sequence
    (Der.element Der.integer [0] ++ rsaAlgorithm ++ Der.element Der.octetString key)

/-- The private key of a block, in the form in which stores keep keys. -/
def keyOf (block : Text.Pem.Block) : Except CertificateError Bytes :=
  if block.label = "PRIVATE KEY" then .ok block.content
  else if block.label = "RSA PRIVATE KEY" then .ok (wrapRsa block.content)
  else .error (.unsupportedKeyType block.label)

/-- The only private key of a text. -/
def privateKey (pem : Bytes) : Except CertificateError Bytes := do
  let found ← blocks pem
  match found.filter (Text.endsWith ·.label "PRIVATE KEY") with
  | [] =>
    match found with
    | [] => throw .noPrivateKey
    | other :: _ => throw (.notAPrivateKey other.label)
  | [block] => keyOf block
  | many => throw (.multiplePrivateKeys many.length)

/-! ### Stores -/

/-- The entries of a trust store with these certificates. -/
def trustedEntries (certificates : List Bytes) : List Keystore.Entry :=
  certificates.zipIdx.map fun c => .trusted ("alias" ++ toString c.2) c.1

/-- The name of the only entry of a key store. -/
def keyEntryName : String := "nuxeo"

/-- The entries of a trust store made from a text. -/
def expectedTrust (certs : Bytes) : Except CertificateError (List Keystore.Entry) := do
  return trustedEntries (← certificates P certs)

/-- The entries of a key store made from a text of certificates and one of a key. -/
def expectedKey (certs key : Bytes) : Except CertificateError (List Keystore.Entry) := do
  let key ← privateKey key
  return [.privateKey keyEntryName key (← certificates P certs)]

/-- A trust store made from a text. -/
def trustStore (r : Draw) (certs : Bytes) (password : String) :
    Except CertificateError Bytes := do
  let entries := trustedEntries (← certificates P certs)
  Keystore.encode P.digest (fun _ => r.salt) r.clock password entries

/-- A key store made from a text of certificates and one of a key. -/
def keyStore (r : Draw) (certs key : Bytes) (password : String) :
    Except CertificateError Bytes := do
  let chain ← certificates P certs
  let key ← privateKey key
  Keystore.encode P.digest (fun _ => r.salt) r.clock password [.privateKey keyEntryName key chain]

end Material

end ServiceBinding.Crypto
