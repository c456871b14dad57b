/-!
Errors by cause. What the controller does about one depends on its cause alone: failures of the
platform are tried again soon, everything that comes from the content of a resource waits until
somebody edits it. `Error.message` holds every wording.
-/
namespace ServiceBinding

/-- What can be wrong with certificates, keys and key stores. -/
inductive CertificateError where
  /-- The PEM text is malformed. -/
  | malformedPem
  | noCertificates
  /-- The certificate block at this place does not hold a certificate. -/
  | invalidCertificate (index : Nat)
  | noPrivateKey
  /-- The first block has this label, and none is a private key. -/
  | notAPrivateKey (label : String)
  | multiplePrivateKeys (count : Nat)
  | unsupportedKeyType (label : String)
  /-- A key store cannot be read or written. -/
  | invalidStore (detail : String)
deriving DecidableEq, Repr

def CertificateError.message : CertificateError → String
  | .malformedPem => "failed to parse PEM"
  | .noCertificates => "no certificate found in PEM input"
  | .invalidCertificate index => "invalid certificate #" ++ toString index
  | .noPrivateKey => "no private key found in PEM input"
  | .notAPrivateKey label => "PEM block type '" ++ label ++ "' is not a private key"
  | .multiplePrivateKeys count => "expected exactly one private key, found " ++ toString count
  | .unsupportedKeyType label =>
    "unsupported private key type '" ++ label ++ "', convert it to PKCS#8 ('PRIVATE KEY')"
  | .invalidStore detail => "invalid key store: " ++ detail

/-- Why an operation failed. -/
inductive Error where
  /-- The cluster refused a call, with the status it gave. -/
  | api (code : Nat) (reason message : String)
  /-- A resource asks for something that cannot be built; `context` says where. -/
  | configuration (context message : String)
  /-- An object of the expected name belongs to another owner. -/
  | ownershipConflict (kind space name : String)
  | certificate (cause : CertificateError)
  | serialization (kind : Option String) (message : String)
  | internal (context message : String)
deriving DecidableEq, Repr

/-- What an operation gives: a value or the reason why there is none. -/
abbrev Result (α : Type) := Except Error α

namespace Error

/-- The context of a configuration error that nobody has attributed yet. -/
def unknownContext : String := "unknown"

/-- A configuration error whose context is not known where it arises. -/
def unattributed (message : String) : Error := .configuration unknownContext message

def message : Error → String
  | .api _ _ text => "kubernetes error: " ++ text
  | .configuration context text => "configuration error [" ++ context ++ "]: " ++ text
  | .ownershipConflict kind space name =>
    kind ++ " " ++ space ++ "/" ++ name ++ " exists and is not owned by this Nuxeo resource"
  | .certificate cause => "certificate error: " ++ cause.message
  | .serialization _ text => "serialization error: " ++ text
  | .internal context text => "internal error [" ++ context ++ "]: " ++ text

/-- Attributes a configuration error to a binding, unless it has a context already. -/
def inBinding (e : Error) (binding : String) : Error :=
  match e with
  | .configuration context text =>
    if context = unknownContext then .configuration ("binding " ++ binding) text else e
  | e => e

/-- Whether running the pass again can succeed without an edit: stale versions, throttling and
absent sources pass, as do server errors; other client errors and bad content do not. -/
def isRetryable : Error → Bool
  | .api code _ _ =>
    code == 404 || code == 409 || code == 429 || !(400 ≤ code && code < 500)
  | .configuration .. => false
  | .ownershipConflict .. => false
  | .certificate _ => false
  | .serialization .. => false
  | .internal .. => true

/-- Whether the user has to mend the resource. -/
def isConfiguration : Error → Bool
  | .configuration .. => true
  | .certificate _ => true
  | _ => false

end Error

end ServiceBinding
