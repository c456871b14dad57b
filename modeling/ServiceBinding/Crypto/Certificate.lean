import ServiceBinding.Crypto.Ber
import ServiceBinding.Crypto.Moment

/-!
The shape of X.509 certificates. A certificate is a sequence of its signed part, an algorithm and
a signature; octets after it are not its business. Only the structure is looked at: signatures,
the order of dates, names and the content of extensions may hold anything. Values are known by
their number; class and construction count only where a definition below says so.
-/
namespace ServiceBinding.Crypto.Certificate
open Ber

/-- What follows a name for an algorithm or an extension, which any value not made of others is. -/
def afterObjectId? (b : Bytes) : Option Bytes := do
  let v ← value? b
  if v.identifier.constructed then none else return v.rest

/-- What follows an algorithm: a sequence of its name and, if anything is left, a parameter. -/
def afterAlgorithm? (b : Bytes) : Option Bytes := do
  let algorithm ← numbered? sequence b
  let parameter ← afterObjectId? algorithm.content
  if parameter.isEmpty then return algorithm.rest
  else
    let _ ← value? parameter
    return algorithm.rest

/-- What follows a bit string, which is not made of other values. -/
def afterBitString? (b : Bytes) : Option Bytes := do
  let v ← numbered? bitString b
  if !v.identifier.constructed && isBits v.content then return v.rest else none

/-- What follows the version, an integer of 32 bits in a container that may be left out. -/
def afterVersion? (b : Bytes) : Option Bytes := do
  let v ← value? b
  if v.identifier.number ≠ 0 then return b
  else
    let version ← numbered? integer v.content
    if v.identifier.contextual && !version.identifier.constructed && isWord version.content then
      return v.rest
    else none

/-- What follows a point in time, in its short or long form. -/
def afterTime? (b : Bytes) : Option Bytes := do
  let v ← value? b
  if v.identifier.number = shortTime ∧ Moment.isShort v.content
    ∨ v.identifier.number = longTime ∧ Moment.isLong v.content then return v.rest
  else none

/-- What follows a period of validity, which has a beginning and an end. -/
def afterValidity? (b : Bytes) : Option Bytes := do
  let v ← numbered? sequence b
  let _ ← afterTime? (← afterTime? v.content)
  return v.rest

/-- What follows a public key, which is an algorithm and a bit string. -/
def afterPublicKey? (b : Bytes) : Option Bytes := do
  let v ← numbered? sequence b
  let _ ← afterBitString? (← afterAlgorithm? v.content)
  return v.rest

/-- What follows a unique identifier, which may be left out but is not empty. -/
def afterIdentifier? (number : Nat) (b : Bytes) : Option Bytes :=
  if b.isEmpty then some b
  else do
    let v ← value? b
    if v.identifier.number ≠ number then return b
    else if v.identifier.contextual && !v.content.isEmpty then return v.rest
    else none

/-! ### Extensions -/

/-- What follows the mark of an extension that has to be understood, which may be left out. -/
def afterCritical (b : Bytes) : Bytes :=
  match numbered? boolean b with
  | some v => if v.content.length = 1 then v.rest else b
  | none => b

/-- Whether octets begin with what an extension holds: a name, a mark and an octet string. -/
def isExtension (b : Bytes) : Bool :=
  ((do
    let v ← numbered? octetString (afterCritical (← afterObjectId? b))
    return !v.identifier.constructed) : Option Bool)
    |>.getD false

/-- Whether octets are extensions, one after the other. -/
def areExtensions : Nat → Bytes → Bool
  | _, [] => true
  | 0, _ => false
  | fuel + 1, b =>
    match numbered? sequence b with
    | some v => isExtension v.content && areExtensions fuel v.rest
    | none => false

/-- Whether nothing follows but a sequence of extensions under a heading of number three. The
sequence ends with the octets, whatever length the heading has. -/
def endsWithExtensions (b : Bytes) : Bool :=
  if b.isEmpty then true
  else
    ((do
      let h ← heading? b
      let v ← numbered? sequence h.rest
      return h.identifier.number == 3 && h.extent != .toEndMark && v.rest.isEmpty &&
        areExtensions v.content.length v.content) : Option Bool)
      |>.getD false

/-! ### Certificates -/

/-- Whether octets are the content of the signed part of a certificate. -/
def isSignedPart (b : Bytes) : Bool :=
  ((do
    let serial ← afterVersion? b
    let issuer ← numbered? sequence (← afterAlgorithm? (← pastNumbered? integer serial))
    let subject ← numbered? sequence (← afterValidity? issuer.rest)
    let key ← afterPublicKey? subject.rest
    return endsWithExtensions (← afterIdentifier? 2 (← afterIdentifier? 1 key))) : Option Bool)
    |>.getD false

/-- Whether octets begin with a certificate. -/
def accepts (b : Bytes) : Bool :=
  ((do
    let outer ← numbered? sequence b
    let signed ← numbered? sequence outer.content
    let _ ← afterBitString? (← afterAlgorithm? signed.rest)
    return isSignedPart signed.content) : Option Bool)
    |>.getD false

end ServiceBinding.Crypto.Certificate
