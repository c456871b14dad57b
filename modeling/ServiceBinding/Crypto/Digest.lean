import ServiceBinding.Bytes

/-!
Digests: the functions that key stores use to bind their content to a password. All that the
format needs of one is that its values are twenty octets long.
-/
namespace ServiceBinding.Crypto

abbrev digestLength : Nat := 20

/-- A function from byte strings to digests. -/
structure Digest where
  apply : Bytes → Bytes
  length_apply : ∀ b, (apply b).length = digestLength

end ServiceBinding.Crypto
