import ServiceBinding.Crypto.Sha1
import ServiceBinding.Proofs.Crypto.Keystore
import ServiceBinding.Proofs.Text.Utf16

/-!
A store under another password. What a store is hashed from begins with the octets of its
password, which determine the password, and goes on the same for all of them. So whoever opens a
store with a password other than its own one has two texts with the same digest.
-/
namespace ServiceBinding.Crypto.Keystore
variable (d : Digest)

/-- A store ends in the digest of its other octets under its password. -/
theorem digest_of_encode {salts : Nat → Salt} {timestamp : Int64} {password : String}
    {entries : List Entry} {store : Bytes}
    (h : encode d salts timestamp password entries = .ok store) :
    ∃ body, store = body ++ integrity d (Text.utf16 password) body := by
  obtain ⟨written, -, h⟩ := bind_eq_ok.1 h
  cases h
  exact ⟨_, rfl⟩

/-- Digests of equal length behind two bodies are behind the same body. -/
theorem append_digest_inj {secret secret' body body' : Bytes}
    (h : body ++ integrity d secret body = body' ++ integrity d secret' body') :
    body = body' ∧ integrity d secret body = integrity d secret' body' := by
  have hlen : (integrity d secret body).length = (integrity d secret' body').length :=
    (d.length_apply _).trans (d.length_apply _).symm
  exact List.append_inj' h hlen

/-- **Another password is a collision**: for every digest, every list of entries, time and salts, a
store that was written under one password and is accepted under a different one gives two different
byte strings with the same digest, the two passwords in front of the fixed text and the body. -/
theorem collision_of_decode {salts : Nat → Salt} {timestamp : Int64} {p q : String}
    (different : p ≠ q) {entries : List Entry} {store : Bytes}
    (written : encode d salts timestamp p entries = .ok store) {found : List Entry}
    (accepted : decode d store q = .ok found) :
    let body := store.take (store.length - 20)
    let hashed := fun password : String =>
      Text.utf16 password ++ Bytes.ofText "Mighty Aphrodite" ++ body
    hashed p ≠ hashed q ∧ d.apply (hashed p) = d.apply (hashed q) := by
  obtain ⟨body, rfl⟩ := digest_of_encode d written
  obtain ⟨body', hbody', -⟩ := (decode_eq_ok_iff d).1 accepted
  obtain ⟨rfl, hsame⟩ := append_digest_inj d hbody'
  have hlen : (integrity d (Text.utf16 p) body).length = 20 := d.length_apply _
  intro front hashed
  have hfront : front = body := by
    show List.take _ _ = _
    rw [List.length_append, hlen, Nat.add_sub_cancel, List.take_left]
  constructor
  · intro h
    -- The same octets follow both passwords, whatever the lengths of these are.
    have h := List.append_cancel_right (List.append_cancel_right h)
    exact different (Text.utf16_injective h)
  · show d.apply (_ ++ _ ++ front) = d.apply (_ ++ _ ++ front)
    rw [hfront]
    exact hsame

/-- Under a digest that collides on everything, any password opens a store. -/
theorem collision_of_decode_constant :
    let d : Digest := ⟨fun _ => List.replicate 20 0, fun _ => List.length_replicate⟩
    let salts : Nat → Salt := fun _ => ⟨List.replicate 20 1, List.length_replicate⟩
    let entries := [.trusted "ca" [1, 2]]
    ∃ store, "right" ≠ "wrong" ∧ encode d salts 0 "right" entries = .ok store ∧
      decode d store "wrong" = .ok entries ∧
      d.apply (Text.utf16 "right" ++ Bytes.ofText "Mighty Aphrodite" ++
          store.take (store.length - 20)) =
        d.apply (Text.utf16 "wrong" ++ Bytes.ofText "Mighty Aphrodite" ++
          store.take (store.length - 20)) := by
  intro d salts entries
  have different : "right" ≠ "wrong" := by decide
  obtain ⟨store, written⟩ : ∃ store, encode d salts 0 "right" entries = .ok store := ⟨_, rfl⟩
  -- Certificates are not protected, so that only the digest depends on the password.
  have written' : encode d salts 0 "wrong" entries = .ok store := written
  have accepted := decode_encode d (by decide) (by decide) written'
  have ⟨_, same⟩ := collision_of_decode d different written accepted
  exact ⟨store, different, written, accepted, same⟩

end ServiceBinding.Crypto.Keystore
