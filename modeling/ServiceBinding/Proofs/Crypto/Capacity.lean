import ServiceBinding.Proofs.Crypto.Material
import ServiceBinding.Proofs.Crypto.RoundTrip

/-!
What stores can hold. A new store can be made of some material just if its entries fit
(`exists_trustStore`, `exists_keyStore`). Entries that have been read from a store fit as well, but
for a key within 68 octets of the limit, whose envelope there may have been a shorter one
(`fits_of_decode`).
-/
namespace ServiceBinding.Crypto.Keystore

/-! ### Entries -/

/-- The key of an entry, if it has one. -/
def Entry.key? : Entry → Option Bytes
  | .trusted _ _ => none
  | .privateKey _ key _ => some key

/-- Whether an entry fits once its key leaves room for an envelope. -/
def Entry.FitsByKey (entry : Entry) : Prop :=
  (∀ key ∈ entry.key?, key.length + 68 < 256 ^ 4) → entry.Fits

variable (d : Digest)

/-- What every piece of a form has, all that a row of such pieces lays out has. -/
theorem IsRow.forall {α : Type} {form : α → Bytes → Prop} {Q : α → Prop}
    {l : List α} {b : Bytes} (h : IsRow form l b) (each : ∀ a b, form a b → Q a) :
    ∀ a ∈ l, Q a := by
  induction h with
  | nil => exact List.forall_mem_nil _
  | cons first _ ih => exact List.forall_mem_cons.2 ⟨each _ _ first, ih⟩

theorem length_of_isCertificate {certificate b : Bytes} (h : IsCertificate certificate b) :
    certificate.length < 256 ^ 4 := by
  obtain ⟨_, _, _, hblock, _⟩ := h
  exact hblock.1

theorem fitsByKey_of_isEntry {secret : Bytes} {entry : Entry} {b : Bytes}
    (h : IsEntry d secret entry b) : entry.FitsByKey := by
  intro hkey
  cases h with
  | trusted named _ certified => exact ⟨named.1, length_of_isCertificate certified⟩
  | privateKey named _ _ _ _ certified =>
    obtain ⟨-, row, hrow, -⟩ := certified
    exact ⟨named.1, hkey _ rfl, hrow.forall fun _ _ => length_of_isCertificate⟩

/-- What has been read from a store fits into one, if the keys leave room for their envelopes. -/
theorem fits_of_decode {store : Bytes} {password : String} {entries : List Entry}
    (h : decode d store password = .ok entries) : ∀ entry ∈ entries, entry.FitsByKey := by
  obtain ⟨body, ⟨_, ⟨-, row, hrow, -⟩, -⟩, -⟩ := (decode_eq_ok_iff_isStore d).1 h
  exact hrow.forall fun _ _ => fitsByKey_of_isEntry d

end ServiceBinding.Crypto.Keystore

namespace ServiceBinding.Crypto.Material
variable {P : Primitives}

/-- A trust store can be made just if the entries expected of it fit. -/
theorem exists_trustStore {certs : Bytes} {expected : List Keystore.Entry}
    (expects : expectedTrust P certs = .ok expected) (r : Draw) (password : String) :
    (∃ store, trustStore P r certs password = .ok store) ↔ ∀ entry ∈ expected, entry.Fits := by
  obtain ⟨found, hfound, h⟩ := bind_eq_ok.1 expects
  cases h
  rw [← Keystore.exists_encode P.digest (fun _ => r.salt) r.clock password]
  unfold trustStore
  rw [hfound]
  rfl

/-- A key store can be made just if the entries expected of it fit. -/
theorem exists_keyStore {certs key : Bytes} {expected : List Keystore.Entry}
    (expects : expectedKey P certs key = .ok expected) (r : Draw) (password : String) :
    (∃ store, keyStore P r certs key password = .ok store) ↔ ∀ entry ∈ expected, entry.Fits := by
  obtain ⟨raw, hraw, h⟩ := bind_eq_ok.1 expects
  obtain ⟨found, hfound, h⟩ := bind_eq_ok.1 h
  cases h
  rw [← Keystore.exists_encode P.digest (fun _ => r.salt) r.clock password]
  unfold keyStore
  rw [hfound, hraw]
  rfl

end ServiceBinding.Crypto.Material
