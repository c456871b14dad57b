import ServiceBinding.Crypto.Sha1
import ServiceBinding.Proofs.Crypto.Keystore

/-!
Key stores lose nothing. Writing gives a store just if every name and every block of the entries
fits its length field (`Entry.Fits`), and reading it under its password gives the entries back in
their order. Nothing is asked of the digest but the length of its values.
-/
namespace ServiceBinding.Crypto.Keystore

/-! ### What fits -/

/-- Whether the parts of an entry fit their length fields: two octets for a name, four for a
certificate and for the envelope of a key, which adds 68 octets to it. -/
def Entry.Fits : Entry → Prop
  | .trusted name certificate =>
    (Bytes.ofText name).length < 256 ^ 2 ∧ certificate.length < 256 ^ 4
  | .privateKey name key chain =>
    (Bytes.ofText name).length < 256 ^ 2 ∧ key.length + 68 < 256 ^ 4 ∧
      ∀ certificate ∈ chain, certificate.length < 256 ^ 4

instance : DecidablePred Entry.Fits
  | .trusted _ _ => instDecidableAnd
  | .privateKey _ _ _ => instDecidableAnd

theorem exists_writeText (s : String) :
    (∃ b, writeText s = .ok b) ↔ (Bytes.ofText s).length < 256 ^ 2 := by
  have hsize : UInt16.size = 256 ^ 2 := by decide
  unfold writeText
  dsimp only
  rw [hsize]
  split <;> simp_all

theorem exists_writeBytes (x : Bytes) :
    (∃ b, writeBytes x = .ok b) ↔ x.length < 256 ^ 4 := by
  have hsize : UInt32.size = 256 ^ 4 := by decide
  unfold writeBytes
  rw [hsize]
  split <;> simp_all

theorem exists_writeCertificate (certificate : Bytes) :
    (∃ b, writeCertificate certificate = .ok b) ↔ certificate.length < 256 ^ 4 := by
  have htype : ∃ b, writeText certificateType = .ok b :=
    (exists_writeText certificateType).2 (by decide)
  rw [← exists_writeBytes]
  exact (exists_bind fun _ => exists_bind_pure).trans (and_iff_right htype)

theorem exists_writeChain (chain : List Bytes) : (∃ b, writeChain chain = .ok b) ↔
    ∀ certificate ∈ chain, certificate.length < 256 ^ 4 := by
  induction chain with
  | nil => exact ⟨fun _ => List.forall_mem_nil _, fun _ => ⟨[], rfl⟩⟩
  | cons certificate rest ih =>
    rw [List.forall_mem_cons, ← ih, ← exists_writeCertificate]
    exact exists_bind fun _ => exists_bind_pure

theorem exists_writeHeader (mark : Nat) (name : String) (timestamp : Int64) :
    (∃ b, writeHeader mark name timestamp = .ok b) ↔ (Bytes.ofText name).length < 256 ^ 2 := by
  rw [← exists_writeText]
  exact exists_bind_pure

variable (d : Digest)

theorem length_protectKey (password : Bytes) (salt : Salt) (key : Bytes) :
    (protectKey d password salt key).length = key.length + 40 := by
  have hsalt := salt.length_octets
  have hcheck : (keyCheck d password key).length = digestLength := d.length_apply _
  unfold protectKey
  rw [List.length_append, List.length_append, Bytes.length_xor, length_keystream, hsalt, hcheck]
  unfold digestLength
  omega

/-- An envelope whose length takes four octets adds 28 to it, and a shorter one no more. -/
theorem length_envelope_lt_iff (covered : Bytes) :
    (envelope covered).length < 256 ^ 4 ↔ covered.length + 28 < 256 ^ 4 := by
  have halgorithm : (Der.element Der.sequence (protectorId ++ [0x05, 0x00])).length = 16 := by
    decide
  have hinner := Der.length_element Der.octetString covered
  have houter : (envelope covered).length = 1 + (Der.lengthOctets (16 +
      (Der.element Der.octetString covered).length)).length + (16 +
      (Der.element Der.octetString covered).length) := by
    rw [envelope, Der.length_element, List.length_append, halgorithm]
  generalize (Der.element Der.octetString covered).length = inner at hinner houter
  generalize covered.length = size at hinner ⊢
  rw [houter]
  by_cases hsize : size + 28 < 256 ^ 4
  · have h₁ := Der.length_lengthOctets_le (n := size) (by omega)
    have h₂ := Der.length_lengthOctets_le (n := 16 + inner) (by omega)
    omega
  · -- The lemma on long lengths asks for fewer than `2^64` octets; more are too many anyway.
    by_cases hhuge : size < 256 ^ 4
    · have h₁ := Der.le_length_lengthOctets (n := size) (by omega) (by omega)
      have h₂ : 16 + inner < 256 ^ 4 → 5 ≤ (Der.lengthOctets (16 + inner)).length :=
        fun h => Der.le_length_lengthOctets (by omega) (by omega)
      omega
    · omega

theorem exists_writeEntry (password : Bytes) (timestamp : Int64) (salt : Salt) (entry : Entry) :
    (∃ b, writeEntry d password timestamp salt entry = .ok b) ↔ entry.Fits := by
  cases entry with
  | trusted name certificate =>
    rw [Entry.Fits, ← exists_writeHeader trustedMark name timestamp, ← exists_writeCertificate]
    exact exists_bind fun _ => exists_bind_pure
  | privateKey name key chain =>
    have hkey : (envelope (protectKey d password salt key)).length < 256 ^ 4 ↔
        key.length + 68 < 256 ^ 4 := by
      rw [length_envelope_lt_iff, length_protectKey]
    rw [Entry.Fits, ← exists_writeHeader privateKeyMark name timestamp, ← hkey,
      ← exists_writeBytes, ← exists_writeChain]
    exact exists_bind fun _ => exists_bind fun _ => exists_bind_pure

theorem exists_writeEntries (password : Bytes) (timestamp : Int64) (salts : Nat → Salt) (k : Nat)
    (entries : List Entry) :
    (∃ b, writeEntries d password timestamp salts k entries = .ok b) ↔
      ∀ entry ∈ entries, entry.Fits := by
  induction entries generalizing k with
  | nil => exact ⟨fun _ => List.forall_mem_nil _, fun _ => ⟨[], rfl⟩⟩
  | cons entry rest ih =>
    rw [List.forall_mem_cons, ← ih (k + 1), ← exists_writeEntry d password timestamp (salts k)]
    exact exists_bind fun _ => exists_bind_pure

theorem exists_encode (salts : Nat → Salt) (timestamp : Int64) (password : String)
    (entries : List Entry) :
    (∃ store, encode d salts timestamp password entries = .ok store) ↔
      ∀ entry ∈ entries, entry.Fits := by
  rw [← exists_writeEntries d (Text.utf16 password) timestamp salts 0]
  exact exists_bind_pure

/-! ### The round trip -/

/-- **A store holds its entries**: for every digest, every choice of salts, time and password, and
every list of fewer than `2^32` entries with fewer than `2^32` certificates each, a written store
is read under its password to the same entries in the same order, and a store is written just if
the parts of each entry fit. -/
theorem decode_of_encode (salts : Nat → Salt) (timestamp : Int64) (password : String)
    {entries : List Entry} (size : entries.length < 256 ^ 4)
    (count : ∀ entry ∈ entries, entry.certificates.length < 256 ^ 4) :
    (∀ store, encode d salts timestamp password entries = .ok store →
      decode d store password = .ok entries) ∧
    ((∃ store, encode d salts timestamp password entries = .ok store) ↔
      ∀ entry ∈ entries, entry.Fits) :=
  ⟨fun _ => decode_encode d size count, exists_encode d salts timestamp password entries⟩

/-- A trusted certificate of no octets next to a key of no octets with two certificates. -/
theorem decode_of_encode_empties :
    let salts : Nat → Salt := fun i => ⟨List.replicate 20 (UInt8.ofNat i), List.length_replicate⟩
    let entries := [.trusted "ca" [], .privateKey "identity" [] [[1], [2]]]
    entries.length < 256 ^ 4 ∧ (∀ entry ∈ entries, entry.certificates.length < 256 ^ 4) ∧
      ∃ store, encode .sha1 salts (-1) "pä" entries = .ok store ∧
        decode .sha1 store "pä" = .ok entries := by
  intro salts entries
  have size : entries.length < 256 ^ 4 := by decide
  have count : ∀ entry ∈ entries, entry.certificates.length < 256 ^ 4 := by decide
  have fits : ∀ entry ∈ entries, entry.Fits := by decide
  have ⟨reads, writes⟩ := decode_of_encode .sha1 salts (-1) "pä" size count
  obtain ⟨store, hstore⟩ := writes.2 fits
  exact ⟨size, count, store, hstore, reads store hstore⟩

end ServiceBinding.Crypto.Keystore
