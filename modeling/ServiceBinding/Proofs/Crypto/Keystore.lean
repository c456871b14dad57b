import ServiceBinding.Proofs.Crypto.Layout

/-!
The round trip of key stores: what is written under a password is read back under it, entry by
entry (`decode_encode`), since what is written is laid out as a reading takes it
(`isStore_of_encode`). Counts of entries and certificates have four octets; all other sizes are
checked by the writer.
-/
namespace ServiceBinding.Crypto.Keystore

/-! ### Parts -/

theorem isText_of_write {s : String} {b : Bytes} (h : writeText s = .ok b) : IsText s b := by
  unfold writeText at h
  dsimp only at h
  split at h
  · next hlen =>
    cases h
    exact ⟨hlen, rfl⟩
  · cases h

theorem isBlock_of_write {x b : Bytes} (h : writeBytes x = .ok b) : IsBlock x b := by
  unfold writeBytes at h
  split at h
  · next hlen =>
    cases h
    exact ⟨hlen, rfl⟩
  · cases h

theorem isCertificate_of_write {x b : Bytes} (h : writeCertificate x = .ok b) :
    IsCertificate x b := by
  obtain ⟨type, htype, h⟩ := bind_eq_ok.1 h
  obtain ⟨block, hblock, h⟩ := bind_eq_ok.1 h
  cases h
  exact ⟨type, block, isText_of_write htype, isBlock_of_write hblock, rfl⟩

theorem isRow_of_writeChain {chain : List Bytes} {b : Bytes} (h : writeChain chain = .ok b) :
    IsRow IsCertificate chain b := by
  induction chain generalizing b with
  | nil =>
    cases h
    exact .nil
  | cons certificate rest ih =>
    obtain ⟨first, hfirst, h⟩ := bind_eq_ok.1 h
    obtain ⟨others, hothers, h⟩ := bind_eq_ok.1 h
    cases h
    exact .cons (isCertificate_of_write hfirst) (ih hothers)

/-! ### Protected keys -/

variable (d : Digest)

theorem length_chained (password : Bytes) (n : Nat) (previous : Bytes) :
    (chained d password n previous).length = n * digestLength := by
  induction n generalizing previous with
  | zero => simp [chained]
  | succ n ih =>
    rw [chained, List.length_append, d.length_apply, ih, Nat.succ_mul, Nat.add_comm]

theorem length_keystream (password salt : Bytes) (length : Nat) :
    (keystream d password salt length).length = length := by
  rw [keystream, List.length_take, length_chained]
  unfold digestLength
  omega

/-- A key is covered under the password that it was protected with. -/
theorem isCovered_protectKey (secret : Bytes) (salt : Salt) (key : Bytes) :
    IsCovered d secret key (protectKey d secret salt key) := by
  refine ⟨salt.octets, Bytes.xor key (keystream d secret salt.octets key.length),
    salt.length_octets, ?_, rfl⟩
  rw [Bytes.length_xor, length_keystream, Nat.min_self,
    Bytes.xor_xor _ _ (by rw [length_keystream])]

/-- An envelope holds what was put in. -/
theorem isEnvelope_envelope {covered : Bytes} (h : (envelope covered).length < 256 ^ 8) :
    IsEnvelope covered (envelope covered) := by
  have hcontent := (Der.length_element_le _ _).trans_lt h
  have hcovered : covered.length < 256 ^ 8 := by
    have := Der.length_element_le Der.octetString covered
    rw [List.length_append] at hcontent
    omega
  refine ⟨[0x05, 0x00], _, _, [], _, [], Der.isElement_element _ (by decide),
    Der.isElement_element _ hcovered, ?_, (List.append_nil _).symm⟩
  rw [List.append_nil]
  exact Der.isElement_element _ hcontent

/-! ### Entries -/

/-- The certificates of an entry. -/
def Entry.certificates : Entry → List Bytes
  | .trusted _ certificate => [certificate]
  | .privateKey _ _ chain => chain

theorem isEntry_of_write {secret : Bytes} {timestamp : Int64} {salt : Salt} {entry : Entry}
    (count : entry.certificates.length < 256 ^ 4) {b : Bytes}
    (h : writeEntry d secret timestamp salt entry = .ok b) : IsEntry d secret entry b := by
  cases entry with
  | trusted name certificate =>
    obtain ⟨header, hheader, h⟩ := bind_eq_ok.1 h
    obtain ⟨text, htext, hheader⟩ := bind_eq_ok.1 hheader
    obtain ⟨row, hrow, h⟩ := bind_eq_ok.1 h
    cases hheader
    cases h
    exact .trusted (isText_of_write htext) (Bytes.length_word 8 _) (isCertificate_of_write hrow)
  | privateKey name key chain =>
    obtain ⟨header, hheader, h⟩ := bind_eq_ok.1 h
    obtain ⟨text, htext, hheader⟩ := bind_eq_ok.1 hheader
    obtain ⟨block, hblock, h⟩ := bind_eq_ok.1 h
    obtain ⟨row, hrow, h⟩ := bind_eq_ok.1 h
    cases hheader
    cases h
    have hsized := isBlock_of_write hblock
    have hwrapped := isEnvelope_envelope (hsized.1.trans (by decide))
    rw [List.append_assoc]
    exact .privateKey (isText_of_write htext) (Bytes.length_word 8 _) hsized hwrapped
      (isCovered_protectKey d secret salt key) ⟨count, row, isRow_of_writeChain hrow, rfl⟩

theorem isRow_of_writeEntries {secret : Bytes} {timestamp : Int64} {salts : Nat → Salt}
    {entries : List Entry} (count : ∀ entry ∈ entries, entry.certificates.length < 256 ^ 4)
    {k : Nat} {b : Bytes} (h : writeEntries d secret timestamp salts k entries = .ok b) :
    IsRow (IsEntry d secret) entries b := by
  induction entries generalizing k b with
  | nil =>
    cases h
    exact .nil
  | cons entry rest ih =>
    obtain ⟨first, hfirst, h⟩ := bind_eq_ok.1 h
    obtain ⟨others, hothers, h⟩ := bind_eq_ok.1 h
    cases h
    rw [List.forall_mem_cons] at count
    exact .cons (isEntry_of_write d count.1 hfirst) (ih count.2 hothers)

/-! ### Stores -/

section
variable {salts : Nat → Salt} {timestamp : Int64} {password : String} {entries : List Entry}
  {store : Bytes}

/-- A written store lays out the entries that it was made of. -/
theorem isStore_of_encode (size : entries.length < 256 ^ 4)
    (count : ∀ entry ∈ entries, entry.certificates.length < 256 ^ 4)
    (h : encode d salts timestamp password entries = .ok store) :
    IsStore d password entries store := by
  obtain ⟨row, hrow, h⟩ := bind_eq_ok.1 h
  cases h
  refine ⟨_, ⟨_, ⟨size, row, isRow_of_writeEntries d count hrow, rfl⟩, ?_⟩, rfl⟩
  exact List.append_assoc ..

/-- A store gives back, under its password, the entries that it was made of. -/
theorem decode_encode (size : entries.length < 256 ^ 4)
    (count : ∀ entry ∈ entries, entry.certificates.length < 256 ^ 4)
    (h : encode d salts timestamp password entries = .ok store) :
    decode d store password = .ok entries :=
  (decode_eq_ok_iff_isStore d).2 (isStore_of_encode d size count h)

end

end ServiceBinding.Crypto.Keystore
