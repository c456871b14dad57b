import ServiceBinding.Crypto.Material
import ServiceBinding.Proofs.Crypto.Keystore

/-!
New stores have the entries expected of them, for material of less than `2^32` octets: a text of
that length has fewer certificates than a store can count.
-/
namespace ServiceBinding.Text.Pem

theorem length_findBlocks_le (n : Nat) (b : Bytes) : (findBlocks n b).length ≤ n := by
  induction n generalizing b with
  | zero => exact Nat.le_refl 0
  | succ n ih =>
    unfold findBlocks
    cases findBlock b with
    | none => exact Nat.zero_le _
    | some found => exact Nat.succ_le_succ (ih found.2)

theorem length_of_mapM {α β : Type} {f : α → Option β} {l : List α} {l' : List β}
    (h : l.mapM f = some l') : l'.length = l.length := by
  induction l generalizing l' with
  | nil =>
    cases h
    rfl
  | cons a rest ih =>
    rw [List.mapM_cons] at h
    obtain ⟨b, _, h⟩ := Option.bind_eq_some_iff.1 h
    obtain ⟨bs, hbs, h⟩ := Option.bind_eq_some_iff.1 h
    cases h
    rw [List.length_cons, List.length_cons, ih hbs]

/-- A text has no more blocks than octets. -/
theorem length_read_le {b : Bytes} {blocks : List Block} (h : read? b = some blocks) :
    blocks.length ≤ b.length := by
  rw [length_of_mapM h]
  exact length_findBlocks_le _ _

end ServiceBinding.Text.Pem

namespace ServiceBinding.Crypto.Material
variable {P : Primitives}

/-- The certificates of a text are those of its blocks, if there are any and all are accepted. -/
theorem certificates_eq_ok {pem : Bytes} {found : List Bytes} :
    certificates P pem = .ok found ↔
      ∃ all, blocks pem = .ok all ∧
        (all.filter (·.label == "CERTIFICATE")).map (·.content) = found ∧ found ≠ [] ∧
          ∀ c ∈ found, P.isCertificate c = true := by
  unfold certificates
  rw [bind_eq_ok]
  refine exists_congr fun all => and_congr_right fun _ => ?_
  dsimp only
  generalize (all.filter (·.label == "CERTIFICATE")).map (·.content) = contents
  constructor
  · intro h
    split at h
    · cases h
    next hfilled =>
    split at h
    · cases h
    next hnone =>
    cases h
    refine ⟨rfl, fun hempty => hfilled (List.isEmpty_iff.2 hempty), fun c hc => ?_⟩
    simpa using List.findIdx?_eq_none_iff.1 hnone c hc
  · rintro ⟨rfl, hfilled, haccepted⟩
    have hnone : contents.findIdx? (!P.isCertificate ·) = none :=
      List.findIdx?_eq_none_iff.2 fun c hc => by rw [haccepted c hc]; rfl
    rw [if_neg (mt List.isEmpty_iff.1 hfilled), hnone]
    rfl

theorem length_certificates_le {pem : Bytes} {found : List Bytes}
    (h : certificates P pem = .ok found) : found.length ≤ pem.length := by
  obtain ⟨all, hall, rfl, _⟩ := certificates_eq_ok.1 h
  have hblocks : all.length ≤ pem.length := by
    unfold blocks at hall
    split at hall
    · next hread =>
      cases hall
      exact Text.Pem.length_read_le hread
    · cases hall
  rw [List.length_map]
  exact (List.length_filter_le _ _).trans hblocks

/-- A new trust store has the certificates of its text, if it can count them. -/
theorem decode_trustStore_of_count {r : Draw} {pem : Bytes} {found : List Bytes}
    (hfound : certificates P pem = .ok found) (count : found.length < 256 ^ 4) {password : String}
    {store : Bytes} (made : trustStore P r pem password = .ok store) :
    Keystore.decode P.digest store password = .ok (trustedEntries found) := by
  obtain ⟨found', hfound', made⟩ := bind_eq_ok.1 made
  cases hfound.symm.trans hfound'
  have hlen : (trustedEntries found).length = found.length := by
    unfold trustedEntries
    rw [List.length_map, List.length_zipIdx]
  refine Keystore.decode_encode P.digest (hlen ▸ count) (fun entry h => ?_) made
  obtain ⟨c, _, rfl⟩ := List.mem_map.1 h
  show 1 < 256 ^ 4
  decide

/-- A new key store has the key and the certificates of its texts, if it can count them. -/
theorem decode_keyStore_of_count {r : Draw} {pem keyPem key : Bytes} {found : List Bytes}
    (hkey : privateKey keyPem = .ok key) (hfound : certificates P pem = .ok found)
    (count : found.length < 256 ^ 4) {password : String} {store : Bytes}
    (made : keyStore P r pem keyPem password = .ok store) :
    Keystore.decode P.digest store password =
      .ok [.privateKey keyEntryName key found] := by
  obtain ⟨found', hfound', made⟩ := bind_eq_ok.1 made
  obtain ⟨key', hkey', made⟩ := bind_eq_ok.1 made
  cases hfound.symm.trans hfound'
  cases hkey.symm.trans hkey'
  have hone : [Keystore.Entry.privateKey keyEntryName key found].length < 256 ^ 4 := by
    show 1 < 256 ^ 4
    decide
  refine Keystore.decode_encode P.digest hone (fun entry h => ?_) made
  rw [List.mem_singleton.1 h]
  exact count

/-- A new trust store has the entries expected of it. -/
theorem decode_trustStore {r : Draw} {certs : Bytes} (small : certs.length < 256 ^ 4)
    {password : String} {store : Bytes} {expected : List Keystore.Entry}
    (made : trustStore P r certs password = .ok store)
    (expects : expectedTrust P certs = .ok expected) :
    Keystore.decode P.digest store password = .ok expected := by
  obtain ⟨found, hfound, h⟩ := bind_eq_ok.1 expects
  cases h
  exact decode_trustStore_of_count hfound ((length_certificates_le hfound).trans_lt small) made

/-- A new key store has the entry expected of it. -/
theorem decode_keyStore {r : Draw} {certs key : Bytes} (small : certs.length < 256 ^ 4)
    {password : String} {store : Bytes} {expected : List Keystore.Entry}
    (made : keyStore P r certs key password = .ok store)
    (expects : expectedKey P certs key = .ok expected) :
    Keystore.decode P.digest store password = .ok expected := by
  obtain ⟨raw, hraw, h⟩ := bind_eq_ok.1 expects
  obtain ⟨found, hfound, h⟩ := bind_eq_ok.1 h
  cases h
  exact decode_keyStore_of_count hraw hfound ((length_certificates_le hfound).trans_lt small) made

end ServiceBinding.Crypto.Material
