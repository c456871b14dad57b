import ServiceBinding.Proofs.Crypto.Capacity
import ServiceBinding.Proofs.Text.Pem
import Mathlib.Data.Nat.Digits.Defs

/-!
From PEM text to key stores and back. Certificates and a key that are written as PEM come out of a
new store as they went in, and are written as the same text again; and whatever the text is, a store
can be made of it just if entries are expected of it, and has these (`stores_of_pem`).
-/
namespace ServiceBinding.Crypto.Material
open Text
variable {P : Primitives} {certs found : List Bytes} {key pem keyPem : Bytes}

/-! ### Texts -/

/-- The text of some blocks of one label. -/
def pemOf (label : String) (contents : List Bytes) : Bytes :=
  contents.flatMap fun content => Bytes.ofText (Pem.write label content)

theorem blocks_pemOf {label : String} (h : Pem.IsLabel label) (contents : List Bytes) :
    blocks (pemOf label contents) = .ok (contents.map (Pem.Block.mk label)) := by
  have hwrite : pemOf label contents = Pem.writeAll (contents.map (Pem.Block.mk label)) := by
    unfold pemOf Pem.writeAll
    rw [List.flatMap_map]
  have hlabels : ∀ block ∈ contents.map (Pem.Block.mk label), Pem.IsLabel block.label :=
    List.forall_mem_map.2 fun _ _ => h
  unfold blocks
  rw [hwrite, Pem.read?_writeAll hlabels]

/-- The certificates of a text are those that it was written of. -/
theorem certificates_pemOf (filled : certs ≠ [])
    (accepted : ∀ c ∈ certs, P.isCertificate c = true) :
    certificates P (pemOf "CERTIFICATE" certs) = .ok certs := by
  have hall : (certs.map (Pem.Block.mk "CERTIFICATE")).filter (·.label == "CERTIFICATE") =
      certs.map (Pem.Block.mk "CERTIFICATE") :=
    List.filter_eq_self.2 (List.forall_mem_map.2 fun _ _ => beq_self_eq_true "CERTIFICATE")
  refine certificates_eq_ok.2 ⟨_, blocks_pemOf (by decide) certs, ?_, filled, accepted⟩
  rw [hall, List.map_map]
  exact List.map_id _

/-- The private key of a text is the one that it was written of. -/
theorem privateKey_pemOf (key : Bytes) : privateKey (pemOf "PRIVATE KEY" [key]) = .ok key := by
  have hends : endsWith "PRIVATE KEY" "PRIVATE KEY" = true := by decide
  refine bind_eq_ok.2 ⟨_, blocks_pemOf (by decide) [key], ?_⟩
  simp [hends, keyOf]

/-! ### What fits -/

/-- Whether a store can count some certificates and hold each of them. -/
structure Storable (certs : List Bytes) : Prop where
  count : certs.length < 256 ^ 4
  sizes : ∀ c ∈ certs, c.length < 256 ^ 4

/-- Whether a store can hold a key: its envelope adds 68 octets. -/
def KeyStorable (key : Bytes) : Prop := key.length + 68 < 256 ^ 4

theorem length_alias {n : Nat} (h : n < 256 ^ 4) :
    (Bytes.ofText ("alias" ++ toString n)).length < 256 ^ 2 := by
  have hdigits : (toString n).length ≤ 10 := Nat.repr_length n 10 (by decide) (by omega)
  have hsize := Bytes.length_ofText_le ("alias" ++ toString n)
  rw [String.length_append] at hsize
  have : "alias".length = 5 := by decide
  omega

theorem fits_trustedEntries (storable : Storable certs) :
    ∀ entry ∈ trustedEntries certs, entry.Fits := by
  intro entry h
  obtain ⟨⟨c, n⟩, hc, rfl⟩ := List.mem_map.1 h
  obtain ⟨_, hn, hget⟩ := List.mem_zipIdx hc
  refine ⟨length_alias ?_, storable.sizes c (hget ▸ List.getElem_mem _)⟩
  have := storable.count
  omega

theorem fits_keyEntry (storable : Storable certs) (room : KeyStorable key) :
    ∀ entry ∈ [Keystore.Entry.privateKey keyEntryName key certs], entry.Fits := by
  intro entry h
  rw [List.mem_singleton.1 h]
  exact ⟨by decide, room, storable.sizes⟩

/-! ### Stores -/

section Stores
variable (r : Draw) (password : String)

theorem exists_trustStore_of_storable (hfound : certificates P pem = .ok found)
    (storable : Storable found) :
    ∃ store, trustStore P r pem password = .ok store ∧
      Keystore.decode P.digest store password = .ok (trustedEntries found) := by
  have expects : expectedTrust P pem = .ok (trustedEntries found) :=
    bind_eq_ok.2 ⟨found, hfound, rfl⟩
  obtain ⟨store, hstore⟩ :=
    (exists_trustStore expects r password).2 (fits_trustedEntries storable)
  exact ⟨store, hstore, decode_trustStore_of_count hfound storable.count hstore⟩

theorem exists_keyStore_of_storable (hkey : privateKey keyPem = .ok key)
    (hfound : certificates P pem = .ok found) (storable : Storable found)
    (room : KeyStorable key) :
    ∃ store, keyStore P r pem keyPem password = .ok store ∧
      Keystore.decode P.digest store password = .ok [.privateKey keyEntryName key found] := by
  have expects : expectedKey P pem keyPem = .ok [.privateKey keyEntryName key found] :=
    bind_eq_ok.2 ⟨key, hkey, bind_eq_ok.2 ⟨found, hfound, rfl⟩⟩
  obtain ⟨store, hstore⟩ :=
    (exists_keyStore expects r password).2 (fits_keyEntry storable room)
  exact ⟨store, hstore, decode_keyStore_of_count hkey hfound storable.count hstore⟩

end Stores

/-- A trust store is made just where entries are expected, if its certificates fit, and has them. -/
theorem trustStore_iff_expected (r : Draw) (password : String)
    (storable : ∀ found, certificates P pem = .ok found → Storable found) :
    ((∃ store, trustStore P r pem password = .ok store) ↔
      ∃ expected, expectedTrust P pem = .ok expected) ∧
    ∀ store expected, trustStore P r pem password = .ok store →
      expectedTrust P pem = .ok expected →
        Keystore.decode P.digest store password = .ok expected := by
  refine ⟨⟨fun ⟨store, made⟩ => ?_, fun ⟨expected, expects⟩ => ?_⟩, ?_⟩
  · obtain ⟨found, hfound, _⟩ := bind_eq_ok.1 made
    exact ⟨_, bind_eq_ok.2 ⟨found, hfound, rfl⟩⟩
  · obtain ⟨found, hfound, _⟩ := bind_eq_ok.1 expects
    obtain ⟨store, made, _⟩ :=
      exists_trustStore_of_storable r password hfound (storable found hfound)
    exact ⟨store, made⟩
  · intro store expected made expects
    obtain ⟨found, hfound, h⟩ := bind_eq_ok.1 expects
    cases h
    exact decode_trustStore_of_count hfound (storable found hfound).count made

/-- A key store is made just where an entry is expected, if its key and certificates fit, and has
it. -/
theorem keyStore_iff_expected (r : Draw) (password : String)
    (storable : ∀ found, certificates P pem = .ok found → Storable found)
    (room : ∀ key, privateKey keyPem = .ok key → KeyStorable key) :
    ((∃ store, keyStore P r pem keyPem password = .ok store) ↔
      ∃ expected, expectedKey P pem keyPem = .ok expected) ∧
    ∀ store expected, keyStore P r pem keyPem password = .ok store →
      expectedKey P pem keyPem = .ok expected →
        Keystore.decode P.digest store password = .ok expected := by
  refine ⟨⟨fun ⟨store, made⟩ => ?_, fun ⟨expected, expects⟩ => ?_⟩, ?_⟩
  · obtain ⟨found, hfound, made⟩ := bind_eq_ok.1 made
    obtain ⟨key, hkey, _⟩ := bind_eq_ok.1 made
    exact ⟨_, bind_eq_ok.2 ⟨key, hkey, bind_eq_ok.2 ⟨found, hfound, rfl⟩⟩⟩
  · obtain ⟨key, hkey, expects⟩ := bind_eq_ok.1 expects
    obtain ⟨found, hfound, _⟩ := bind_eq_ok.1 expects
    obtain ⟨store, made, _⟩ :=
      exists_keyStore_of_storable r password hkey hfound (storable found hfound) (room key hkey)
    exact ⟨store, made⟩
  · intro store expected made expects
    obtain ⟨key, hkey, expects⟩ := bind_eq_ok.1 expects
    obtain ⟨found, hfound, h⟩ := bind_eq_ok.1 expects
    cases h
    exact decode_keyStore_of_count hkey hfound (storable found hfound).count made

/-! ### There and back -/

/-- Whether a store is opened by a password and has some entries, from which its certificates and
its keys are written as given texts. -/
structure Opens (P : Primitives) (store : Bytes) (password : String)
    (entries : List Keystore.Entry) (pem keyPem : Bytes) : Prop where
  opens : Keystore.decode P.digest store password = .ok entries
  certificates : pemOf "CERTIFICATE" (entries.flatMap (·.certificates)) = pem
  keys : pemOf "PRIVATE KEY" (entries.filterMap (·.key?)) = keyPem

theorem certificates_trustedEntries (certs : List Bytes) :
    (trustedEntries certs).flatMap (·.certificates) = certs := by
  have hone : (fun c : Bytes × Nat =>
      (Keystore.Entry.trusted ("alias" ++ toString c.2) c.1).certificates) = fun c => [c.1] := rfl
  unfold trustedEntries
  rw [List.flatMap_map, hone, ← List.map_eq_flatMap, List.zipIdx_map_fst]

theorem keys_trustedEntries (certs : List Bytes) :
    (trustedEntries certs).filterMap (·.key?) = [] := by
  refine List.filterMap_eq_nil_iff.2 fun entry h => ?_
  obtain ⟨c, _, rfl⟩ := List.mem_map.1 h
  rfl

/-- **Stores hold what the text says**: for every judgement on certificates, every digest, salt,
clock and password, certificates that are accepted and a key, if they fit a store and are written as
PEM text, become a trust store with these certificates in order, under the names `alias0`, `alias1`
and so on, and a key store with this key and the whole chain; both are opened by the password, and
what they hold is written as the same text again. Of any text at all whose certificates and key fit,
a store can be made just if entries are expected of it, and then it has these. -/
theorem stores_of_pem (P : Primitives) (r : Draw) (password : String) :
    (∀ certs key, certs ≠ [] → (∀ c ∈ certs, P.isCertificate c = true) → Storable certs →
      KeyStorable key →
        let pem := pemOf "CERTIFICATE" certs
        let keyPem := pemOf "PRIVATE KEY" [key]
        (∃ store, trustStore P r pem password = .ok store ∧
          Opens P store password
            (certs.zipIdx.map fun c => .trusted ("alias" ++ toString c.2) c.1) pem []) ∧
        ∃ store, keyStore P r pem keyPem password = .ok store ∧
          Opens P store password [.privateKey "nuxeo" key certs] pem keyPem) ∧
    (∀ pem, (∀ found, certificates P pem = .ok found → Storable found) →
      ((∃ store, trustStore P r pem password = .ok store) ↔
        ∃ expected, expectedTrust P pem = .ok expected) ∧
      ∀ store expected, trustStore P r pem password = .ok store →
        expectedTrust P pem = .ok expected →
          Keystore.decode P.digest store password = .ok expected) ∧
    ∀ pem keyPem, (∀ found, certificates P pem = .ok found → Storable found) →
      (∀ key, privateKey keyPem = .ok key → KeyStorable key) →
        ((∃ store, keyStore P r pem keyPem password = .ok store) ↔
          ∃ expected, expectedKey P pem keyPem = .ok expected) ∧
        ∀ store expected, keyStore P r pem keyPem password = .ok store →
          expectedKey P pem keyPem = .ok expected →
            Keystore.decode P.digest store password = .ok expected := by
  refine ⟨fun certs key filled accepted storable room => ?_,
    fun _ storable => trustStore_iff_expected r password storable,
    fun _ _ storable room => keyStore_iff_expected r password storable room⟩
  have hcerts := certificates_pemOf filled accepted
  obtain ⟨store, hstore, hopens⟩ := exists_trustStore_of_storable r password hcerts storable
  obtain ⟨store', hstore', hopens'⟩ :=
    exists_keyStore_of_storable r password (privateKey_pemOf key) hcerts storable room
  have hchain : [Keystore.Entry.privateKey "nuxeo" key certs].flatMap (·.certificates) = certs :=
    List.flatMap_singleton _ _
  refine ⟨⟨store, hstore, hopens, ?_, ?_⟩, store', hstore', hopens', ?_, rfl⟩
  · exact congrArg (pemOf "CERTIFICATE") (certificates_trustedEntries certs)
  · exact congrArg (pemOf "PRIVATE KEY") (keys_trustedEntries certs)
  · exact congrArg (pemOf "CERTIFICATE") hchain

/-- Two octets are a certificate here: two of them and a key become stores, and text again. -/
theorem stores_of_pem_pairs :
    let P : Primitives := ⟨.sha1, (·.length == 2)⟩
    let r := Draw.ofSeed []
    let certs : List Bytes := [[1, 2], [3, 4]]
    let pem := pemOf "CERTIFICATE" certs
    let keyPem := pemOf "PRIVATE KEY" [[5]]
    certs ≠ [] ∧ (∀ c ∈ certs, P.isCertificate c = true) ∧ Storable certs ∧ KeyStorable [5] ∧
      (∃ store, trustStore P r pem "changeit" = .ok store ∧
        Opens P store "changeit" [.trusted "alias0" [1, 2], .trusted "alias1" [3, 4]] pem []) ∧
      (∃ store, keyStore P r pem keyPem "changeit" = .ok store ∧
        Opens P store "changeit" [.privateKey "nuxeo" [5] certs] pem keyPem) ∧
      (∃ expected, expectedTrust P pem = .ok expected) ∧
      ∃ expected, expectedKey P pem keyPem = .ok expected := by
  intro P r certs pem keyPem
  have accepted : ∀ c ∈ certs, P.isCertificate c = true := by decide
  have storable : Storable certs := ⟨by decide, by decide⟩
  have room : KeyStorable [5] := by
    show 69 < 256 ^ 4
    decide
  have found : ∀ found, certificates P pem = .ok found → Storable found := by
    intro found h
    rw [certificates_pemOf (by decide) accepted] at h
    exact Except.ok.inj h ▸ storable
  have keys : ∀ key, privateKey keyPem = .ok key → KeyStorable key := by
    intro key h
    rw [privateKey_pemOf] at h
    exact Except.ok.inj h ▸ room
  obtain ⟨made, trusts, holds⟩ := stores_of_pem P r "changeit"
  obtain ⟨⟨trust, htrust, hopens⟩, store, hstore, hopens'⟩ :=
    made certs [5] (by decide) accepted storable room
  exact ⟨by decide, accepted, storable, room, ⟨trust, htrust, hopens⟩, ⟨store, hstore, hopens'⟩,
    (trusts pem found).1.1 ⟨trust, htrust⟩, (holds pem keyPem found keys).1.1 ⟨store, hstore⟩⟩

end ServiceBinding.Crypto.Material
