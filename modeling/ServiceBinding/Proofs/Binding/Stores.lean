import ServiceBinding.Proofs.Binding.Keeping

/-!
The key stores of a plan. For every transform of a checked binding, the content of a plan that has
been collected has a password and a store that opens with it to the entries computed from the
source (`HasStore`). Whatever was kept from an earlier pass, a password in it is used again, and a
password and a store that will still do are both left as they are.
-/
namespace ServiceBinding
open Binding Cluster Convergence Crypto Object
variable {ρ : Type} {P : Primitives} {source : Source} {t : StoreTransform}

/-! ### What a transform asks for -/

/-- Whether some entries are those that a transform asks for: computed from the certificates, and
for a key store from the key, that its source holds. -/
inductive StoreTransform.Expects (P : Primitives) (source : Source) (t : StoreTransform) :
    List Keystore.Entry → Prop
  | trust {cert : Bytes} {expected : List Keystore.Entry} (trusts : t.kind = .trustStore)
      (found : source.lookup t.cert = .ok cert)
      (computed : Material.expectedTrust P cert = .ok expected) : Expects P source t expected
  | key {selector : String} {cert key : Bytes} {expected : List Keystore.Entry}
      (keeps : t.kind = .keyStore) (selects : t.privateKey = some selector)
      (found : source.lookup t.cert = .ok cert) (foundKey : source.lookup selector = .ok key)
      (computed : Material.expectedKey P cert key = .ok expected) : Expects P source t expected

/-- A source has one answer to what is expected. -/
theorem StoreTransform.Expects.unique {expected expected' : List Keystore.Entry}
    (h : t.Expects P source expected) (h' : t.Expects P source expected') :
    expected = expected' := by
  cases h with
  | trust trusts found computed =>
    cases h' with
    | trust _ found' computed' =>
      cases found.symm.trans found'
      exact Except.ok.inj (computed.symm.trans computed')
    | key keeps => cases trusts.symm.trans keeps
  | key keeps selects found foundKey computed =>
    cases h' with
    | trust trusts => cases keeps.symm.trans trusts
    | key _ selects' found' foundKey' computed' =>
      cases selects.symm.trans selects'
      cases found.symm.trans found'
      cases foundKey.symm.trans foundKey'
      exact Except.ok.inj (computed.symm.trans computed')

theorem StoreTransform.expects_of_expectedEntries {cert : Bytes} {key : Option Bytes}
    (found : source.lookup t.cert = .ok cert)
    (foundKey : t.privateKey.mapM source.lookup = .ok key) {expected : List Keystore.Entry}
    (h : Plan.expectedEntries P t cert key = .ok expected) : t.Expects P source expected := by
  unfold Plan.expectedEntries at h
  cases hkind : t.kind with
  | trustStore =>
    rw [hkind] at h
    exact .trust hkind found (mapError_eq_ok.1 h)
  | keyStore =>
    rw [hkind] at h
    cases hselects : t.privateKey with
    | none =>
      rw [hselects] at foundKey
      cases foundKey
      cases h
    | some selector =>
      rw [hselects] at foundKey
      obtain ⟨value, hvalue, hk⟩ := bind_eq_ok.1 foundKey
      cases hk
      exact .key hkind hselects found hvalue (mapError_eq_ok.1 h)

/-! ### What a secret has -/

/-- Whether some content has a password for a transform, and a store that opens with it to the
entries that the transform asks for. -/
structure StoreTransform.HasStore (P : Primitives) (source : Source) (t : StoreTransform)
    (content : Dict Bytes) (password : String) (store : Bytes) : Prop where
  filled : password ≠ ""
  known : content.get? t.password = some (Bytes.ofText password)
  stored : content.get? t.store = some store
  opens : ∃ expected, t.Expects P source expected ∧
    Keystore.decode P.digest store password = .ok expected

namespace Binding

theorem Plan.keptPassword_of_known {kept : Dict Bytes} {known : String} (filled : known ≠ "")
    (h : kept.get? t.password = some (Bytes.ofText known)) (r : Draw) :
    keptPassword kept r t.password = known :=
  keptPassword_again h (Bool.not_eq_true _ ▸ mt String.isEmpty_iff.1 filled) r

/-- A plan has a store and its password once they have been added. -/
theorem Plan.hasStore_of_addStore {kept : Dict Bytes} {r : Draw} {p p' last : Plan}
    (small : source.Small) (valid : t.validate = .ok ())
    (h : p.addStore P kept r source t = .ok p') (grows : p'.Grows last) :
    ∃ store, t.HasStore P source last.content (keptPassword kept r t.password) store ∧
      ∀ known old, t.HasStore P source kept known old → old = store := by
  obtain ⟨cert, key, expected, store, found, foundKey, hexpected, chosen, _, admits, rfl⟩ :=
    addStore_eq_ok.1 h
  have fits : t.kind = .trustStore → key = none := by
    intro trusts
    rw [StoreTransform.privateKey_of_validate valid trusts] at foundKey
    exact (Except.ok.inj foundKey).symm
  have expects := StoreTransform.expects_of_expectedEntries found foundKey hexpected
  have short : cert.length < 256 ^ 4 := (small _ _ found).trans (by decide)
  refine ⟨store, ⟨?_, ?_, ?_, expected, expects, ?_⟩, fun known old had => ?_⟩
  · intro hempty
    have := keptPassword_ne_empty kept r t.password
    rw [hempty] at this
    cases this
  · exact grows.content _ _ (get?_withKey_self _ _ _)
  · exact grows.content _ _ ((grows_withKey admits).content _ _ (get?_withKey_self _ _ _))
  · exact opens_chosenStore fits short hexpected chosen
  · obtain ⟨expected', expects', opens⟩ := had.opens
    rw [expects'.unique expects] at opens
    have again : chosenStore P kept r t cert key expected = .ok old :=
      chosenStore_again had.stored opens (keptPassword_of_known had.filled had.known r)
    exact Except.ok.inj (again.symm.trans chosen)

end Binding

/-! ### Every transform of a binding -/

/-- **Stores open**: for every binding that passes its check, every reader of small values and
whatever is kept from an earlier pass, a plan that is collected has, for each transform, a password
that is not empty and a store that opens with it to the entries computed from the current source.
A kept password is used again, and so is a kept store that opens with it to these entries. -/
theorem Binding.Projector.hasStore_of_collect (E : Equipment ρ) (small : E.reader.Small)
    {b : Binding} {refs : List (SourceRef × Access)} (checked : check E.catalog b = .ok refs)
    (space secondary : String) (kept : Dict Bytes) {c c' : Cluster} {r r' : ρ}
    {plan : Plan}
    (collected : (E.projector.collect space b.name kept 0 { secondary := secondary } refs).exec
      (c, r) = (.ok plan, (c', r'))) :
    ∃ sources, (E.reader.readAll space refs).exec r = (.ok sources, r') ∧
      sources.map (·.1) = b.sources ∧
      ∀ s ∈ sources, ∀ projection ∈ s.1.projections, ∀ t, projection.transform = some t →
        ∃ password store, t.HasStore E.primitives s.2 plan.content password store ∧
          (∀ known, known ≠ "" → kept.get? t.password = some (Bytes.ofText known) →
            known = password) ∧
          ∀ known old, t.HasStore E.primitives s.2 kept known old →
            known = password ∧ old = store := by
  obtain ⟨_, sources, read, gathered⟩ := (collect_eq_ok E space b.name kept).1 collected
  refine ⟨sources, read, (SourceReader.map_fst_readAll read).trans (map_fst_check checked), ?_⟩
  intro s hs projection hp t transforms
  obtain ⟨access, before, after, hmem, hread⟩ := SourceReader.mem_readAll read s hs
  have valid : t.validate = .ok () := Projection.transform_of_validate
    (validate_of_check checked (s.1, access) hmem projection hp) transforms
  obtain ⟨draw, q, q', _, realized, grows⟩ := Plan.realized_of_gather gathered s hs projection hp
  -- Only the case of a transform is left, which has added the store.
  cases realized with
  | store transforms' added =>
    cases transforms.symm.trans transforms'
    obtain ⟨store, has, keeps⟩ := Plan.hasStore_of_addStore
      (small _ _ _ _ _ _ hread) valid added grows
    have again : ∀ known, known ≠ "" → kept.get? t.password = some (Bytes.ofText known) →
        known = Plan.keptPassword kept draw t.password :=
      fun known filled h => (Plan.keptPassword_of_known filled h draw).symm
    exact ⟨_, store, has, again, fun known old had =>
      ⟨again known had.filled had.known, keeps known old had⟩⟩
  | literal plain | reference plain | derived plain | file plain =>
    cases transforms.symm.trans plain

/-- A certificate with nothing in it but what the form asks for. -/
def plainCertificate : Bytes :=
  let algorithm := Der.element 0x30 [0x06, 0x00]
  let bits := [0x03, 0x01, 0x00]
  let time := Der.element 0x17 (Bytes.ofText "2001010000Z")
  let signed := [0x02, 0x00] ++ algorithm ++ [0x30, 0x00] ++ Der.element 0x30 (time ++ time) ++
    [0x30, 0x00] ++ Der.element 0x30 (algorithm ++ bits)
  Der.element 0x30 (Der.element 0x30 signed ++ algorithm ++ bits)

/-- A binding that makes a trust store of the certificate that a secret holds. -/
def authorityTrusted : Binding where
  name := "tls"
  sources := [{
    version := "v1"
    kind := "Secret"
    name := "ca"
    projections := [{
      transform := some {
        kind := .trustStore
        cert := "ca.crt"
        store := "trust.jks"
        password := "trust.pass"
        passEnv := "TRUST_PASS" } }] }]

/-- A password that can be used again, next to a store that is cut short. -/
theorem Binding.Projector.hasStore_of_collect_authorityTrusted :
    let values := Dict.insert {} "ca.crt"
      (Bytes.ofText (Text.Pem.write "CERTIFICATE" plainCertificate))
    let E : Equipment Unit := .standard (.shared values)
    let kept := (Dict.insert {} "trust.pass" (Bytes.ofText "old")).insert "trust.jks" [0xFE]
    let refs := authorityTrusted.sources.map (·, .keyed .secret)
    ∃ plan, E.reader.Small ∧ check E.catalog authorityTrusted = .ok refs ∧
      (E.projector.collect "prod" authorityTrusted.name kept 0 { secondary := "nx-secondary-tls" }
        refs).exec ({}, ()) = (.ok plan, ({}, ())) ∧
      ∃ sources, (E.reader.readAll "prod" refs).exec () = (.ok sources, ()) ∧
        sources.map (·.1) = authorityTrusted.sources ∧
        ∀ s ∈ sources, ∀ projection ∈ s.1.projections, ∀ t, projection.transform = some t →
          ∃ password store, t.HasStore E.primitives s.2 plan.content password store ∧
            (∀ known, known ≠ "" → kept.get? t.password = some (Bytes.ofText known) →
              known = password) ∧
            ∀ known old, t.HasStore E.primitives s.2 kept known old →
              known = password ∧ old = store := by
  intro values E kept refs
  have small : E.reader.Small := SourceReader.small_shared fun key value h => by
    rw [Dict.get?_insert] at h
    split at h
    · cases h
      decide +kernel
    · cases h
  have checked : check E.catalog authorityTrusted = .ok refs := by decide +kernel
  have made : ((E.projector.collect "prod" authorityTrusted.name kept 0
      { secondary := "nx-secondary-tls" } refs).exec ({}, ())).1.toOption.isSome = true := by
    decide +kernel
  generalize collected : (E.projector.collect "prod" authorityTrusted.name kept 0
    { secondary := "nx-secondary-tls" } refs).exec ({}, ()) = y at made
  obtain ⟨_ | plan, c, ⟨⟩⟩ := y
  · cases made
  · obtain rfl : c = {} := collect_cluster E _ _ _ collected
    exact ⟨plan, small, checked, rfl, hasStore_of_collect E small checked _ _ _ collected⟩

end ServiceBinding
