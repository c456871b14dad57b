import ServiceBinding.Proofs.Belonging
import ServiceBinding.Proofs.Binding.Repeating
import ServiceBinding.Proofs.Binding.Sharing
import ServiceBinding.Proofs.Binding.Stores

/-!
What earlier passes have left behind. The secondary secret that a binding finds decides which
passwords and key stores it goes on using, and whether it can be applied just where two of its
projections share a key (`project_of_leftovers`).
-/
namespace ServiceBinding
open Binding Cluster Convergence Crypto Object
variable {ρ : Type} {E : Equipment ρ} {i : Instance} {b : Binding} {pod : PodSpec} {r r' : ρ}
  {uid : String}

namespace Binding

/-! ### Plans -/

namespace Plan
variable {p p' : Plan}

/-- Plans that differ in what has been kept add the same to a pod. -/
theorem Parallel.apply_eq {rest : List Request} (h : Parallel rest p p')
    (binding mountBase : String) (templates : List String) (pod : PodSpec) :
    p'.apply binding mountBase templates pod = p.apply binding mountBase templates pod := by
  obtain ⟨secondary, content, items, env⟩ := p
  obtain ⟨_, content', _, _⟩ := p'
  obtain ⟨rfl, rfl, rfl, _⟩ := h
  rfl

theorem Parallel.isEmpty_eq {rest : List Request} (h : Parallel rest p p') :
    p'.content.isEmpty = p.content.isEmpty := by
  have hempty (d : Dict Bytes) : d.isEmpty = true ↔ ∀ key, d.get? key = none := by
    rw [Dict.isEmpty_iff]
    exact ⟨fun h key => h ▸ rfl, fun h => Dict.ext_get? h⟩
  rw [Bool.eq_iff_iff, hempty, hempty]
  exact forall_congr' h.keys

end Plan

/-! ### Drafts -/

/-- Whether some requests are those of a binding, as the reader answers from a state. -/
def Asks (E : Equipment ρ) (i : Instance) (b : Binding) (r : ρ) (l : List Request) : Prop :=
  ∃ expansion refs sources r', expand b E.settings.mountBase = .ok expansion ∧
    check E.catalog expansion.binding = .ok refs ∧
      (E.reader.readAll (spaceOf i) refs).exec r = (.ok sources, r') ∧ l = requests sources

/-- Whether the requests of a binding can be met in the same way whatever has been kept: none that
is for a key store shares a key, and private keys leave room for their envelopes. -/
def Unshared (E : Equipment ρ) (i : Instance) (b : Binding) (r : ρ) : Prop :=
  ∀ l, Asks E i b r l → l.Pairwise Request.Apart ∧ ∀ s ∈ l, s.KeyFits

theorem Drafted.asks {found : Option Secret} {d : Draft} (h : Drafted E i b found pod r uid d r') :
    Asks E i b r (requests d.sources) :=
  ⟨_, _, _, _, h.expanded, h.checked, h.read, rfl⟩

/-- A binding has one list of requests. -/
theorem Drafted.requests_eq {found : Option Secret} {d : Draft}
    (h : Drafted E i b found pod r uid d r') {l : List Request} (asks : Asks E i b r l) :
    requests d.sources = l := by
  obtain ⟨expansion, refs, sources, _, hexp, hchk, hread, rfl⟩ := asks
  have read := h.read
  rw [h.refs_eq hexp hchk, hread] at read
  cases read
  rfl

/-- A binding that comes to a draft comes to one as well with another secondary secret. -/
theorem Drafted.forgetting {found found' : Option Secret} {d : Draft}
    (h : Drafted E i b found pod r uid d r') (unshared : Unshared E i b r)
    (draws : String → Nat → Draw) :
    ∃ plan, Drafted { E with draws := draws } i b found' pod r uid { d with plan := plan } r' ∧
      plan.content.isEmpty = d.plan.content.isEmpty := by
  obtain ⟨apart, fits⟩ := unshared _ h.asks
  have valid : ∀ s ∈ requests d.sources, s.projection.validate = .ok () := by
    intro s hs
    obtain ⟨ref, hmem, hp⟩ := mem_requests.1 hs
    obtain ⟨access, _, _, href, _⟩ := SourceReader.mem_readAll h.read _ hmem
    exact validate_of_check h.checked _ href _ hp
  have gathered := h.gathered
  rw [Plan.gather_eq_realizeRequests] at gathered
  obtain ⟨plan, hplan, parallel⟩ := (Plan.Parallel.refl_empty _ _).realizeRequests apart fits valid
    gathered (keptFrom uid found') (draws b.name)
  refine ⟨plan, ⟨h.identified, h.expanded, h.checked, h.read, ?_, ?_⟩, parallel.isEmpty_eq⟩
  · rw [Plan.gather_eq_realizeRequests]
    exact hplan
  · exact (parallel.apply_eq _ _ _ _).trans h.applied

/-! ### Bindings -/

/-- Whether nobody else has the secondary secret of a binding. -/
def Unclaimed (i : Instance) (b : Binding) (t : Table Secret) : Prop :=
  ∀ uid found, i.metadata.uid = some uid →
    t.get? (spaceOf i) (secondaryName i.name b.name) = some found →
      found.metadata.isOwnedBy uid = true

/-- Whether the secondary secret of a binding can be written does not depend on its content. -/
theorem exists_secondarySecret {content content' : Dict Bytes} {wanted : Secret}
    (made : secondarySecret i b.name content = .ok wanted) :
    ∃ wanted', secondarySecret i b.name content' = .ok wanted' := by
  obtain ⟨owned, howned, _⟩ := bind_eq_ok.1 made
  exact ⟨_, bind_eq_ok.2 ⟨owned, howned, rfl⟩⟩

/-- A secret that nobody else has is settled, if it can be made. -/
theorem Settled.exists_ok {before after : Table Secret} {content : Dict Bytes} {x : Result Unit}
    {verbs : List Verb} (identified : Workload.ownerUid i = .ok uid)
    (h : Settled False i b.name uid content before x verbs after) (free : Unclaimed i b before)
    (makes : content.isEmpty = false → ∃ wanted, secondarySecret i b.name content = .ok wanted) :
    x = .ok () := by
  cases h with
  | removed _ h =>
    obtain ⟨o, rfl⟩ := h.exists_ok
    rfl
  | unmade filled h =>
    obtain ⟨wanted, made⟩ := makes filled
    cases h.symm.trans made
  | ensured _ made h =>
    obtain ⟨o, rfl⟩ := h.exists_ok (secondarySecret_isMadeFor identified made)
      fun found there => free uid found (Workload.ownerUid_eq_ok.1 identified) there
    rfl

theorem Settled.makes {faulty : Prop} {before after : Table Secret} {content : Dict Bytes}
    {verbs : List Verb} (h : Settled faulty i b.name uid content before (.ok ()) verbs after)
    (filled : content.isEmpty = false) :
    ∃ wanted, secondarySecret i b.name content = .ok wanted := by
  generalize hx : (Except.ok () : Result Unit) = x at h
  cases h with
  | removed empty => cases empty.symm.trans filled
  | unmade => cases hx
  | ensured _ made => exact ⟨_, made⟩

/-- A binding that is applied is applied in the same way with another secondary secret. -/
theorem project_forgetting {c c' : Cluster} (quiet' : c'.faults = [])
    (free' : Unclaimed i b c'.secrets) (unshared : Unshared E i b r)
    (draws : String → Nat → Draw) {y : PodSpec × String}
    (h : ((E.projector.project i b pod).exec (c, r)).1 = .ok y) :
    ((({ E with draws := draws } : Equipment ρ).projector.project i b pod).exec (c', r)).1 =
      .ok y := by
  obtain ⟨x, verbs, t, after, r₁, hexec, _, projected⟩ :=
    exec_project E i b pod (fun _ => trivial : c.faults ≠ [] → True) r
  obtain ⟨x', verbs', t', after', r₂, hexec', _, projected'⟩ :=
    exec_project { E with draws := draws } i b pod (fun h => h quiet' : c'.faults ≠ [] → False) r
  rw [hexec] at h
  rw [hexec']
  dsimp only at h ⊢
  cases projected with
  | refused | stopped => cases h
  | settled drafted settled =>
    obtain ⟨_, rfl, rfl⟩ := map_eq_ok.1 h
    obtain ⟨plan, drafted₂, same⟩ := drafted.forgetting unshared draws
    cases projected' with
    | refused e none => exact absurd drafted₂ (none _ _ _)
    | stopped e r none => exact absurd drafted₂ (none.resolve_left id _ _ _)
    | settled drafted' settled' =>
      obtain ⟨rfl, rfl, rfl⟩ := drafted₂.unique drafted'
      obtain rfl := settled'.exists_ok drafted.identified free' fun filled =>
        have ⟨wanted, made⟩ := settled.makes (same.symm.trans filled)
        exists_secondarySecret made
      rfl

/-- What the secondary secret of a binding keeps for an instance. -/
def keptFor (i : Instance) (b : Binding) (t : Table Secret) : Dict Bytes :=
  keptFrom (i.metadata.uid.getD "") (t.get? (spaceOf i) (secondaryName i.name b.name))

/-- A binding two of whose transforms share the key of a password is not applied if none has been
kept for it and their draws have different ones. -/
theorem project_ne_ok_of_shared {c : Cluster} {l : List Request} {m n : Nat} {s s' : Request}
    {t t' : StoreTransform} (asks : Asks E i b r l) (hs : l[m]? = some s) (hs' : l[n]? = some s')
    (transforms : s.projection.transform = some t)
    (transforms' : s'.projection.transform = some t') (shared : t'.password = t.password)
    (differ : (E.draws b.name m).password ≠ (E.draws b.name n).password)
    (lost : ¬ Plan.KeepsPassword (keptFor i b c.secrets) t.password) {y : PodSpec × String} :
    ((E.projector.project i b pod).exec (c, r)).1 ≠ .ok y := by
  intro h
  obtain ⟨x, verbs, u, after, r₁, hexec, _, projected⟩ :=
    exec_project E i b pod (fun _ => trivial : c.faults ≠ [] → True) r
  rw [hexec] at h
  dsimp only at h
  cases projected with
  | refused | stopped => cases h
  | settled drafted _ =>
    have gathered := drafted.gathered
    rw [Plan.gather_eq_realizeRequests, drafted.requests_eq asks] at gathered
    rw [keptFor, Workload.ownerUid_eq_ok.1 drafted.identified, Option.getD_some] at lost
    -- The draws of a binding are counted from 0 on.
    rw [← Nat.zero_add m, ← Nat.zero_add n] at differ
    exact Plan.not_realized_of_shared hs hs' transforms transforms' shared lost differ _ gathered

/-- **Leftovers decide on shared keys only**: from any two states of its secondary secret that are
nobody else's, and whatever is drawn, a binding is applied in the same way or fails in both, if no
request that is for a key store shares a key. And two requests for key stores that share the key of
their passwords fail the binding if none has been kept under it. -/
theorem project_of_leftovers (E : Equipment ρ) (i : Instance) (b : Binding) (pod : PodSpec) (r : ρ)
    {c c' : Cluster} (quiet : c.faults = []) (quiet' : c'.faults = [])
    (free : Unclaimed i b c.secrets) (free' : Unclaimed i b c'.secrets)
    (draws : String → Nat → Draw) :
    (Unshared E i b r → ∀ y, ((E.projector.project i b pod).exec (c, r)).1 = .ok y ↔
      ((({ E with draws := draws } : Equipment ρ).projector.project i b pod).exec (c', r)).1 =
        .ok y) ∧
    ∀ l m n s s' t t', Asks E i b r l → l[m]? = some s → l[n]? = some s' →
      s.projection.transform = some t → s'.projection.transform = some t' →
        t'.password = t.password → (E.draws b.name m).password ≠ (E.draws b.name n).password →
          ¬ Plan.KeepsPassword (keptFor i b c.secrets) t.password →
            ∀ y, ((E.projector.project i b pod).exec (c, r)).1 ≠ .ok y := by
  refine ⟨fun unshared y => ⟨?_, ?_⟩, ?_⟩
  · exact project_forgetting quiet' free' unshared draws
  · exact project_forgetting (E := { E with draws := draws }) quiet free unshared E.draws
  · intro l m n s s' t t' asks hs hs' transforms transforms' shared differ lost y
    exact project_ne_ok_of_shared asks hs hs' transforms transforms' shared differ lost

end Binding

/-! ### A password under one key -/

/-- A binding that makes two trust stores of one certificate, with one key for both passwords. -/
def passwordShared : Binding :=
  let trust (store passEnv : String) : Projection := {
    transform := some {
      kind := .trustStore
      cert := "ca.crt"
      store := store
      password := "trust.pass"
      passEnv := passEnv } }
  { name := "tls"
    sources := [{
      version := "v1"
      kind := "Secret"
      name := "ca"
      projections := [trust "first.jks" "FIRST_PASS", trust "second.jks" "SECOND_PASS"] }] }

/-- An instance with one binding. -/
def boundTo (b : Binding) : Instance :=
  { passwordMounted with spec := { bindings := [b] } }

/-- Equipment with a reader to which every secret holds a certificate. -/
def Equipment.oneAuthority : Equipment Unit :=
  .standard (.shared (.insert {} "ca.crt"
    (Bytes.ofText (Text.Pem.write "CERTIFICATE" plainCertificate))))

/-- A pod with the server and nothing else. -/
def serverAlone : PodSpec := { containers := [{ name := "nuxeo" }] }

/-- A cluster where the owner's secondary secret holds a password. -/
def passwordKept : Cluster :=
  { secrets := Table.seed {} "prod" {
      metadata := {
        name := some "nx-secondary-tls"
        owners := some [⟨"service.nuxeo.com/v1alpha1", "Nuxeo", "nx", "u1", some true, none⟩] }
      data := some (.insert {} "trust.pass" (Bytes.ofText "old")) } }

theorem unclaimed_passwordKept (i : Instance) (named : i.metadata = passwordMounted.metadata)
    {b : Binding} (tls : b.name = "tls") : Unclaimed i b passwordKept.secrets := by
  intro uid found identified there
  have hname : secondaryName i.name "tls" = "nx-secondary-tls" := by
    unfold Instance.name
    rw [named]
    decide +kernel
  have hspace : spaceOf i = "prod" := by
    rw [spaceOf, named]
    rfl
  rw [named] at identified
  rw [tls, hname, hspace] at there
  cases identified
  cases there
  decide +kernel

/-- One trust store, with its password as it was drawn or as it was kept, and two trust stores with
one key for their passwords, of which none has been kept. -/
theorem project_of_leftovers_authority :
    (∃ y, ((Equipment.oneAuthority.projector.project (boundTo authorityTrusted) authorityTrusted
        serverAlone).exec ({}, ())).1 = .ok y ∧
      ((Equipment.oneAuthority.projector.project (boundTo authorityTrusted) authorityTrusted
        serverAlone).exec (passwordKept, ())).1 = .ok y) ∧
    ∀ y, ((Equipment.oneAuthority.projector.project (boundTo passwordShared) passwordShared
      serverAlone).exec ({}, ())).1 ≠ .ok y := by
  have free (b b' : Binding) : Unclaimed (boundTo b) b' ({} : Cluster).secrets :=
    fun _ _ _ h => nomatch h
  have unshared :
      Unshared Equipment.oneAuthority (boundTo authorityTrusted) authorityTrusted () := by
    rintro l ⟨_, _, _, _, ⟨⟩, ⟨⟩, ⟨⟩, rfl⟩
    refine ⟨List.pairwise_singleton _ _, ?_⟩
    intro s hs t selector value key transforms selects
    obtain rfl := List.mem_singleton.1 hs
    cases transforms
    cases selects
  constructor
  · obtain ⟨same, _⟩ := project_of_leftovers Equipment.oneAuthority (boundTo authorityTrusted)
      authorityTrusted serverAlone () (rfl : ({} : Cluster).faults = [])
      (rfl : passwordKept.faults = []) (free _ _) (unclaimed_passwordKept _ rfl rfl)
      Equipment.oneAuthority.draws
    have applied : ((Equipment.oneAuthority.projector.project (boundTo authorityTrusted)
        authorityTrusted serverAlone).exec ({}, ())).1.toOption.isSome = true := by
      decide +kernel
    cases h : ((Equipment.oneAuthority.projector.project (boundTo authorityTrusted)
        authorityTrusted serverAlone).exec ({}, ())).1 with
    | error e =>
      rw [h] at applied
      cases applied
    | ok y => exact ⟨y, rfl, (same unshared y).1 h⟩
  · obtain ⟨_, lost⟩ := project_of_leftovers Equipment.oneAuthority (boundTo passwordShared)
      passwordShared serverAlone () (rfl : ({} : Cluster).faults = [])
      (rfl : ({} : Cluster).faults = []) (free _ _) (free _ _) Equipment.oneAuthority.draws
    refine lost _ 0 1 _ _ _ _ ⟨_, _, _, _, rfl, rfl, rfl, rfl⟩ rfl rfl rfl rfl rfl
      (by decide +kernel) ?_
    rintro ⟨password, _, h⟩
    cases h

/-- Two trust stores with one key for their passwords can be made where a password has been kept,
and not where none has. -/
theorem project_differs_passwordShared :
    let E := Equipment.oneAuthority
    let i := boundTo passwordShared
    Unclaimed i passwordShared ({} : Cluster).secrets ∧
      Unclaimed i passwordShared passwordKept.secrets ∧
      (E.draws "tls" 0).password ≠ (E.draws "tls" 1).password ∧
      ((E.projector.project i passwordShared serverAlone).exec ({}, ())).1.toOption.isSome =
        false ∧
      ((E.projector.project i passwordShared serverAlone).exec
        (passwordKept, ())).1.toOption.isSome = true := by
  intro E i
  refine ⟨fun _ _ _ h => (nomatch h), unclaimed_passwordKept _ rfl rfl, ?_⟩
  decide +kernel

end ServiceBinding
