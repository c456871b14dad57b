import ServiceBinding.Proofs.Belonging
import ServiceBinding.Proofs.Leftovers
import ServiceBinding.Proofs.Visibility

/-!
Passes over two instances of one namespace. What a pass leaves behind is the other one's as before
(`LeftBy`): nothing that the other instance owns alone has come, gone or changed. So a pass over the
second instance comes to the same after a pass over the first as without it
(`pass_unaffected`), as long as the two have no secret in common. They can have one: a secret's name
is put together from the names of instance and binding, and taken apart in two ways it is of both
(`not_unaffected_standby`).
-/
namespace ServiceBinding
open Binding Cluster Convergence Object
variable {ρ α : Type}

/-! ### What a pass leaves -/

section Leaving
variable [Stored α]

/-- What calls on some names of a namespace, for one owner, leave of a table: the rights of others
are upheld, and what is new belongs to the owner. -/
structure LeftBy (uid space : String) (names : String → Prop) (before after : Table α) : Prop where
  upheld : ∃ log, Upheld uid space names before after log
  own : after.Each fun space name a =>
    before.get? space name = some a ∨ (Resource.metadata a).isOwnedBy uid = true

/-- Whether two tables hold the same objects that an owner has and another one has not. -/
def SameFor (uid other : String) (t t' : Table α) : Prop :=
  ∀ space name a, (Resource.metadata a).isOwnedBy uid = true →
    (Resource.metadata a).isOwnedBy other = false →
      (t.get? space name = some a ↔ t'.get? space name = some a)

theorem LeftBy.refl (uid space : String) (names : String → Prop) (t : Table α) :
    LeftBy uid space names t t :=
  ⟨⟨[], .refl _ _ _ t⟩, fun _ _ _ there => .inl there⟩

theorem LeftBy.elsewhere {uid space : String} {names : String → Prop} {before after : Table α}
    (h : LeftBy uid space names before after) {space' name : String}
    (apart : ¬ (space' = space ∧ names name)) :
    after.get? space' name = before.get? space' name := by
  obtain ⟨_, upheld⟩ := h.upheld
  exact upheld.elsewhere space' name apart

/-- Calls for one owner leave alone what another one has and it has not. -/
theorem LeftBy.sameFor {uid space : String} {names : String → Prop} {before after : Table α}
    (h : LeftBy uid space names before after) (uid' : String) : SameFor uid' uid before after := by
  intro space' name a mine alien
  constructor
  · intro there
    obtain ⟨_, upheld⟩ := h.upheld
    rcases upheld.permitted space' name a there with still | own | ⟨nobody, _⟩
    · exact still
    · cases alien.symm.trans own
    · unfold Meta.isOwnedBy at mine
      rw [nobody] at mine
      cases mine
  · intro there
    rcases h.own space' name a there with before | own
    · exact before
    · cases alien.symm.trans own

/-- What is stored for the owner is its own, or was there before. -/
theorem keeps_own {compare : Comparer α} (applies : Applies compare) {space name uid : String}
    {wanted : α} (made : IsMadeFor (Resource.metadata wanted) uid) (before : Table α) :
    Keeps compare space name wanted fun space name a =>
      before.get? space name = some a ∨ (Resource.metadata a).isOwnedBy uid = true where
  created version := .inr (isOwnedBy_withVersion made version)
  updated _ _ version differs _ := .inr (isOwnedBy_of_differs applies made differs version)

end Leaving

section Passes
variable {faulty : Prop} {E : Equipment ρ} {i : Instance} {uid : String} {c after : Cluster}
  {r r' : ρ} {x : Result Nat}

theorem Binding.Swept.leftBy {pod : PodSpec} {p : Projector.Progress}
    {pruned : Result (List String)} {log : List Call} {before after : Table Secret}
    (identified : Workload.ownerUid i = .ok uid) (valid : i.spec.validate = .ok ())
    (named : before.Named) (h : Swept faulty E i pod before r p pruned log after r') :
    ∃ names, LeftBy uid (spaceOf i) names before after := by
  obtain ⟨names, upheld⟩ := h.upheld identified valid named
  refine ⟨names, ⟨log, upheld⟩, h.each (fun _ _ _ made => ?_) fun _ _ _ there => .inl there⟩
  exact keeps_own applies_compareSecret (secondarySecret_isMadeFor identified made) before

/-- A sweep leaves alone every secret that is of no declared binding and not the owner's. -/
theorem Binding.Swept.get?_eq {pod : PodSpec} {p : Projector.Progress}
    {pruned : Result (List String)} {log : List Call} {before after : Table Secret}
    (identified : Workload.ownerUid i = .ok uid) (valid : i.spec.validate = .ok ())
    (named : before.Named) (h : Swept faulty E i pod before r p pruned log after r')
    {space name : String} (undeclared : ¬ (space = spaceOf i ∧ IsSecondary i i.spec.bindings name))
    (alien : ∀ s, before.get? space name = some s → s.metadata.isOwnedBy uid = false) :
    after.get? space name = before.get? space name := by
  obtain ⟨mid, each, gone, rfl, heach, hgone⟩ := h.split
  have hmid : mid.get? space name = before.get? space name :=
    (heach.upheld identified (InstanceSpec.nodup_names valid)).elsewhere space name undeclared
  rcases hgone.eq_or_leftover identified (heach.named named) space name with
    he | ⟨_, rfl, s, leftover, there⟩
  · rw [he, hmid]
  · have owned := (isLeftover_iff.1 (List.mem_filter.1 leftover).2).2
    rw [hmid] at there
    cases (alien s there).symm.trans owned

theorem Operator.ConfSettled.leftBy {space text : String} {pod : PodSpec}
    {before after : Table ConfigMap} {x : Result PodSpec} {verbs : List Verb}
    (identified : Workload.ownerUid i = .ok uid)
    (h : ConfSettled faulty i space uid text pod before x verbs after) :
    LeftBy uid space (· = Workload.confName i) before after := by
  refine ⟨⟨_, h.upheld identified⟩, h.each (fun _ made => ?_) fun _ _ _ there => .inl there⟩
  exact keeps_own applies_compareConfigMap (Workload.bindingConf_isMadeFor identified made) before

/-- What a pass over an instance leaves of a cluster. -/
structure Operator.Leaves (i : Instance) (uid : String) (c after : Cluster) : Prop where
  quiet : c.faults = [] → after.faults = []
  named : after.secrets.Named
  secrets : ∃ names, LeftBy uid (spaceOf i) names c.secrets after.secrets
  /-- Secrets that are of no declared binding and not the owner's are left alone. -/
  spared : ∀ space name, ¬ (space = spaceOf i ∧ IsSecondary i i.spec.bindings name) →
    (∀ s, c.secrets.get? space name = some s → s.metadata.isOwnedBy uid = false) →
      after.secrets.get? space name = c.secrets.get? space name
  configMaps : LeftBy uid (spaceOf i) (· = Workload.confName i) c.configMaps after.configMaps
  deployments : LeftBy uid (spaceOf i) (· = i.name) c.deployments after.deployments

theorem Operator.Passed.leaves (identified : Workload.ownerUid i = .ok uid)
    (named : c.secrets.Named) (h : Passed faulty E i c r x after r') : Leaves i uid c after := by
  cases h with
  | refused =>
    exact ⟨id, named, ⟨fun _ => False, .refl _ _ _ _⟩, fun _ _ _ _ => rfl, .refl _ _ _ _,
      .refl _ _ _ _⟩
  | @swept space uid' d pod prepared p pruned log t mid _ _ swept called _ _ finished =>
    obtain rfl : mid.secrets = t := called.table
    cases identified.symm.trans prepared.identified
    obtain ⟨hc, hd⟩ := called.rest_secret
    have hplace := prepared.spaceOf_eq
    have hspared : ∀ space name, ¬ (space = spaceOf i ∧ IsSecondary i i.spec.bindings name) →
        (∀ s, c.secrets.get? space name = some s → s.metadata.isOwnedBy uid = false) →
          mid.secrets.get? space name = c.secrets.get? space name :=
      fun _ _ => swept.get?_eq identified prepared.valid named
    have hsecrets := swept.leftBy identified prepared.valid named
    have hnamed := swept.named named
    rw [← finished.secrets] at hspared hsecrets hnamed
    cases finished with
    | halted =>
      refine ⟨called.quiet, hnamed, hsecrets, hspared, ?_, ?_⟩
      · rw [hc]
        exact .refl _ _ _ _
      · rw [hd]
        exact .refl _ _ _ _
    | @unconfigured _ _ _ u _ conf called' =>
      obtain rfl : after.configMaps = u := called'.table
      refine ⟨fun quiet => called'.quiet (called.quiet quiet), hnamed, hsecrets, hspared, ?_, ?_⟩
      · rw [hplace, ← hc]
        exact conf.leftBy identified
      · rw [called'.rest_configMap.2, hd]
        exact .refl _ _ _ _
    | @deployed _ pod' _ _ u mid' _ conf called' _ v ensured called'' =>
      obtain rfl : mid'.configMaps = u := called'.table
      obtain rfl : after.deployments = v := called''.table
      have made := prepared.isMadeFor pod'
      rw [called'.rest_configMap.2, hd] at ensured
      refine ⟨fun quiet => called''.quiet (called'.quiet (called.quiet quiet)), hnamed, hsecrets,
        hspared, ?_, ?_⟩
      · rw [hplace, called''.rest_deployment.2, ← hc]
        exact conf.leftBy identified
      · rw [hplace]
        exact ⟨⟨_, ensured.upheld made⟩, ensured.each
          (keeps_own applies_compareDeployment made c.deployments) fun _ _ _ there => .inl there⟩

/-- What a pass without faults does to a secret that is of no declared binding: it is gone if the
pass gets to its sweep and the secret is a leftover. -/
theorem Operator.Passed.secrets_iff (identified : Workload.ownerUid i = .ok uid)
    (named : c.secrets.Named) (h : Passed False E i c r x after r') {space name : String}
    (undeclared : ¬ (space = spaceOf i ∧ IsSecondary i i.spec.bindings name)) {s : Secret} :
    after.secrets.get? space name = some s ↔
      c.secrets.get? space name = some s ∧
        ¬ ((∃ space uid d pod, Prepared i space uid d pod) ∧ space = spaceOf i ∧
          s ∈ leftovers i uid c.secrets) := by
  cases h with
  | refused _ unprepared =>
    refine ⟨fun there => ⟨there, ?_⟩, And.left⟩
    rintro ⟨⟨_, _, _, _, prepared⟩, _⟩
    exact unprepared _ _ _ _ prepared
  | @swept _ _ _ _ prepared p _ _ t mid _ _ swept called _ _ finished =>
    obtain rfl : mid.secrets = t := called.table
    obtain ⟨table, each, gone, rfl, heach, hgone⟩ := swept.split
    rw [finished.secrets]
    have hmid : table.get? space name = c.secrets.get? space name :=
      (heach.upheld identified (InstanceSpec.nodup_names prepared.valid)).elsewhere space name
        undeclared
    rcases hgone.eq_or_leftover identified (heach.named named) space name with
      he | ⟨hnone, rfl, s', leftover, there⟩
    · rw [he, hmid]
      refine ⟨fun there => ⟨there, ?_⟩, And.left⟩
      -- A leftover would have been deleted.
      rintro ⟨_, rfl, leftover⟩
      have hname := named.displayName there
      rw [show name = s.metadata.displayName from hname.symm] at he hmid there
      have hcleared := hgone.cleared identified s
        (leftover_of_get? leftover (hmid.trans there))
      rw [he, hmid, there] at hcleared
      cases hcleared
    · rw [hnone, ← hmid, there]
      refine ⟨nofun, ?_⟩
      rintro ⟨⟨⟩, kept⟩
      have hname : s.metadata.displayName = name := (heach.named named).displayName there
      refine absurd ⟨⟨_, _, _, _, prepared⟩, rfl, leftover_of_get? leftover ?_⟩ kept
      rw [hname, ← hmid]
      exact there

end Passes

/-! ### Two instances -/

section Instances
variable {i j : Instance} {space uid uid' owner owner' : String} {c : Cluster} {r : ρ}

/-- Whether two instances keep their secrets apart, given what is stored: no declared binding of the
second has its secret in a place where the first has, or owns, one. -/
def SecretsApart (i j : Instance) (uid space : String) (t : Table Secret) : Prop :=
  ∀ name, IsSecondary j j.spec.bindings name →
    ¬ IsSecondary i i.spec.bindings name ∧
      ∀ s, t.get? space name = some s → s.metadata.isOwnedBy uid = false

/-- A cluster looks to passes over one instance as it did before a pass over another one. -/
theorem LooksAlike.of_leaves {after : Cluster} (first : i.IsOf owner space uid)
    (second : j.IsOf owner' space uid') (distinct : owner ≠ owner') (quiet : c.faults = [])
    (apart : SecretsApart i j uid space c.secrets) (h : Operator.Leaves i uid c after) :
    LooksAlike j c after where
  quiet := quiet
  quiet' := h.quiet quiet
  secrets := by
    rintro _ name ⟨rfl, secondary⟩
    obtain ⟨undeclared, alien⟩ := apart name secondary
    rw [← second.spaceOf_eq] at alien
    exact (h.spared _ _ (fun declared => undeclared declared.2) alien).symm
  configMaps := by
    rintro _ _ ⟨rfl, rfl⟩
    refine (h.configMaps.elsewhere fun same => distinct ?_).symm
    rw [← first.named, ← second.named]
    exact (String.append_left_inj _).1 same.2.symm
  deployments := by
    rintro _ _ ⟨rfl, rfl⟩
    refine (h.deployments.elsewhere fun same => distinct ?_).symm
    rw [← first.named, ← second.named]
    exact same.2.symm

/-- Objects that are the same for an owner stay so where nothing is done to them, and where the same
has been done. -/
theorem SameFor.after [Stored α] {t t' u u' : Table α} {other : String} {names : String → Prop}
    (same : SameFor uid' other t t') (h : LeftBy uid' space names t u)
    (h' : LeftBy uid' space names t' u')
    (agree : AgreeOn (fun space' name => space' = space ∧ names name) u u') :
    SameFor uid' other u u' := by
  intro space' name a mine alien
  by_cases place : space' = space ∧ names name
  · rw [agree space' name place]
  · rw [h.elsewhere place, h'.elsewhere place]
    exact same space' name a mine alien

/-- A leftover of an owner is one in every table that has the same objects of it. -/
theorem mem_leftovers_of_sameFor {t t' : Table Secret} {other name : String} (named : t.Named)
    (same : SameFor uid other t t') {s : Secret} (there : t.get? (spaceOf j) name = some s)
    (alien : s.metadata.isOwnedBy other = false) (leftover : s ∈ leftovers j uid t) :
    s ∈ leftovers j uid t' := by
  have hname : s.metadata.displayName = name := named.displayName there
  refine leftover_of_get? leftover ?_
  rw [hname]
  exact (same _ _ s (isLeftover_iff.1 (List.mem_filter.1 leftover).2).2 alien).1 there

theorem SameFor.symm [Stored α] {t t' : Table α} {other : String} (h : SameFor uid other t t') :
    SameFor uid other t' t := fun space name a mine alien => (h space name a mine alien).symm

/-- Secrets that are the same for the owner of an instance are still so after its passes. -/
theorem SameFor.secrets_after {ρ : Type} {E : Equipment ρ} {c c' after after' : Cluster}
    {r r₁ r₂ : ρ} {x x' : Result Nat} {other : String}
    (identified : Workload.ownerUid j = .ok uid) (named : c.secrets.Named)
    (named' : c'.secrets.Named) (same : SameFor uid other c.secrets c'.secrets)
    (h : Operator.Passed False E j c r x after r₁)
    (h' : Operator.Passed False E j c' r x' after' r₂) (looks : LooksAlike j after after') :
    SameFor uid other after.secrets after'.secrets := by
  intro space name s mine alien
  by_cases declared : space = spaceOf j ∧ IsSecondary j j.spec.bindings name
  · rw [looks.secrets space name declared]
  · rw [h.secrets_iff identified named declared, h'.secrets_iff identified named' declared]
    have hthere := same space name s mine alien
    rw [hthere]
    refine and_congr_right fun there => not_congr (and_congr_right fun _ => ?_)
    refine and_congr_right fun place => ?_
    subst place
    exact ⟨mem_leftovers_of_sameFor named same (hthere.2 there) alien,
      mem_leftovers_of_sameFor named' same.symm there alien⟩

end Instances

/-- **Passes over two instances do not interfere** as long as no secret is in common to both.
Whatever a pass over the first has come to, a pass over the second then has the result that it has
without it, applies the same bindings and fails at the same ones, and leaves the same objects of the
second instance, those apart that belong to both. -/
theorem Operator.pass_unaffected {ρ ρ' : Type} (E : Equipment ρ) (E' : Equipment ρ')
    {i j : Instance} {space uid uid' owner owner' : String} (first : i.IsOf owner space uid)
    (second : j.IsOf owner' space uid') (distinct : owner ≠ owner') {c : Cluster}
    (quiet : c.faults = []) (named : c.secrets.Named)
    (apart : SecretsApart i j uid space c.secrets) (r : ρ) (r' : ρ') :
    let before := ((E.operator.pass i).exec (c, r)).2.1
    let alone := (E'.operator.pass j).exec (c, r')
    let after := (E'.operator.pass j).exec (before, r')
    after.1 = alone.1 ∧
      (∀ pod,
        let swept := ((E'.projector.projectAll j pod).run (c, r')).1.2
        let swept' := ((E'.projector.projectAll j pod).run (before, r')).1.2
        swept'.applied = swept.applied ∧ swept'.failed = swept.failed) ∧
      SameFor uid' uid alone.2.1.secrets after.2.1.secrets ∧
      SameFor uid' uid alone.2.1.configMaps after.2.1.configMaps ∧
      SameFor uid' uid alone.2.1.deployments after.2.1.deployments := by
  obtain ⟨x, mid, t, hx, passed⟩ := exec_pass E i (fun hf => hf quiet) r
  have left := passed.leaves first.identified named
  have looks : Looks j (c, r') (mid, r') :=
    ⟨.of_leaves first second distinct quiet apart left, rfl⟩
  obtain ⟨hresult, hlooks⟩ := alike_pass E' looks
  obtain ⟨y, c', t', hy, passed'⟩ := exec_pass E' j (fun hf => hf quiet) r'
  obtain ⟨y', c'', t'', hy', passed''⟩ := exec_pass E' j (fun hf => hf (left.quiet quiet)) r'
  have left' := passed'.leaves second.identified named
  have left'' := passed''.leaves second.identified left.named
  rw [hx]
  dsimp only
  rw [hy, hy'] at hresult hlooks ⊢
  obtain ⟨_, secrets⟩ := left.secrets
  refine ⟨hresult.symm, fun pod => ?_, ?_, ?_, ?_⟩
  · obtain ⟨hreport, _⟩ := looks_projectAll E' second.identified pod looks
    rw [hreport]
    exact ⟨rfl, rfl⟩
  · exact (secrets.sameFor uid').secrets_after second.identified named left.named passed' passed''
      hlooks.1
  · exact (left.configMaps.sameFor uid').after left'.configMaps left''.configMaps
      hlooks.1.configMaps
  · exact (left.deployments.sameFor uid').after left'.deployments left''.deployments
      hlooks.1.deployments

/-- The instance that mounts a password, under other names. -/
def passwordMountedAs (name uid binding : String) : Instance where
  metadata := { name := some name, space := some "prod", uid := some uid }
  spec := { bindings := passwordMounted.spec.bindings.map ({ · with name := binding }) }

theorem Operator.pass_unaffected_ny :
    let E := Equipment.onePassword
    let i := passwordMountedAs "nx" "u1" "db"
    let j := passwordMountedAs "ny" "u2" "db"
    let before := ((E.operator.pass i).exec ({}, ())).2.1
    let alone := (E.operator.pass j).exec ({}, ())
    let after := (E.operator.pass j).exec (before, ())
    (before.secrets.get? "prod" "nx-secondary-db").isSome = true ∧
      (alone.2.1.secrets.get? "prod" "ny-secondary-db").isSome = true ∧ after.1 = alone.1 ∧
        SameFor "u2" "u1" alone.2.1.secrets after.2.1.secrets := by
  intro E i j before alone after
  have apart : SecretsApart i j "u1" "prod" ({} : Cluster).secrets := by
    rintro name ⟨b, hb, rfl⟩
    obtain rfl := List.mem_singleton.1 hb
    have none : ({} : Table Secret).Each fun _ _ s => s.metadata.isOwnedBy "u1" = false :=
      Table.Each.empty _
    refine ⟨?_, none _ _⟩
    rintro ⟨b, hb, same⟩
    obtain rfl := List.mem_singleton.1 hb
    revert same
    decide
  have first : i.IsOf "nx" "prod" "u1" := ⟨rfl, rfl, rfl⟩
  have second : j.IsOf "ny" "prod" "u2" := ⟨rfl, rfl, rfl⟩
  obtain ⟨hresult, _, hsecrets, _⟩ :=
    pass_unaffected E E first second (by decide) (c := {}) rfl Table.Named.empty apart () ()
  exact ⟨by decide +kernel, by decide +kernel, hresult, hsecrets⟩

/-- The secret of an instance's binding "secondary-db" has the name of the secret that the binding
"db" of its standby would have. -/
theorem not_unaffected_standby :
    let E := Equipment.onePassword
    let i := passwordMountedAs "nx" "u1" "secondary-db"
    let standby := passwordMountedAs "nx-secondary" "u2" "db"
    let before := ((E.operator.pass i).exec ({}, ())).2.1
    let alone := (E.operator.pass standby).exec ({}, ())
    let after := (E.operator.pass standby).exec (before, ())
    i.spec.validate = .ok () ∧ standby.spec.validate = .ok () ∧ E.reader.Steady ∧
      alone.1.isOk = true ∧ after.1 =
        .error (.ownershipConflict "Secret" "prod" "nx-secondary-secondary-db") ∧
      ∃ pod : PodSpec,
        ((E.projector.projectAll standby pod).run ({}, ())).1.2.applied = ["db"] ∧
          ((E.projector.projectAll standby pod).run (before, ())).1.2.applied = [] := by
  intro E i standby before alone after
  have steady : E.reader.Steady := by
    rintro space name ((_ | _) | kind) ⟨⟩ ⟨⟩ <;> rfl
  refine ⟨by decide +kernel, by decide +kernel, steady, by decide +kernel, by decide +kernel, ?_⟩
  exact ⟨{ containers := [{ name := "nuxeo" }] }, by decide +kernel, by decide +kernel⟩

end ServiceBinding
