import ServiceBinding.Proofs.Passing

/-!
Tables in which everything belongs to one owner. What is made for the owner keeps a table such
(`OwnedBy`), and there no attempt is ever refused: without faults each one goes through.
-/
namespace ServiceBinding
open Binding Cluster Convergence Object
variable {ρ α : Type}

/-- Every object of the table belongs to the owner. -/
def Cluster.Table.OwnedBy [Resource α] (uid : String) (t : Table α) : Prop :=
  ∀ space name a, t.get? space name = some a → (Resource.metadata a).isOwnedBy uid = true

theorem Cluster.Table.OwnedBy.empty [Resource α] (uid : String) :
    ({} : Table α).OwnedBy uid := Table.Each.empty _

/-- What is made of an object for the owner belongs to it. -/
theorem Convergence.isOwnedBy_of_differs [Stored α] {compare : Comparer α}
    (applies : Applies compare) {uid : String} {wanted found updated : α}
    (made : IsMadeFor (Resource.metadata wanted) uid)
    (differs : compare wanted found = .differs updated) (version : String) :
    (Resource.metadata (Table.withVersion updated version)).isOwnedBy uid = true := by
  rw [Table.metadata_withVersion, applies _ _ _ differs]
  exact isOwnedBy_applyMeta made _

theorem Convergence.isOwnedBy_withVersion [Stored α] {uid : String} {wanted : α}
    (made : IsMadeFor (Resource.metadata wanted) uid) (version : String) :
    (Resource.metadata (Table.withVersion wanted version)).isOwnedBy uid = true := by
  rw [Table.metadata_withVersion]
  exact isOwnedBy_of_isMadeFor made

/-- Objects of the owner stay so. -/
theorem Convergence.keeps_ownedBy [Stored α] {compare : Comparer α} (applies : Applies compare)
    {space name uid : String} {wanted : α} (made : IsMadeFor (Resource.metadata wanted) uid) :
    Keeps compare space name wanted
      fun _ _ a => (Resource.metadata a).isOwnedBy uid = true where
  created := isOwnedBy_withVersion made
  updated _ _ version differs _ := isOwnedBy_of_differs applies made differs version

/-! ### Attempts -/

section Attempts
variable [Stored α] {faulty : Prop} {space name uid : String} {before after : Table α}
  {verbs : List Verb}

theorem Convergence.Ensured.exists_ok {compare : Comparer α} {wanted : α}
    (made : IsMadeFor (Resource.metadata wanted) uid) {x : Result Outcome}
    (h : Ensured False compare space name wanted before x verbs after)
    (owned : ∀ a, before.get? space name = some a → (Resource.metadata a).isOwnedBy uid = true) :
    ∃ o, x = .ok o := by
  cases h with
  | struck h | notCreated h | notUpdated h => exact h.elim
  | refused there alien =>
    cases alien.symm.trans ((conflicts_eq_false made).2 (.inr (owned _ there)))
  | _ => exact ⟨_, rfl⟩

theorem Convergence.Removed.exists_ok {x : Result Removal}
    (h : Removed False space name uid before x verbs after) : ∃ o, x = .ok o := by
  cases h with
  | struck h | notDeleted h => exact h.elim
  | _ => exact ⟨_, rfl⟩

end Attempts

/-! ### Sweeps -/

theorem Binding.Swept.ownedBy {faulty : Prop} {E : Equipment ρ} {i : Instance} {uid : String}
    {before after : Table Secret} {pod : PodSpec} {r r' : ρ} {p : Projector.Progress}
    {pruned : Result (List String)} {log : List Call}
    (identified : Workload.ownerUid i = .ok uid)
    (h : Swept faulty E i pod before r p pruned log after r') (owned : before.OwnedBy uid) :
    after.OwnedBy uid :=
  h.each (fun _ _ _ made =>
    keeps_ownedBy applies_compareSecret (secondarySecret_isMadeFor identified made)) owned

/-! ### Configuration -/

section Configuration
variable {i : Instance} {space uid text : String} {pod : PodSpec} {before after : Table ConfigMap}
  {x : Result PodSpec} {verbs : List Verb}

theorem Operator.ConfSettled.each {faulty : Prop} {P : String → String → ConfigMap → Prop}
    (h : ConfSettled faulty i space uid text pod before x verbs after)
    (keeps : ∀ wanted, Workload.bindingConf i text = .ok wanted →
      Keeps compareConfigMap space (Workload.confName i) wanted P) (hb : before.Each P) :
    after.Each P := by
  cases h with
  | removed _ h => exact h.each hb
  | unmade => exact hb
  | ensured _ made h => exact h.each (keeps _ made) hb

theorem Operator.ConfSettled.ownedBy {faulty : Prop} (identified : Workload.ownerUid i = .ok uid)
    (h : ConfSettled faulty i space uid text pod before x verbs after)
    (owned : before.OwnedBy uid) : after.OwnedBy uid :=
  h.each (fun _ made => keeps_ownedBy applies_compareConfigMap
    (Workload.bindingConf_isMadeFor identified made)) owned

/-- Configuration text that cannot be settled cannot be mounted, and what was stored still is. -/
theorem Operator.ConfSettled.unmountable {d : Deployment} {e : Error}
    (identified : Workload.ownerUid i = .ok uid) (built : Workload.deployment i = .ok d)
    (h : ConfSettled False i space uid text pod before (.error e) verbs after)
    (owned : before.OwnedBy uid) :
    (text.isEmpty = false ∧ ∃ e, (Workload.mountConf i pod).toResult = .error e) ∧
      ∀ space' name stored, before.get? space' name = some stored →
        ∃ stored', after.get? space' name = some stored' := by
  generalize hx : (Except.error e : Result PodSpec) = x at h
  cases h with
  | removed _ h =>
    obtain ⟨o, rfl⟩ := h.exists_ok
    cases hx
  | unmade _ h =>
    obtain ⟨wanted, hwanted⟩ := Workload.exists_bindingConf built text
    cases h.symm.trans hwanted
  | ensured filled made h =>
    obtain ⟨o, rfl⟩ := h.exists_ok (Workload.bindingConf_isMadeFor identified made) (owned _ _)
    exact ⟨⟨filled, e, hx.symm⟩, fun _ _ _ there => h.present there⟩

/-- Configuration text that has been settled is empty, or mounted and stored. -/
theorem Operator.ConfSettled.mounted {faulty : Prop} {pod' : PodSpec}
    (h : ConfSettled faulty i space uid text pod before (.ok pod') verbs after) :
    text.isEmpty = true ∧ pod' = pod ∨
      text.isEmpty = false ∧ (Workload.mountConf i pod).toResult = .ok pod' ∧
        ∃ stored, after.get? space (Workload.confName i) = some stored := by
  generalize hx : (Except.ok pod' : Result PodSpec) = x at h
  cases h with
  | removed empty =>
    obtain ⟨_, _, rfl⟩ := map_eq_ok.1 hx.symm
    exact .inl ⟨empty, rfl⟩
  | unmade => cases hx
  | ensured filled made h =>
    obtain ⟨o, rfl, hmount⟩ := bind_eq_ok.1 hx.symm
    exact .inr ⟨filled, hmount.trans hx, h.stored⟩

end Configuration

end ServiceBinding
