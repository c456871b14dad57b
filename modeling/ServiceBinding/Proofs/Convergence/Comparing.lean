import ServiceBinding.Convergence.Comparison
import ServiceBinding.Convergence.Ownership
import ServiceBinding.Proofs.Cluster.Table
import ServiceBinding.Proofs.Object.Distinct

/-!
The theory of comparisons. Each one proposes the object found with the labels and owners wanted
added to it (`Applies`), and none finds a difference in what it has proposed or in the object
wanted itself, in whatever version they are stored (`Converges`).
-/
namespace ServiceBinding.Convergence
open Cluster Object
variable {α : Type}

theorem of_eq_equal {same : Bool} {a : α} : Comparison.of same a = .equal ↔ same = true := by
  cases same <;> simp [Comparison.of]

theorem of_eq_differs {same : Bool} {a b : α} :
    Comparison.of same a = .differs b ↔ same = false ∧ a = b := by
  cases same <;> simp [Comparison.of]

/-- The comparison proposes the object found with the labels and owners wanted added to it. -/
def Applies [Resource α] (compare : Comparer α) : Prop :=
  ∀ wanted found updated, compare wanted found = .differs updated →
    Resource.metadata updated = applyMeta (Resource.metadata wanted) (Resource.metadata found)

/-- The comparison is content with what it wants once that is stored. -/
structure Converges [Resource α] (compare : Comparer α) : Prop where
  created : ∀ wanted version, compare wanted (Table.withVersion wanted version) = .equal
  updated : ∀ wanted found updated version, compare wanted found = .differs updated →
    compare wanted (Table.withVersion updated version) = .equal

/-! ### Metadata -/

theorem mem_foldl_addOwner {refs owners : List OwnerRef} {uid : String} :
    (refs.foldl addOwner owners).any (·.uid == uid) =
      (owners.any (·.uid == uid) || refs.any (·.uid == uid)) := by
  induction refs generalizing owners with
  | nil => simp
  | cons ref rest ih =>
    rw [List.foldl_cons, ih, List.any_cons, ← Bool.or_assoc]
    congr 1
    unfold addOwner
    by_cases hp : owners.any (·.uid == ref.uid) = true
    · rw [if_pos hp]
      by_cases hu : ref.uid = uid
      · rw [← hu, hp]
        rfl
      · simp [hu]
    · rw [if_neg hp]
      simp

/-- Owners that are all there are not added again. -/
theorem foldl_addOwner_of_present {refs owners : List OwnerRef}
    (present : ∀ ref ∈ refs, owners.any (·.uid == ref.uid) = true) :
    refs.foldl addOwner owners = owners := by
  induction refs with
  | nil => rfl
  | cons ref rest ih =>
    rw [List.foldl_cons, addOwner, if_pos (present ref List.mem_cons_self)]
    exact ih fun ref' h => present ref' (List.mem_cons_of_mem _ h)

theorem any_uid_of_mem {refs : List OwnerRef} {ref : OwnerRef} (h : ref ∈ refs) :
    refs.any (·.uid == ref.uid) = true :=
  List.any_eq_true.2 ⟨ref, h, beq_self_eq_true _⟩

/-- What has been applied agrees, whatever its version. -/
theorem metaAgrees_applyMeta (wanted found : Meta) (version : Option String) :
    metaAgrees wanted { applyMeta wanted found with resourceVersion := version } = true := by
  unfold metaAgrees
  simp only [applyMeta, Meta.ownerList, Bool.and_eq_true, beq_iff_eq]
  constructor
  · cases wanted.labels with
    | none => rfl
    | some labels =>
      simp only [applyLabels, Option.getD_some]
      rw [Dict.union_union_self]
  · cases wanted.owners with
    | none => rfl
    | some refs =>
      simp only [applyOwners, Option.getD_some]
      refine foldl_addOwner_of_present fun ref h => ?_
      rw [mem_foldl_addOwner, any_uid_of_mem h, Bool.or_true]

theorem metaAgrees_self (m : Meta) (version : Option String) :
    metaAgrees m { m with resourceVersion := version } = true := by
  unfold metaAgrees
  simp only [applyMeta, Meta.ownerList, Bool.and_eq_true, beq_iff_eq]
  constructor
  · cases m.labels with
    | none => rfl
    | some labels =>
      simp only [applyLabels, Option.getD_some]
      exact Dict.union_self labels
  · cases m.owners with
    | none => rfl
    | some refs =>
      simp only [applyOwners, Option.getD_some]
      exact foldl_addOwner_of_present fun ref h => any_uid_of_mem h

/-- Whether an object has every label and owner of another one. -/
structure Includes (wanted found : Meta) : Prop where
  labels : ∀ key value, (wanted.labels.getD {}).get? key = some value →
    (found.labels.getD {}).get? key = some value
  owners : ∀ ref ∈ wanted.ownerList, found.isOwnedBy ref.uid = true

/-- A label that is wanted is set, and any other one stays. -/
theorem get?_applyLabels (wanted found : Option (Dict String)) (key : String) :
    ((applyLabels wanted found).getD {}).get? key =
      ((wanted.getD {}).get? key).or ((found.getD {}).get? key) := by
  cases wanted with
  | none => rfl
  | some labels => exact Dict.get?_union _ labels key

theorem applyOwners_getD (wanted found : Option (List OwnerRef)) :
    (applyOwners wanted found).getD [] = (wanted.getD []).foldl addOwner (found.getD []) := by
  cases wanted <;> rfl

/-- Metadata agrees just if nothing wanted is missing. -/
theorem metaAgrees_iff {wanted found : Meta} :
    metaAgrees wanted found = true ↔ Includes wanted found := by
  unfold metaAgrees
  simp only [applyMeta, Meta.ownerList, Bool.and_eq_true, beq_iff_eq, applyOwners_getD]
  constructor
  · intro ⟨hlabels, howners⟩
    refine ⟨fun key value h => ?_, fun ref h => ?_⟩
    · rw [← hlabels, get?_applyLabels, h, Option.some_or]
    · have there : (wanted.owners.getD []).any (·.uid == ref.uid) = true := any_uid_of_mem h
      unfold Meta.isOwnedBy Meta.ownerList
      rw [← howners, mem_foldl_addOwner, there, Bool.or_true]
  · intro h
    refine ⟨Dict.ext_get? fun key => ?_, foldl_addOwner_of_present h.owners⟩
    rw [get?_applyLabels]
    cases hkey : (wanted.labels.getD {}).get? key with
    | none => rw [Option.none_or]
    | some value => rw [Option.some_or, h.labels key value hkey]

/-! ### Owners -/

/-- Whether metadata is made for objects of the owner: it has one owner, of this identity. -/
def IsMadeFor (m : Meta) (uid : String) : Prop :=
  ∃ ref, m.owners = some [ref] ∧ ref.uid = uid

/-- An object made for the owner conflicts with none that the owner has or that nobody has. -/
theorem conflicts_eq_false {wanted found : Meta} {uid : String}
    (made : IsMadeFor wanted uid) :
    conflicts wanted found = false ↔ found.ownerList = [] ∨ found.isOwnedBy uid = true := by
  obtain ⟨ref, href, rfl⟩ := made
  unfold conflicts
  rw [Meta.ownerList, href]
  cases hfound : found.ownerList <;> simp

/-- Objects conflict with none that has an owner of theirs, or that are for nobody. -/
theorem conflicts_eq_false_of_shared {wanted found : Meta}
    (shared : ∀ ref ∈ wanted.ownerList, found.isOwnedBy ref.uid = true) :
    conflicts wanted found = false := by
  unfold conflicts
  cases h : wanted.ownerList with
  | nil => rfl
  | cons ref rest =>
    rw [List.any_cons, shared ref (h ▸ List.mem_cons_self), Bool.true_or, Bool.not_true,
      Bool.and_false]

/-- An object conflicts with itself in no version. -/
theorem conflicts_self (m : Meta) (version : Option String) :
    conflicts m { m with resourceVersion := version } = false :=
  conflicts_eq_false_of_shared fun _ h => any_uid_of_mem h

/-- What has been applied conflicts in no version with the object it was applied for. -/
theorem conflicts_applyMeta (wanted found : Meta) (version : Option String) :
    conflicts wanted { applyMeta wanted found with resourceVersion := version } = false := by
  refine conflicts_eq_false_of_shared fun ref h => ?_
  unfold Meta.isOwnedBy
  simp only [Meta.ownerList, applyMeta] at h ⊢
  cases hw : wanted.owners with
  | none =>
    rw [hw] at h
    cases h
  | some refs =>
    rw [hw] at h
    simp only [applyOwners, Option.getD_some] at h ⊢
    rw [mem_foldl_addOwner, any_uid_of_mem h, Bool.or_true]

/-- What has been applied for an owner belongs to it. -/
theorem isOwnedBy_applyMeta {wanted : Meta} {uid : String} (made : IsMadeFor wanted uid)
    (found : Meta) : (applyMeta wanted found).isOwnedBy uid = true := by
  obtain ⟨ref, href, rfl⟩ := made
  unfold Meta.isOwnedBy Meta.ownerList applyMeta
  simp only [href, applyOwners, Option.getD_some]
  rw [mem_foldl_addOwner]
  simp

theorem isOwnedBy_of_isMadeFor {m : Meta} {uid : String} (made : IsMadeFor m uid) :
    m.isOwnedBy uid = true := by
  obtain ⟨ref, href, rfl⟩ := made
  unfold Meta.isOwnedBy Meta.ownerList
  simp [href]

/-! ### Secrets and config maps -/

theorem sameContent_self [DecidableEq α] (a : Option (Dict α)) : sameContent a a = true :=
  beq_self_eq_true _

theorem compareSecret_eq_equal {wanted found : Secret} :
    compareSecret wanted found = .equal ↔
      metaAgrees wanted.metadata found.metadata = true ∧
        sameContent wanted.data found.data = true ∧ wanted.type = found.type := by
  unfold compareSecret
  simp only [of_eq_equal, Bool.and_eq_true, beq_iff_eq]

theorem compareConfigMap_eq_equal {wanted found : ConfigMap} :
    compareConfigMap wanted found = .equal ↔
      metaAgrees wanted.metadata found.metadata = true ∧
        sameContent wanted.data found.data = true ∧
          sameContent wanted.binaryData found.binaryData = true := by
  unfold compareConfigMap
  simp only [of_eq_equal, Bool.and_eq_true]

theorem applies_compareSecret : Applies compareSecret := by
  intro wanted found updated h
  obtain ⟨_, rfl⟩ := of_eq_differs.1 h
  rfl

theorem applies_compareConfigMap : Applies compareConfigMap := by
  intro wanted found updated h
  obtain ⟨_, rfl⟩ := of_eq_differs.1 h
  rfl

theorem converges_compareSecret : Converges compareSecret where
  created wanted version :=
    compareSecret_eq_equal.2 ⟨metaAgrees_self _ _, sameContent_self _, rfl⟩
  updated wanted found updated version h := by
    obtain ⟨_, rfl⟩ := of_eq_differs.1 h
    refine compareSecret_eq_equal.2 ⟨metaAgrees_applyMeta _ _ _, ?_⟩
    simp only [Table.withVersion, Resource.withMetadata]
    by_cases hd : (sameContent wanted.data found.data && wanted.type == found.type) = true
    · rw [if_pos hd, if_pos hd]
      simpa only [Bool.and_eq_true, beq_iff_eq] using hd
    · rw [if_neg hd, if_neg hd]
      exact ⟨sameContent_self _, rfl⟩

theorem converges_compareConfigMap : Converges compareConfigMap where
  created wanted version :=
    compareConfigMap_eq_equal.2 ⟨metaAgrees_self _ _, sameContent_self _, sameContent_self _⟩
  updated wanted found updated version h := by
    obtain ⟨_, rfl⟩ := of_eq_differs.1 h
    refine compareConfigMap_eq_equal.2 ⟨metaAgrees_applyMeta _ _ _, ?_⟩
    simp only [Table.withVersion, Resource.withMetadata]
    by_cases hd : (sameContent wanted.data found.data &&
        sameContent wanted.binaryData found.binaryData) = true
    · rw [if_pos hd, if_pos hd]
      simpa only [Bool.and_eq_true] using hd
    · rw [if_neg hd, if_neg hd]
      exact ⟨sameContent_self _, sameContent_self _⟩

/-! ### Deployments -/

theorem compareDeployment_eq_equal {wanted found : Deployment} :
    compareDeployment wanted found = .equal ↔
      metaAgrees wanted.metadata found.metadata = true ∧
        deploymentSpecAgrees wanted.spec found.spec = true := by
  unfold compareDeployment
  simp only [of_eq_equal, Bool.and_eq_true]

theorem applies_compareDeployment : Applies compareDeployment := by
  intro wanted found updated h
  obtain ⟨_, rfl⟩ := of_eq_differs.1 h
  rfl

/-- A list wanted empty where it was left out is satisfied by one left out. -/
theorem memberFits_filled {write : α → Json} (each : ∀ a, (write a).Distinct)
    (l : Option (List α)) :
    Json.MemberFits ((some (l.getD [])).map (.ofList write)) (l.map (.ofList write)) := by
  rintro j ⟨⟩
  cases l with
  | none => rfl
  | some l => exact Json.isContained_self (Json.distinct_ofList each l)

/-- Members of lists are contained in others one by one. -/
theorem ofList_map_isContained {write : α → Json} {fill : α → α}
    (each : ∀ a, (write (fill a)).isContained (write a) = true) (l : List α) :
    (Json.ofList write (l.map fill)).isContained (.ofList write l) = true := by
  rw [Json.ofList_isContained_iff, List.forall₂_map_left_iff, List.forall₂_same]
  exact fun a _ => each a

theorem fillContainer_isContained (c : Container) :
    (fillContainer c).toJson.isContained c.toJson = true := by
  refine Container.isContained_iff.2
    ⟨Json.record_isContained (by simp [Container.members]) ?_,
      Json.isContained_self c.rest.distinct_toJson⟩
  simp only [Container.members, List.forall₂_cons, List.forall₂_nil_left_iff, true_and, and_true]
  refine ⟨memberFits_filled (by simp) _, memberFits_filled (by simp) _, ?_, ?_, ?_, ?_, ?_, ?_,
    memberFits_filled (by simp) _⟩
  all_goals exact Json.memberFits_self (by simp)

theorem fillPod_isContained (p : PodSpec) : (fillPod p).toJson.isContained p.toJson = true := by
  refine PodSpec.isContained_iff.2
    ⟨Json.record_isContained (by simp [PodSpec.members]) ?_,
      Json.isContained_self p.rest.distinct_toJson⟩
  simp only [PodSpec.members, List.forall₂_cons, List.forall₂_nil_left_iff, true_and, and_true]
  refine ⟨?_, Json.memberFits_self (by simp), ?_, Json.memberFits_self (by simp),
    memberFits_filled (by simp) _⟩
  · rintro j ⟨⟩
    exact ofList_map_isContained fillContainer_isContained _
  · cases p with
    | mk _ initContainers =>
      cases initContainers with
      | none => rintro j ⟨⟩
      | some l =>
        rintro j ⟨⟩
        exact ofList_map_isContained fillContainer_isContained _

/-- A specification agrees with itself, although its lists are wanted even where left out. -/
theorem deploymentSpecAgrees_self (s : Option DeploymentSpec) :
    deploymentSpecAgrees s s = true := by
  cases s with
  | none => rw [deploymentSpecAgrees, optionalJson, Option.map_none, Option.map_none,
      Option.getD_none, Json.isContained]
  | some s =>
    have hpod : Json.MemberFits ((s.template.spec.map fillPod).map PodSpec.toJson)
        (s.template.spec.map PodSpec.toJson) := by
      cases s.template.spec with
      | none => rintro j ⟨⟩
      | some p =>
        rintro j ⟨⟩
        exact fillPod_isContained p
    have htemplate : (fillSpec s).template.toJson.isContained s.template.toJson = true := by
      refine Json.record_isContained (by simp) ?_
      simp only [List.forall₂_cons, List.forall₂_nil_left_iff, true_and, and_true]
      exact ⟨Json.memberFits_self (by simp), hpod⟩
    refine Json.record_isContained (by simp) ?_
    simp only [List.forall₂_cons, List.forall₂_nil_left_iff, true_and, and_true]
    refine ⟨?_, ?_, ?_, ?_, ?_, ?_, ?_, ?_⟩
    all_goals first
      | exact Json.memberFits_self (by simp)
      | (rintro j ⟨⟩; exact htemplate)

theorem converges_compareDeployment : Converges compareDeployment where
  created wanted version :=
    compareDeployment_eq_equal.2 ⟨metaAgrees_self _ _, deploymentSpecAgrees_self _⟩
  updated wanted found updated version h := by
    obtain ⟨_, rfl⟩ := of_eq_differs.1 h
    refine compareDeployment_eq_equal.2 ⟨metaAgrees_applyMeta _ _ _, ?_⟩
    simp only [Table.withVersion, Resource.withMetadata]
    by_cases hd : deploymentSpecAgrees wanted.spec found.spec = true
    · rw [if_pos hd]
      exact hd
    · rw [if_neg hd]
      exact deploymentSpecAgrees_self _

end ServiceBinding.Convergence
