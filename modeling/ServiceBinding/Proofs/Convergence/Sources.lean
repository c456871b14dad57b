import ServiceBinding.Proofs.Workload.Showing

/-!
Kinds of volumes in comparisons. The kind of a volume is the name of the first source in its JSON
form (`sourceKind?_name`). A volume that is found to be as wanted has the name wanted and a source
of each kind that the one wanted has, if only that source asks for something. A source that asks
for nothing, such as plain scratch space, counts as left out: whatever volume of that name is found
then, of any kind, it is taken for unchanged (`sourceKind_of_equal`, `not_sameKind_scratch`).
-/
namespace ServiceBinding
open Convergence Json Object

/-- The source of a kind, if the volume has one, in its JSON form. -/
def Object.Volume.source? (v : Volume) (kind : SourceKind) : Option Json := v.toJson.get? kind.name

/-- The deployment with another volume in one place of its pod's list. -/
def Object.Deployment.withVolume (d : Deployment) (i : Nat) (v : Volume) : Deployment :=
  match Workload.podSpec? d with
  | some pod => Workload.withPod d { pod with volumes := some (d.volumes.set i v) }
  | none => d

/-! ### Kinds -/

theorem Object.SourceKind.mem_all (kind : SourceKind) : kind ∈ all := by
  have listed : ∀ name ∈ sourceNames, ∃ named, SourceKind.other name named ∈ all := by
    simp [sourceNames, all]
  cases kind with
  | other name named => exact (listed name named).2
  | _ => simp [all]

theorem Object.SourceKind.forall_iff {p : SourceKind → Prop} :
    (∀ kind, p kind) ↔ (p .configMap ∧ p .emptyDir ∧ p .hostPath ∧ p .persistentVolumeClaim ∧
      p .projected ∧ p .secret) ∧ ∀ name named, p (.other name named) := by
  constructor
  · intro h
    exact ⟨⟨h _, h _, h _, h _, h _, h _⟩, fun _ _ => h _⟩
  · intro ⟨⟨_, _, _, _, _, _⟩, hothers⟩ kind
    cases kind with
    | other name named => exact hothers name named
    | _ => assumption

theorem Object.Volume.source?_eq (v : Volume) (kind : SourceKind) :
    v.source? kind =
      match kind with
      | .configMap => v.configMap.map ConfigMapVolume.toJson
      | .emptyDir => v.emptyDir.map EmptyDir.toJson
      | .hostPath => v.hostPath.map HostPath.toJson
      | .persistentVolumeClaim => v.claim.map ClaimVolume.toJson
      | .projected => v.projected.map ProjectedVolume.toJson
      | .secret => v.secret.map SecretVolume.toJson
      | .other name _ => v.rest.members.get? name := by
  have keys : (v.members.map (·.1)).Nodup := by simp [members]
  have apart : ∀ key ∈ v.members.map (·.1), key ∉ sourceNames := by simp [members, sourceNames]
  have own {key : String} {source : Option Json} (h : (key, source) ∈ v.members) :
      v.toJson.get? key = source :=
    (get?_merged_of_not_mem v.rest keys (apart key (List.mem_map_of_mem h))).trans
      (member_of_mem keys h)
  cases kind with
  | other name named => exact get?_merged_of_mem v.rest keys apart named
  | _ => exact own (by simp [members, SourceKind.name])

theorem Object.Volume.has_eq (v : Volume) (kind : SourceKind) :
    v.has kind = (v.source? kind).isSome := by
  rw [source?_eq]
  cases kind with
  | other => rfl
  | _ => exact Option.isSome_map.symm

theorem Object.SourceKind.exists_name {v : Volume} {key : String} {j : Json}
    (there : v.toJson.get? key = some j) (other : key ≠ "name") :
    ∃ kind : SourceKind, kind.name = key := by
  by_cases named : key ∈ sourceNames
  · exact ⟨.other key named, rfl⟩
  · have own : (key, some j) ∈ v.members := mem_of_member
      ((get?_merged_of_not_mem v.rest (by simp [Volume.members]) named).symm.trans there)
    simp only [Volume.members, List.mem_cons, Prod.mk.injEq, List.not_mem_nil, or_false] at own
    rcases own with ⟨rfl, -⟩ | ⟨rfl, -⟩ | ⟨rfl, -⟩ | ⟨rfl, -⟩ | ⟨rfl, -⟩ | ⟨rfl, -⟩ | ⟨rfl, -⟩
    · exact ⟨.configMap, rfl⟩
    · exact ⟨.emptyDir, rfl⟩
    · exact ⟨.hostPath, rfl⟩
    · exact absurd rfl other
    · exact ⟨.persistentVolumeClaim, rfl⟩
    · exact ⟨.projected, rfl⟩
    · exact ⟨.secret, rfl⟩

/-- The kind of a volume is named by the first member of its JSON form other than its name. -/
theorem Object.Volume.sourceKind?_name (v : Volume) :
    v.sourceKind?.map (·.name) = (v.rest.merged v.members).keys.find? (· != "name") := by
  have named : ∀ kind ∈ SourceKind.all, kind.name ≠ "name" := by decide +kernel
  have sorted : (SourceKind.all.map (·.name)).Pairwise (· < ·) := by decide +kernel
  have kinds : ((SourceKind.all.filter v.has).map (·.name)).Pairwise (· < ·) :=
    sorted.sublist (List.filter_sublist.map _)
  have keys : ((v.rest.merged v.members).keys.filter (· != "name")).Pairwise (· < ·) :=
    (List.pairwise_map.2 (v.rest.merged v.members).sorted).filter _
  have same (key : String) : key ∈ (SourceKind.all.filter v.has).map (·.name) ↔
      key ∈ (v.rest.merged v.members).keys.filter (· != "name") := by
    rw [List.mem_filter, bne_iff_ne, List.mem_map]
    constructor
    · intro h
      obtain ⟨kind, hkind, rfl⟩ := h
      obtain ⟨listed, has⟩ := List.mem_filter.1 hkind
      rw [has_eq] at has
      obtain ⟨j, hj⟩ := Option.isSome_iff_exists.1 has
      exact ⟨List.mem_map.2 ⟨_, Dict.get?_eq_some_iff.1 hj, rfl⟩, named kind listed⟩
    · intro ⟨hkey, other⟩
      obtain ⟨⟨_, j⟩, hm, rfl⟩ := List.mem_map.1 hkey
      have there := Dict.get?_eq_some_iff.2 hm
      obtain ⟨kind, rfl⟩ := SourceKind.exists_name there other
      have has : v.has kind = true := by
        rw [has_eq]
        exact Option.isSome_iff_exists.2 ⟨j, there⟩
      exact ⟨kind, List.mem_filter.2 ⟨kind.mem_all, has⟩, rfl⟩
  have hp := (List.perm_ext_iff_of_nodup (kinds.imp fun h => String.ne_of_lt h)
    (keys.imp fun h => String.ne_of_lt h)).2 same
  rw [sourceKind?, ← List.head?_filter, ← List.head?_filter, ← List.head?_map,
    hp.eq_of_pairwise (fun _ _ _ _ hab hba => absurd hab (String.lt_asymm hba)) kinds keys]

/-- A volume with a single source is of that source's kind. -/
theorem Object.Volume.sourceKind?_of_single {v : Volume} {kind : SourceKind}
    (there : (v.source? kind).isSome) (single : ∀ other, (v.source? other).isSome → other = kind) :
    v.sourceKind? = some kind := by
  cases h : v.sourceKind? with
  | none => exact absurd (v.has_eq kind ▸ there) (List.find?_eq_none.1 h kind kind.mem_all)
  | some other =>
    have hother : v.has other = true := List.find?_some h
    rw [single other (v.has_eq other ▸ hother)]

/-- A volume is contained in another one of the same name in which each of its sources is. -/
theorem Object.Volume.isContained_iff_sources {v w : Volume} :
    v.toJson.isContained w.toJson = true ↔
      v.name = w.name ∧ ∀ kind, MemberFits (v.source? kind) (w.source? kind) := by
  have hname : MemberFits (some (.str v.name)) (some (.str w.name)) ↔ v.name = w.name := by
    simp [MemberFits, fits, isContained]
  rw [SourceKind.forall_iff, isContained_iff, Rest.isContained_iff,
    record_isContained_iff_forall₂ (by rfl) (by simp [members])]
  simp only [source?_eq, members, List.forall₂_cons, List.forall₂_nil_left_iff, hname]
  tauto

/-- A source is missed just if it asks for something. -/
theorem Object.Volume.fits_none_of_source? {v : Volume} {kind : SourceKind} {source : Json}
    (there : v.source? kind = some source) : source.fits none = source.isEmptyContainer := by
  rw [source?_eq] at there
  cases kind with
  | other name =>
    rw [fits, v.rest.given _ (Dict.get?_eq_some_iff.1 there), Bool.false_or]
  | _ =>
    obtain ⟨_, _, rfl⟩ := Option.map_eq_some_iff.1 there
    rfl

/-- A volume that has everything another one asks for is of the kind asked for, if the source asks
for something. -/
theorem Object.Volume.kept_of_isContained {v w : Volume} (h : v.toJson.isContained w.toJson = true)
    {kind : SourceKind} {source : Json} (there : v.source? kind = some source)
    (asks : source.isEmptyContainer = false) :
    (w.source? kind).isSome ∧
      ((∀ other, (w.source? other).isSome → other = kind) → w.sourceKind? = some kind) := by
  have hfits := (isContained_iff_sources.1 h).2 kind source there
  cases hw : w.source? kind with
  | none =>
    rw [hw, fits_none_of_source? there, asks] at hfits
    cases hfits
  | some _ =>
    have hsome : (w.source? kind).isSome = true := by rw [hw, Option.isSome_some]
    exact ⟨rfl, fun single => sourceKind?_of_single hsome single⟩

/-- A volume is contained in one of its name and other kinds just if its sources ask for nothing. -/
theorem Object.Volume.isContained_iff_of_otherKind {v other : Volume} (named : other.name = v.name)
    (otherKind : ∀ kind, (other.source? kind).isSome → v.source? kind = none) :
    v.toJson.isContained other.toJson = true ↔
      ∀ kind source, v.source? kind = some source → source.isEmptyContainer = true := by
  have missing {kind : SourceKind} {source : Json} (there : v.source? kind = some source) :
      source.fits (other.source? kind) = source.isEmptyContainer := by
    cases h : other.source? kind with
    | none => exact fits_none_of_source? there
    | some _ =>
      rw [otherKind kind (by rw [h, Option.isSome_some])] at there
      cases there
  rw [isContained_iff_sources, and_iff_right named.symm]
  constructor
  · intro h kind source there
    rw [← missing there]
    exact h kind source there
  · intro h kind source there
    rw [missing there]
    exact h kind source there

/-! ### Other volumes in the place of one -/

namespace Convergence
variable {wanted found : Deployment} {pod pod' : PodSpec}

/-- A deployment that was found to be as wanted is so with another pod just if that has everything
that the pod wanted asks for. -/
theorem equal_withPod_iff (equal : compareDeployment wanted found = .equal)
    (podded : Workload.podSpec? wanted = some pod) (other : PodSpec) :
    compareDeployment wanted (Workload.withPod found other) = .equal ↔
      (fillPod pod).toJson.isContained other.toJson = true := by
  obtain ⟨hmeta, hspec⟩ := compareDeployment_eq_equal.1 equal
  obtain ⟨pod', hpod', _⟩ := pod_of_agrees podded hspec
  obtain ⟨s, hs, hpod⟩ := Workload.podSpec?_eq_some.1 podded
  obtain ⟨t, ht, _⟩ := Workload.podSpec?_eq_some.1 hpod'
  rw [compareDeployment_eq_equal]
  refine (and_iff_right hmeta).trans ?_
  unfold deploymentSpecAgrees Workload.withPod at *
  rw [hs, ht] at hspec
  rw [hs, ht]
  refine DeploymentSpec.isContained_iff.trans ?_
  refine (and_iff_right (DeploymentSpec.isContained_iff.1 hspec).1).trans ?_
  simp [fillSpec, hpod, MemberFits, fits]

/-- A pod that has everything another one asks for has it with other volumes just if these have
everything that the volumes asked for do. -/
theorem isContained_withVolumes_iff (h : (fillPod pod).toJson.isContained pod'.toJson = true)
    (l : List Volume) :
    (fillPod pod).toJson.isContained ({ pod' with volumes := some l } : PodSpec).toJson = true ↔
      List.Forall₂ (fun v w => v.toJson.isContained w.toJson = true) (pod.volumes.getD []) l := by
  have hvolumes : MemberFits ((fillPod pod).volumes.map (.ofList Volume.toJson))
        (some (.ofList Volume.toJson l)) ↔
      List.Forall₂ (fun v w => v.toJson.isContained w.toJson = true) (pod.volumes.getD []) l := by
    simp [fillPod, MemberFits, fits, ofList_isContained_iff]
  rw [PodSpec.isContained_iff] at *
  obtain ⟨hmembers, hrest⟩ := h
  rw [and_iff_left hrest]
  rw [record_isContained_iff_forall₂ (by rfl) (by simp [PodSpec.members])] at *
  simp only [PodSpec.members, List.forall₂_cons, List.forall₂_nil_left_iff] at *
  obtain ⟨hcontainers, hdns, hinits, hrestart, _⟩ := hmembers
  constructor
  · intro hall
    obtain ⟨_, _, _, _, h, _⟩ := hall
    exact hvolumes.1 h
  · intro h
    exact ⟨hcontainers, hdns, hinits, hrestart, hvolumes.2 h, trivial⟩

theorem exists_pod_of_volume {i : Nat} {v : Volume} (there : wanted.volumes[i]? = some v) :
    ∃ pod, Workload.podSpec? wanted = some pod ∧ (pod.volumes.getD [])[i]? = some v := by
  cases h : Workload.podSpec? wanted with
  | none =>
    unfold Deployment.volumes at there
    rw [h] at there
    simp at there
  | some pod =>
    rw [Deployment.volumes_of_podSpec? h] at there
    exact ⟨pod, rfl, there⟩

/-- **A volume keeps its kind, if its source asks for anything**: where a deployment is found to be
as wanted, each volume wanted has one of its name in the same place, with a source of each kind
that asks for something, and so of that kind if it has no other source. A source that asks for
nothing is not looked for: with a volume of other kinds put in that place the deployment is still
found to be as wanted just if all sources of the volume wanted ask for nothing. -/
theorem sourceKind_of_equal (equal : compareDeployment wanted found = .equal) {i : Nat} {v : Volume}
    (there : wanted.volumes[i]? = some v) :
    (∃ w, found.volumes[i]? = some w ∧ w.name = v.name ∧
      ∀ kind source, v.source? kind = some source → source.isEmptyContainer = false →
        (w.source? kind).isSome ∧
          ((∀ other, (w.source? other).isSome → other = kind) → w.sourceKind? = some kind)) ∧
    ∀ other : Volume, other.name = v.name →
      (∀ kind, (other.source? kind).isSome → v.source? kind = none) →
        (compareDeployment wanted (found.withVolume i other) = .equal ↔
          ∀ kind source, v.source? kind = some source → source.isEmptyContainer = true) := by
  obtain ⟨_, hspec⟩ := compareDeployment_eq_equal.1 equal
  obtain ⟨pod, podded, hv⟩ := exists_pod_of_volume there
  obtain ⟨pod', podded', hcontained⟩ := pod_of_agrees podded hspec
  have hvolumes := volumes_of_isContained hcontained
  obtain ⟨w, hw, hvw⟩ := getElem?_of_forall₂ hvolumes hv
  refine ⟨⟨w, ?_, (Volume.name_of_isContained hvw).symm,
    fun _ _ => Volume.kept_of_isContained hvw⟩, fun other named otherKind => ?_⟩
  · rw [Deployment.volumes_of_podSpec? podded']
    exact hw
  · have hset : found.withVolume i other = Workload.withPod found
        { pod' with volumes := some ((pod'.volumes.getD []).set i other) } := by
      unfold Deployment.withVolume
      rw [Deployment.volumes_of_podSpec? podded', podded']
    rw [hset, equal_withPod_iff equal podded, isContained_withVolumes_iff hcontained,
      forall₂_set_iff hvolumes hv, Volume.isContained_iff_of_otherKind named otherKind]

/-- A volume of a binding, found with a mode that the platform has added, and found to be a
secret. -/
theorem sourceKind_of_equal_moded :
    let v : Volume := Binding.filesVolume "nx-secondary-db" "db" [⟨"password", "password", none⟩]
    let w : Volume := { v with projected := v.projected.map ({ · with defaultMode := some 420 }) }
    let other : Volume := { name := v.name, secret := some { secretName := some "creds" } }
    let deployment (v : Volume) : Deployment :=
      { spec := some { template := { spec := some {
          containers := [{ name := "nuxeo" }], volumes := some [v] } } } }
    compareDeployment (deployment v) (deployment w) = .equal ∧ w.sourceKind? = some .projected ∧
      compareDeployment (deployment v) ((deployment w).withVolume 0 other) ≠ .equal := by
  intro v w other deployment
  have equal : compareDeployment (deployment v) (deployment w) = .equal := by decide +kernel
  obtain ⟨⟨x, hx, _, kept⟩, changed⟩ := sourceKind_of_equal (i := 0) (v := v) equal rfl
  obtain rfl : w = x := Option.some.inj hx
  have single (kind : SourceKind) (h : (w.source? kind).isSome) : kind = .projected := by
    rw [Volume.source?_eq] at h
    cases kind <;> first | rfl | cases h
  have otherKind (kind : SourceKind) (h : (other.source? kind).isSome) : v.source? kind = none := by
    rw [Volume.source?_eq] at h ⊢
    cases kind <;> first | rfl | cases h
  refine ⟨equal, (kept .projected _ (v.source?_eq .projected) rfl).2 single, fun h => ?_⟩
  cases (changed other rfl otherKind).1 h .projected _ (v.source?_eq .projected)

/-- Scratch space is wanted where a secret is found, and nothing is to be written. -/
theorem not_sameKind_scratch :
    let wanted : Volume := { name := "data", emptyDir := some ⟨none, none⟩ }
    let found : Volume := { name := "data", secret := some { secretName := some "creds" } }
    let deployment (v : Volume) : Deployment :=
      { spec := some { template := { spec := some {
          containers := [{ name := "nuxeo" }], volumes := some [v] } } } }
    compareDeployment (deployment wanted) (deployment found) = .equal ∧
      wanted.sourceKind? = some .emptyDir ∧ found.sourceKind? = some .secret := by
  decide +kernel

end Convergence

end ServiceBinding
