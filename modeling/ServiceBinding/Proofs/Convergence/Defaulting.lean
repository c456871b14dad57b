import ServiceBinding.Proofs.Workload.Showing

/-!
What a platform may make of a deployment that it stores, without a difference being found. It may
add members to any object in the specification and drop those that are empty (`Json.Defaulted`):
all that was wanted is then still contained in what is found (`isContained_of_defaulted`). The
lists that are wanted empty where they were left out are the exception, so a defaulted deployment
is found to be as wanted just if none of these has been given entries (`equal_iff_of_defaulted`).
-/
namespace ServiceBinding
open Convergence Json Object

namespace Json

/-- What a platform may make of a value that it stores. Objects may get members that they do not
have and lose members that are null or an empty container; members that stay and items are
defaulted themselves, arrays keep their length, and all other values are the same. -/
inductive Defaulted : Json → Json → Prop
  | null : Defaulted .null .null
  | bool (b : Bool) : Defaulted (.bool b) (.bool b)
  | num (n : Number) : Defaulted (.num n) (.num n)
  | str (s : String) : Defaulted (.str s) (.str s)
  | arr {items items' : List Json} (length : items.length = items'.length)
      (each : ∀ p ∈ items.zip items', Defaulted p.1 p.2) : Defaulted (.arr items) (.arr items')
  | obj {members members' : List (String × Json)}
      (kept : ∀ m ∈ members, ∀ j, lookup m.1 members' = some j → Defaulted m.2 j)
      (dropped : ∀ m ∈ members, lookup m.1 members' = none →
        (m.2.isNull || m.2.isEmptyContainer) = true) : Defaulted (.obj members) (.obj members')

/-- All that a value sets is still set after it has been defaulted. -/
theorem isContained_of_defaulted {j j' : Json} (h : Defaulted j j') : j.isContained j' = true := by
  induction h with
  | null => rw [isContained]
  | bool b => simp [isContained]
  | num n => simp [isContained, same_self]
  | str s => simp [isContained]
  | arr length _ ih =>
    rw [isContained, itemsContained_iff, List.forall₂_iff_zip]
    exact ⟨length, fun {a b} h => ih (a, b) h⟩
  | @obj _ members' _ dropped ih =>
    rw [isContained, membersContained_iff]
    intro m hm
    cases hl : lookup m.1 members' with
    | some j => exact ih m hm j hl
    | none => exact dropped m hm hl

theorem Defaulted.refl {j : Json} (h : j.Distinct) : Defaulted j j := by
  induction h with
  | null => exact .null
  | bool b => exact .bool b
  | num n => exact .num n
  | str s => exact .str s
  | arr _ ih =>
    obtain ⟨length, each⟩ := List.forall₂_iff_zip.1 (List.forall₂_same.2 ih)
    exact .arr length fun _ hp => each hp
  | obj keys _ ih =>
    refine .obj (fun m hm j hl => ?_) fun m hm hl => ?_
    · rw [lookup_of_mem keys hm] at hl
      cases hl
      exact ih m hm
    · rw [lookup_of_mem keys hm] at hl
      cases hl

/-- Whether a member that may be left out is a defaulted form of another one. -/
def MemberDefaulted (wanted found : Option Json) : Prop :=
  ∀ j, wanted = some j → (∀ j', found = some j' → Defaulted j j') ∧
    (found = none → (j.isNull || j.isEmptyContainer) = true)

theorem memberDefaulted_self {member : Option Json} (h : MemberDistinct member) :
    MemberDefaulted member member := by
  intro j hj
  refine ⟨fun j' hj' => ?_, fun hnone => ?_⟩
  · cases hj.symm.trans hj'
    exact .refl (h j hj)
  · cases hj.symm.trans hnone

theorem memberDefaulted_none (found : Option Json) : MemberDefaulted none found := by
  intro j hj
  cases hj

theorem memberDefaulted_some {j j' : Json} (h : Defaulted j j') :
    MemberDefaulted (some j) (some j') := by
  intro k hk
  cases hk
  refine ⟨fun k' hk' => ?_, fun hnone => ?_⟩
  · cases hk'
    exact h
  · cases hnone

theorem memberDefaulted_dropped {j : Json} (empty : (j.isNull || j.isEmptyContainer) = true) :
    MemberDefaulted (some j) none := by
  intro k hk
  cases hk
  exact ⟨fun _ h => (nomatch h), fun _ => empty⟩

theorem defaulted_obj {members members' : List (String × Json)}
    (each : ∀ m ∈ members, MemberDefaulted (some m.2) (lookup m.1 members')) :
    Defaulted (.obj members) (.obj members') :=
  .obj (fun m hm j hj => (each m hm m.2 rfl).1 j hj) fun m hm hnone => (each m hm m.2 rfl).2 hnone

section Records
variable {wanted found : List (String × Option Json)}
  (same : wanted.map (·.1) = found.map (·.1)) (keys : (found.map (·.1)).Nodup)
  (each : List.Forall₂ (fun m n => MemberDefaulted m.2 n.2) wanted found)
include same keys each

theorem memberDefaulted_of_mem {m : String × Option Json} (hm : m ∈ wanted) :
    MemberDefaulted m.2 (member m.1 found) := by
  rw [← List.forall₂_eq_eq_eq, List.forall₂_map_left_iff, List.forall₂_map_right_iff,
    List.forall₂_iff_get] at same
  obtain ⟨length, hkey⟩ := same
  obtain ⟨k, hk, rfl⟩ := List.getElem_of_mem hm
  have hk' : k < found.length := length ▸ hk
  have hsame : wanted[k].1 = found[k].1 := hkey k hk hk'
  rw [hsame, member_of_mem keys (List.getElem_mem hk')]
  exact (List.forall₂_iff_get.1 each).2 k hk hk'

/-- Records of the same keys are defaulted member by member. -/
theorem defaulted_record : Defaulted (record wanted) (record found) := by
  refine defaulted_obj fun m hm => ?_
  rw [lookup_filterMap _ keys]
  exact memberDefaulted_of_mem same keys each (mem_filterMap_iff.1 hm)

/-- Members that are kept as they are may be given where there were none. -/
theorem defaulted_recordWith {names : List String} (apart : ∀ key ∈ found.map (·.1), key ∉ names)
    (rest : Rest names) :
    Defaulted (recordWith (.empty : Rest names) wanted) (recordWith rest found) :=
  defaulted_obj ((forall_merged_iff same keys apart fun j => MemberDefaulted (some j)).2
    ⟨fun _ hm _ hj => hj ▸ memberDefaulted_of_mem same keys each hm, nofun⟩)

end Records

theorem defaulted_ofList {α : Type} {write : α → Json} {wanted found : List α}
    (each : List.Forall₂ (fun a b => Defaulted (write a) (write b)) wanted found) :
    Defaulted (ofList write wanted) (ofList write found) := by
  rw [← List.forall₂_map_right_iff, ← List.forall₂_map_left_iff] at each
  obtain ⟨length, each⟩ := List.forall₂_iff_zip.1 each
  exact .arr length fun _ hp => each hp

end Json

/-! ### Lists that are wanted empty where they are left out -/

namespace Convergence

/-- Whether a list that was left out has been given no entries. -/
def NoneAdded {α : Type} (wanted found : Option (List α)) : Prop :=
  wanted = none → found.getD [] = []

/-- Whether a container has been given no variables, sources of variables or mounts in lists that
were left out. -/
structure ContainerUnextended (wanted found : Container) : Prop where
  env : NoneAdded wanted.env found.env
  envFrom : NoneAdded wanted.envFrom found.envFrom
  mounts : NoneAdded wanted.volumeMounts found.volumeMounts

/-- Whether a pod has been given no volumes in a list that was left out, and none of its containers
anything of that kind. -/
structure PodUnextended (wanted found : PodSpec) : Prop where
  volumes : NoneAdded wanted.volumes found.volumes
  containers : ∀ p ∈ wanted.containers.zip found.containers, ContainerUnextended p.1 p.2
  initContainers : ∀ p ∈ (wanted.initContainers.getD []).zip (found.initContainers.getD []),
    ContainerUnextended p.1 p.2

/-- Whether the pod of a deployment has been given nothing in lists that were left out. -/
def Unextended (wanted found : Deployment) : Prop :=
  ∀ pod pod', Workload.podSpec? wanted = some pod → Workload.podSpec? found = some pod' →
    PodUnextended pod pod'

/-- A list that is wanted empty where it was left out is found just if it is found as it was wanted
and no entries have been added. -/
theorem memberFits_filled_iff {α : Type} {write : α → Json} {wanted found : Option (List α)} :
    MemberFits ((some (wanted.getD [])).map (.ofList write)) (found.map (.ofList write)) ↔
      MemberFits (wanted.map (.ofList write)) (found.map (.ofList write)) ∧
        NoneAdded wanted found := by
  cases wanted with
  | some l => simp [NoneAdded]
  | none =>
    cases found with
    | none => simp [MemberFits, NoneAdded, fits, ofList, isNull, isEmptyContainer]
    | some l =>
      simp [MemberFits, NoneAdded, fits, ofList_isContained_iff, List.forall₂_nil_left_iff]

theorem fillContainer_isContained_iff {c c' : Container} :
    (fillContainer c).toJson.isContained c'.toJson = true ↔
      c.toJson.isContained c'.toJson = true ∧ ContainerUnextended c c' := by
  have split : ContainerUnextended c c' ↔ NoneAdded c.env c'.env ∧
      NoneAdded c.envFrom c'.envFrom ∧ NoneAdded c.volumeMounts c'.volumeMounts :=
    ⟨fun h => ⟨h.env, h.envFrom, h.mounts⟩, fun ⟨env, envFrom, mounts⟩ => ⟨env, envFrom, mounts⟩⟩
  rw [split, Container.isContained_iff, Container.isContained_iff,
    record_isContained_iff_forall₂ (by rfl) (by simp [Container.members]),
    record_isContained_iff_forall₂ (by rfl) (by simp [Container.members])]
  simp only [Container.members, List.forall₂_cons, List.forall₂_nil_left_iff, fillContainer,
    memberFits_filled_iff]
  tauto

/-- Containers with all their lists are found just if the containers as they were wanted are, and
none of them has been extended. -/
theorem fillContainers_isContained_iff {l l' : List Container} :
    (ofList Container.toJson (l.map fillContainer)).isContained (ofList Container.toJson l') =
        true ↔
      (ofList Container.toJson l).isContained (ofList Container.toJson l') = true ∧
        ∀ p ∈ l.zip l', ContainerUnextended p.1 p.2 := by
  rw [ofList_isContained_iff, ofList_isContained_iff, List.forall₂_map_left_iff,
    List.forall₂_iff_zip, List.forall₂_iff_zip]
  simp only [fillContainer_isContained_iff]
  constructor
  · intro ⟨length, each⟩
    exact ⟨⟨length, fun h => (each h).1⟩, fun _ h => (each h).2⟩
  · intro ⟨⟨length, each⟩, unextended⟩
    exact ⟨length, fun {a b} h => ⟨each h, unextended (a, b) h⟩⟩

/-- The same for containers that may be left out altogether. -/
theorem memberFits_fillContainers_iff {wanted found : Option (List Container)} :
    MemberFits ((wanted.map (·.map fillContainer)).map (.ofList Container.toJson))
        (found.map (.ofList Container.toJson)) ↔
      MemberFits (wanted.map (.ofList Container.toJson)) (found.map (.ofList Container.toJson)) ∧
        ∀ p ∈ (wanted.getD []).zip (found.getD []), ContainerUnextended p.1 p.2 := by
  cases wanted with
  | none => simp [MemberFits]
  | some l =>
    cases found with
    | none => simp [MemberFits, fits, ofList, isNull, isEmptyContainer]
    | some l' => simp [MemberFits, fits, fillContainers_isContained_iff]

theorem fillPod_isContained_iff {pod pod' : PodSpec} :
    (fillPod pod).toJson.isContained pod'.toJson = true ↔
      pod.toJson.isContained pod'.toJson = true ∧ PodUnextended pod pod' := by
  have split : PodUnextended pod pod' ↔ NoneAdded pod.volumes pod'.volumes ∧
      (∀ p ∈ pod.containers.zip pod'.containers, ContainerUnextended p.1 p.2) ∧
        ∀ p ∈ (pod.initContainers.getD []).zip (pod'.initContainers.getD []),
          ContainerUnextended p.1 p.2 :=
    ⟨fun h => ⟨h.volumes, h.containers, h.initContainers⟩,
      fun ⟨volumes, containers, inits⟩ => ⟨volumes, containers, inits⟩⟩
  have hcontainers : MemberFits (some (ofList Container.toJson (pod.containers.map fillContainer)))
        (some (ofList Container.toJson pod'.containers)) ↔
      MemberFits (some (ofList Container.toJson pod.containers))
          (some (ofList Container.toJson pod'.containers)) ∧
        ∀ p ∈ pod.containers.zip pod'.containers, ContainerUnextended p.1 p.2 :=
    @memberFits_fillContainers_iff (some pod.containers) (some pod'.containers)
  rw [split, PodSpec.isContained_iff, PodSpec.isContained_iff,
    record_isContained_iff_forall₂ (by rfl) (by simp [PodSpec.members]),
    record_isContained_iff_forall₂ (by rfl) (by simp [PodSpec.members])]
  simp only [PodSpec.members, List.forall₂_cons, List.forall₂_nil_left_iff, fillPod,
    memberFits_filled_iff, memberFits_fillContainers_iff, hcontainers]
  tauto

/-- The same for a pod that may be left out. -/
theorem memberFits_fillPod_iff {wanted found : Option PodSpec} :
    MemberFits ((wanted.map fillPod).map PodSpec.toJson) (found.map PodSpec.toJson) ↔
      MemberFits (wanted.map PodSpec.toJson) (found.map PodSpec.toJson) ∧
        ∀ pod pod', wanted = some pod → found = some pod' → PodUnextended pod pod' := by
  cases wanted with
  | none => simp [MemberFits]
  | some pod =>
    cases found with
    | none => simp [MemberFits, PodSpec.fits_none]
    | some pod' => simp [MemberFits, fits, fillPod_isContained_iff]

theorem fillSpec_isContained_iff {s t : DeploymentSpec} :
    (fillSpec s).toJson.isContained t.toJson = true ↔
      s.toJson.isContained t.toJson = true ∧
        ∀ pod pod', s.template.spec = some pod → t.template.spec = some pod' →
          PodUnextended pod pod' := by
  have same : (fillSpec s).withoutPod = s.withoutPod := rfl
  rw [DeploymentSpec.isContained_iff, @DeploymentSpec.isContained_iff s t, same, and_assoc]
  exact and_congr_right fun _ => memberFits_fillPod_iff

/-- Specifications agree just if all that is wanted is found as it was wanted, and no list that was
left out has been given entries. -/
theorem deploymentSpecAgrees_iff {wanted found : Deployment} :
    deploymentSpecAgrees wanted.spec found.spec = true ↔
      (optionalJson DeploymentSpec.toJson wanted.spec).isContained
          (optionalJson DeploymentSpec.toJson found.spec) = true ∧ Unextended wanted found := by
  unfold deploymentSpecAgrees Unextended Workload.podSpec?
  cases wanted.spec with
  | none => simp [optionalJson, isContained]
  | some s =>
    cases found.spec with
    | none =>
      have missing (s : DeploymentSpec) : s.toJson.isContained .null = false := rfl
      simp [optionalJson, missing]
    | some t => exact fillSpec_isContained_iff

/-- **What a platform adds by default is no difference**: a deployment that has the labels and
owners wanted, and a specification that is a defaulted form of the one wanted, is found to be as
wanted just if its pod has been given nothing in lists of volumes, variables, sources of variables
or mounts that were left out. -/
theorem equal_iff_of_defaulted {wanted found : Deployment}
    (included : Includes wanted.metadata found.metadata)
    (defaulted : Defaulted (optionalJson DeploymentSpec.toJson wanted.spec)
      (optionalJson DeploymentSpec.toJson found.spec)) :
    compareDeployment wanted found = .equal ↔ Unextended wanted found := by
  rw [compareDeployment_eq_equal, metaAgrees_iff, deploymentSpecAgrees_iff]
  constructor
  · intro ⟨_, _, unextended⟩
    exact unextended
  · intro unextended
    exact ⟨included, isContained_of_defaulted defaulted, unextended⟩

/-- A deployment that has been rolled out: the platform has added policies, a scheduler, a security
context, a mode of files, a time of creation and a label of its own, and dropped an empty list of
variables and empty limits. -/
theorem equal_iff_of_defaulted_rolledOut :
    let labels : Dict String := .ofList [("app", "nx")]
    let files : ConfigMapVolume :=
      { name := "nx-binding-conf", items := some [⟨"nuxeo.conf", "nx-bindings.conf", none⟩] }
    let v : Volume := { name := "binding-conf", configMap := some files }
    let v' : Volume := { v with configMap := some { files with defaultMode := some 420 } }
    let c : Container :=
      { name := "nuxeo", image := some "nuxeo:2023", env := some []
        resources := some { limits := some {} } }
    let c' : Container :=
      { name := "nuxeo", image := some "nuxeo:2023", imagePullPolicy := some "IfNotPresent"
        terminationMessagePath := some "/dev/termination-log", resources := some {}
        rest := { members := .ofList [("terminationMessagePolicy", .str "File")] } }
    let pod : PodSpec := { containers := [c], volumes := some [v] }
    let pod' : PodSpec :=
      { containers := [c'], volumes := some [v'], dnsPolicy := some "ClusterFirst"
        restartPolicy := some "Always"
        rest := { members := .ofList [("schedulerName", .str "default-scheduler"),
          ("securityContext", .obj []), ("terminationGracePeriodSeconds", .int 30)] } }
    let m : Meta := { labels := some labels }
    let m' : Meta :=
      { labels := some labels
        rest := { members := .ofList [("creationTimestamp", .str "2025-01-01T00:00:00Z")] } }
    let wanted : Deployment :=
      { metadata := m
        spec := some {
          replicas := some 2
          selector := { matchLabels := some labels }
          template := { metadata := some m, spec := some pod } } }
    let found : Deployment :=
      { metadata := { m' with labels := some (.ofList [("app", "nx"), ("tier", "web")]) }
        spec := some {
          replicas := some 2
          revisionHistoryLimit := some 10
          progressDeadlineSeconds := some 600
          strategy := some { type := some "RollingUpdate", rollingUpdate := none }
          selector := { matchLabels := some labels }
          template := { metadata := some m', spec := some pod' } } }
    Defaulted (optionalJson DeploymentSpec.toJson wanted.spec)
        (optionalJson DeploymentSpec.toJson found.spec) ∧
      compareDeployment wanted found = .equal := by
  intro labels files v v' c c' pod pod' m m' wanted found
  have needs : Defaulted (Needs.toJson { limits := some {} }) (Needs.toJson {}) := by
    refine defaulted_record (by rfl) (by simp) ?_
    simpa [memberDefaulted_none] using memberDefaulted_dropped rfl
  have container : Defaulted c.toJson c'.toJson := by
    refine defaulted_recordWith (by rfl) (by simp [Container.members]) ?_
      (by simp [Container.members, containerNames]) _
    simpa [Container.members, c, c', memberDefaulted_self, memberDefaulted_none] using
      ⟨memberDefaulted_dropped rfl, memberDefaulted_some needs⟩
  have mode : Defaulted files.toJson { files with defaultMode := some 420 }.toJson := by
    refine defaulted_record (by rfl) (by simp) ?_
    simp [files, memberDefaulted_self, memberDefaulted_none]
  have volume : Defaulted v.toJson v'.toJson := by
    refine defaulted_recordWith (by rfl) (by simp [Volume.members]) ?_
      (by simp [Volume.members, sourceNames]) _
    simpa [Volume.members, v, v', memberDefaulted_self, memberDefaulted_none] using
      memberDefaulted_some mode
  have pods : Defaulted pod.toJson pod'.toJson := by
    refine defaulted_recordWith (by rfl) (by simp [PodSpec.members]) ?_
      (by simp [PodSpec.members, podNames]) _
    simpa [PodSpec.members, pod, pod', memberDefaulted_none] using
      ⟨memberDefaulted_some (defaulted_ofList (.cons container .nil)),
        memberDefaulted_some (defaulted_ofList (.cons volume .nil))⟩
  have created : Defaulted m.toJson m'.toJson := by
    refine defaulted_recordWith (by rfl) (by simp) ?_ (by simp [metaNames]) _
    simp [m, m', memberDefaulted_self, memberDefaulted_none]
  have template : Defaulted (PodTemplate.toJson { metadata := some m, spec := some pod })
      (PodTemplate.toJson { metadata := some m', spec := some pod' }) := by
    refine defaulted_record (by rfl) (by simp) ?_
    simpa using ⟨memberDefaulted_some created, memberDefaulted_some pods⟩
  have defaulted : Defaulted (optionalJson DeploymentSpec.toJson wanted.spec)
      (optionalJson DeploymentSpec.toJson found.spec) := by
    refine defaulted_record (by rfl) (by simp) ?_
    simpa [memberDefaulted_self, memberDefaulted_none] using memberDefaulted_some template
  have included : Includes wanted.metadata found.metadata := metaAgrees_iff.1 (by decide +kernel)
  refine ⟨defaulted, (equal_iff_of_defaulted included defaulted).2 ?_⟩
  intro p p' hp hp'
  cases hp
  cases hp'
  exact {
    volumes := by simp [NoneAdded, pod]
    containers := by simpa [pod, pod', c, c'] using ⟨fun _ => rfl, fun _ => rfl, fun _ => rfl⟩
    initContainers := by simp [pod] }

end Convergence

end ServiceBinding
