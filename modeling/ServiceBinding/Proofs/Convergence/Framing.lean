import ServiceBinding.Proofs.Convergence.Allocation

/-!
What a comparison leaves alone. The object that it proposes is the one found, with the labels wanted
set and the missing owners added at the end (`MetaWritten`); its content is the one found or the
one wanted as a whole, but for a service's addresses and node ports, which stay as the platform has
allocated them. So writing what is proposed loses no version, owner or annotation that others have
put there (`written_of_differs`).
-/
namespace ServiceBinding.Convergence
open Object

/-! ### Metadata -/

/-- Whether a list of owners has grown by owners wanted: those whose identity was missing, each
once. -/
structure OwnersGrown (wanted found updated : List OwnerRef) : Prop where
  added : ∃ added, updated = found ++ added ∧ added.Sublist wanted ∧
    (∀ ref ∈ added, ∀ owner ∈ found, owner.uid ≠ ref.uid) ∧ (added.map (·.uid)).Nodup
  complete : ∀ ref ∈ wanted, ∃ owner ∈ updated, owner.uid = ref.uid

/-- Whether metadata is what may be written for the one found where another one is wanted: nothing
but labels and owners is new. -/
structure MetaWritten (wanted found updated : Meta) : Prop where
  name : updated.name = found.name
  generateName : updated.generateName = found.generateName
  space : updated.space = found.space
  uid : updated.uid = found.uid
  annotations : updated.annotations = found.annotations
  resourceVersion : updated.resourceVersion = found.resourceVersion
  generation : updated.generation = found.generation
  finalizers : updated.finalizers = found.finalizers
  set : ∀ key value, (wanted.labels.getD {}).get? key = some value →
    (updated.labels.getD {}).get? key = some value
  kept : ∀ key, (wanted.labels.getD {}).get? key = none →
    (updated.labels.getD {}).get? key = (found.labels.getD {}).get? key
  owners : OwnersGrown wanted.ownerList found.ownerList updated.ownerList

theorem ownersGrown_foldl_addOwner (refs owners : List OwnerRef) :
    OwnersGrown refs owners (refs.foldl addOwner owners) := by
  refine ⟨?_, fun ref h => ?_⟩
  -- The owners grow with each one added, so those that follow are new to them as well.
  · induction refs generalizing owners with
    | nil => exact ⟨[], by simp⟩
    | cons ref rest ih =>
      rw [List.foldl_cons]
      by_cases known : owners.any (·.uid == ref.uid) = true
      · obtain ⟨added, hadded, hsub, hnew, hnodup⟩ := ih owners
        rw [addOwner, if_pos known]
        exact ⟨added, hadded, hsub.cons ref, hnew, hnodup⟩
      · obtain ⟨added, hadded, hsub, hnew, hnodup⟩ := ih (owners ++ [ref])
        rw [addOwner, if_neg known]
        refine ⟨ref :: added, by simpa using hadded, hsub.cons_cons ref, ?_, ?_⟩
        · intro r hr owner ho
          rcases List.mem_cons.1 hr with rfl | hr
          · simp only [List.any_eq_true, beq_iff_eq, not_exists, not_and] at known
            exact known owner ho
          · exact hnew r hr owner (List.mem_append_left _ ho)
        · rw [List.map_cons, List.nodup_cons]
          refine ⟨fun hmem => ?_, hnodup⟩
          obtain ⟨r, hr, same⟩ := List.mem_map.1 hmem
          exact hnew r hr ref (List.mem_append_right _ (List.mem_singleton_self ref)) same.symm
  · have there : (refs.foldl addOwner owners).any (·.uid == ref.uid) = true := by
      rw [mem_foldl_addOwner, any_uid_of_mem h, Bool.or_true]
    simpa using there

theorem metaWritten_applyMeta (wanted found : Meta) :
    MetaWritten wanted found (applyMeta wanted found) where
  name := rfl
  generateName := rfl
  space := rfl
  uid := rfl
  annotations := rfl
  resourceVersion := rfl
  generation := rfl
  finalizers := rfl
  set key value h := by rw [applyMeta, get?_applyLabels, h, Option.some_or]
  kept key h := by rw [applyMeta, get?_applyLabels, h, Option.none_or]
  owners := by
    rw [Meta.ownerList, Meta.ownerList, Meta.ownerList, applyMeta, applyOwners_getD]
    exact ownersGrown_foldl_addOwner _ _

/-! ### Allocations -/

/-- Whether two ports of a service have the same name and number. -/
def SamePort (p q : ServicePort) : Prop := p.name = q.name ∧ p.port = q.port

/-- The node port that a list of ports has for another port: that of its first one of the same name
and number. -/
inductive Allotted (live : List ServicePort) (p : ServicePort) : Option Int32 → Prop where
  | first (earlier later : List ServicePort) (q : ServicePort)
      (place : live = earlier ++ q :: later) (same : SamePort q p)
      (others : ∀ other ∈ earlier, ¬SamePort other p) : Allotted live p q.nodePort
  | missing (others : ∀ other ∈ live, ¬SamePort other p) : Allotted live p none

/-- Whether a port is what may be written where another one is wanted. -/
structure PortWritten (live : List ServicePort) (wanted updated : ServicePort) : Prop where
  rest : { updated with nodePort := wanted.nodePort } = wanted
  given : ∀ number, wanted.nodePort = some number → updated.nodePort = some number
  allotted : wanted.nodePort = none → Allotted live wanted updated.nodePort

/-- Whether a specification is what may be written for the one found where another one is wanted:
the one wanted, with the addresses found and the ports that are not asked for as they were. -/
structure SpecWritten (wanted live updated : ServiceSpec) : Prop where
  rest : { updated with
    clusterIP := wanted.clusterIP
    clusterIPs := wanted.clusterIPs
    healthCheckNodePort := wanted.healthCheckNodePort
    ports := wanted.ports } = wanted
  clusterIP : updated.clusterIP = live.clusterIP
  clusterIPs : updated.clusterIPs = live.clusterIPs
  healthCheck :
    updated.healthCheckNodePort = wanted.healthCheckNodePort.or live.healthCheckNodePort
  listed : updated.ports.isSome = wanted.ports.isSome
  ports : List.Forall₂ (PortWritten (live.ports.getD [])) (wanted.ports.getD [])
    (updated.ports.getD [])

theorem allotted_allocatedPort (live : List ServicePort) (p : ServicePort) :
    Allotted live p (allocatedPort live p) := by
  unfold allocatedPort
  cases h : live.find? fun q => q.name == p.name && q.port == p.port with
  | none =>
    refine .missing fun other ho => ?_
    simpa [SamePort] using List.find?_eq_none.1 h other ho
  | some q =>
    obtain ⟨same, earlier, later, place, others⟩ := List.find?_eq_some_iff_append.1 h
    refine .first earlier later q place (by simpa [SamePort] using same) fun other ho ⟨hn, hp⟩ => ?_
    simpa [hn, hp] using others other ho

theorem portWritten (live : List ServicePort) (p : ServicePort) :
    PortWritten live p { p with nodePort := p.nodePort.or (allocatedPort live p) } where
  rest := rfl
  given number h := by simp [h]
  allotted h := by simpa [h] using allotted_allocatedPort live p

theorem specWritten_keepAllocated (wanted live : ServiceSpec) :
    SpecWritten wanted live (keepAllocated wanted live) where
  rest := rfl
  clusterIP := rfl
  clusterIPs := rfl
  healthCheck := rfl
  listed := by simp [keepAllocated]
  ports := by
    unfold keepAllocated
    cases wanted.ports with
    | none => exact .nil
    | some l =>
      rw [Option.map_some, Option.getD_some, Option.getD_some, List.forall₂_map_right_iff,
        List.forall₂_same]
      exact fun p _ => portWritten _ p

/-! ### Content -/

/-- Whether a deployment has the status found, and the specification wanted or the one found if
that agrees. -/
structure DeploymentWritten (wanted found updated : Deployment) : Prop where
  status : updated.status = found.status
  spec : updated.spec = found.spec ∧ deploymentSpecAgrees wanted.spec found.spec = true ∨
    updated.spec = wanted.spec

/-- Whether a service has the status found, and the specification wanted, with what was allocated,
or the one found if that has everything wanted. -/
structure ServiceWritten (wanted found updated : Service) : Prop where
  status : updated.status = found.status
  spec :
    updated.spec = found.spec ∧
      (optionalJson ServiceSpec.toJson wanted.spec).isContained
        (optionalJson ServiceSpec.toJson found.spec) = true ∨
    found.spec = none ∧ updated.spec = wanted.spec ∨
    ∃ spec live written, wanted.spec = some spec ∧ found.spec = some live ∧
      updated.spec = some written ∧ SpecWritten spec live written

/-- Whether a secret has the data and type wanted, or those found if they are the same. -/
structure SecretWritten (wanted found updated : Secret) : Prop where
  stringData : updated.stringData = found.stringData
  immutable : updated.immutable = found.immutable
  content :
    updated.data = found.data ∧ updated.type = found.type ∧
      sameContent wanted.data found.data = true ∧ wanted.type = found.type ∨
    updated.data = wanted.data ∧ updated.type = wanted.type

/-- Whether a config map has the texts and bytes wanted, or those found if they are the same. -/
structure ConfigMapWritten (wanted found updated : ConfigMap) : Prop where
  immutable : updated.immutable = found.immutable
  content :
    updated.data = found.data ∧ updated.binaryData = found.binaryData ∧
      sameContent wanted.data found.data = true ∧
        sameContent wanted.binaryData found.binaryData = true ∨
    updated.data = wanted.data ∧ updated.binaryData = wanted.binaryData

/-- Whether what a comparison proposes has metadata that may be written, and such content. -/
def Frames {α : Type} [Resource α] (compare : Comparer α) (content : α → α → α → Prop) : Prop :=
  ∀ wanted found updated, compare wanted found = .differs updated →
    MetaWritten (Resource.metadata wanted) (Resource.metadata found) (Resource.metadata updated) ∧
      content wanted found updated

/-- A comparison that applies the metadata wanted proposes metadata that may be written. -/
theorem Applies.frames {α : Type} [Resource α] {compare : Comparer α} {content : α → α → α → Prop}
    (applies : Applies compare)
    (written : ∀ wanted found updated, compare wanted found = .differs updated →
      content wanted found updated) : Frames compare content := by
  intro wanted found updated differs
  refine ⟨?_, written wanted found updated differs⟩
  rw [applies wanted found updated differs]
  exact metaWritten_applyMeta _ _

theorem deploymentWritten_of_differs {wanted found updated : Deployment}
    (differs : compareDeployment wanted found = .differs updated) :
    DeploymentWritten wanted found updated := by
  obtain ⟨_, rfl⟩ := of_eq_differs.1 differs
  refine ⟨rfl, ?_⟩
  dsimp only
  split
  · next agrees => exact .inl ⟨rfl, agrees⟩
  · exact .inr rfl

theorem serviceWritten_of_differs {wanted found updated : Service}
    (differs : compareService wanted found = .differs updated) :
    ServiceWritten wanted found updated := by
  have hstatus : updated.status = found.status := by
    obtain ⟨_, rfl⟩ := of_eq_differs.1 differs
    rfl
  refine ⟨hstatus, ?_⟩
  rcases spec_of_differs differs with ⟨same, agrees⟩ | ⟨applied, spec, hspec⟩
  · exact .inl ⟨same, agrees⟩
  · rw [hspec] at applied
    cases hfound : found.spec with
    | none =>
      rw [hfound] at applied
      exact .inr (.inl ⟨rfl, applied.trans hspec.symm⟩)
    | some live =>
      rw [hfound] at applied
      exact .inr (.inr ⟨spec, live, _, hspec, rfl, applied, specWritten_keepAllocated spec live⟩)

theorem secretWritten_of_differs {wanted found updated : Secret}
    (differs : compareSecret wanted found = .differs updated) :
    SecretWritten wanted found updated := by
  obtain ⟨_, rfl⟩ := of_eq_differs.1 differs
  refine ⟨rfl, rfl, ?_⟩
  dsimp only
  split
  · next agrees =>
    simp only [Bool.and_eq_true, beq_iff_eq] at agrees
    exact .inl ⟨rfl, rfl, agrees⟩
  · exact .inr ⟨rfl, rfl⟩

theorem configMapWritten_of_differs {wanted found updated : ConfigMap}
    (differs : compareConfigMap wanted found = .differs updated) :
    ConfigMapWritten wanted found updated := by
  obtain ⟨_, rfl⟩ := of_eq_differs.1 differs
  refine ⟨rfl, ?_⟩
  dsimp only
  split
  · next agrees =>
    rw [Bool.and_eq_true] at agrees
    exact .inl ⟨rfl, rfl, agrees⟩
  · exact .inr ⟨rfl, rfl⟩

/-- **A write loses nothing that others have put there**: what any of the comparisons proposes has
the metadata found, with the labels wanted set and the owners that were missing added at the end;
and its content is the one found, if that is as wanted, or else the one wanted, as a whole but for
what the platform has allocated to a service. -/
theorem written_of_differs :
    Frames compareDeployment DeploymentWritten ∧ Frames compareService ServiceWritten ∧
      Frames compareSecret SecretWritten ∧ Frames compareConfigMap ConfigMapWritten :=
  ⟨applies_compareDeployment.frames fun _ _ _ => deploymentWritten_of_differs,
    applies_compareService.frames fun _ _ _ => serviceWritten_of_differs,
    applies_compareSecret.frames fun _ _ _ => secretWritten_of_differs,
    applies_compareConfigMap.frames fun _ _ _ => configMapWritten_of_differs⟩

/-- Objects that have been stored, another owner's or the platform's marks on each. -/
theorem written_of_differs_stored :
    let ref (uid : String) : OwnerRef := ⟨"nuxeo.com/v1alpha1", "Nuxeo", "nx", uid, none, none⟩
    let wantedMeta : Meta :=
      { labels := some (.ofList [("app", "nuxeo")]), owners := some [ref "u-1", ref "u-1"] }
    let foundMeta : Meta :=
      { labels := some (.ofList [("app", "old"), ("tier", "web")]), owners := some [ref "u-0"]
        resourceVersion := some "7" }
    let port (nodePort : Option Int32) : ServicePort :=
      ⟨some "http", 8080, nodePort, none, none, none⟩
    let service : Service := { metadata := wantedMeta, spec := some { ports := some [port none] } }
    let stored : Service :=
      { metadata := foundMeta
        spec := some { clusterIP := some "10.0.0.12", ports := some [port (some 30080)]
                       sessionAffinity := some "None" } }
    let secret (m : Meta) (text : String) : Secret :=
      { metadata := m, data := some (.ofList [("password", text.toUTF8.toList)]) }
    let configMap (m : Meta) (text : String) : ConfigMap :=
      { metadata := m, data := some (.ofList [("nuxeo.conf", text)]) }
    let deployment (m : Meta) (replicas : Int32) : Deployment :=
      { metadata := m
        spec := some { replicas := some replicas }
        status := some ⟨some 1, none, .empty⟩ }
    (∃ updated, compareService service stored = .differs updated ∧
      updated.metadata.ownerList = [ref "u-0", ref "u-1"] ∧
        MetaWritten wantedMeta foundMeta updated.metadata ∧
          ServiceWritten service stored updated) ∧
    (∃ updated, compareSecret (secret wantedMeta "new") (secret foundMeta "old") =
        .differs updated ∧
      SecretWritten (secret wantedMeta "new") (secret foundMeta "old") updated) ∧
    (∃ updated, compareConfigMap (configMap wantedMeta "new") (configMap foundMeta "old") =
        .differs updated ∧
      ConfigMapWritten (configMap wantedMeta "new") (configMap foundMeta "old") updated) ∧
    ∃ updated, compareDeployment (deployment wantedMeta 2) (deployment foundMeta 1) =
        .differs updated ∧
      DeploymentWritten (deployment wantedMeta 2) (deployment foundMeta 1) updated := by
  intro ref wantedMeta foundMeta port service stored secret configMap deployment
  obtain ⟨ofDeployment, ofService, ofSecret, ofConfigMap⟩ := written_of_differs
  have hservice : compareService service stored = .differs _ :=
    of_eq_differs.2 ⟨by decide +kernel, rfl⟩
  have hsecret : compareSecret (secret wantedMeta "new") (secret foundMeta "old") = .differs _ :=
    of_eq_differs.2 ⟨by decide +kernel, rfl⟩
  have hconfigMap : compareConfigMap (configMap wantedMeta "new") (configMap foundMeta "old") =
      .differs _ := of_eq_differs.2 ⟨by decide +kernel, rfl⟩
  have hdeployment : compareDeployment (deployment wantedMeta 2) (deployment foundMeta 1) =
      .differs _ := of_eq_differs.2 ⟨by decide +kernel, rfl⟩
  exact ⟨⟨_, hservice, rfl, ofService _ _ _ hservice⟩, ⟨_, hsecret, (ofSecret _ _ _ hsecret).2⟩,
    ⟨_, hconfigMap, (ofConfigMap _ _ _ hconfigMap).2⟩,
    ⟨_, hdeployment, (ofDeployment _ _ _ hdeployment).2⟩⟩

end ServiceBinding.Convergence
