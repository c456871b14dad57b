import ServiceBinding.Proofs.Belonging
import ServiceBinding.Proofs.Binding.Backing
import ServiceBinding.Proofs.Binding.Dropping
import ServiceBinding.Proofs.Workload.Showing
import Mathlib.Data.List.Induction

/-!
What a deployment shows is stored. A pass that gets as far as the deployment leaves it showing only
what is stored; but a sweep takes secrets and keys away before it is known whether the pass gets
there. So over a run of passes what is shown is stored all along just if no pass stops short of the
deployment after its sweep has dropped a key that the deployment still shows
(`intact_afterRounds_iff`).
-/
namespace ServiceBinding
open Binding Cluster Convergence Object Workload
variable {ρ : Type}

/-! ### What is shown -/

/-- Whether a stored secret holds a key. -/
def Cluster.HasKey (c : Cluster) (space secret key : String) : Prop :=
  ∃ stored value, c.secrets.get? space secret = some stored ∧
    (stored.data.getD {}).get? key = some value

/-- Whether a cluster has what a volume of an owner's deployment shows: the keys, all of them of
secondary secrets, and the config map. -/
structure Cluster.Has (c : Cluster) (space owner : String) (v : Volume) : Prop where
  keys : ∀ k ∈ v.secretKeys,
    (∃ binding, k.1 = secondaryName owner binding) ∧ c.HasKey space k.1 k.2
  configMap : ∀ files, v.configMap = some files →
    ∃ stored, c.configMaps.get? space files.name = some stored

/-- Whether a cluster has what its deployments show. -/
def Cluster.Intact (c : Cluster) : Prop :=
  ∀ space name d, c.deployments.get? space name = some d → ∀ v ∈ d.volumes, c.Has space name v

/-- A key that the owner's secret holds. -/
theorem Binding.Holds.hasKey {c : Cluster} {uid space secret key : String} {value : Bytes}
    (h : Holds uid (c.secrets.get? space secret) key value) : c.HasKey space secret key := by
  obtain ⟨stored, hstored, _, hkey⟩ := h
  exact ⟨stored, value, hstored, hkey⟩

theorem Cluster.HasKey.holds {c : Cluster} {uid space secret key : String}
    (h : c.HasKey space secret key) (owned : c.secrets.OwnedBy uid) :
    ∃ value, Holds uid (c.secrets.get? space secret) key value := by
  obtain ⟨stored, value, hstored, hkey⟩ := h
  exact ⟨value, stored, hstored, owned _ _ _ hstored, hkey⟩

/-! ### Runs -/

/-- A pass of a run: what it works with, what is asked for, and how the reader is found. -/
structure Round (ρ : Type) where
  equipment : Equipment ρ
  spec : InstanceSpec
  reading : ρ

/-- The instance that a pass is over. -/
def Round.target (round : Round ρ) (m : Meta) : Instance := ⟨m, round.spec⟩

/-- The cluster after a pass. -/
def Round.run (round : Round ρ) (m : Meta) (c : Cluster) : Cluster :=
  ((round.equipment.operator.pass (round.target m)).exec (c, round.reading)).2.1

/-- The cluster after a run of passes over one instance, which starts with nothing stored. -/
def afterRounds (m : Meta) (rounds : List (Round ρ)) : Cluster :=
  rounds.foldl (fun c round => round.run m c) {}

/-- Whether a pass ends between its sweep and the deployment: on a failure that may go away by
itself, or because the configuration text cannot be mounted. -/
def Operator.StopsShort (i : Instance) (pod : PodSpec) (report : Report) : Prop :=
  report.takeTransient.1.isSome = true ∨
    report.conf.isEmpty = false ∧ ∃ e, (mountConf i pod).toResult = .error e

/-- Whether a pass takes away what is still shown: it stops short of the deployment, and its sweep
drops a key that the deployment shows. -/
inductive Round.Breaks (round : Round ρ) (m : Meta) (c : Cluster) : Prop
  | intro {space uid : String} {d : Deployment} {pod : PodSpec}
      (prepared : Operator.Prepared (round.target m) space uid d pod)
      (short :
        let swept := (round.equipment.projector.projectAll (round.target m) pod).run
          (c, round.reading)
        Operator.StopsShort (round.target m) swept.1.1 swept.1.2)
      {live : Deployment} (there : c.deployments.get? space m.displayName = some live) {v : Volume}
      (shown : v ∈ live.volumes) {secret key : String} (asks : (secret, key) ∈ v.secretKeys)
      (drops : Drops round.equipment (round.target m) uid pod c round.reading secret key)

/-! ### Clusters of one instance -/

/-- A cluster in which only passes over one instance have written. -/
structure Sole (m : Meta) (c : Cluster) : Prop where
  quiet : c.faults = []
  named : c.secrets.Named
  secrets : c.secrets.OwnedBy (m.uid.getD "")
  configMaps : c.configMaps.OwnedBy (m.uid.getD "")
  deployments : c.deployments.OwnedBy (m.uid.getD "")
  placed : ∀ space name d, c.deployments.get? space name = some d →
    m.space = some space ∧ name = m.displayName
  /-- No volume is both one of files and a config map. -/
  plain : ∀ space name d, c.deployments.get? space name = some d →
    ∀ v ∈ d.volumes, v.projected = none ∨ v.configMap = none

theorem Sole.empty (m : Meta) : Sole m {} where
  quiet := rfl
  named := Table.Named.empty
  secrets := .empty _
  configMaps := .empty _
  deployments := .empty _
  placed := by rintro space name d ⟨⟩
  plain := by rintro space name d ⟨⟩

/-! ### Passes that reach the deployment -/

section Reaching
variable {i : Instance} {uid : String} {c : Cluster}

/-- Whether a volume shows files of a binding that are backed, or a config map that is stored. -/
def Furnished (i : Instance) (uid : String) (c : Cluster) (v : Volume) : Prop :=
  IsBacked i uid c.secrets v ∨ v.projected = none ∧ ∃ files, v.configMap = some files ∧
    ∃ stored, c.configMaps.get? (spaceOf i) files.name = some stored

theorem Furnished.plain {v : Volume} (h : Furnished i uid c v) :
    v.projected = none ∨ v.configMap = none := by
  rcases h with ⟨b, _, items, rfl, _⟩ | ⟨hnone, _⟩
  · exact .inr rfl
  · exact .inl hnone

/-- A volume that has everything a furnished one asks for shows only what is stored. -/
theorem Furnished.has {v w : Volume} (h : Furnished i uid c v)
    (contained : v.toJson.isContained w.toJson = true)
    (plain : w.projected = none ∨ w.configMap = none) : c.Has (spaceOf i) i.name w := by
  rcases h with ⟨b, _, items, rfl, hitems⟩ | ⟨_, files, hfiles, hstored⟩
  · obtain ⟨hsome, hkeys⟩ := secretKeys_of_isContained contained
    refine ⟨fun k hk => ?_, fun files hfiles => ?_⟩
    · rw [hkeys] at hk
      obtain ⟨item, hi, rfl⟩ := List.mem_map.1 hk
      obtain ⟨value, hholds⟩ := hitems item hi
      exact ⟨⟨b.name, rfl⟩, hholds.hasKey⟩
    · cases hfiles.symm.trans (plain.resolve_left hsome)
  · obtain ⟨files', hfiles', hname⟩ := Volume.configMap_of_isContained hfiles contained
    have hnone : w.projected = none :=
      plain.resolve_right fun h => by cases hfiles'.symm.trans h
    refine ⟨fun k hk => ?_, fun files'' hfiles'' => ?_⟩
    · unfold Volume.secretKeys at hk
      rw [hnone] at hk
      cases hk
    · cases hfiles'.symm.trans hfiles''
      rw [← hname]
      exact hstored

theorem furnished_of_mounted {space text : String} {pod pod' : PodSpec}
    {before : Table ConfigMap} {verbs : List Verb} {faulty : Prop} (placed : spaceOf i = space)
    (backed : Backed i uid c.secrets pod)
    (conf : Operator.ConfSettled faulty i space uid text pod before (.ok pod') verbs
      c.configMaps) : ∀ v ∈ pod'.volumes.getD [], Furnished i uid c v := by
  intro v hv
  rcases conf.mounted with ⟨_, rfl⟩ | ⟨_, hmount, stored⟩
  · exact .inl (backed v hv)
  · rcases volumes_of_mountConf backed hmount v hv with hv | ⟨hnone, files, hfiles, hname⟩
    · exact .inl (backed v hv)
    · refine .inr ⟨hnone, files, hfiles, ?_⟩
      rw [hname, placed]
      exact stored

/-- The ways in which a pass can leave what is shown. -/
inductive Left (E : Equipment ρ) (i : Instance) (c : Cluster) (r : ρ) (after : Cluster) : Prop
  | refused (h : ∀ space uid d pod, ¬ Operator.Prepared i space uid d pod) (same : after = c)
  | short {space uid : String} {d : Deployment} {pod : PodSpec}
      (prepared : Operator.Prepared i space uid d pod)
      (short : Operator.StopsShort i ((E.projector.projectAll i pod).run (c, r)).1.1
        ((E.projector.projectAll i pod).run (c, r)).1.2)
      (secrets : after.secrets = ((E.projector.projectAll i pod).run (c, r)).2.1.secrets)
      (configMaps : ∀ space name stored, c.configMaps.get? space name = some stored →
        ∃ stored', after.configMaps.get? space name = some stored')
      (deployments : after.deployments = c.deployments)
  | reached {space uid : String} {d : Deployment} {pod : PodSpec}
      (prepared : Operator.Prepared i space uid d pod)
      (reaches : ¬ Operator.StopsShort i ((E.projector.projectAll i pod).run (c, r)).1.1
        ((E.projector.projectAll i pod).run (c, r)).1.2)
      (intact : after.Intact)

end Reaching

/-- What a pass writes into a cluster of its instance leaves it one. -/
theorem Sole.written {m : Meta} {c after : Cluster} (h : Sole m c) (quiet : after.faults = [])
    (named : after.secrets.Named) (secrets : after.secrets.OwnedBy (m.uid.getD ""))
    (configMaps : after.configMaps.OwnedBy (m.uid.getD ""))
    (same : after.deployments = c.deployments) : Sole m after where
  quiet := quiet
  named := named
  secrets := secrets
  configMaps := configMaps
  deployments := same ▸ h.deployments
  placed := same ▸ h.placed
  plain := same ▸ h.plain

section Stages
variable {i : Instance} {space uid : String} {d : Deployment} {pod : PodSpec} {c after : Cluster}

/-- A sweep over a cluster of its instance leaves it one. -/
theorem Sole.swept {E : Equipment ρ} {r r' : ρ} {p : Projector.Progress}
    {pruned : Result (List String)} {log : List Call} (h : Sole i.metadata c)
    (prepared : Operator.Prepared i space uid d pod)
    (swept : Swept False E i pod c.secrets r p pruned log after.secrets r')
    (called : Called c log after.secrets after) : Sole i.metadata after := by
  have huid := prepared.getD_uid
  obtain ⟨hmaps, hdeployments⟩ := called.rest_secret
  have hsecrets : after.secrets.OwnedBy (i.metadata.uid.getD "") := by
    rw [huid]
    exact swept.ownedBy prepared.identified (huid ▸ h.secrets)
  exact h.written (called.quiet h.quiet) (swept.named h.named) hsecrets (hmaps ▸ h.configMaps)
    hdeployments

/-- Settling the configuration text leaves a cluster of one instance such. -/
theorem Sole.configured {text : String} {pod' : PodSpec} {x : Result PodSpec} {verbs : List Verb}
    (h : Sole i.metadata c) (prepared : Operator.Prepared i space uid d pod)
    (conf : Operator.ConfSettled False i space uid text pod' c.configMaps x verbs
      after.configMaps)
    (called : Called c (verbs.map (callOn ConfigMap space (confName i))) after.configMaps
      after) : Sole i.metadata after := by
  have huid := prepared.getD_uid
  obtain ⟨hsecrets, hdeployments⟩ := called.rest_configMap
  have hmaps : after.configMaps.OwnedBy (i.metadata.uid.getD "") := by
    rw [huid]
    exact conf.ownedBy prepared.identified (huid ▸ h.configMaps)
  exact h.written (called.quiet h.quiet) (hsecrets ▸ h.named) (hsecrets ▸ h.secrets) hmaps
    hdeployments

/-- A pass that has settled the configuration text does not stop short. -/
theorem not_stopsShort_of_settled {faulty : Prop} {report : Report} {pod' : PodSpec}
    {before t : Table ConfigMap} {verbs : List Verb}
    (stable : report.takeTransient.1 = none)
    (conf : Operator.ConfSettled faulty i space uid report.conf pod before (.ok pod') verbs t) :
    ¬ Operator.StopsShort i pod report := by
  rintro (htransient | ⟨hfilled, e, hmount⟩)
  · rw [stable] at htransient
    cases htransient
  · rcases conf.mounted with ⟨hempty, _⟩ | ⟨_, hmounted, _⟩
    · cases hempty.symm.trans hfilled
    · cases hmounted.symm.trans hmount

variable {pod' : PodSpec} {x : Result Outcome} {verbs : List Verb}

/-- Bringing the deployment to a wanted state with volumes that are furnished leaves a cluster of
one instance such. -/
theorem Sole.deployed (h : Sole i.metadata c) (prepared : Operator.Prepared i space uid d pod)
    (ensured : Ensured False compareDeployment space i.name (withPod d pod') c.deployments x verbs
      after.deployments)
    (called : Called c (verbs.map (callOn Deployment space i.name)) after.deployments after)
    (furnished : ∀ v ∈ pod'.volumes.getD [], Furnished i uid after v) :
    Sole i.metadata after := by
  have huid := prepared.getD_uid
  have made := prepared.isMadeFor pod'
  have podded := podSpec?_withPod prepared.podded pod'
  obtain ⟨hsecrets, hmaps⟩ := called.rest_deployment
  refine ⟨called.quiet h.quiet, hsecrets ▸ h.named, hsecrets ▸ h.secrets, hmaps ▸ h.configMaps,
    ?_, fun space' name a ha => ?_, fun space' name a ha v hv => ?_⟩
  · rw [huid]
    exact ensured.each (keeps_ownedBy applies_compareDeployment made) (huid ▸ h.deployments)
  · rcases ensured.volumes ha with ⟨rfl, rfl, _⟩ | ⟨a', ha', _⟩
    · exact ⟨prepared.placed, rfl⟩
    · exact h.placed _ _ _ ha'
  · rcases ensured.volumes ha with ⟨_, _, hvolumes⟩ | ⟨a', ha', hvolumes⟩
    · rw [hvolumes, Deployment.volumes_of_podSpec? podded] at hv
      exact (furnished v hv).plain
    · rw [hvolumes] at hv
      exact h.plain _ _ _ ha' v hv

/-- Once the deployment has been brought to a wanted state with volumes that are furnished, all
that is shown is stored. -/
theorem intact_of_deployed (hbefore : c.deployments.OwnedBy uid) (hafter : Sole i.metadata after)
    (prepared : Operator.Prepared i space uid d pod)
    (ensured : Ensured False compareDeployment space i.name (withPod d pod') c.deployments x verbs
      after.deployments)
    (furnished : ∀ v ∈ pod'.volumes.getD [], Furnished i uid after v) : after.Intact := by
  have made := prepared.isMadeFor pod'
  have podded := podSpec?_withPod prepared.podded pod'
  intro space' name a ha w hw
  obtain ⟨hspace, rfl⟩ := hafter.placed _ _ _ ha
  cases prepared.placed.symm.trans hspace
  -- The attempt went through, so that what is stored now agrees with what was wanted.
  obtain ⟨o, rfl⟩ := ensured.exists_ok made (hbefore _ _)
  obtain ⟨a', ha', _, hequal⟩ :=
    ensured.rests applies_compareDeployment converges_compareDeployment
  cases ha.symm.trans ha'
  obtain ⟨v, hv, contained⟩ :=
    volumes_of_agrees podded (compareDeployment_eq_equal.1 hequal).2 w hw
  have has := (furnished v hv).has contained (hafter.plain _ _ _ ha w hw)
  rwa [prepared.spaceOf_eq] at has

end Stages

/-- A pass over a cluster of its instance leaves it one, and ends in one of the three ways. -/
theorem Sole.pass {i : Instance} {c : Cluster} (h : Sole i.metadata c) (E : Equipment ρ) (r : ρ) :
    Sole i.metadata ((E.operator.pass i).exec (c, r)).2.1 ∧
      Left E i c r ((E.operator.pass i).exec (c, r)).2.1 := by
  obtain ⟨x, after, r', hx, hpassed⟩ :=
    Operator.exec_pass E i (fun faults => faults h.quiet : c.faults ≠ [] → False) r
  rw [hx]
  show Sole i.metadata after ∧ Left E i c r after
  cases hpassed with
  | refused e hrefused => exact ⟨h, .refused hrefused rfl⟩
  | @swept space uid d pod prepared p pruned log t mid _ ran swept called _ _ finished =>
    obtain rfl : mid.secrets = t := called.table
    obtain ⟨hmaps, hdeployments⟩ := called.rest_secret
    have hmid := h.swept prepared swept called
    have huid := prepared.getD_uid
    cases finished with
    | halted transient =>
      refine ⟨hmid, .short prepared (.inl ?_) ?_ (fun space name stored hs => ?_) hdeployments⟩
      · rw [ran, transient]
        rfl
      · rw [ran]
      · exact ⟨stored, hmaps ▸ hs⟩
    | @unconfigured _ e verbs u _ conf called' =>
      obtain rfl : after.configMaps = u := called'.table
      obtain ⟨hsecrets, hdeployments'⟩ := called'.rest_configMap
      obtain ⟨hmount, hpresent⟩ := conf.unmountable prepared.identified prepared.built
        (huid ▸ hmid.configMaps)
      refine ⟨hmid.configured prepared conf called', .short prepared (.inr ?_) ?_ ?_
        (hdeployments'.trans hdeployments)⟩
      · rw [ran]
        exact hmount
      · rw [ran, hsecrets]
      · rw [← hmaps]
        exact hpresent
    | @deployed stable pod' verbs verbs' u mid' _ conf called' o v ensured called'' =>
      obtain rfl : mid'.configMaps = u := called'.table
      obtain rfl : after.deployments = v := called''.table
      have hmid' := hmid.configured prepared conf called'
      obtain ⟨hsecrets, _⟩ := called'.rest_configMap
      obtain ⟨hsecrets', hmaps'⟩ := called''.rest_deployment
      have hreached : ¬ Operator.StopsShort i ((E.projector.projectAll i pod).run (c, r)).1.1
          ((E.projector.projectAll i pod).run (c, r)).1.2 := by
        rw [ran]
        exact not_stopsShort_of_settled stable conf
      have hbacked : Backed i uid after.secrets p.pod := by
        rw [hsecrets', hsecrets]
        exact swept.backed prepared.identified prepared.valid prepared.built prepared.podded
      rw [← hmaps'] at conf
      have hfurnished := furnished_of_mounted prepared.spaceOf_eq hbacked conf
      have hafter := hmid'.deployed prepared ensured called'' hfurnished
      exact ⟨hafter, .reached prepared hreached
        (intact_of_deployed (huid ▸ hmid'.deployments) hafter prepared ensured hfurnished)⟩

/-! ### Passes that stop short -/

section Short
variable {E : Equipment ρ} {i : Instance} {space uid : String} {d : Deployment} {pod : PodSpec}
  {c after : Cluster} {r : ρ}

/-- A sweep that drops a key still shown, with nothing written to the deployments after it, leaves
it shown and gone. -/
theorem not_intact_of_drops (h : Sole i.metadata c) (hafter : Sole i.metadata after)
    (prepared : Operator.Prepared i space uid d pod)
    (secrets : after.secrets = ((E.projector.projectAll i pod).run (c, r)).2.1.secrets)
    (deployments : after.deployments = c.deployments) {live : Deployment} {name : String}
    (there : c.deployments.get? space name = some live) {v : Volume} (shown : v ∈ live.volumes)
    {secret key : String} (asks : (secret, key) ∈ v.secretKeys)
    (drops : Drops E i uid pod c r secret key) : ¬ after.Intact := by
  intro hintact
  rw [← deployments] at there
  obtain ⟨_, hkey⟩ := (hintact _ _ _ there _ shown).keys _ asks
  have howned : after.secrets.OwnedBy uid := prepared.getD_uid ▸ hafter.secrets
  obtain ⟨value, hholds⟩ := hkey.holds howned
  rw [secrets, ← prepared.spaceOf_eq] at hholds
  exact drops.gone h.quiet prepared.identified prepared.valid h.named value hholds

/-- A sweep that drops no key still shown leaves all that is shown stored, where the config maps
stay and nothing is written to the deployments. -/
theorem intact_of_not_drops (h : Sole i.metadata c) (intact : c.Intact)
    (prepared : Operator.Prepared i space uid d pod)
    (secrets : after.secrets = ((E.projector.projectAll i pod).run (c, r)).2.1.secrets)
    (configMaps : ∀ space name stored, c.configMaps.get? space name = some stored →
      ∃ stored', after.configMaps.get? space name = some stored')
    (deployments : after.deployments = c.deployments)
    (kept : ∀ live, c.deployments.get? space i.metadata.displayName = some live →
      ∀ v ∈ live.volumes, ∀ k ∈ v.secretKeys, ¬ Drops E i uid pod c r k.1 k.2) :
    after.Intact := by
  intro space' name live there v hv
  rw [deployments] at there
  obtain ⟨hplaced, rfl⟩ := h.placed _ _ _ there
  cases prepared.placed.symm.trans hplaced
  have has := intact _ _ _ there v hv
  have howned : c.secrets.OwnedBy uid := prepared.getD_uid ▸ h.secrets
  refine ⟨fun k hk => ?_, fun files hfiles => ?_⟩
  · obtain ⟨hsecondary, hkey⟩ := has.keys k hk
    obtain ⟨value, hholds⟩ := hkey.holds howned
    rw [← prepared.spaceOf_eq] at hholds
    obtain ⟨value', hholds'⟩ := holds_of_not_drops h.quiet prepared.identified prepared.valid
      h.named hholds (kept live there v hv k hk)
    rw [← secrets, prepared.spaceOf_eq] at hholds'
    exact ⟨hsecondary, hholds'.hasKey⟩
  · obtain ⟨stored, hstored⟩ := has.configMap files hfiles
    exact configMaps _ _ _ hstored

end Short

/-- A pass over a cluster that has what is shown leaves it so just if it does not break it. -/
theorem Sole.intact_iff {m : Meta} {c : Cluster} (h : Sole m c) (intact : c.Intact)
    (round : Round ρ) : (round.run m c).Intact ↔ ¬ round.Breaks m c := by
  obtain ⟨hsole, hleft⟩ := Sole.pass (i := round.target m) h round.equipment round.reading
  change Sole m (round.run m c) at hsole
  change Left round.equipment (round.target m) c round.reading (round.run m c) at hleft
  generalize round.run m c = after at hsole hleft
  cases hleft with
  | refused hrefused same =>
    rw [same]
    refine ⟨fun _ hbreaks => ?_, fun _ => intact⟩
    obtain ⟨prepared⟩ := hbreaks
    exact hrefused _ _ _ _ prepared
  | reached prepared reaches hintact =>
    refine ⟨fun _ hbreaks => ?_, fun _ => hintact⟩
    obtain ⟨prepared', short⟩ := hbreaks
    obtain ⟨rfl, rfl, rfl, rfl⟩ := prepared.unique prepared'
    exact reaches short
  | short prepared short secrets configMaps deployments =>
    constructor
    · rintro hintact ⟨prepared', _, there, shown, asks, drops⟩
      obtain ⟨rfl, rfl, rfl, rfl⟩ := prepared.unique prepared'
      exact not_intact_of_drops h hsole prepared secrets deployments there shown asks drops
        hintact
    · intro hbreaks
      exact intact_of_not_drops h intact prepared secrets configMaps deployments
        fun live there v hv k hk drops => hbreaks ⟨prepared, short, there, hv, hk, drops⟩

/-! ### Runs -/

theorem afterRounds_concat (m : Meta) (rounds : List (Round ρ)) (round : Round ρ) :
    afterRounds m (rounds ++ [round]) = round.run m (afterRounds m rounds) :=
  List.foldl_concat _ _ _ _

theorem sole_afterRounds (m : Meta) (rounds : List (Round ρ)) : Sole m (afterRounds m rounds) := by
  induction rounds using List.reverseRecOn with
  | nil => exact Sole.empty m
  | append_singleton rounds round ih =>
    rw [afterRounds_concat]
    exact (Sole.pass (i := round.target m) ih round.equipment round.reading).1

/-- **What is shown is stored, unless a pass breaks it**: over a run of passes over one instance,
whatever is asked for and whatever the reader answers, the objects that the stored deployment shows
are there after each pass just if no pass stops short of the deployment after its sweep has dropped
a key that the deployment shows. -/
theorem intact_afterRounds_iff (m : Meta) (rounds : List (Round ρ)) :
    (∀ before, before <+: rounds → (afterRounds m before).Intact) ↔
      ∀ before round, before ++ [round] <+: rounds → ¬ round.Breaks m (afterRounds m before) := by
  constructor
  · intro hintact before round hprefix
    have hbefore := hintact before ((List.prefix_append _ _).trans hprefix)
    have hafter := hintact _ hprefix
    rw [afterRounds_concat] at hafter
    exact ((sole_afterRounds m before).intact_iff hbefore round).1 hafter
  · intro hkept before hprefix
    -- By induction on how many passes have been made: each starts with what is shown stored.
    induction before using List.reverseRecOn with
    | nil => rintro space name d ⟨⟩
    | append_singleton before round ih =>
      have hbefore := ih ((List.prefix_append _ _).trans hprefix)
      rw [afterRounds_concat]
      exact ((sole_afterRounds m before).intact_iff hbefore round).2 (hkept before round hprefix)

/-- A pass over an instance with one binding, which mounts the address of a service. -/
def addressMounted (service : String) (answer : Result Json) : Round (Result Json) where
  equipment := .standard .uniform
  spec := {
    bindings := [{
      name := service
      sources := [{
        version := "v1"
        kind := "Service"
        name := service
        projections := [{ path := some ".spec.clusterIP", mount := some "host" }] }] }] }
  reading := answer

/-- One service is bound, and then another one in its place that cannot be read. -/
def failedReplacement : List (Round (Result Json)) := [
  addressMounted "pg" (.ok (.obj [("spec", .obj [("clusterIP", .str "10.0.0.1")])])),
  addressMounted "es" (.error (notFound "services" "es"))]

theorem not_intact_failedReplacement :
    (∀ round ∈ failedReplacement, round.spec.validate = .ok ()) ∧
      ¬ ∀ before, before <+: failedReplacement →
        (afterRounds passwordMounted.metadata before).Intact := by
  refine ⟨by decide +kernel, fun hintact => ?_⟩
  have hshown : ((afterRounds passwordMounted.metadata failedReplacement).deployments.get?
      "prod" "nx").map (fun d => d.volumes.flatMap (·.secretKeys)) =
        some [("nx-secondary-pg", ".spec.clusterIP")] := by
    decide +kernel
  have hgone : ((afterRounds passwordMounted.metadata failedReplacement).secrets.get?
      "prod" "nx-secondary-pg").isNone = true := by
    decide +kernel
  obtain ⟨live, there, hkeys⟩ := Option.map_eq_some_iff.1 hshown
  obtain ⟨v, hv, hk⟩ := List.mem_flatMap.1 (hkeys ▸ List.mem_cons_self)
  obtain ⟨_, stored, _, hstored, _⟩ :=
    (hintact _ List.prefix_rfl _ _ live there v hv).keys _ hk
  rw [hstored] at hgone
  cases hgone

end ServiceBinding
