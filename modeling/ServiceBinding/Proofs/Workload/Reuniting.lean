import ServiceBinding.Proofs.Workload.Holding

/-!
Uniting a volume with a pod twice. A volume that has been merged into one of its name is held by it
from then on, so that the second time goes through and adds nothing. A volume of a new name is put
into the pod as it is, and a projected one may list several sources over the same object: the second
time those are merged with one another (`addVolume_again`).
-/
namespace ServiceBinding.Workload
open Object

/-! ### Volumes -/

/-- Whether a volume has all that another one of its name adds to it. -/
inductive Has (known added : Volume) : Prop where
  | secret {x y} (kind : known.sourceKind? = some .secret)
      (kind' : added.sourceKind? = some .secret)
      (left : known.secret = some x) (right : added.secret = some y)
      (same : x.secretName = y.secretName) (held : Holds (x.items.getD []) (y.items.getD []))
  | configMap {x y} (kind : known.sourceKind? = some .configMap)
      (kind' : added.sourceKind? = some .configMap)
      (left : known.configMap = some x) (right : added.configMap = some y)
      (same : x.name = y.name) (held : Holds (x.items.getD []) (y.items.getD []))
  | projected {x y sources} (kind : known.sourceKind? = some .projected)
      (kind' : added.sourceKind? = some .projected)
      (left : known.projected = some x) (right : added.projected = some y)
      (mode : x.defaultMode = y.defaultMode ∨ y.defaultMode = none)
      (listed : x.sources = some sources)
      (held : ∀ s ∈ y.sources.getD [], HasSource sources s)
  | other {kind} (kind' : added.sourceKind? = some kind)
      (other : kind ≠ .secret ∧ kind ≠ .configMap ∧ kind ≠ .projected) (same : known = added)

section Volumes
variable {known added merged v : Volume}

theorem keyed_of_source (keyed : Keyed v.itemLists) {s : ProjectedSource}
    (h : s ∈ v.sources?.getD []) : Keyed s.itemLists :=
  fun items hi => keyed items (List.mem_append_right _ (List.mem_flatMap.2 ⟨s, h, hi⟩))

theorem mergeProjected_eq_ok {context : String} {x y merged : ProjectedVolume}
    (keyed : ∀ s ∈ y.sources.getD [], Keyed s.itemLists)
    (h : (mergeProjected context x y).toResult = .ok merged) :
    (merged.defaultMode = y.defaultMode ∨ y.defaultMode = none) ∧
      ∃ sources, merged.sources = some sources ∧ ∀ s ∈ y.sources.getD [], HasSource sources s := by
  unfold mergeProjected at h
  split at h
  · cases h
  next hmode =>
  rw [Merged.toResult_within, map_eq_ok] at h
  obtain ⟨sources, h, rfl⟩ := h
  refine ⟨?_, sources, rfl, (forEach_addSource_eq_ok keyed h).1⟩
  rwa [not_and_or, not_not, Option.not_isSome_iff_eq_none] at hmode

theorem mergeProjected_of_has {context : String} {x y : ProjectedVolume}
    {sources : List ProjectedSource}
    (mode : x.defaultMode = y.defaultMode ∨ y.defaultMode = none) (there : x.sources = some sources)
    (held : ∀ s ∈ y.sources.getD [], HasSource sources s) :
    ∃ again, mergeProjected context x y = .done { x with sources := some again } ∧
      again.map (·.listed) = sources.map (·.listed) := by
  obtain ⟨again, hagain, hlisted⟩ := forEach_addSource_of_has context held
  refine ⟨again, ?_, hlisted⟩
  unfold mergeProjected
  rw [if_neg, there, Option.getD_some, hagain]
  · rfl
  · rwa [not_and_or, not_not, Option.not_isSome_iff_eq_none]

/-- A volume that another one has been merged into has it. -/
theorem has_of_mergeVolume (keyed : Keyed added.itemLists)
    (h : (mergeVolume known added).toResult = .ok merged) : Has merged added := by
  cases mergeVolume_cases h with
  | secret _ kind' kept _ right same merge eq =>
    subst eq
    exact .secret kept kind' rfl right same (mergeItems_eq_ok merge).1
  | configMap _ kind' kept _ right same merge eq =>
    subst eq
    exact .configMap kept kind' rfl right same (mergeItems_eq_ok merge).1
  | @projected x y _ _ kind' kept _ right merge eq =>
    subst eq
    have hsources : added.sources? = y.sources := by
      unfold Object.Volume.sources?
      rw [right]
      rfl
    obtain ⟨hmode, sources, hmerged, hheld⟩ := mergeProjected_eq_ok
      (fun s hs => keyed_of_source keyed (hsources ▸ hs)) merge
    exact .projected kept kind' rfl right hmode hmerged hheld
  | other kind' other same eq =>
    subst eq
    exact .other kind' other same

/-- Merging what a volume has changes nothing but absent lists of items. -/
theorem mergeVolume_of_has (h : Has known added) :
    ∃ again, mergeVolume known added = .done again ∧ again.listed = known.listed := by
  cases h with
  | secret kind kind' left right same held =>
    unfold mergeVolume
    rw [kind, kind', left, right]
    dsimp only [Option.getD_some]
    rw [if_neg (not_not.2 rfl), if_neg (not_not.2 same), mergeItems_of_holds held]
    refine ⟨_, rfl, ?_⟩
    unfold Object.Volume.listed
    rw [left]
    rfl
  | configMap kind kind' left right same held =>
    unfold mergeVolume
    rw [kind, kind', left, right]
    dsimp only [Option.getD_some]
    rw [if_neg (not_not.2 rfl), if_neg (not_not.2 same), mergeItems_of_holds held]
    refine ⟨_, rfl, ?_⟩
    unfold Object.Volume.listed
    rw [left]
    rfl
  | projected kind kind' left right mode there held =>
    obtain ⟨again, hagain, hlisted⟩ := mergeProjected_of_has mode there held
    unfold mergeVolume
    rw [kind, kind', left, right]
    dsimp only [Option.getD_some]
    rw [if_neg (not_not.2 rfl), hagain]
    refine ⟨_, rfl, ?_⟩
    unfold Object.Volume.listed
    rw [left]
    dsimp only [Option.map_some, Merged.done]
    rw [there, hlisted, Option.map_some]
  | other kind' other same =>
    subst same
    unfold mergeVolume
    rw [kind']
    dsimp only
    rw [if_neg (not_not.2 rfl)]
    refine ⟨known, ?_, rfl⟩
    split
    · exact absurd rfl other.1
    · exact absurd rfl other.2.1
    · exact absurd rfl other.2.2
    · exact if_pos rfl

/-- Whether a projected volume lists its sources, and the first one over each object has all items
that the list takes from it. -/
def United (v : Volume) : Prop :=
  ∃ sources, v.sources? = some sources ∧ ∀ s ∈ sources, HasSource sources s

/-- A volume that is like one it has but for absent lists of items is united if it is projected. -/
theorem united_of_has (h : Has merged v) (same : merged.listed = v.listed)
    (projected : v.sourceKind? = some .projected) : United v := by
  cases h with
  | secret _ kind' => cases kind'.symm.trans projected
  | configMap _ kind' => cases kind'.symm.trans projected
  | other kind' other =>
    cases kind'.symm.trans projected
    exact absurd rfl other.2.2
  | @projected x y sources _ _ left right _ listed held =>
    have hprojected := congrArg Volume.projected same
    unfold Object.Volume.listed at hprojected
    dsimp only at hprojected
    rw [left, right, Option.map_some, Option.map_some, Option.some_inj, ProjectedVolume.mk.injEq,
      listed] at hprojected
    obtain ⟨own, hown, hmap⟩ := Option.map_eq_some_iff.1 hprojected.1.symm
    refine ⟨own, ?_, fun s hs => hasSource_of_listed hmap.symm (held s ?_)⟩
    · unfold Object.Volume.sources?
      rw [right]
      exact hown
    · rw [hown]
      exact hs

/-- A volume has itself, where it is united if it is projected. -/
theorem has_self (sourced : v.sourceKind?.isSome) (keyed : Keyed v.itemLists)
    (united : v.sourceKind? = some .projected → United v) : Has v v := by
  obtain ⟨secret, configMap, projected⟩ := isSome_of_sourceKind? v
  obtain ⟨kind, hkind⟩ := Option.isSome_iff_exists.1 sourced
  by_cases hs : kind = .secret
  · subst hs
    obtain ⟨x, hx⟩ := secret hkind
    refine .secret hkind hkind hx hx rfl (.self (keyed _ ?_))
    simp [Object.Volume.itemLists, hx]
  by_cases hc : kind = .configMap
  · subst hc
    obtain ⟨x, hx⟩ := configMap hkind
    refine .configMap hkind hkind hx hx rfl (.self (keyed _ ?_))
    simp [Object.Volume.itemLists, hx]
  by_cases hp : kind = .projected
  · subst hp
    obtain ⟨x, hx⟩ := projected hkind
    obtain ⟨sources, hsources, hheld⟩ := united hkind
    have hlisted : x.sources = some sources := by
      rw [← hsources, Object.Volume.sources?, hx]
      rfl
    refine .projected hkind hkind hx hx (.inl rfl) hlisted ?_
    rw [hlisted]
    exact hheld
  · exact .other hkind ⟨hs, hc, hp⟩ rfl

/-- A projected volume no two of whose sources are over the same object is united. -/
theorem united_of_apart {sources : List ProjectedSource} (listed : v.sources? = some sources)
    (apart : sources.Pairwise (isSameObject · · = false)) (keyed : Keyed v.itemLists) :
    United v := by
  refine ⟨sources, listed, fun s hs => ⟨s, find?_sameObject apart hs, covers_self ?_⟩⟩
  refine keyed_of_source keyed ?_
  rw [listed]
  exact hs

end Volumes

/-! ### Pods -/

section Pods
variable {pod pod' : PodSpec} {v known : Volume}

/-- Merging a volume again into the one that it has been merged into changes nothing but absent
lists of items. -/
theorem addVolume_again_of_known (keyed : Keyed v.itemLists)
    (there : volume? pod v.name = some known)
    (merged : (addVolume pod v).toResult = .ok pod') :
    ∃ again, addVolume pod' v = .done again ∧ again.listed = pod'.listed := by
  rw [addVolume_of_known there, Merged.toResult_within, map_eq_ok] at merged
  obtain ⟨first, hfirst, rfl⟩ := merged
  have hname : (known.name == v.name) = true :=
    List.find?_some (p := fun known : Volume => known.name == v.name) there
  have hsame : (first.name == v.name) = true := by
    rw [mergeVolume_name hfirst]
    exact hname
  obtain ⟨second, hsecond, hlisted⟩ := mergeVolume_of_has (has_of_mergeVolume keyed hfirst)
  set volumes := replaceFirst (·.name == v.name) first (pod.volumes.getD [])
  let joined : PodSpec := { pod with volumes := some volumes }
  have hfound : volume? joined v.name = some first := find?_replaceFirst there hsame
  refine ⟨_, (addVolume_of_known hfound).trans (congrArg (Merged.within _) hsecond), ?_⟩
  have hmap : (replaceFirst (·.name == v.name) second volumes).map Volume.listed =
      volumes.map Volume.listed := map_replaceFirst_of_eq hfound hlisted
  show PodSpec.listed
    { pod with volumes := some (replaceFirst (·.name == v.name) second volumes) } = _
  unfold Object.PodSpec.listed
  dsimp only [Option.map_some]
  rw [hmap]

/-- A volume that has been put into a pod as it was is merged into itself. -/
theorem addVolume_again_of_free (free : volume? pod v.name = none) :
    (∃ again, addVolume { pod with volumes := some (pod.volumes.getD [] ++ [v]) } v = .done again ∧
        again.listed = PodSpec.listed { pod with volumes := some (pod.volumes.getD [] ++ [v]) }) ↔
      ∃ again, mergeVolume v v = .done again ∧ again.listed = v.listed := by
  rw [addVolume_of_last pod v v free rfl]
  unfold Object.PodSpec.listed
  constructor
  · rintro ⟨again, h, hlisted⟩
    obtain ⟨hagain, houtcome⟩ := Merged.mk.inj h
    refine ⟨(mergeVolume v v).value, congrArg (Merged.mk _) houtcome, ?_⟩
    subst hagain
    have := congrArg PodSpec.volumes hlisted
    simpa using this
  · rintro ⟨again, h, hlisted⟩
    rw [h]
    refine ⟨_, rfl, ?_⟩
    dsimp only [Merged.done, Option.map_some]
    rw [List.map_append, List.map_append, List.map_singleton, List.map_singleton, hlisted]

/-- **A volume added again**: for every pod, and every volume that has a source and whose own lists
of items have no key twice, a volume that has been added can be added again without effect, but for
absent lists of items that become empty ones, just if it was merged into a known one, or is not
projected, or is united in itself. That it is where no two of its sources are over the same
object. -/
theorem addVolume_again (pod : PodSpec) (v : Volume) (pod' : PodSpec)
    (sourced : v.sourceKind?.isSome) (keyed : Keyed v.itemLists)
    (merged : (addVolume pod v).toResult = .ok pod') :
    ((∃ again, addVolume pod' v = .done again ∧ again.listed = pod'.listed) ↔
      (volume? pod v.name = none → v.sourceKind? = some .projected → United v)) ∧
    ∀ sources, v.sources? = some sources → sources.Pairwise (isSameObject · · = false) →
      United v := by
  refine ⟨?_, fun sources listed apart => united_of_apart listed apart keyed⟩
  cases there : volume? pod v.name with
  | some known => exact iff_of_true (addVolume_again_of_known keyed there merged) nofun
  | none =>
    rw [addVolume_of_free there] at merged
    obtain rfl : { pod with volumes := some (pod.volumes.getD [] ++ [v]) } = pod' :=
      Except.ok.inj merged
    rw [addVolume_again_of_free there]
    constructor
    · rintro ⟨again, hagain, hlisted⟩ -
      exact united_of_has (has_of_mergeVolume keyed (congrArg Merged.toResult hagain)) hlisted
    · exact fun united => mergeVolume_of_has (has_self sourced keyed (united rfl))

end Pods

/-- A volume with files from several sources. -/
def fileVolume (sources : List ProjectedSource) : Volume :=
  { name := "files", projected := some { sources := some sources } }

/-- The keys of a secret as files of their own names. -/
def keysOf (secret : String) (keys : List String) : ProjectedSource :=
  { secret := some { name := secret, items := some (keys.map fun key => ⟨key, key, none⟩) } }

/-- Files from two secrets are mounted once, however often the volume is added. -/
theorem addVolume_again_files :
    let v := fileVolume [keysOf "db" ["user"], keysOf "tls" ["crt"]]
    v.sourceKind?.isSome ∧ Keyed v.itemLists ∧
      (addVolume {} v).toResult = .ok { volumes := some [v] } ∧
      ∃ again, addVolume { volumes := some [v] } v = .done again ∧
        again.listed = PodSpec.listed { volumes := some [v] } := by
  intro v
  have sourced : v.sourceKind?.isSome := by decide
  have keyed : Keyed v.itemLists := by decide
  have merged : (addVolume {} v).toResult = .ok { volumes := some [v] } := by decide
  obtain ⟨hagain, hunited⟩ := addVolume_again {} v _ sourced keyed merged
  exact ⟨sourced, keyed, merged, hagain.2 fun _ _ => hunited _ rfl (by decide)⟩

/-- Two sources over one secret are united with one another when the volume is added again, or
refused if they want the same key as different files. -/
theorem not_unchanged_split :
    let split := fileVolume [keysOf "db" ["user"], keysOf "db" ["password"]]
    let torn := fileVolume [keysOf "db" ["user"],
      { secret := some { name := "db", items := some [⟨"user", "login", none⟩] } }]
    split.sourceKind?.isSome ∧ Keyed split.itemLists ∧
      (addVolume {} split).toResult = .ok { volumes := some [split] } ∧
      (addVolume { volumes := some [split] } split).toResult = .ok { volumes := some [fileVolume
        [keysOf "db" ["user", "password"], keysOf "db" ["password"]]] } ∧
      torn.sourceKind?.isSome ∧ Keyed torn.itemLists ∧
      (addVolume {} torn).toResult = .ok { volumes := some [torn] } ∧
      (addVolume { volumes := some [torn] } torn).toResult = .error (.configuration "volume files"
        "key user is already projected to user, cannot project it to login") := by
  decide +kernel

end ServiceBinding.Workload
