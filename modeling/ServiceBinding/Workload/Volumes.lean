import ServiceBinding.Object.Pod
import ServiceBinding.Text.Quoted
import ServiceBinding.Workload.Merged

/-!
Merging volumes into a pod. A volume is added when its name is new; a volume of a known name is
united with the one that is there when both have the same kind of source and agree about every
file, and refused otherwise. A volume whose name is new is added as it is: the sources of a
projected volume are united with those of later volumes, not with one another.
-/
namespace ServiceBinding.Workload
open Object

/-- Adds one item to the items of an object: the same key must become the same file, and no file
may come from two keys. -/
def addItem (context : String) (items : List Item) (item : Item) : Merged (List Item) :=
  match items.find? (·.key == item.key) with
  | some known =>
    if known.path ≠ item.path ∨ known.mode ≠ item.mode then
      .failed items (.configuration context ("key " ++ item.key ++ " is already projected to " ++
        known.path ++ ", cannot project it to " ++ item.path))
    else .done items
  | none =>
    match items.find? (·.path == item.path) with
    | some known =>
      .failed items (.configuration context ("path " ++ item.path ++ " is already used by key " ++
        known.key ++ ", cannot use it for key " ++ item.key))
    | none => .done (items ++ [item])

def mergeItems (context : String) (items added : Option (List Item)) :
    Merged (Option (List Item)) :=
  (Merged.forEach (addItem context) (items.getD []) (added.getD [])).within some

/-- Whether two sources of a projected volume take their files from the same object. -/
def isSameObject (a b : ProjectedSource) : Bool :=
  match a.secret, b.secret with
  | some x, some y => x.name == y.name
  | _, _ =>
    match a.configMap, b.configMap with
    | some x, some y => x.name == y.name
    | _, _ => a == b

/-- Unites two sources that take their files from the same object. -/
def mergeSource (context : String) (known added : ProjectedSource) : Merged ProjectedSource :=
  match known.secret, added.secret with
  | some x, some y =>
    (mergeItems context x.items y.items).within fun items =>
      { known with secret := some { x with items := items } }
  | _, _ =>
    match known.configMap, added.configMap with
    | some x, some y =>
      (mergeItems context x.items y.items).within fun items =>
        { known with configMap := some { x with items := items } }
    | _, _ =>
      if known = added then .done known
      else .failed known (.configuration context "conflicting projected volume sources")

/-- Adds one source to those of a projected volume. -/
def addSource (context : String) (sources : List ProjectedSource) (added : ProjectedSource) :
    Merged (List ProjectedSource) :=
  match sources.find? (isSameObject · added) with
  | some known =>
    (mergeSource context known added).within fun merged =>
      replaceFirst (isSameObject · added) merged sources
  | none => .done (sources ++ [added])

def mergeProjected (context : String) (known added : ProjectedVolume) : Merged ProjectedVolume :=
  if known.defaultMode ≠ added.defaultMode ∧ added.defaultMode.isSome then
    .failed known (.configuration context "conflicting defaultMode on projected volume")
  else
    (Merged.forEach (addSource context) (known.sources.getD []) (added.sources.getD [])).within
      fun sources => { known with sources := some sources }

/-- Unites two volumes of one name. -/
def mergeVolume (known added : Volume) : Merged Volume :=
  let context := "volume " ++ added.name
  let refuse (message : String) : Merged Volume :=
    .failed known (.configuration context message)
  match known.sourceKind?, added.sourceKind? with
  | some knownKind, some addedKind =>
    if knownKind ≠ addedKind then
      refuse ("already defined with a " ++ knownKind.name ++ " source, cannot merge a " ++
        addedKind.name ++ " source")
    else
      match addedKind with
      | .secret =>
        let x := known.secret.getD {}
        let y := added.secret.getD {}
        if x.secretName ≠ y.secretName then
          refuse ("refers to secret " ++ Text.quotedOption x.secretName ++
            ", cannot merge secret " ++ Text.quotedOption y.secretName)
        else
          (mergeItems context x.items y.items).within fun items =>
            { known with secret := some { x with items := items } }
      | .configMap =>
        let x := known.configMap.getD {}
        let y := added.configMap.getD {}
        if x.name ≠ y.name then
          refuse ("refers to config map " ++ x.name ++ ", cannot merge config map " ++ y.name)
        else
          (mergeItems context x.items y.items).within fun items =>
            { known with configMap := some { x with items := items } }
      | .projected =>
        (mergeProjected context (known.projected.getD {}) (added.projected.getD {})).within
          fun projected => { known with projected := some projected }
      | kind =>
        if known = added then .done known
        else refuse ("conflicting " ++ kind.name ++ " volume definitions")
  | _, _ => refuse "volume has no source"

def addVolume (pod : PodSpec) (volume : Volume) : Merged PodSpec :=
  let volumes := pod.volumes.getD []
  let merged : Merged (List Volume) :=
    match volumes.find? (·.name == volume.name) with
    | some known =>
      (mergeVolume known volume).within fun merged =>
        replaceFirst (·.name == volume.name) merged volumes
    | none => .done (volumes ++ [volume])
  merged.within fun volumes => { pod with volumes := some volumes }

end ServiceBinding.Workload
