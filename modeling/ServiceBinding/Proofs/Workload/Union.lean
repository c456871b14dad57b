import Mathlib.Data.Fintype.EquivFin
import ServiceBinding.Proofs.Workload.Portions
import ServiceBinding.Proofs.Workload.Reuniting

/-!
What a pod sees of a volume that two contributors unite. A portion without items takes its object
whole: every key is a file of its own name. As soon as one item is added to such a list, only the
listed keys are files; so that a union keeps every file just where no object is taken whole by one
list and listed by another one that is united with it (`addVolume_union`).
-/
namespace ServiceBinding
open Object

/-- A file that a volume can have: the key of an object, and where it is. -/
structure Object.File where
  origin : Origin
  key : String
  path : String
deriving DecidableEq, Repr

namespace Workload

/-- Whether a volume lists an item of an object. -/
def Takes (v : Volume) (o : Origin) (item : Item) : Prop :=
  item ∈ (listsOver o v.portions).flatten

/-- Whether a volume takes all keys of an object, each as a file of its own name. -/
def TakesWhole (v : Volume) (o : Origin) : Prop :=
  [] ∈ listsOver o v.portions

/-- Whether a pod finds a file in a volume. -/
def Exposes (v : Volume) (f : File) : Prop :=
  TakesWhole v f.origin ∧ f.path = f.key ∨
    ∃ item, Takes v f.origin item ∧ item.key = f.key ∧ item.path = f.path

instance (v : Volume) (o : Origin) : Decidable (TakesWhole v o) :=
  inferInstanceAs (Decidable ([] ∈ listsOver o v.portions))

instance (v : Volume) (f : File) : Decidable (Exposes v f) :=
  inferInstanceAs (Decidable (TakesWhole v f.origin ∧ f.path = f.key ∨
    ∃ item ∈ (listsOver f.origin v.portions).flatten, item.key = f.key ∧ item.path = f.path))

/-- Whether an object that a volume or one merged into it takes whole is still taken whole: there
is a list without items that is not the first one over the object, or neither the first one nor any
that is added has an item. -/
def StaysWhole (known added : Volume) (o : Origin) : Prop :=
  TakesWhole known o ∨ TakesWhole added o →
    [] ∈ (listsOver o known.portions).drop 1 ∨
      ∀ items ∈ (listsOver o known.portions).take 1 ++ listsOver o added.portions, items = []

section Union
variable {context : String} {known v united : Volume} {o : Origin}

theorem takesWhole_of_joined (h : JoinedAll context known.portions v.portions united.portions)
    (o : Origin) : TakesWhole united o ↔
      (TakesWhole known o ∨ TakesWhole v o) ∧ StaysWhole known v o := by
  obtain ⟨first, hfirst, hlists⟩ := h.lists o
  unfold StaysWhole TakesWhole
  rw [hlists, List.mem_append, hfirst.nil_mem]
  have hsplit : [] ∈ listsOver o known.portions ↔
      [] ∈ (listsOver o known.portions).take 1 ∨ [] ∈ (listsOver o known.portions).drop 1 := by
    rw [← List.mem_append, List.take_append_drop]
  constructor
  · rintro (⟨hne, hall⟩ | hdrop)
    · obtain ⟨items, hi⟩ := List.exists_mem_of_ne_nil _ hne
      have hnil := hall items hi ▸ hi
      refine ⟨(List.mem_append.1 hnil).imp (fun h => hsplit.2 (.inl h)) id, fun _ => .inr hall⟩
    · exact ⟨.inl (hsplit.2 (.inr hdrop)), fun _ => .inl hdrop⟩
  · rintro ⟨hwhole, hstays⟩
    rcases hstays hwhole with hdrop | hall
    · exact .inr hdrop
    · rcases hwhole with hwhole | hwhole
      · rcases hsplit.1 hwhole with htake | hdrop
        · exact .inl ⟨List.ne_nil_of_mem (List.mem_append_left _ htake), hall⟩
        · exact .inr hdrop
      · exact .inl ⟨List.ne_nil_of_mem (List.mem_append_right _ hwhole), hall⟩

/-- What is exposed is what one of two volumes exposes, so far as it is still taken whole. -/
theorem exposes_of_joined (h : JoinedAll context known.portions v.portions united.portions)
    (f : File) (exposed : Exposes united f) : Exposes known f ∨ Exposes v f := by
  rcases exposed with ⟨hwhole, hpath⟩ | ⟨item, htakes, hfile⟩
  · exact ((takesWhole_of_joined h f.origin).1 hwhole).1.imp (fun h => .inl ⟨h, hpath⟩)
      fun h => .inl ⟨h, hpath⟩
  · exact ((h.mem f.origin item).1 htakes).imp (fun h => .inr ⟨item, h, hfile⟩)
      fun h => .inr ⟨item, h, hfile⟩

/-- A key that none of some items has. -/
theorem exists_fresh_key (items : List Item) : ∃ key, ∀ item ∈ items, item.key ≠ key := by
  obtain ⟨key, hkey⟩ := Infinite.exists_notMem_finset (items.map (·.key)).toFinset
  refine ⟨key, fun item hi he => hkey ?_⟩
  rw [List.mem_toFinset, ← he]
  exact List.mem_map_of_mem hi

/-- A volume that exposes every file of an object takes it whole: the files that it lists have
finitely many keys. -/
theorem takesWhole_of_exposes (h : ∀ key, Exposes v ⟨o, key, key⟩) : TakesWhole v o := by
  obtain ⟨key, fresh⟩ := exists_fresh_key (listsOver o v.portions).flatten
  rcases h key with ⟨hwhole, -⟩ | ⟨item, htakes, hkey, -⟩
  · exact hwhole
  · exact absurd hkey (fresh item htakes)

/-- Where a volume is united with another one, no file is hidden just if what is taken whole stays
so. -/
theorem exposes_all_iff (h : JoinedAll context known.portions v.portions united.portions) :
    (∀ f, Exposes known f ∨ Exposes v f → Exposes united f) ↔ ∀ o, StaysWhole known v o := by
  constructor
  · intro hall o hwhole
    have hunited : TakesWhole united o := takesWhole_of_exposes fun key =>
      hall _ (hwhole.imp (fun h => .inl ⟨h, rfl⟩) fun h => .inl ⟨h, rfl⟩)
    exact ((takesWhole_of_joined h o).1 hunited).2 hwhole
  · intro hstays f hf
    have hwhole (h' : TakesWhole known f.origin ∨ TakesWhole v f.origin) :
        TakesWhole united f.origin := (takesWhole_of_joined h f.origin).2 ⟨h', hstays f.origin⟩
    have htakes := h.mem f.origin
    rcases hf with (⟨hf, hpath⟩ | ⟨item, hf, hfile⟩) | (⟨hf, hpath⟩ | ⟨item, hf, hfile⟩)
    · exact .inl ⟨hwhole (.inl hf), hpath⟩
    · exact .inr ⟨item, (htakes item).2 (.inl hf), hfile⟩
    · exact .inl ⟨hwhole (.inr hf), hpath⟩
    · exact .inr ⟨item, (htakes item).2 (.inr hf), hfile⟩

/-- Volumes that list all their items take no object whole. -/
theorem staysWhole_of_listed (known_listed : ∀ p ∈ known.portions, p.items ≠ [])
    (listed : ∀ p ∈ v.portions, p.items ≠ []) (o : Origin) : StaysWhole known v o := by
  have hnot {v : Volume} (listed : ∀ p ∈ v.portions, p.items ≠ []) : ¬ TakesWhole v o := by
    intro hwhole
    exact listed _ (mem_listsOver.1 hwhole) rfl
  exact fun hwhole => absurd hwhole (not_or.2 ⟨hnot known_listed, hnot listed⟩)

end Union

/-- **A merge of volumes is a union**: for every pod, and every volume that is merged into one of
its name and whose sources are over one object each, the volume afterwards lists just the items that
either of them listed, and exposes no file that neither of them exposed. It exposes all that either
of them did just if every object that one of them takes whole stays so. -/
theorem addVolume_union (pod pod' : PodSpec) (v known : Volume) (single : v.SingleSourced)
    (there : volume? pod v.name = some known) (merged : (addVolume pod v).toResult = .ok pod') :
    ∃ united, volume? pod' v.name = some united ∧
      (∀ o item, Takes united o item ↔ Takes known o item ∨ Takes v o item) ∧
      (∀ f, Exposes united f → Exposes known f ∨ Exposes v f) ∧
      ((∀ f, Exposes known f ∨ Exposes v f → Exposes united f) ↔ ∀ o, StaysWhole known v o) := by
  obtain ⟨united, hfound, joined⟩ := joined_addVolume single there merged
  exact ⟨united, hfound, joined.mem, exposes_of_joined joined, exposes_all_iff joined⟩

/-- Keys of two secrets that two contributors list are all there. -/
theorem addVolume_union_keys :
    let known := fileVolume [keysOf "db" ["user"]]
    let v := fileVolume [keysOf "db" ["password"], keysOf "tls" ["crt"]]
    v.SingleSourced ∧ volume? { volumes := some [known] } v.name = some known ∧
      (addVolume { volumes := some [known] } v).toResult = .ok
        { volumes := some [fileVolume [keysOf "db" ["user", "password"], keysOf "tls" ["crt"]]] } ∧
      ∃ united, volume? { volumes := some [fileVolume
          [keysOf "db" ["user", "password"], keysOf "tls" ["crt"]]] } v.name = some united ∧
        ∀ f, Exposes known f ∨ Exposes v f → Exposes united f := by
  intro known v
  have single : v.SingleSourced := by decide
  have there : volume? { volumes := some [known] } v.name = some known := by decide
  have merged :
      (addVolume { volumes := some [known] } v).toResult = .ok {
        volumes := some
          [fileVolume [keysOf "db" ["user", "password"], keysOf "tls" ["crt"]]] } := by
    decide
  obtain ⟨united, hunited, -, -, hall⟩ := addVolume_union _ _ v known single there merged
  exact ⟨single, there, merged, united, hunited,
    hall.2 (staysWhole_of_listed (by decide) (by decide))⟩

/-- A secret that one contributor takes whole loses the keys that another one does not list, and
whoever comes second does not get what it asks for if it takes the secret whole. -/
theorem not_exposed_whole :
    let whole : Volume := { name := "creds", secret := some { secretName := some "db" } }
    let listing : Volume :=
      { name := "creds",
        secret := some { secretName := some "db", items := some [⟨"password", "password", none⟩] } }
    let user : File := ⟨.secret (some "db"), "user", "user"⟩
    (addVolume { volumes := some [whole] } listing).toResult = .ok { volumes := some [listing] } ∧
      (addVolume { volumes := some [listing] } whole).toResult = .ok { volumes := some [listing] } ∧
      Exposes whole user ∧ ¬ Exposes listing user := by
  decide

end Workload

end ServiceBinding
