import ServiceBinding.Json.Containment
import ServiceBinding.Json.Decode
import Mathlib.Data.List.Forall2

/-!
The theory of containment. A value whose objects have each key once is contained in itself
(`isContained_self`), and containment of records and lists is containment of their members and
items (`record_isContained_iff`, `ofList_isContained_iff`). These are the two directions in which
comparisons use it: what has been written is found unchanged, and what is found unchanged has
everything that was wanted.
-/
namespace ServiceBinding.Json

/-! ### Members and items -/

/-- Whether a member wanted is satisfied by what is found under its key. -/
def fits (wanted : Json) : Option Json → Bool
  | some found => wanted.isContained found
  | none => wanted.isNull || wanted.isEmptyContainer

theorem membersContained_iff {wanted found : List (String × Json)} :
    membersContained wanted found = true ↔
      ∀ m ∈ wanted, m.2.fits (lookup m.1 found) = true := by
  induction wanted with
  | nil => simp [membersContained]
  | cons m rest ih =>
    simp only [membersContained, Bool.and_eq_true, ih, List.forall_mem_cons]
    cases lookup m.1 found <;> rfl

theorem itemsContained_iff {wanted found : List Json} :
    itemsContained wanted found = true ↔
      List.Forall₂ (fun a b => a.isContained b = true) wanted found := by
  induction wanted generalizing found with
  | nil => cases found <;> simp [itemsContained]
  | cons a as ih => cases found <;> simp [itemsContained, ih]

theorem ofList_isContained_iff {α : Type} {write : α → Json} {wanted found : List α} :
    (ofList write wanted).isContained (ofList write found) = true ↔
      List.Forall₂ (fun a b => (write a).isContained (write b) = true) wanted found := by
  rw [ofList, ofList, isContained, itemsContained_iff, List.forall₂_map_left_iff,
    List.forall₂_map_right_iff]

/-! ### Values with distinct keys -/

/-- A value all of whose objects have each key once. -/
inductive Distinct : Json → Prop
  | null : Distinct .null
  | bool (b : Bool) : Distinct (.bool b)
  | num (n : Number) : Distinct (.num n)
  | str (s : String) : Distinct (.str s)
  | arr {items : List Json} (each : ∀ j ∈ items, Distinct j) : Distinct (.arr items)
  | obj {members : List (String × Json)} (keys : (members.map (·.1)).Nodup)
      (each : ∀ m ∈ members, Distinct m.2) : Distinct (.obj members)

theorem lookup_of_mem {members : List (String × Json)} (keys : (members.map (·.1)).Nodup)
    {m : String × Json} (hm : m ∈ members) : lookup m.1 members = some m.2 := by
  unfold lookup
  induction members with
  | nil => cases hm
  | cons x rest ih =>
    rw [List.map_cons, List.nodup_cons] at keys
    rcases List.mem_cons.1 hm with rfl | hm
    · simp
    · have hx : (x.1 == m.1) = false := by
        rw [beq_eq_false_iff_ne]
        exact fun h => keys.1 (h ▸ List.mem_map_of_mem hm)
      simpa only [List.find?_cons, hx] using ih keys.2 hm

theorem same_self (n : Number) : n.same n = true := by
  cases n <;> simp [Number.same, Double.same]

/-- A value with distinct keys is contained in itself. -/
theorem isContained_self {j : Json} (h : j.Distinct) : j.isContained j = true := by
  induction h with
  | null => rw [isContained]
  | bool b => simp [isContained]
  | num n => simp [isContained, same_self]
  | str s => simp [isContained]
  | arr _ ih =>
    rw [isContained, itemsContained_iff, List.forall₂_same]
    exact ih
  | obj keys _ ih =>
    rw [isContained, membersContained_iff]
    intro m hm
    rw [lookup_of_mem keys hm]
    exact ih m hm

/-! ### Records -/

/-- What a record has under a key. -/
def member (key : String) (members : List (String × Option Json)) : Option Json :=
  (members.find? (·.1 == key)).bind (·.2)

/-- The members of a record are those that are there. -/
theorem mem_filterMap_iff {members : List (String × Option Json)} {m : String × Json} :
    m ∈ members.filterMap (fun m => m.2.map (m.1, ·)) ↔ (m.1, some m.2) ∈ members := by
  rw [List.mem_filterMap]
  constructor
  · rintro ⟨⟨key, _ | j⟩, hm, h⟩
    · cases h
    · cases h
      exact hm
  · exact fun hm => ⟨_, hm, rfl⟩

theorem lookup_filterMap (key : String) {members : List (String × Option Json)}
    (keys : (members.map (·.1)).Nodup) :
    lookup key (members.filterMap fun m => m.2.map (m.1, ·)) = member key members := by
  unfold lookup member
  induction members with
  | nil => rfl
  | cons x rest ih =>
    rw [List.map_cons, List.nodup_cons] at keys
    obtain ⟨k, v⟩ := x
    by_cases hk : k = key
    · have hr : rest.find? (·.1 == key) = none := by
        rw [List.find?_eq_none]
        intro y hy he
        exact keys.1 (List.mem_map.2 ⟨y, hy, (beq_iff_eq.1 he).trans hk.symm⟩)
      have hrest := ih keys.2
      rw [hr] at hrest
      cases v with
      | none => simpa [hk] using hrest
      | some j => simp [hk]
    · cases v with
      | none => simpa [hk] using ih keys.2
      | some j => simpa [hk] using ih keys.2

theorem nodup_filterMap {members : List (String × Option Json)}
    (keys : (members.map (·.1)).Nodup) :
    ((members.filterMap fun m => m.2.map (m.1, ·)).map (·.1)).Nodup := by
  have there : ((members.filterMap fun m => m.2.map (m.1, ·)).map (·.1)).Sublist
      (members.map (·.1)) := by
    clear keys
    induction members with
    | nil => exact .slnil
    | cons x rest ih =>
      obtain ⟨k, v⟩ := x
      cases v with
      | none => exact .cons k ih
      | some j => exact .cons_cons k ih
  exact there.nodup keys

/-- A record is contained in another one of which every member is satisfied. -/
theorem record_isContained_iff {wanted found : List (String × Option Json)}
    (keys : (found.map (·.1)).Nodup) :
    (record wanted).isContained (record found) = true ↔
      ∀ m ∈ wanted, ∀ j, m.2 = some j → j.fits (member m.1 found) = true := by
  rw [record, record, isContained, membersContained_iff]
  constructor
  · rintro h ⟨key, _⟩ hm j rfl
    rw [← lookup_filterMap _ keys]
    exact h (key, j) (mem_filterMap_iff.2 hm)
  · intro h m hm
    rw [lookup_filterMap _ keys]
    exact h _ (mem_filterMap_iff.1 hm) m.2 rfl

theorem member_of_mem {members : List (String × Option Json)} (keys : (members.map (·.1)).Nodup)
    {m : String × Option Json} (hm : m ∈ members) : member m.1 members = m.2 := by
  unfold member
  induction members with
  | nil => cases hm
  | cons x rest ih =>
    rw [List.map_cons, List.nodup_cons] at keys
    rcases List.mem_cons.1 hm with rfl | hm
    · simp
    · have hx : (x.1 == m.1) = false := by
        rw [beq_eq_false_iff_ne]
        exact fun h => keys.1 (h ▸ List.mem_map_of_mem hm)
      simpa only [List.find?_cons, hx] using ih keys.2 hm

/-- Whether a member that may be left out is satisfied by another one. -/
def MemberFits (wanted found : Option Json) : Prop := ∀ j, wanted = some j → j.fits found = true

/-- A record is contained in another one of the same keys, member by member. -/
theorem record_isContained {wanted found : List (String × Option Json)}
    (keys : (found.map (·.1)).Nodup)
    (each : List.Forall₂ (fun m n => m.1 = n.1 ∧ MemberFits m.2 n.2) wanted found) :
    (record wanted).isContained (record found) = true := by
  rw [record_isContained_iff keys]
  intro m hm
  obtain ⟨k, hk, rfl⟩ := List.getElem_of_mem hm
  obtain ⟨hlen, hget⟩ := List.forall₂_iff_get.1 each
  obtain ⟨hkey, hfits⟩ := hget k hk (hlen ▸ hk)
  simp only [List.get_eq_getElem] at hkey hfits
  rw [hkey, member_of_mem keys (List.getElem_mem _)]
  exact hfits

/-- Records of the same keys are contained just if their members are, one by one. -/
theorem record_isContained_iff_forall₂ {wanted found : List (String × Option Json)}
    (same : wanted.map (·.1) = found.map (·.1)) (keys : (found.map (·.1)).Nodup) :
    (record wanted).isContained (record found) = true ↔
      List.Forall₂ (fun m n => MemberFits m.2 n.2) wanted found := by
  rw [← List.forall₂_eq_eq_eq, List.forall₂_map_left_iff, List.forall₂_map_right_iff,
    List.forall₂_iff_get] at same
  obtain ⟨hlen, hkey⟩ := same
  constructor
  · intro h
    rw [record_isContained_iff keys] at h
    refine List.forall₂_iff_get.2 ⟨hlen, fun k hw hf j hj => ?_⟩
    have hfits := h _ (List.get_mem wanted ⟨k, hw⟩) j hj
    rwa [hkey k hw hf, member_of_mem keys (List.get_mem found ⟨k, hf⟩)] at hfits
  · intro h
    obtain ⟨_, hfits⟩ := List.forall₂_iff_get.1 h
    exact record_isContained keys
      (List.forall₂_iff_get.2 ⟨hlen, fun k hw hf => ⟨hkey k hw hf, hfits k hw hf⟩⟩)

/-! ### Members of records -/

/-- A record that has some member is not satisfied where nothing is. -/
theorem fits_none_of_mem {members : List (String × Option Json)} {key : String} {j : Json}
    (h : (key, some j) ∈ members) : (record members).fits none = false := by
  have hmem : (key, j) ∈ members.filterMap fun m => m.2.map (m.1, ·) := mem_filterMap_iff.2 h
  show List.isEmpty _ = false
  rw [List.isEmpty_eq_false_iff]
  exact List.ne_nil_of_mem hmem

section Members
variable {α : Type} {wanted found : List (String × Option Json)}
  (contained : (record wanted).isContained (record found) = true)
  (keys : (found.map (·.1)).Nodup) (key : String)
include contained keys

theorem fits_of_isContained {j : Json} {other : Option Json} (hw : (key, some j) ∈ wanted)
    (hf : (key, other) ∈ found) : j.fits other = true := by
  have h := (record_isContained_iff keys).1 contained _ hw j rfl
  rwa [member_of_mem keys hf] at h

theorem eq_of_isContained {a b : String} (hw : (key, some (str a)) ∈ wanted)
    (hf : (key, some (str b)) ∈ found) : a = b := by
  simpa [fits, isContained] using fits_of_isContained contained keys key hw hf

/-- A member that is not satisfied by nothing has one that contains it. -/
theorem some_of_isContained (write : α → Json) (a : α) (other : Option α)
    (needed : (write a).fits none = false) (hw : (key, some (write a)) ∈ wanted)
    (hf : (key, other.map write) ∈ found) :
    ∃ b, other = some b ∧ (write a).isContained (write b) = true := by
  have h := fits_of_isContained contained keys key hw hf
  cases other with
  | some b => exact ⟨b, rfl, h⟩
  | none => cases needed.symm.trans h

theorem str_of_isContained {a : String} {other : Option String} (hw : (key, some (str a)) ∈ wanted)
    (hf : (key, other.map str) ∈ found) : other = some a := by
  obtain ⟨b, rfl, h⟩ := some_of_isContained contained keys key str a other rfl hw hf
  rw [isContained, beq_iff_eq] at h
  rw [h]

theorem bool_of_isContained {a : Bool} {other : Option Bool} (hw : (key, some (bool a)) ∈ wanted)
    (hf : (key, other.map bool) ∈ found) : other = some a := by
  obtain ⟨b, rfl, h⟩ := some_of_isContained contained keys key bool a other rfl hw hf
  rw [isContained, beq_iff_eq] at h
  rw [h]

/-- A list has one with items that contain its own, one by one; if it is empty, there may also be
nothing. -/
theorem forall₂_of_isContained (write : α → Json) (l : List α) (other : Option (List α))
    (hw : (key, some (ofList write l)) ∈ wanted)
    (hf : (key, other.map (ofList write)) ∈ found) :
    List.Forall₂ (fun a b => (write a).isContained (write b) = true) l (other.getD []) := by
  have h := fits_of_isContained contained keys key hw hf
  cases other with
  | some found => exact ofList_isContained_iff.1 h
  | none =>
    have hempty : (l.map write).isEmpty = true := h
    rw [List.map_eq_nil_iff.1 (List.isEmpty_iff.1 hempty)]
    exact .nil

end Members

/-! ### Distinct keys of what is written -/

attribute [simp] Distinct.null Distinct.bool Distinct.num Distinct.str

/-- An optional member that has distinct keys if it is there. -/
def MemberDistinct (member : Option Json) : Prop := ∀ j, member = some j → j.Distinct

@[simp] theorem memberDistinct_some {j : Json} : MemberDistinct (some j) ↔ j.Distinct := by
  simp [MemberDistinct]

theorem memberFits_self {member : Option Json} (h : MemberDistinct member) :
    MemberFits member member := by
  rintro j rfl
  exact isContained_self (h j rfl)

@[simp] theorem memberDistinct_map {α : Type} {write : α → Json}
    (each : ∀ a, (write a).Distinct) (member : Option α) : MemberDistinct (member.map write) := by
  intro j hj
  obtain ⟨a, _, rfl⟩ := Option.map_eq_some_iff.1 hj
  exact each a

theorem distinct_record {members : List (String × Option Json)} (keys : (members.map (·.1)).Nodup)
    (each : ∀ m ∈ members, MemberDistinct m.2) : (record members).Distinct :=
  .obj (nodup_filterMap keys) fun m hm => each _ (mem_filterMap_iff.1 hm) m.2 rfl

@[simp] theorem distinct_ofList {α : Type} {write : α → Json} (each : ∀ a, (write a).Distinct)
    (l : List α) : (ofList write l).Distinct := by
  refine .arr fun j hj => ?_
  obtain ⟨a, _, rfl⟩ := List.mem_map.1 hj
  exact each a

@[simp] theorem distinct_textDict (d : Dict String) : (textDict d).Distinct := by
  refine .obj ?_ fun m hm => ?_
  · rw [List.map_map]
    exact d.nodup_keys
  · obtain ⟨e, _, rfl⟩ := List.mem_map.1 hm
    exact .str e.2

@[simp] theorem distinct_texts (l : List String) : (texts l).Distinct := distinct_ofList .str l

@[simp] theorem distinct_int32 (n : Int32) : (int32 n).Distinct := .num _

@[simp] theorem distinct_int64 (n : Int64) : (int64 n).Distinct := .num _

end ServiceBinding.Json
