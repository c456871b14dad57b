import ServiceBinding.Json.Rest
import ServiceBinding.Proofs.Json.Containment

/-!
The theory of members that are kept as they are. Written among the members of a structure they can
be told from them by their names (`forall_merged_iff`), so a record with such members is contained
in another one of the same structure just if the members of the structure are and those kept are
(`recordWith_isContained_iff`).
-/
namespace ServiceBinding.Json
variable {names : List String}

/-! ### Distinct keys -/

mutual
theorem distinct_of_isDistinct : ∀ {j : Json}, j.isDistinct = true → j.Distinct
  | .null, _ => .null
  | .bool b, _ => .bool b
  | .num n, _ => .num n
  | .str s, _ => .str s
  | .arr _, h => .arr (distinct_of_itemsDistinct h)
  | .obj members, h => by
    rw [isDistinct, Bool.and_eq_true, decide_eq_true_iff] at h
    exact .obj h.1 (distinct_of_membersDistinct h.2)

theorem distinct_of_itemsDistinct : ∀ {items : List Json}, itemsDistinct items = true →
    ∀ j ∈ items, j.Distinct
  | [], _ => nofun
  | j :: rest, h => by
    rw [itemsDistinct, Bool.and_eq_true] at h
    exact List.forall_mem_cons.2 ⟨distinct_of_isDistinct h.1, distinct_of_itemsDistinct h.2⟩

theorem distinct_of_membersDistinct : ∀ {members : List (String × Json)},
    membersDistinct members = true → ∀ m ∈ members, m.2.Distinct
  | [], _ => nofun
  | (_, j) :: rest, h => by
    rw [membersDistinct, Bool.and_eq_true] at h
    exact List.forall_mem_cons.2 ⟨distinct_of_isDistinct h.1, distinct_of_membersDistinct h.2⟩
end

theorem Rest.distinct_toJson (r : Rest names) : r.toJson.Distinct :=
  .obj r.members.nodup_keys fun m hm => distinct_of_isDistinct (r.distinct m hm)

/-! ### Look-ups -/

theorem Rest.get?_eq_none (r : Rest names) {key : String} (other : key ∉ names) :
    r.members.get? key = none := by
  rw [Option.eq_none_iff_forall_ne_some]
  exact fun j hj => other (r.named _ (Dict.get?_eq_some_iff.1 hj))

theorem member_eq_none {members : List (String × Option Json)} {key : String}
    (other : key ∉ members.map (·.1)) : member key members = none := by
  have hnone : members.find? (·.1 == key) = none :=
    List.find?_eq_none.2 fun m hm he => other (beq_iff_eq.1 he ▸ List.mem_map_of_mem hm)
  rw [member, hnone, Option.bind_none]

theorem mem_of_member {members : List (String × Option Json)} {key : String} {j : Json}
    (h : member key members = some j) : (key, some j) ∈ members := by
  obtain ⟨m, hm, hj⟩ := Option.bind_eq_some_iff.1 h
  have hkey := List.find?_some hm
  rw [beq_iff_eq] at hkey
  obtain rfl : m = (key, some j) := Prod.ext hkey hj
  exact List.mem_of_find?_eq_some hm

section Merged
variable (rest : Rest names) {members : List (String × Option Json)}
  (keys : (members.map (·.1)).Nodup)
include keys

theorem get?_merged (key : String) :
    (rest.merged members).get? key = (member key members).or (rest.members.get? key) := by
  rw [Rest.merged, Dict.get?_foldl_insert _ _ (nodup_filterMap keys), ← lookup_filterMap key keys]
  rfl

/-- A name of the structure finds the structure's own member. -/
theorem get?_merged_of_not_mem {key : String} (other : key ∉ names) :
    (rest.merged members).get? key = member key members := by
  rw [get?_merged rest keys, rest.get?_eq_none other, Option.or_none]

/-- A name of those kept finds what is kept. -/
theorem get?_merged_of_mem (apart : ∀ key ∈ members.map (·.1), key ∉ names) {key : String}
    (kept : key ∈ names) : (rest.merged members).get? key = rest.members.get? key := by
  rw [get?_merged rest keys, member_eq_none fun h => apart key h kept, Option.none_or]

end Merged

theorem distinct_recordWith {rest : Rest names} {members : List (String × Option Json)}
    (each : ∀ m ∈ members, MemberDistinct m.2) : (recordWith rest members).Distinct := by
  refine .obj (rest.merged members).nodup_keys fun m hm => ?_
  rcases Dict.mem_of_mem_foldl_insert hm with hm | hm
  · exact each _ (mem_filterMap_iff.1 hm) m.2 rfl
  · exact distinct_of_isDistinct (rest.distinct m hm)

/-- A record that has some member of its own is not satisfied where nothing is. -/
theorem recordWith_fits_none {rest : Rest names} {members : List (String × Option Json)}
    (keys : (members.map (·.1)).Nodup) {key : String} {j : Json} (h : (key, some j) ∈ members) :
    (recordWith rest members).fits none = false := by
  have hget : (rest.merged members).get? key = some j := by
    rw [get?_merged rest keys, member_of_mem keys h, Option.some_or]
  show List.isEmpty _ = false
  rw [List.isEmpty_eq_false_iff]
  exact List.ne_nil_of_mem (Dict.get?_eq_some_iff.1 hget)

/-! ### Containment -/

section Contained
variable {rest rest' : Rest names} {wanted found : List (String × Option Json)}
  (same : wanted.map (·.1) = found.map (·.1)) (keys : (found.map (·.1)).Nodup)
  (apart : ∀ key ∈ found.map (·.1), key ∉ names)
include same keys apart

/-- What relates each member of a record to what another one has under its name relates the members
of the structure, and those kept, each among themselves. -/
theorem forall_merged_iff (fit : Json → Option Json → Prop) :
    (∀ m ∈ (rest.merged wanted).entries, fit m.2 (lookup m.1 (rest'.merged found).entries)) ↔
      (∀ m ∈ wanted, ∀ j, m.2 = some j → fit j (member m.1 found)) ∧
        ∀ m ∈ rest.members.entries, fit m.2 (lookup m.1 rest'.members.entries) := by
  have keysWanted : (wanted.map (·.1)).Nodup := same ▸ keys
  have apartWanted : ∀ key ∈ wanted.map (·.1), key ∉ names := same ▸ apart
  constructor
  · intro h
    refine ⟨fun m hm j hj => ?_, fun m hm => ?_⟩
    · have other : m.1 ∉ names := apartWanted _ (List.mem_map_of_mem hm)
      have hget : (rest.merged wanted).get? m.1 = some j := by
        rw [get?_merged_of_not_mem rest keysWanted other, member_of_mem keysWanted hm, hj]
      have hfit := h _ (Dict.get?_eq_some_iff.1 hget)
      rwa [show lookup m.1 _ = _ from get?_merged_of_not_mem rest' keys other] at hfit
    · have kept := rest.named m hm
      have hget : (rest.merged wanted).get? m.1 = some m.2 := by
        rw [get?_merged_of_mem rest keysWanted apartWanted kept]
        exact Dict.get?_eq_some_iff.2 hm
      have hfit := h _ (Dict.get?_eq_some_iff.1 hget)
      rwa [show lookup m.1 _ = _ from get?_merged_of_mem rest' keys apart kept] at hfit
  · intro ⟨own, kept⟩ m hm
    have hget := Dict.get?_eq_some_iff.2 hm
    by_cases hname : m.1 ∈ names
    · rw [get?_merged_of_mem rest keysWanted apartWanted hname] at hget
      rw [show lookup m.1 _ = _ from get?_merged_of_mem rest' keys apart hname]
      exact kept _ (Dict.get?_eq_some_iff.1 hget)
    · rw [get?_merged_of_not_mem rest keysWanted hname] at hget
      rw [show lookup m.1 _ = _ from get?_merged_of_not_mem rest' keys hname]
      exact own _ (mem_of_member hget) m.2 rfl

/-- A record with members kept as they are is contained in another one just if its own members are,
and those kept. -/
theorem recordWith_isContained_iff :
    (recordWith rest wanted).isContained (recordWith rest' found) = true ↔
      (record wanted).isContained (record found) = true ∧
        rest.toJson.isContained rest'.toJson = true := by
  rw [recordWith, recordWith, Rest.toJson, Rest.toJson, isContained, isContained,
    membersContained_iff, membersContained_iff, record_isContained_iff keys]
  exact forall_merged_iff same keys apart fun j other => j.fits other = true

end Contained

/-- Members kept as they are, are contained in others name by name. -/
theorem Rest.isContained_iff {rest rest' : Rest names} :
    rest.toJson.isContained rest'.toJson = true ↔
      ∀ name ∈ names, MemberFits (rest.members.get? name) (rest'.members.get? name) := by
  rw [toJson, toJson, isContained, membersContained_iff]
  constructor
  · intro h name _ j hj
    exact h (name, j) (Dict.get?_eq_some_iff.1 hj)
  · intro h m hm
    exact h m.1 (rest.named m hm) m.2 (Dict.get?_eq_some_iff.2 hm)

end ServiceBinding.Json
