import ServiceBinding.Json.Decode

/-!
Members of records that are kept as they are. A record that is read into a structure has some
members that nothing looks into: they are only stored, compared and written again. They are held
as JSON values under the names that the record may have (`Rest`), none of them null and each object
in them with every key once, and take their places among the members of the structure when it is
written (`recordWith`). Their own types are not checked when the record is read, and a member under
any other name is dropped.
-/
namespace ServiceBinding.Json

mutual
/-- Whether each object in a value has every key once. -/
def isDistinct : Json → Bool
  | .arr items => itemsDistinct items
  | .obj members => decide (members.map (·.1)).Nodup && membersDistinct members
  | _ => true

def itemsDistinct : List Json → Bool
  | [] => true
  | j :: rest => isDistinct j && itemsDistinct rest

def membersDistinct : List (String × Json) → Bool
  | [] => true
  | (_, j) :: rest => isDistinct j && membersDistinct rest
end

/-- Members kept as they are, under some of the names. -/
structure Rest (names : List String) where
  members : Dict Json
  named : ∀ m ∈ members.entries, m.1 ∈ names := by decide +kernel
  given : ∀ m ∈ members.entries, m.2.isNull = false := by decide +kernel
  distinct : ∀ m ∈ members.entries, m.2.isDistinct = true := by decide +kernel
deriving DecidableEq

variable {names : List String}

def Rest.empty : Rest names := ⟨{}, nofun, nofun, nofun⟩

def Rest.toJson (r : Rest names) : Json := .obj r.members.entries

/-- The members of a record that are there, with those kept as they are in their places. -/
def Rest.merged (rest : Rest names) (members : List (String × Option Json)) : Dict Json :=
  (members.filterMap fun m => m.2.map (m.1, ·)).foldl (fun d m => d.insert m.1 m.2) rest.members

def recordWith (rest : Rest names) (members : List (String × Option Json)) : Json :=
  .obj (rest.merged members).entries

/-- Those of the members that are there under the names; null counts as missing. -/
def present (names : List String) (m : Members) : List (String × Json) :=
  names.filterMap fun name => ((m name).filter (!·.isNull)).map (name, ·)

theorem of_mem_present {m : Members} {x : String × Json}
    (h : x ∈ (Dict.ofList (present names m)).entries) : x.1 ∈ names ∧ x.2.isNull = false := by
  obtain ⟨name, hname, hx⟩ := List.mem_filterMap.1 ((Dict.mem_of_mem_foldl_insert h).resolve_right
    List.not_mem_nil)
  obtain ⟨j, hj, rfl⟩ := Option.map_eq_some_iff.1 hx
  exact ⟨hname, by simpa using (Option.filter_eq_some_iff.1 hj).2⟩

/-- The members under the names as they are; none where an object in them has a key twice. -/
def rest? (names : List String) (m : Members) : Option (Rest names) :=
  let members := Dict.ofList (present names m)
  if distinct : ∀ x ∈ members.entries, x.2.isDistinct = true then
    some ⟨members, fun _ hx => (of_mem_present hx).1, fun _ hx => (of_mem_present hx).2, distinct⟩
  else none

end ServiceBinding.Json
