import ServiceBinding.Proofs.Json.Containment

/-!
Typed readings undo typed writings. A record is read member by member, in whatever place a member
stands (`ordered?_record`); a member that is left out when it has the value of a missing one is read
as that value (`defaulted_unless`).
-/
namespace ServiceBinding

namespace Dict
variable {α : Type}

/-- A dictionary is made of its own entries. -/
theorem ofList_entries (d : Dict α) : ofList d.entries = d := by
  apply ext_get?
  intro key
  rw [ofList, get?_foldl_insert _ _ d.nodup_keys, get?_empty, Option.or_none]
  rfl

end Dict

namespace Json
variable {α : Type} {read : Json → Option α} {write : α → Json}

/-- Whether a reading gives back every value that has been written. -/
def Undoes (read : Json → Option α) (write : α → Json) : Prop := ∀ a, read (write a) = some a

theorem undoes_str : Undoes text? str := fun _ => rfl

theorem undoes_int32 : Undoes int32? int32 := by
  intro n
  have hbounds : Int32.minValue.toInt ≤ n.toInt ∧ n.toInt ≤ Int32.maxValue.toInt :=
    ⟨n.minValue_le_toInt, n.toInt_le⟩
  show (if _ then some (Int32.ofInt n.toInt) else none) = some n
  rw [if_pos hbounds, Int32.ofInt_toInt]

theorem mapM_of_undoes {α β : Type} {f : β → Option α} {g : α → β} (h : ∀ a, f (g a) = some a)
    (l : List α) : (l.map g).mapM f = some l := by
  induction l with
  | nil => rfl
  | cons a rest ih =>
    rw [List.map_cons, List.mapM_cons, h a, ih]
    rfl

theorem Undoes.ofList (h : Undoes read write) : Undoes (list? read) (ofList write) :=
  mapM_of_undoes h

theorem Undoes.ofDict (h : Undoes read write) : Undoes (dict? read) (ofDict write) := by
  intro d
  have hmembers : readMembers? read (d.entries.map fun e => (e.1, write e.2)) = some d.entries :=
    mapM_of_undoes (fun e => by rw [h e.2]; rfl) d.entries
  show (readMembers? read _ >>= fun l => some (Dict.ofList l)) = some d
  rw [hmembers]
  exact congrArg some d.ofList_entries

/-! ### Members -/

theorem required_some (h : Undoes read write) (a : α) :
    required read (some (write a)) = some a := h a

theorem defaulted_some (h : Undoes read write) (fallback a : α) :
    defaulted read fallback (some (write a)) = some a := h a

theorem optional_map (h : Undoes read write) (filled : ∀ a, write a ≠ null) (member : Option α) :
    optional read (member.map write) = some member := by
  cases member with
  | none => rfl
  | some a =>
    have hread : (read (write a)).map some = some (some a) := congrArg (Option.map some) (h a)
    rw [Option.map_some, optional]
    · exact hread
    · exact filled a

/-- A member that is left out only if it has the value of a missing one loses nothing. -/
theorem defaulted_unless (h : Undoes read write) {p : Prop} [Decidable p] {fallback a : α}
    (standard : p → a = fallback) :
    defaulted read fallback (if p then none else some (write a)) = some a := by
  split
  · next hp => exact congrArg some (standard hp).symm
  · exact h a

/-- A record is read by its members, in whatever places they stand. -/
theorem ordered?_record (names : List String) {members : List (String × Option Json)}
    (keys : (members.map (·.1)).Nodup) :
    ordered? names (record members) = some fun key => member key members :=
  congrArg some (funext fun key => lookup_filterMap key keys)

end Json

end ServiceBinding
