/-!
Searching a text for another: prefixes and suffixes, the first occurrence, and splitting at every
occurrence. An empty separator splits before and after every character.
-/
namespace ServiceBinding.Text

/-- What follows `start` in a list that begins with it. -/
def after? [BEq α] : (start s : List α) → Option (List α)
  | [], s => some s
  | _ :: _, [] => none
  | a :: start, b :: s => if a == b then after? start s else none

/-- What stands before and after the first occurrence of `sep`. -/
def cut? [BEq α] (sep : List α) : List α → Option (List α × List α)
  | [] => if sep.isEmpty then some ([], []) else none
  | a :: s =>
    match after? sep (a :: s) with
    | some rest => some ([], rest)
    | none => (cut? sep s).map fun parts => (a :: parts.1, parts.2)

def occurs [BEq α] (sep s : List α) : Bool := (cut? sep s).isSome

theorem length_of_after? [BEq α] {start s rest : List α} (h : after? start s = some rest) :
    s.length = start.length + rest.length := by
  induction start generalizing s with
  | nil => simp_all [after?]
  | cons a start ih =>
    cases s with
    | nil => simp [after?] at h
    | cons b s =>
      simp only [after?] at h
      split at h
      · have := ih h
        simp only [List.length_cons]
        omega
      · contradiction

theorem length_of_cut? [BEq α] {sep s : List α} {parts : List α × List α}
    (h : cut? sep s = some parts) : s.length = parts.1.length + sep.length + parts.2.length := by
  induction s generalizing parts with
  | nil =>
    simp only [cut?] at h
    split at h <;> simp_all
    simp [← h]
  | cons a s ih =>
    simp only [cut?] at h
    split at h
    · rename_i rest hr
      have := length_of_after? hr
      simp only [Option.some.injEq] at h
      simpa [← h] using this
    · obtain ⟨p, hp, e⟩ := Option.map_eq_some_iff.1 h
      have := ih hp
      simp only [← e, List.length_cons]
      omega

/-- The pieces of a list between the occurrences of a non-empty separator. -/
def splitPieces [BEq α] (a : α) (sep : List α) (s : List α) : List (List α) :=
  match h : cut? (a :: sep) s with
  | none => [s]
  | some (before, rest) =>
    have : rest.length < s.length := by
      have := length_of_cut? h
      simp only [List.length_cons] at this
      omega
    before :: splitPieces a sep rest
termination_by s.length

/-- The pieces of a text between the occurrences of a separator; an empty separator occurs before
and after every character. -/
def split (s sep : String) : List String :=
  match sep.toList with
  | [] => [""] ++ s.toList.map (fun c => String.ofList [c]) ++ [""]
  | a :: rest => (splitPieces a rest s.toList).map String.ofList

def startsWith (s start : String) : Bool := (after? start.toList s.toList).isSome

def endsWith (s ending : String) : Bool :=
  (after? ending.toList.reverse s.toList.reverse).isSome

/-- What stands before and after the first occurrence of a character. -/
def cutAt? (c : Char) (s : String) : Option (String × String) :=
  (cut? [c] s.toList).map fun parts => (String.ofList parts.1, String.ofList parts.2)

end ServiceBinding.Text
