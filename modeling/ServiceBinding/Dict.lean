/-!
Finite maps from text: association lists in strictly increasing key order. The order is part of
the type, so two dictionaries with the same look-ups are the same value and every listing of one
is sorted. The laws of `get?` after `insert` and `erase` are all that users of the type need.
-/
namespace ServiceBinding

/-- A finite map from text, its entries in strictly increasing key order. -/
structure Dict (α : Type) where
  /-- The entries, sorted by key. -/
  entries : List (String × α)
  sorted : entries.Pairwise (fun a b => a.1 < b.1)
deriving DecidableEq

namespace Dict
variable {α β : Type}

def empty : Dict α := ⟨[], .nil⟩

instance : EmptyCollection (Dict α) := ⟨empty⟩
instance : Inhabited (Dict α) := ⟨empty⟩

/-- The value under a key. -/
def get? (d : Dict α) (key : String) : Option α :=
  (d.entries.find? (·.1 == key)).map (·.2)

def contains (d : Dict α) (key : String) : Bool := d.entries.any (·.1 == key)

def isEmpty (d : Dict α) : Bool := d.entries.isEmpty

/-- The keys, in increasing order. -/
def keys (d : Dict α) : List String := d.entries.map (·.1)

/-- The entries of a sorted list with one set to a value. -/
def setEntry (key : String) (value : α) : List (String × α) → List (String × α)
  | [] => [(key, value)]
  | e :: rest =>
    if key < e.1 then (key, value) :: e :: rest
    else if e.1 = key then (key, value) :: rest
    else e :: setEntry key value rest

theorem mem_setEntry {key : String} {value : α} {e : String × α} {l : List (String × α)}
    (h : e ∈ setEntry key value l) : e = (key, value) ∨ e ∈ l := by
  induction l with
  | nil => simpa [setEntry] using h
  | cons x rest ih => grind [setEntry]

theorem setEntry_sorted (key : String) (value : α) {l : List (String × α)}
    (h : l.Pairwise (fun a b => a.1 < b.1)) :
    (setEntry key value l).Pairwise (fun a b => a.1 < b.1) := by
  induction l with
  | nil => simp [setEntry]
  | cons x rest ih =>
    rw [List.pairwise_cons] at h
    unfold setEntry
    split
    · rename_i lt
      refine List.pairwise_cons.2 ⟨fun e he => ?_, List.pairwise_cons.2 h⟩
      rcases List.mem_cons.1 he with rfl | he
      · exact lt
      · exact String.lt_trans lt (h.1 e he)
    · split
      · rename_i eq
        exact List.pairwise_cons.2 ⟨fun e he => eq ▸ h.1 e he, h.2⟩
      · rename_i nlt neq
        refine List.pairwise_cons.2 ⟨fun e he => ?_, ih h.2⟩
        rcases mem_setEntry he with rfl | he
        · rcases Std.lt_trichotomy x.1 key with lt | eq | gt
          · exact lt
          · exact absurd eq neq
          · exact absurd gt nlt
        · exact h.1 e he

def insert (d : Dict α) (key : String) (value : α) : Dict α :=
  ⟨setEntry key value d.entries, setEntry_sorted key value d.sorted⟩

def erase (d : Dict α) (key : String) : Dict α :=
  ⟨d.entries.filter (·.1 != key), d.sorted.filter _⟩

/-- The dictionary of a list of entries, the last one of a key winning. -/
def ofList (l : List (String × α)) : Dict α :=
  l.foldl (fun d e => d.insert e.1 e.2) empty

/-- Both dictionaries together, the second one winning where both have a key. -/
def union (a b : Dict α) : Dict α :=
  b.entries.foldl (fun d e => d.insert e.1 e.2) a

/-- Every value replaced by its image. -/
def map (f : α → β) (d : Dict α) : Dict β :=
  ⟨d.entries.map fun e => (e.1, f e.2), by
    refine List.pairwise_map.2 (d.sorted.imp ?_)
    exact fun h => h⟩

/-! ### Look-ups -/

theorem ext {a b : Dict α} (h : a.entries = b.entries) : a = b := by
  cases a
  cases b
  simp_all

@[simp] theorem get?_empty (key : String) : (empty : Dict α).get? key = none := rfl

theorem find?_setEntry (k key : String) (value : α) (l : List (String × α)) :
    (setEntry k value l).find? (·.1 == key) =
      if key = k then some (k, value) else l.find? (·.1 == key) := by
  induction l with
  | nil => grind [setEntry]
  | cons x rest ih => grind [setEntry]

theorem get?_insert (d : Dict α) (k key : String) (value : α) :
    (d.insert k value).get? key = if key = k then some value else d.get? key := by
  simp only [get?, insert, find?_setEntry]
  split <;> rfl

@[simp] theorem get?_insert_self (d : Dict α) (key : String) (value : α) :
    (d.insert key value).get? key = some value := by
  simp [get?_insert]

theorem get?_erase (d : Dict α) (k key : String) :
    (d.erase k).get? key = if key = k then none else d.get? key := by
  obtain ⟨l, h⟩ := d
  simp only [erase, get?]
  clear h
  induction l with
  | nil => simp
  | cons x rest ih => grind

/-! ### Entries -/

theorem nodup_keys (d : Dict α) : (d.entries.map (·.1)).Nodup := by
  refine List.pairwise_map.2 (d.sorted.imp ?_)
  intro a b h e
  exact String.lt_irrefl _ (e ▸ h)

theorem get?_eq_some_iff {d : Dict α} {key : String} {value : α} :
    d.get? key = some value ↔ (key, value) ∈ d.entries := by
  obtain ⟨l, h⟩ := d
  simp only [get?]
  induction l with
  | nil => simp
  | cons x rest ih =>
    rw [List.pairwise_cons] at h
    by_cases hx : x.1 = key
    · have hne : (key, value) ∉ rest := fun hv => String.lt_irrefl x.1 (hx ▸ h.1 _ hv)
      rw [List.find?_cons_of_pos (by simpa using hx), List.mem_cons]
      simp only [Option.map_some, Option.some.injEq, hne, or_false]
      exact ⟨fun e => Prod.ext hx.symm e.symm, fun e => (congrArg Prod.snd e).symm⟩
    · rw [List.find?_cons_of_neg (by simpa using hx), ih h.2, List.mem_cons]
      exact ⟨Or.inr, fun e => e.resolve_left fun e => hx (congrArg Prod.fst e).symm⟩

theorem nodup_entries (d : Dict α) : d.entries.Nodup := by
  refine d.sorted.imp ?_
  intro a b h e
  exact String.lt_irrefl _ (e ▸ h)

theorem mem_of_mem_foldl_insert {d : Dict α} {l : List (String × α)} {e : String × α}
    (h : e ∈ (l.foldl (fun d e => d.insert e.1 e.2) d).entries) : e ∈ l ∨ e ∈ d.entries := by
  induction l generalizing d with
  | nil => exact .inr h
  | cons x rest ih =>
    rcases ih h with hrest | hd
    · exact .inl (List.mem_cons_of_mem _ hrest)
    · exact (mem_setEntry hd).imp (fun hx => List.mem_cons.2 (.inl hx)) id

/-- Dictionaries with the same look-ups are the same. -/
theorem ext_get? {a b : Dict α} (h : ∀ key, a.get? key = b.get? key) : a = b := by
  have hm : ∀ e, e ∈ a.entries ↔ e ∈ b.entries := fun e => by
    rw [← get?_eq_some_iff, ← get?_eq_some_iff, h]
  have hp : a.entries.Perm b.entries :=
    (List.perm_ext_iff_of_nodup a.nodup_entries b.nodup_entries).2 hm
  exact ext (hp.eq_of_pairwise (fun _ _ _ _ hab hba => absurd hab (String.lt_asymm hba))
    a.sorted b.sorted)

/-- Setting a key to the value that it has changes nothing. -/
theorem insert_of_get? {d : Dict α} {key : String} {value : α} (h : d.get? key = some value) :
    d.insert key value = d := by
  apply ext_get?
  intro key'
  rw [get?_insert]
  split
  · next he => rw [he, h]
  · rfl

theorem get?_foldl_insert (d : Dict α) (key : String) {l : List (String × α)}
    (hd : (l.map (·.1)).Nodup) :
    (l.foldl (fun d e => d.insert e.1 e.2) d).get? key =
      ((l.find? (·.1 == key)).map (·.2)).or (d.get? key) := by
  induction l generalizing d with
  | nil => rfl
  | cons e rest ih =>
    rw [List.map_cons, List.nodup_cons] at hd
    rw [List.foldl_cons, ih _ hd.2, get?_insert]
    by_cases he : e.1 = key
    · have hr : rest.find? (·.1 == key) = none := by
        rw [List.find?_eq_none]
        intro x hx hk
        exact hd.1 (List.mem_map.2 ⟨x, hx, (beq_iff_eq.1 hk).trans he.symm⟩)
      simp [hr, he]
    · rw [List.find?_cons_of_neg (by simpa using he), if_neg (Ne.symm he)]

theorem get?_union (a b : Dict α) (key : String) :
    (a.union b).get? key = (b.get? key).or (a.get? key) :=
  get?_foldl_insert a key b.nodup_keys

theorem get?_map (f : α → β) (d : Dict α) (key : String) :
    (d.map f).get? key = (d.get? key).map f := by
  simp only [get?, map, List.find?_map, Option.map_map]
  rfl

theorem isEmpty_iff {d : Dict α} : d.isEmpty = true ↔ d = {} := by
  rw [isEmpty, List.isEmpty_iff]
  exact ⟨fun h => ext h, fun h => h ▸ rfl⟩

theorem union_self (d : Dict α) : d.union d = d := by
  apply ext_get?
  intro key
  rw [get?_union]
  cases d.get? key <;> rfl

theorem union_union_self (a b : Dict α) : (a.union b).union b = a.union b := by
  apply ext_get?
  intro key
  rw [get?_union, get?_union]
  cases b.get? key <;> rfl

end Dict

end ServiceBinding
