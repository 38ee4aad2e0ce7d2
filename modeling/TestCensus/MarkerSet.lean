/-!
# Sets of markers

The markers of a test are a set of category names, shown in ascending order.
`MarkerSet` is the ascending list itself with the proof that it ascends, so two
sets with the same members are equal and the order of a report needs no sorting.
Names are ordered by their characters' code points.
-/

namespace TestCensus

/-- Puts a name into an ascending list unless it is there already. -/
def insertAscending (name : String) : List String → List String
  | [] => [name]
  | other :: rest =>
      if name < other then name :: other :: rest
      else if name = other then other :: rest
      else other :: insertAscending name rest

theorem mem_insertAscending {name x : String} {names : List String} :
    x ∈ insertAscending name names ↔ x = name ∨ x ∈ names := by
  induction names with
  | nil => simp [insertAscending]
  | cons other rest ih =>
      simp only [insertAscending]
      split
      · simp
      · split
        · rename_i h
          subst h
          simp
        · simp only [List.mem_cons, ih]
          constructor
          · rintro (h | h | h) <;> simp [h]
          · rintro (h | h | h) <;> simp [h]

theorem insertAscending_pairwise {name : String} {names : List String}
    (h : names.Pairwise (· < ·)) : (insertAscending name names).Pairwise (· < ·) := by
  induction names with
  | nil => simp [insertAscending]
  | cons other rest ih =>
      have hhead := (List.pairwise_cons.1 h).1
      have hrest := (List.pairwise_cons.1 h).2
      simp only [insertAscending]
      split
      · rename_i hlt
        refine List.pairwise_cons.2 ⟨?_, h⟩
        intro x hx
        rcases List.mem_cons.1 hx with rfl | hx
        · exact hlt
        · exact String.lt_trans hlt (hhead x hx)
      · split
        · exact h
        · rename_i hnlt hne
          refine List.pairwise_cons.2 ⟨?_, ih hrest⟩
          intro x hx
          rcases mem_insertAscending.1 hx with rfl | hx
          · have hle : other ≤ x := String.not_lt.1 hnlt
            exact String.not_le.1 fun hge => hne (String.le_antisymm hge hle)
          · exact hhead x hx

/-- A set of marker names, as an ascending list. -/
structure MarkerSet where
  /-- The names, in ascending order. -/
  names : List String
  /-- The list ascends strictly. -/
  ascending : names.Pairwise (· < ·)
deriving DecidableEq

namespace MarkerSet

/-- The set without members. -/
def empty : MarkerSet := ⟨[], List.Pairwise.nil⟩

instance : EmptyCollection MarkerSet := ⟨empty⟩

instance : Inhabited MarkerSet := ⟨∅⟩

/-- The set with one more name. -/
def insert (s : MarkerSet) (name : String) : MarkerSet :=
  ⟨insertAscending name s.names, insertAscending_pairwise s.ascending⟩

/-- The set with all names of a list. -/
def insertAll (s : MarkerSet) (names : List String) : MarkerSet := names.foldl insert s

/-- The set of the names of a list. -/
def ofList (names : List String) : MarkerSet := (∅ : MarkerSet).insertAll names

/-- No name is in the set. -/
def isEmpty (s : MarkerSet) : Bool := s.names.isEmpty

instance : Membership String MarkerSet := ⟨fun s name => name ∈ s.names⟩

/-- No name is listed twice. -/
theorem nodup (s : MarkerSet) : s.names.Nodup := s.ascending.imp String.ne_of_lt

theorem isEmpty_eq_false {s : MarkerSet} : s.isEmpty = false ↔ ∃ name, name ∈ s.names := by
  rw [isEmpty, List.isEmpty_eq_false_iff_exists_mem]

theorem mem_def {s : MarkerSet} {name : String} : name ∈ s ↔ name ∈ s.names := Iff.rfl

@[simp] theorem not_mem_empty {name : String} : ¬name ∈ (∅ : MarkerSet) := List.not_mem_nil

@[simp] theorem mem_insert {s : MarkerSet} {name x : String} :
    x ∈ s.insert name ↔ x = name ∨ x ∈ s := mem_insertAscending

@[simp] theorem mem_insertAll {s : MarkerSet} {names : List String} {x : String} :
    x ∈ s.insertAll names ↔ x ∈ names ∨ x ∈ s := by
  induction names generalizing s with
  | nil => simp [insertAll]
  | cons name rest ih =>
      have h : s.insertAll (name :: rest) = (s.insert name).insertAll rest := rfl
      rw [h, ih, mem_insert, List.mem_cons]
      constructor
      · rintro (h | h | h) <;> simp [h]
      · rintro ((h | h) | h) <;> simp [h]

@[simp] theorem mem_ofList {names : List String} {x : String} :
    x ∈ ofList names ↔ x ∈ names := by simp [ofList]

end MarkerSet

end TestCensus
