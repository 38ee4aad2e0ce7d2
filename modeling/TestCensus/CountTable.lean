import TestCensus.Number.Count

/-!
# Tables of counts

A table gives each of its names one count.  It is a list of entries in ascending
order of the names, which is the order in which tables are shown.
-/

namespace TestCensus

/-- Names with their counts, in ascending order of the names. -/
abbrev CountTable := List (String × Count)

namespace CountTable

/-- The table in which a name has the given count. -/
def put (name : String) (count : Count) : CountTable → CountTable
  | [] => [(name, count)]
  | (other, c) :: rest =>
      if name < other then (name, count) :: (other, c) :: rest
      else if name = other then (name, count) :: rest
      else (other, c) :: put name count rest

/-- The table with all entries of a list put in, later ones over earlier ones. -/
def putAll (entries : List (String × Count)) (t : CountTable) : CountTable :=
  entries.foldl (fun t e => t.put e.1 e.2) t

/-- The table of a function on names. -/
def ofNames (names : List String) (f : String → Count) : CountTable :=
  putAll (names.map fun n => (n, f n)) []

/-- The table in which the count of a name is larger, if the table has the name. -/
def raise (name : String) (more : Count) (t : CountTable) : CountTable :=
  t.map fun e => if e.1 = name then (e.1, e.2 + more) else e

/-- The table in which the counts of several names are larger, as far as the table
has them. -/
def raiseAll (names : List String) (more : Count) (t : CountTable) : CountTable :=
  names.foldl (fun t name => t.raise name more) t

/-- The count of a name, if the table has the name. -/
def get? (t : CountTable) (name : String) : Option Count := t.lookup name

/-- The count of a name, or zero. -/
def countOf (t : CountTable) (name : String) : Count := (t.get? name).getD 0

/-- Raising several names, each of them once, raises their entries and no others. -/
theorem raiseAll_eq_map {names : List String} (hnames : names.Nodup) (more : Count)
    (t : CountTable) :
    t.raiseAll names more = t.map fun e => if e.1 ∈ names then (e.1, e.2 + more) else e := by
  unfold raiseAll
  induction names generalizing t with
  | nil => simp
  | cons name rest ih =>
      obtain ⟨hname, hrest⟩ := List.nodup_cons.1 hnames
      rw [List.foldl_cons, ih hrest, raise, List.map_map]
      refine List.map_congr_left fun e _ => ?_
      rw [Function.comp_apply]
      by_cases he : e.1 = name
      · subst he
        simp [hname]
      · simp [he]

/-- Raising keeps the names of a table. -/
theorem raiseAll_names (names : List String) (more : Count) (t : CountTable) :
    (t.raiseAll names more).map Prod.fst = t.map Prod.fst := by
  unfold raiseAll
  induction names generalizing t with
  | nil => rfl
  | cons name rest ih =>
      rw [List.foldl_cons, ih, raise, List.map_map]
      refine List.map_congr_left fun e _ => ?_
      rw [Function.comp_apply]
      split <;> rfl

theorem get?_eq_some_mem {t : CountTable} {name : String} {count : Count}
    (h : t.get? name = some count) : (name, count) ∈ t := by
  obtain ⟨before, after, rfl, -⟩ := List.lookup_eq_some_iff.1 h
  simp

theorem exists_get? {t : CountTable} {name : String} (h : name ∈ t.map Prod.fst) :
    ∃ count, t.get? name = some count := by
  obtain ⟨e, he, rfl⟩ := List.mem_map.1 h
  exact Option.isSome_iff_exists.1 (List.lookup_isSome_iff.2 ⟨e, he, by simp⟩)

theorem get?_cons (first : String) (count : Count) (rest : CountTable) (name : String) :
    get? ((first, count) :: rest) name = if name = first then some count else get? rest name := by
  unfold get?
  by_cases h : name = first
  · subst h
    rw [List.lookup_cons_self, if_pos rfl]
  · rw [List.lookup_cons, beq_false_of_ne h, if_neg h]

/-- Putting in a count changes what the table says of one name. -/
theorem get?_put (t : CountTable) (name other : String) (count : Count) :
    (t.put name count).get? other = if other = name then some count else t.get? other := by
  induction t with
  | nil => exact get?_cons name count [] other
  | cons e rest ih =>
      obtain ⟨first, c⟩ := e
      unfold put
      split
      · exact get?_cons name count _ other
      · split
        · rename_i hfirst
          subst hfirst
          rw [get?_cons, get?_cons]
          split <;> rfl
        · rename_i hfirst
          rw [get?_cons, get?_cons, ih]
          by_cases h : other = first
          · subst h
            rw [if_pos rfl, if_pos rfl, if_neg (Ne.symm hfirst)]
          · rw [if_neg h, if_neg h]

/-- A name that is put in several times with one count has that count. -/
theorem get?_putAll_map {names : List String} {f : String → Count} {t : CountTable} {name : String}
    (h : name ∈ names ∨ t.get? name = some (f name)) :
    (t.putAll (names.map fun n => (n, f n))).get? name = some (f name) := by
  unfold putAll
  induction names generalizing t with
  | nil => exact h.resolve_left nofun
  | cons first rest ih =>
      rw [List.map_cons, List.foldl_cons]
      refine ih ?_
      rw [get?_put]
      rcases h with hmem | hget
      · rcases List.mem_cons.1 hmem with rfl | hrest
        · exact .inr (if_pos rfl)
        · exact .inl hrest
      · right
        split
        · rename_i hfirst
          rw [hfirst]
        · exact hget

/-- Putting in a count for a name that a table in order has keeps its names. -/
theorem put_names {t : CountTable} (ht : (t.map Prod.fst).Pairwise (· < ·)) {name : String}
    (h : name ∈ t.map Prod.fst) (count : Count) :
    (t.put name count).map Prod.fst = t.map Prod.fst := by
  induction t with
  | nil => cases h
  | cons e rest ih =>
      obtain ⟨first, c⟩ := e
      obtain ⟨hfirst, hrest⟩ := List.pairwise_cons.1 ht
      unfold put
      rcases List.mem_cons.1 h with rfl | hmem
      · rw [if_neg (String.lt_irrefl _), if_pos rfl]
        rfl
      · have hlt := hfirst name hmem
        have hne : name ≠ first := by
          rintro rfl
          exact String.lt_irrefl _ hlt
        rw [if_neg (String.lt_asymm hlt), if_neg hne, List.map_cons, ih hrest hmem]
        rfl

theorem putAll_names {t : CountTable} (ht : (t.map Prod.fst).Pairwise (· < ·))
    {entries : List (String × Count)} (h : ∀ e ∈ entries, e.1 ∈ t.map Prod.fst) :
    (t.putAll entries).map Prod.fst = t.map Prod.fst := by
  unfold putAll
  induction entries generalizing t with
  | nil => rfl
  | cons e rest ih =>
      have hput := put_names ht (h e (.head _)) e.2
      rw [List.foldl_cons, ih (hput ▸ ht) fun x hx => hput ▸ h x (.tail _ hx), hput]

end CountTable

end TestCensus
