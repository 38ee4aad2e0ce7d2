import TestCensus.Files.Tree

/-!
# Joined paths

What is joined to a path adds its pieces to those of the path, whether or not the path ends with a
slash (`pieces_join`).  So a path begins with the components of the directory that it is joined to
(`prefix_components_join`), and since the name of an entry is a single piece (`isEntryName`), an
entry adds one component (`components_join`).  Which directory a path starts from makes no
difference to that (`join_join`).

The pieces that lead somewhere are those that are a component, but for a dot at the beginning
(`filterMap_pieces`).
-/

namespace TestCensus.Files

open TestCensus.Text

/-! ## Names of entries -/

/-- A directory may have an entry of that name. -/
def isEntryName (name : String) : Bool :=
  Component.ofInner? name.toList == some (.name name) && !name.toList.contains '/' &&
    !name.toList.contains '\x00' && decide ((keptBytes name).length ≤ nameLimit)

section Names

variable {name : String}

theorem ofInner?_of_isEntryName (h : isEntryName name = true) :
    Component.ofInner? name.toList = some (.name name) := by
  simp only [isEntryName, Bool.and_eq_true, beq_iff_eq] at h
  exact h.1.1.1

theorem slash_not_mem_of_isEntryName (h : isEntryName name = true) : '/' ∉ name.toList := by
  simp only [isEntryName, Bool.and_eq_true, Bool.not_eq_true', List.contains_eq_mem,
    decide_eq_false_iff_not] at h
  exact h.1.1.2

theorem nul_not_mem_of_isEntryName (h : isEntryName name = true) : '\x00' ∉ name.toList := by
  simp only [isEntryName, Bool.and_eq_true, Bool.not_eq_true', List.contains_eq_mem,
    decide_eq_false_iff_not] at h
  exact h.1.2

theorem length_le_of_isEntryName (h : isEntryName name = true) :
    (keptBytes name).length ≤ nameLimit := by
  simp only [isEntryName, Bool.and_eq_true, decide_eq_true_eq] at h
  exact h.2

theorem isAbsolute_of_isEntryName (h : isEntryName name = true) :
    Path.isAbsolute ⟨name⟩ = false := by
  have hslash := slash_not_mem_of_isEntryName h
  rw [Path.isAbsolute, decide_eq_false_iff_not]
  exact fun hhead => hslash (List.mem_of_head? hhead)

end Names

namespace Path

/-! ## Joined paths -/

variable {dir : Path} {below name : String}

/-- The path ends with a slash. -/
def endsOpen (p : Path) : Prop := p.text.toList.getLast? = some '/'

/-- What is joined to a path stands behind a slash, which the path may end with already. -/
theorem join_of_relative (hdir : dir.text ≠ "") (hbelow : isAbsolute ⟨below⟩ = false) :
    (dir.endsOpen ∧ dir.join below = ⟨dir.text ++ below⟩) ∨
      (¬dir.endsOpen ∧ dir.join below = ⟨dir.text ++ "/" ++ below⟩) := by
  have hempty : dir.text.isEmpty = false := by
    rw [Bool.eq_false_iff]
    exact fun h => hdir (String.isEmpty_iff.1 h)
  unfold join endsOpen
  rw [hbelow, if_neg Bool.false_ne_true, hempty, Bool.false_or]
  by_cases hlast : dir.text.toList.getLast? = some '/'
  · exact .inl ⟨hlast, if_pos (decide_eq_true hlast)⟩
  · exact .inr ⟨hlast, if_neg fun h => hlast (of_decide_eq_true h)⟩

theorem toList_ne_nil {p : Path} (h : p.text ≠ "") : p.text.toList ≠ [] :=
  fun hnil => h (String.toList_eq_nil_iff.1 hnil)

/-- A path ends with an open slash exactly if its last piece is empty. -/
theorem splitOn_of_endsOpen {p : Path} (h : p.endsOpen) :
    ∃ front, p.text.toList = front ++ ['/'] ∧
      splitOn '/' p.text.toList = splitOn '/' front ++ [[]] := by
  obtain ⟨front, hfront⟩ := List.getLast?_eq_some_iff.1 h
  exact ⟨front, hfront, by rw [hfront, splitOn_append_sep]; rfl⟩

/-- What is joined to a path adds its pieces, which take the place of the empty piece behind a
slash at the end. -/
theorem pieces_join (hdir : dir.text ≠ "") (hbelow : isAbsolute ⟨below⟩ = false) :
    ∃ front, front ≠ [] ∧
      splitOn '/' (dir.join below).text.toList = front ++ splitOn '/' below.toList ∧
      (splitOn '/' dir.text.toList = front ∨ splitOn '/' dir.text.toList = front ++ [[]]) := by
  rcases join_of_relative hdir hbelow with ⟨hopen, hjoin⟩ | ⟨-, hjoin⟩
  · obtain ⟨front, hfront, hpieces⟩ := splitOn_of_endsOpen hopen
    refine ⟨splitOn '/' front, splitOn_ne_nil _ _, ?_, .inr hpieces⟩
    rw [hjoin, String.toList_append, hfront, List.append_assoc, List.singleton_append,
      splitOn_append_sep]
  · refine ⟨splitOn '/' dir.text.toList, splitOn_ne_nil _ _, ?_, .inl rfl⟩
    have hslash : "/".toList = ['/'] := rfl
    rw [hjoin, String.toList_append, String.toList_append, hslash, List.append_assoc,
      List.singleton_append, splitOn_append_sep]

theorem head?_join (hdir : dir.text ≠ "") (hbelow : isAbsolute ⟨below⟩ = false) :
    (dir.join below).text.toList.head? = dir.text.toList.head? := by
  cases hfirst : dir.text.toList with
  | nil => exact absurd hfirst (toList_ne_nil hdir)
  | cons c rest =>
      rcases join_of_relative hdir hbelow with ⟨-, hjoin⟩ | ⟨-, hjoin⟩
      · simp [hjoin, hfirst]
      · simp [hjoin, hfirst]

theorem isAbsolute_join (hdir : dir.text ≠ "") (hbelow : isAbsolute ⟨below⟩ = false) :
    (dir.join below).isAbsolute = dir.isAbsolute := by
  rw [isAbsolute, isAbsolute, head?_join hdir hbelow]

theorem components_of_pieces {p : Path} {first : List Char} {inner : List (List Char)}
    (h : splitOn '/' p.text.toList = first :: inner) :
    p.components = (if p.isAbsolute then some .root else Component.ofFirst? first).toList ++
      inner.filterMap Component.ofInner? := by
  rw [components, h]

/-- What is joined to a path adds the components of its pieces. -/
theorem components_join_eq (hdir : dir.text ≠ "") (hbelow : isAbsolute ⟨below⟩ = false) :
    (dir.join below).components =
      dir.components ++ (splitOn '/' below.toList).filterMap Component.ofInner? := by
  obtain ⟨front, hnil, hjoined, hpieces⟩ := pieces_join hdir hbelow
  have hdull : Component.ofInner? [] = none := rfl
  cases front with
  | nil => exact absurd rfl hnil
  | cons first inner =>
      rw [components_of_pieces hjoined, isAbsolute_join hdir hbelow]
      rcases hpieces with hpieces | hpieces
      · rw [components_of_pieces hpieces]
        simp
      · rw [components_of_pieces hpieces]
        simp [hdull]

/-- An entry adds its name to the components of its directory. -/
theorem components_join (hdir : dir.text ≠ "") (hname : isEntryName name = true) :
    (dir.join name).components = dir.components ++ [.name name] := by
  rw [components_join_eq hdir (isAbsolute_of_isEntryName hname),
    splitOn_of_not_mem (slash_not_mem_of_isEntryName hname)]
  simp [ofInner?_of_isEntryName hname]

theorem components_of_empty (h : dir.text = "") : dir.components = [] := by
  obtain ⟨text⟩ := dir
  cases h
  rfl

/-- A path begins with the components of the directory that it is joined to, unless it is
absolute. -/
theorem prefix_components_join (hbelow : isAbsolute ⟨below⟩ = false) :
    dir.components <+: (dir.join below).components := by
  by_cases hdir : dir.text = ""
  · rw [components_of_empty hdir]
    exact List.nil_prefix
  · exact ⟨_, (components_join_eq hdir hbelow).symm⟩

/-! ## Completed paths -/

/-- A path is completed by what stands before it, which ends with a slash if it is anything, and
depends on whether the path is absolute and on nothing else. -/
theorem exists_join_eq (start : Path) (absolute : Bool) :
    ∃ front : String, (front.toList = [] ∨ ∃ above, front.toList = above ++ ['/']) ∧
      ∀ below : String, isAbsolute ⟨below⟩ = absolute → start.join below = ⟨front ++ below⟩ := by
  cases absolute with
  | true =>
      refine ⟨"", .inl rfl, fun below hbelow => ?_⟩
      rw [join, hbelow, if_pos rfl, String.empty_append]
  | false =>
      by_cases hopen : (start.text.isEmpty || start.text.toList.getLast? = some '/') = true
      · refine ⟨start.text, ?_, fun below hbelow => ?_⟩
        · rcases Bool.or_eq_true_iff.1 hopen with hempty | hlast
          · exact .inl (String.toList_eq_nil_iff.2 (String.isEmpty_iff.1 hempty))
          · exact .inr (List.getLast?_eq_some_iff.1 (of_decide_eq_true hlast))
        · rw [join, hbelow, if_neg Bool.false_ne_true, if_pos hopen]
      · refine ⟨start.text ++ "/", .inr ⟨start.text.toList, String.toList_append⟩,
          fun below hbelow => ?_⟩
        rw [join, hbelow, if_neg Bool.false_ne_true, if_neg hopen]

/-- Something may be joined before or after the path is completed. -/
theorem join_join (start : Path) (hdir : dir.text ≠ "") (hbelow : isAbsolute ⟨below⟩ = false) :
    start.join (dir.join below).text = (start.join dir.text).join below := by
  obtain ⟨front, -, hfront⟩ := exists_join_eq start dir.isAbsolute
  have hcompleted : (⟨front ++ dir.text⟩ : Path).text ≠ "" :=
    fun h => hdir (String.append_eq_empty_iff.1 h).2
  have hopen : (⟨front ++ dir.text⟩ : Path).endsOpen ↔ dir.endsOpen := by
    unfold endsOpen
    rw [String.toList_append, List.getLast?_append, List.getLast?_eq_some_getLast
      (toList_ne_nil hdir), Option.some_or]
  have hjoined : start.join (dir.join below).text = ⟨front ++ (dir.join below).text⟩ :=
    hfront _ (isAbsolute_join hdir hbelow)
  rw [hjoined, hfront dir.text rfl]
  rcases join_of_relative hdir hbelow with ⟨hdirOpen, hjoin⟩ | ⟨hdirOpen, hjoin⟩
  · rcases join_of_relative hcompleted hbelow with ⟨-, hjoin'⟩ | ⟨hclosed, -⟩
    · rw [hjoin, hjoin', String.append_assoc]
    · exact absurd (hopen.2 hdirOpen) hclosed
  · rcases join_of_relative hcompleted hbelow with ⟨hopened, -⟩ | ⟨-, hjoin'⟩
    · exact absurd (hopen.1 hopened) hdirOpen
    · rw [hjoin, hjoin', String.append_assoc, String.append_assoc, String.append_assoc]

end Path

/-! ## Pieces and components -/

namespace Component

/-- The component leads somewhere else. -/
def isMoving : Component → Bool
  | root => false
  | here => false
  | up => true
  | name _ => true

variable {piece : List Char} {c : Component}

theorem toList_text_of_ofInner? (h : ofInner? piece = some c) : c.text.toList = piece := by
  unfold ofInner? at h
  split at h
  · cases h
  · cases h
  · cases h
    rfl
  · cases h
    exact String.toList_ofList

theorem isMoving_of_ofInner? (h : ofInner? piece = some c) : c.isMoving = true := by
  unfold ofInner? at h
  split at h
  · cases h
  · cases h
  · cases h
    rfl
  · cases h
    rfl

/-- The components behind the first slash all lead somewhere else. -/
theorem filter_isMoving_inner (inner : List (List Char)) :
    (inner.filterMap ofInner?).filter isMoving = inner.filterMap ofInner? := by
  rw [List.filter_eq_self]
  intro c hc
  obtain ⟨piece, -, hpiece⟩ := List.mem_filterMap.1 hc
  exact isMoving_of_ofInner? hpiece

theorem filter_isMoving_first (piece : List Char) :
    (ofFirst? piece).toList.filter isMoving = (ofInner? piece).toList := by
  unfold ofFirst?
  split
  · rename_i hdot
    rw [hdot]
    rfl
  · cases hpiece : ofInner? piece with
    | none => rfl
    | some c => exact List.filter_cons_of_pos (isMoving_of_ofInner? hpiece)

end Component

namespace Path

variable {p q : Path}

theorem root_mem_components : .root ∈ p.components ↔ p.isAbsolute = true := by
  cases hpieces : splitOn '/' p.text.toList with
  | nil => exact absurd hpieces (splitOn_ne_nil _ _)
  | cons first inner =>
      have hmoving : ∀ {piece : List Char}, Component.ofInner? piece ≠ some .root :=
        fun h => Bool.false_ne_true (Component.isMoving_of_ofInner? h)
      have hinner : .root ∉ inner.filterMap Component.ofInner? := fun hmem => by
        obtain ⟨piece, -, hpiece⟩ := List.mem_filterMap.1 hmem
        exact hmoving hpiece
      have hfirst : Component.ofFirst? first ≠ some .root := by
        unfold Component.ofFirst?
        split
        · exact fun h => by cases h
        · exact hmoving
      rw [components_of_pieces hpieces, List.mem_append, or_iff_left hinner, Option.mem_toList]
      cases p.isAbsolute with
      | true => simp
      | false => simpa using hfirst

theorem isAbsolute_congr (h : p.components = q.components) : p.isAbsolute = q.isAbsolute := by
  rw [Bool.eq_iff_iff, ← root_mem_components, ← root_mem_components, h]

/-- The pieces that lead somewhere else are the components that do. -/
theorem filterMap_pieces (p : Path) :
    (splitOn '/' p.text.toList).filterMap Component.ofInner? =
      p.components.filter Component.isMoving := by
  cases hpieces : splitOn '/' p.text.toList with
  | nil => exact absurd hpieces (splitOn_ne_nil _ _)
  | cons first inner =>
      have hcons : (first :: inner).filterMap Component.ofInner? =
          (Component.ofInner? first).toList ++ inner.filterMap Component.ofInner? := by
        rw [List.filterMap_cons]
        cases Component.ofInner? first with
        | none => rfl
        | some c => rfl
      rw [components_of_pieces hpieces, List.filter_append, Component.filter_isMoving_inner, hcons]
      cases habsolute : p.isAbsolute with
      | false => rw [if_neg Bool.false_ne_true, Component.filter_isMoving_first]
      | true =>
          -- The first piece of an absolute path is the empty one before its slash.
          obtain ⟨rest, hrest⟩ := List.head?_eq_some_iff.1 (of_decide_eq_true habsolute)
          rw [hrest, splitOn, if_pos rfl] at hpieces
          cases hpieces
          rfl

end Path

end TestCensus.Files
