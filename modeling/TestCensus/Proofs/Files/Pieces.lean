import TestCensus.Files.Tree

/-!
# The next piece of a path

In a directory the next piece of a path is one of six things (`Turn`).  It stays, it goes up, its
name is too long, it names nothing, it names a link, or it names something to go on from.  There is
one equation of `stepThrough` for each of them, so whatever holds of following pieces is proved by
going through the turns.  In a closed directory only an empty piece goes on.
-/

namespace TestCensus.Files

open TestCensus.Text

variable {es : List (String × Node)} {piece : List Char}

/-- A piece behind the first slash is the root of no path, and not the directory it stands in. -/
theorem ofInner?_cases (piece : List Char) : Component.ofInner? piece = none ∨
    Component.ofInner? piece = some .up ∨ ∃ name, Component.ofInner? piece = some (.name name) := by
  unfold Component.ofInner?
  split
  · exact .inl rfl
  · exact .inl rfl
  · exact .inr (.inl rfl)
  · exact .inr (.inr ⟨_, rfl⟩)

/-- What a piece is in a directory with these entries. -/
inductive Turn (es : List (String × Node)) (piece : List Char) : Prop where
  /-- An empty piece or a dot. -/
  | stay : Component.ofInner? piece = none → Turn es piece
  /-- Two dots. -/
  | up : Component.ofInner? piece = some .up → Turn es piece
  /-- A name that no entry may have. -/
  | long {name : String} : Component.ofInner? piece = some (.name name) →
      nameLimit < (keptBytes name).length → Turn es piece
  /-- The name of no entry. -/
  | missing {name : String} : Component.ofInner? piece = some (.name name) →
      (keptBytes name).length ≤ nameLimit → es.lookup name = none → Turn es piece
  /-- The name of a link. -/
  | link {name target : String} : Component.ofInner? piece = some (.name name) →
      (keptBytes name).length ≤ nameLimit → es.lookup name = some (.link target) → Turn es piece
  /-- The name of a file or a directory. -/
  | enter {name : String} {child : Node} : Component.ofInner? piece = some (.name name) →
      (keptBytes name).length ≤ nameLimit → es.lookup name = some child →
      (∀ target, child ≠ .link target) → Turn es piece

theorem turn (es : List (String × Node)) (piece : List Char) : Turn es piece := by
  rcases ofInner?_cases piece with hpiece | hpiece | ⟨name, hpiece⟩
  · exact .stay hpiece
  · exact .up hpiece
  · rcases Nat.lt_or_ge nameLimit (keptBytes name).length with hlength | hlength
    · exact .long hpiece hlength
    · cases hchild : es.lookup name with
      | none => exact .missing hpiece hlength hchild
      | some child =>
          cases child with
          | link target => exact .link hpiece hlength hchild
          | file content => exact .enter hpiece hlength hchild (by simp)
          | directory entries => exact .enter hpiece hlength hchild (by simp)
          | closed why => exact .enter hpiece hlength hchild (by simp)

/-! ## One step -/

variable {root : Node} {followLast : Bool} {names : List String} {rest : List (List Char)}
  {follow : Place → List (List Char) → Except PathError Landing} {name target : String}

theorem stepThrough_stay (hpiece : Component.ofInner? piece = none) :
    stepThrough root followLast follow ⟨names, .directory es⟩ (piece :: rest) =
      stepThrough root followLast follow ⟨names, .directory es⟩ rest := by
  rw [stepThrough, hpiece]

theorem stepThrough_up (hpiece : Component.ofInner? piece = some .up) :
    stepThrough root followLast follow ⟨names, .directory es⟩ (piece :: rest) =
      stepThrough root followLast follow
        ⟨names.dropLast, (root.at? names.dropLast).getD root⟩ rest := by
  rw [stepThrough, hpiece]

theorem stepThrough_long (hpiece : Component.ofInner? piece = some (.name name))
    (hlength : nameLimit < (keptBytes name).length) :
    stepThrough root followLast follow ⟨names, .directory es⟩ (piece :: rest) =
      .error .nameTooLong := by
  rw [stepThrough, hpiece]
  exact if_pos hlength

theorem stepThrough_missing (hpiece : Component.ofInner? piece = some (.name name))
    (hlength : (keptBytes name).length ≤ nameLimit) (hchild : es.lookup name = none) :
    stepThrough root followLast follow ⟨names, .directory es⟩ (piece :: rest) =
      if rest.isEmpty then .ok (.absent (names ++ [name])) else .error .notFound := by
  rw [stepThrough, hpiece]
  dsimp only
  rw [if_neg (Nat.not_lt.2 hlength), hchild]

theorem stepThrough_link (hpiece : Component.ofInner? piece = some (.name name))
    (hlength : (keptBytes name).length ≤ nameLimit)
    (hchild : es.lookup name = some (.link target)) :
    stepThrough root followLast follow ⟨names, .directory es⟩ (piece :: rest) =
      if rest.isEmpty && !followLast then .ok (.present ⟨names ++ [name], .link target⟩)
      else follow (if Path.isAbsolute ⟨target⟩ then ⟨[], root⟩ else ⟨names, .directory es⟩)
        (splitOn '/' target.toList ++ rest) := by
  rw [stepThrough, hpiece]
  dsimp only
  rw [if_neg (Nat.not_lt.2 hlength), hchild]

theorem stepThrough_enter {child : Node} (hpiece : Component.ofInner? piece = some (.name name))
    (hlength : (keptBytes name).length ≤ nameLimit) (hchild : es.lookup name = some child)
    (hnode : ∀ target, child ≠ .link target) :
    stepThrough root followLast follow ⟨names, .directory es⟩ (piece :: rest) =
      stepThrough root followLast follow ⟨names ++ [name], child⟩ rest := by
  rw [stepThrough, hpiece]
  dsimp only
  rw [if_neg (Nat.not_lt.2 hlength), hchild]
  cases child with
  | link target => exact absurd rfl (hnode target)
  | file content => rfl
  | directory entries => rfl
  | closed why => rfl

/-! ## Closed directories -/

theorem stepThrough_pass (why : PathError) :
    stepThrough root followLast follow ⟨names, .closed why⟩ ([] :: rest) =
      stepThrough root followLast follow ⟨names, .closed why⟩ rest := by
  rw [stepThrough]
  rfl

theorem stepThrough_closed {why : PathError} (hpiece : piece ≠ []) :
    stepThrough root followLast follow ⟨names, .closed why⟩ (piece :: rest) = .error why := by
  rw [stepThrough]
  exact if_neg (by simpa using hpiece)

end TestCensus.Files
