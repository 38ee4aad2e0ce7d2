import TestCensus.Text.NameRanges

/-!
# Names

A name starts with a letter or an underscore and goes on with letters, digits
and underscores.  Letters and digits are those of the Unicode identifier
properties, so a name may be written in any script.
-/

namespace TestCensus.Text

/-- The code point lies in one of the ranges. -/
def inRanges (ranges : List (Nat × Nat)) (n : Nat) : Bool :=
  ranges.any fun r => r.1 ≤ n && n ≤ r.2

/-- The character starts a name. -/
def startsName (c : Char) : Bool :=
  if c.toNat < 0x80 then c.isAlpha || c == '_' else inRanges nameStartRanges c.toNat

/-- The character continues a name. -/
def continuesName (c : Char) : Bool :=
  if c.toNat < 0x80 then c.isAlphanum || c == '_'
  else inRanges nameStartRanges c.toNat || inRanges nameRestRanges c.toNat

/-- The name at the beginning of a text and what follows it, if there is one. -/
def name? : List Char → Option (List Char × List Char)
  | [] => none
  | c :: rest =>
      if startsName c then some (c :: rest.takeWhile continuesName, rest.dropWhile continuesName)
      else none

theorem continuesName_of_startsName {c : Char} (h : startsName c) : continuesName c := by
  unfold startsName at h
  unfold continuesName
  split at h
  · rename_i hlow
    rw [if_pos hlow]
    simp only [Char.isAlphanum, Bool.or_eq_true] at h ⊢
    rcases h with h | h
    · exact Or.inl (Or.inl h)
    · exact Or.inr h
  · rename_i hhigh
    rw [if_neg hhigh, h]
    rfl

theorem name?_eq_some {cs name rest : List Char} (h : name? cs = some (name, rest)) :
    cs = name ++ rest := by
  cases cs with
  | nil => simp [name?] at h
  | cons c tail =>
      simp only [name?] at h
      split at h
      · simp only [Option.some.injEq, Prod.mk.injEq] at h
        obtain ⟨rfl, rfl⟩ := h
        rw [List.cons_append, List.takeWhile_append_dropWhile]
      · simp at h

end TestCensus.Text
