/-!
# Slices of a text

A text is held in bytes, and a program that holds it so names the parts of a text
by byte offsets.  An offset must not be beyond the end of the text, nor inside a
character, and the end of a part must not be before its start.  Where these rules
are broken there is no slice.
-/

namespace TestCensus.Text

/-- The number of bytes that hold a text. -/
def byteCount : List Char → Nat
  | [] => 0
  | c :: rest => c.utf8Size + byteCount rest

/-- What stands before a byte offset and behind it, if the offset is at the edge
of a character. -/
def splitAtByte? : Nat → List Char → Option (List Char × List Char)
  | 0, cs => some ([], cs)
  | _ + 1, [] => none
  | n + 1, c :: rest =>
      if c.utf8Size ≤ n + 1 then
        (splitAtByte? (n + 1 - c.utf8Size) rest).map fun parts => (c :: parts.1, parts.2)
      else
        none

/-- The part of a text from one byte offset to another. -/
def slice? (start stop : Nat) (cs : List Char) : Option (List Char) := do
  let front ← splitAtByte? stop cs
  let parts ← splitAtByte? start front.1
  return parts.2

@[simp] theorem byteCount_nil : byteCount [] = 0 := rfl

@[simp] theorem byteCount_cons (c : Char) (cs : List Char) :
    byteCount (c :: cs) = c.utf8Size + byteCount cs := rfl

@[simp] theorem byteCount_append (cs ds : List Char) :
    byteCount (cs ++ ds) = byteCount cs + byteCount ds := by
  induction cs with
  | nil => simp
  | cons c cs ih => simp [ih, Nat.add_assoc]

/-- An offset splits a text in two parts, of which the first has as many bytes. -/
theorem splitAtByte?_eq_some_iff {n : Nat} {cs front rest : List Char} :
    splitAtByte? n cs = some (front, rest) ↔ cs = front ++ rest ∧ byteCount front = n := by
  induction cs generalizing n front with
  | nil =>
      cases n with
      | zero => cases front <;> simp [splitAtByte?, eq_comm]
      | succ n =>
          constructor
          · intro h
            cases h
          · rintro ⟨hnil, hcount⟩
            rw [(List.nil_eq_append_iff.1 hnil).1] at hcount
            cases hcount
  | cons c cs ih =>
      have hpos := c.utf8Size_pos
      cases n with
      | zero =>
          cases front with
          | nil => simp [splitAtByte?, eq_comm]
          | cons d front =>
              have hpos := d.utf8Size_pos
              constructor
              · intro h
                cases h
              · rintro ⟨-, hcount⟩
                simp only [byteCount_cons] at hcount
                omega
      | succ n =>
          cases front with
          | nil => simp [splitAtByte?]
          | cons d front =>
              simp only [splitAtByte?, Option.ite_none_right_eq_some, Option.map_eq_some_iff,
                Prod.exists, Prod.mk.injEq, List.cons_append, List.cons.injEq, byteCount_cons]
              constructor
              · rintro ⟨hle, front', rest', hsplit, ⟨rfl, rfl⟩, rfl⟩
                obtain ⟨hcs, hcount⟩ := ih.1 hsplit
                exact ⟨⟨rfl, hcs⟩, by omega⟩
              · rintro ⟨⟨rfl, hcs⟩, hcount⟩
                exact ⟨by omega, front, rest, ih.2 ⟨hcs, by omega⟩, ⟨rfl, rfl⟩, rfl⟩

/-- A slice is the part of a text between as many bytes as its offsets say. -/
theorem slice?_eq_some_iff {start stop : Nat} {cs part : List Char} :
    slice? start stop cs = some part ↔
      ∃ before after, cs = before ++ part ++ after ∧
        byteCount before = start ∧ byteCount (before ++ part) = stop := by
  simp only [slice?, Option.bind_eq_bind, Option.bind_eq_some_iff, Prod.exists,
    splitAtByte?_eq_some_iff, Option.pure_def, Option.some.injEq]
  constructor
  · rintro ⟨front, after, ⟨rfl, hstop⟩, before, part', ⟨rfl, hstart⟩, rfl⟩
    exact ⟨before, after, rfl, hstart, hstop⟩
  · rintro ⟨before, after, rfl, hstart, hstop⟩
    exact ⟨before ++ part, after, ⟨rfl, hstop⟩, before, part, ⟨rfl, hstart⟩, rfl⟩

/-- The slice up to the offset behind a front is the front. -/
theorem slice?_front (front rest : List Char) :
    slice? 0 (byteCount front) (front ++ rest) = some front :=
  slice?_eq_some_iff.2 ⟨[], rest, rfl, rfl, rfl⟩

/-- The slice from the offset behind a front is the rest. -/
theorem slice?_rest (front rest : List Char) :
    slice? (byteCount front) (byteCount (front ++ rest)) (front ++ rest) = some rest :=
  slice?_eq_some_iff.2 ⟨front, [], (List.append_nil _).symm, rfl, rfl⟩

/-- An offset inside a character or beyond the end gives no slice, not even an empty one. -/
example : slice? 1 1 ['é'] = none ∧ slice? 2 2 ['é'] = some [] ∧ slice? 3 3 ['é'] = none := by
  decide

end TestCensus.Text
