import TestCensus.Source.Token
import TestCensus.Source.Tree

/-!
# Reading a tree from tokens

The grammar is read from left to right.  A reader of the grammar takes the
tokens that are left and answers with what it read and the tokens behind it, or
with the damage that stopped it.  The tokens always end with the finish, which is
never taken.

Line ends are not tokens.  Whether one ends the construct that is being read
depends on the construct, and `Bounds` carries what it depends on.  `next?` looks
at the next token and answers nothing when the line structure keeps the construct
from going on to it.

* Where a line end may end the construct, it does.
* Where a closing bracket may stand, line ends mean nothing.
* Elsewhere a construct goes on over a line end, but not to a line that is
  indented less than the block around it.  A quote at the start of that line
  makes an exception where an operand is expected.
-/

namespace TestCensus.Source

/-! ## Damage -/

/-- What stopped the reading of a source. -/
inductive Damage where
  /-- A token that fits nothing, before the statement around it is known. -/
  | unexpected (place : Position)
  /-- A closing bracket is missing in front of this place. -/
  | missing (place : Position)
  /-- The statement that starts here cannot be read. -/
  | broken (place : Position)
deriving DecidableEq, Repr

/-- The damage of a statement that starts at a place: what is known already, or
that the statement cannot be read. -/
def Damage.inStatement (start : Position) : Damage → Damage
  | .unexpected _ => .broken start
  | d => d

/-! ## What reading leaves -/

/-- The tokens `rest` are what may be left of the tokens `ts` when a part of the
grammar has been read.  Tokens are taken from the front, and a double star at the
front may be split into two stars that touch. -/
inductive Leaves : List Token → List Token → Prop where
  /-- Nothing was read. -/
  | all (ts : List Token) : Leaves ts ts
  /-- The first token was taken. -/
  | taken (t : Token) {ts rest : List Token} : Leaves ts rest → Leaves (t :: ts) rest
  /-- The first token was split. -/
  | split {t : Token} {ts rest : List Token} : t.kind = .operator →
      Leaves (t.firstStar :: t.secondStar :: ts) rest → Leaves (t :: ts) rest

theorem Leaves.trans {ts mid rest : List Token} (h : Leaves ts mid) (h' : Leaves mid rest) :
    Leaves ts rest := by
  induction h with
  | all ts => exact h'
  | taken t _ ih => exact .taken t (ih h')
  | split hk _ ih => exact .split hk (ih h')

/-! ## Readers -/

/-- A reader of a part of the grammar.  What it leaves is left of what it was
given. -/
structure Parse (α : Type) where
  /-- Reads from the tokens that are left. -/
  run : List Token → Except Damage (α × List Token)
  /-- The reader makes up no tokens. -/
  leaves : ∀ {ts : List Token} {a : α} {rest : List Token},
    run ts = .ok (a, rest) → Leaves ts rest

namespace Parse

/-- Reads nothing. -/
@[inline] protected def pure (a : α) : Parse α :=
  ⟨fun ts => .ok (a, ts), by rintro ts b rest ⟨⟩; exact .all ts⟩

/-- Reads with one reader and then with the reader that its answer gives. -/
@[inline] protected def bind (p : Parse α) (f : α → Parse β) : Parse β where
  run ts :=
    match p.run ts with
    | .ok (a, mid) => (f a).run mid
    | .error d => .error d
  leaves := by
    intro ts b rest h
    split at h
    · rename_i a mid hp
      exact (p.leaves hp).trans ((f a).leaves h)
    · cases h

@[always_inline] instance : Monad Parse where
  pure := Parse.pure
  bind := Parse.bind

@[simp] theorem run_pure (a : α) (ts : List Token) : (pure a : Parse α).run ts = .ok (a, ts) := rfl

/-- A reader in two steps succeeds when both steps do. -/
theorem run_bind_eq_ok {p : Parse α} {f : α → Parse β} {ts : List Token} {b : β}
    {rest : List Token} :
    (p >>= f).run ts = .ok (b, rest) ↔
      ∃ a mid, p.run ts = .ok (a, mid) ∧ (f a).run mid = .ok (b, rest) := by
  show (match p.run ts with
    | .ok (a, mid) => (f a).run mid
    | .error d => .error d) = .ok (b, rest) ↔ _
  cases p.run ts with
  | error d => simp
  | ok r =>
      constructor
      · intro h
        exact ⟨r.1, r.2, rfl, h⟩
      · rintro ⟨a, mid, hr, h⟩
        cases hr
        exact h

/-- The tokens that are left. -/
def ahead : Parse (List Token) := ⟨fun ts => .ok (ts, ts), by rintro ts a rest ⟨⟩; exact .all ts⟩

/-- Ends the reading of the source. -/
def fail (d : Damage) : Parse α := ⟨fun _ => .error d, by rintro ts a rest ⟨⟩⟩

/-- The next token, whatever the line structure.  A source without tokens does
not occur; it reads like a finish at its start. -/
def head : Parse Token := do
  match ← ahead with
  | t :: _ => return t
  | [] => return ⟨.finish, "", .touching, ⟨0, 0⟩, 0⟩

/-- The token behind the next one. -/
def second : Parse (Option Token) := do
  return (← ahead)[1]?

/-- Stops at the next token. -/
def stop : Parse α := do
  fail (.unexpected (← head).start)

/-- Takes the next token if another one is behind it. -/
def takeToken : List Token → Except Damage (Token × List Token)
  | t :: u :: rest => .ok (t, u :: rest)
  | [t] => .error (.unexpected t.start)
  | [] => .error (.unexpected ⟨0, 0⟩)

theorem takeToken_eq_ok {ts rest : List Token} {t : Token} :
    takeToken ts = .ok (t, rest) ↔ ts = t :: rest ∧ rest ≠ [] := by
  match ts with
  | [] => simp [takeToken]
  | [u] =>
      constructor
      · rintro ⟨⟩
      · rintro ⟨h, hne⟩
        cases h
        exact absurd rfl hne
  | u :: v :: more =>
      simp only [takeToken, Except.ok.injEq, Prod.mk.injEq, List.cons.injEq]
      constructor
      · rintro ⟨rfl, rfl⟩
        exact ⟨⟨rfl, rfl⟩, by simp⟩
      · rintro ⟨⟨rfl, rfl⟩, -⟩
        exact ⟨rfl, rfl⟩

/-- Takes the next token. -/
def take : Parse Token where
  run := takeToken
  leaves := by
    intro ts t rest h
    obtain ⟨rfl, -⟩ := takeToken_eq_ok.1 h
    exact .taken t (.all rest)

/-- Puts two stars in place of the double star that is next, if one is. -/
def splitStars : Parse Unit where
  run
    | t :: rest =>
        if t.isOperator "**" then .ok ((), t.firstStar :: t.secondStar :: rest)
        else .ok ((), t :: rest)
    | [] => .ok ((), [])
  leaves := by
    intro ts a rest h
    split at h
    · rename_i t more
      split at h
      · rename_i hstar
        cases h
        simp only [Token.isOperator, Bool.and_eq_true, beq_iff_eq] at hstar
        exact .split hstar.1 (.all _)
      · cases h
        exact .all _
    · cases h
      exact .all _

/-- Reads with the first reader, and if it is stopped with the second. -/
def either (first second : Parse α) : Parse α where
  run ts :=
    match first.run ts with
    | .ok r => .ok r
    | .error _ => second.run ts
  leaves := by
    intro ts a rest h
    split at h
    · rename_i r hr
      cases h
      exact first.leaves hr
    · exact second.leaves h

/-- Reports what stops the reader for the statement that starts with the next
token. -/
def asStatement (p : Parse α) : Parse α where
  run ts :=
    match p.run ts, ts with
    | .error d, t :: _ => .error (d.inStatement t.start)
    | r, _ => r
  leaves := by
    intro ts a rest h
    split at h
    · cases h
    · exact p.leaves h

/-- The text read since the given tokens were next. -/
def textSince (before : List Token) : Parse String := do
  return Token.textUpTo (← head).index before

end Parse

open Parse

/-! ## Bounds -/

/-- What the layout may do to the construct that is being read. -/
structure Bounds where
  /-- A line end may end the construct. -/
  lineEnds : Bool
  /-- A closing bracket may stand behind the construct. -/
  closes : Bool
  /-- The first token of the construct may stand on any line. -/
  leads : Bool
  /-- A conditional expression may be read. -/
  conditional : Bool
  /-- The indentation of the block around the construct. -/
  indent : Nat

namespace Bounds

/-- A construct in a statement, which a line end ends. -/
def line (indent : Nat) : Bounds := ⟨true, false, true, true, indent⟩

/-- A construct in the head of a compound statement, which goes on up to a
colon or a word. -/
def header (indent : Nat) : Bounds := ⟨false, false, false, true, indent⟩

/-- A construct between brackets. -/
def bracket (indent : Nat) : Bounds := ⟨false, true, true, true, indent⟩

/-- The construct in the middle of another one, which something has to follow. -/
def middle (b : Bounds) : Bounds :=
  { b with lineEnds := false, closes := false, leads := false, conditional := true }

/-- The construct behind an operator. -/
def behind (b : Bounds) : Bounds := { b with leads := false }

end Bounds

/-- The token starts with a quote. -/
def Token.isQuoted (t : Token) : Bool :=
  t.kind == .stringOpen &&
    match t.text.toList with
    | c :: _ => c == '"' || c == '\'' || c == '`'
    | [] => false

/-- The next token, if the construct may go on to it. -/
def next? (b : Bounds) : Parse (Option Token) := do
  let t ← head
  if t.gap.endsLine && (b.lineEnds || (!b.closes && t.gap.indent < b.indent)) then return none
  return some t

/-- The first token of an operand, if the construct may go on to it. -/
def nextOperand? (b : Bounds) : Parse (Option Token) := do
  let t ← head
  if !b.leads && t.gap.endsLine && t.gap.indent < b.indent && !t.isQuoted then return none
  return some t

/-- Takes the given operator, which has to be next. -/
def expect (b : Bounds) (text : String) : Parse Token := do
  match ← next? b with
  | some t => if t.isOperator text then take else stop
  | none => stop

/-- Takes a word, which has to be next. -/
def expectWord (b : Bounds) : Parse Token := do
  match ← next? b with
  | some t => if t.kind = .word then take else stop
  | none => stop

/-- The construct goes on with the given operator. -/
def atOperator (b : Bounds) (text : String) : Parse Bool := do
  return (← next? b).any (·.isOperator text)

/-- The construct goes on with the given word. -/
def atWord (b : Bounds) (text : String) : Parse Bool := do
  return (← next? b).any (·.isWord text)

/-- Takes the given operator if the construct goes on with it. -/
def skipOperator (b : Bounds) (text : String) : Parse Bool := do
  if ← atOperator b text then
    let _ ← take
    return true
  return false

/-- Takes the given word if the construct goes on with it. -/
def skipWord (b : Bounds) (text : String) : Parse Bool := do
  if ← atWord b text then
    let _ ← take
    return true
  return false

/-- Takes the given word, which has to be next. -/
def expectThe (b : Bounds) (text : String) : Parse Token := do
  if ← atWord b text then take else stop

/-- The fillers before the next token.  Where an operand is expected, an escaped
line end directly before a string literal is blank space. -/
def fillers (operand : Bool) : Parse (List Filler) := do
  let t ← head
  return if operand && t.kind == .stringOpen then t.gap.fillersBeforeString else t.gap.fillers

/-- The fillers before the next token, as parts between brackets. -/
def fillerParts (operand : Bool) : Parse (List Part) := do
  return (← fillers operand).map Part.filler

end TestCensus.Source
