import TestCensus.Source.Expression

/-!
# Reading case patterns

The patterns behind the word `case`.  The census does not look into them, so
their readers answer nothing and only say where a pattern ends.  A pattern is a
value, a dotted name, an unpacking, a class with patterns as its arguments, or
patterns in brackets, and several of these may be joined by bars.  It may be named
behind `as`, and a class argument may be named in front.
-/

namespace TestCensus.Source

open Parse

/-- Reads a dotted name. -/
def dottedRest (b : Bounds) : Nat → Parse Unit
  | 0 => return
  | n + 1 => do
      if ← skipOperator b "." then
        let _ ← expectWord b.middle
        dottedRest b n

/-- Reads a number, and a second one behind a sign. -/
def numberPattern (b : Bounds) : Parse Unit := do
  if (← head).kind = .number then
    let _ ← take
    if (← atOperator b "+") || (← atOperator b "-") then
      let _ ← take
      if (← head).kind = .number then
        let _ ← take
      else stop
  else stop

/-- Reads patterns between commas up to the closing bracket, which is taken too. -/
def patternsUpTo (one : Bounds → Parse Unit) (b : Bounds) (close : String) : Nat → Parse Unit
  | 0 => stop
  | n + 1 => do
      if ← skipOperator b close then
        return
      else
        one b
        if ← skipOperator b close then
          return
        else
          let _ ← expect b ","
          patternsUpTo one b close n

/-- Reads one pattern that is not joined by bars.  `inner` reads a whole pattern
and `value` one that is not named. -/
def singlePattern (k : Inner) (n : Nat) (inner value : Bounds → Parse Unit) (b : Bounds) :
    Parse Unit := do
  let inside := Bounds.bracket b.indent
  let t ← head
  match t.kind with
  | .stringOpen =>
      let _ ← literalExpr k n b
  | .number => numberPattern b
  | .word =>
      let _ ← take
      dottedRest b n
      if ← skipOperator b "(" then
        patternsUpTo inner inside ")" n
  | .operator =>
      let _ ← take
      if t.text == "*" || t.text == "**" then
        let _ ← expectWord b.middle
      else if t.text == "-" then numberPattern b
      else if t.text == "[" then patternsUpTo inner inside "]" n
      else if t.text == "(" then patternsUpTo inner inside ")" n
      else if t.text == "\x7b" then
        let entry := fun b => do
          if ← skipOperator b "**" then
            let _ ← expectWord b.middle
          else
            value b
            let _ ← expect b.middle ":"
            inner b
        patternsUpTo entry inside "\x7d" n
      else stop
  | _ => stop

/-- Reads the further patterns joined to the first one by bars. -/
def joinedPatterns (single : Bounds → Parse Unit) (b : Bounds) : Nat → Parse Unit
  | 0 => return
  | n + 1 => do
      if ← skipOperator b "|" then
        single b.behind
        joinedPatterns single b n

/-- Reads a pattern with the patterns nested in it up to a depth.  `named` says
that a name may stand in front or behind. -/
def casePattern (k : Inner) (n : Nat) : Nat → Bool → Bounds → Parse Unit
  | 0, _, _ => stop
  | depth + 1, named, b => do
      let inner := casePattern k n depth true
      let value := casePattern k n depth false
      let isArgument := (← head).kind = .word && (← second).any (·.isOperator "=")
      if named && isArgument then
        let _ ← take
        let _ ← take
        value b.behind
      else
        let single := singlePattern k n inner value
        single b
        joinedPatterns single b n
        if named then
          if ← skipWord b "as" then
            let _ ← expectWord b.middle

end TestCensus.Source
