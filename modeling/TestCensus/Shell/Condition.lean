import TestCensus.Files.Tree
import TestCensus.Shell.Arithmetic

/-!
# Conditions

The program `test` compares texts and numbers and asks for files.  Its arguments
are an expression, whose form depends on how many there are.  An expression with
more of them is a disjunction or a conjunction.
-/

namespace TestCensus.Shell

open TestCensus.Files

/-- The value of a question about one argument, if there is such a question. -/
def unary? (t : Tree) (question argument : String) : Option Bool :=
  match question with
  | "-n" => some !argument.isEmpty
  | "-z" => some argument.isEmpty
  | "-e" | "-r" | "-w" => some (t.has ⟨argument⟩)
  | "-f" => some (t.hasFile ⟨argument⟩)
  | "-d" | "-x" => some (t.hasDirectory ⟨argument⟩)
  | "-s" => some (match t.readBytes ⟨argument⟩ with
      | .ok bytes => !bytes.isEmpty
      | .error _ => t.hasDirectory ⟨argument⟩)
  | _ => none

/-- The value of a comparison of numbers, or the text that is no number. -/
def compareNumbers (f : Int → Int → Bool) (a b : String) : Except String Bool :=
  match integer? a.toList, integer? b.toList with
  | some x, some y => .ok (f x y)
  | none, _ => .error a
  | _, none => .error b

/-- The value of a question about two arguments, if there is such a question. -/
def binary? (a question b : String) : Option (Except String Bool) :=
  match question with
  | "=" | "==" => some (.ok (a == b))
  | "!=" => some (.ok (a != b))
  | "-eq" => some (compareNumbers (· == ·) a b)
  | "-ne" => some (compareNumbers (· != ·) a b)
  | "-lt" => some (compareNumbers (fun x y => x < y) a b)
  | "-le" => some (compareNumbers (fun x y => x ≤ y) a b)
  | "-gt" => some (compareNumbers (fun x y => y < x) a b)
  | "-ge" => some (compareNumbers (fun x y => y ≤ x) a b)
  | _ => none

/-- The value of an expression without connectives.  An error gives the argument
that cannot be used. -/
def condition (t : Tree) : List String → Except String Bool
  | [] => .ok false
  | [a] => .ok !a.isEmpty
  | ["!", a] => .ok a.isEmpty
  | [question, a] =>
      match unary? t question a with
      | some b => .ok b
      | none => .error question
  | [a, question, b] =>
      match binary? a question b with
      | some result => result
      | none =>
          if a = "!" then
            match unary? t question b with
            | some value => .ok !value
            | none => .error question
          else .error question
  | "!" :: rest => (condition t rest).map not
  | a :: _ => .error a

/-- The value of an expression with connectives, of which `-o` binds weaker. -/
def conditions (t : Tree) (arguments : List String) : Except String Bool := do
  if arguments.length ≤ 4 then condition t arguments
  else if arguments.head? = some "(" && arguments.getLast? = some ")" then
    condition t (arguments.drop 1).dropLast
  else
    let values ← (arguments.splitOn "-o").mapM fun conjunction =>
      ((conjunction.splitOn "-a").mapM (condition t)).map fun vs => vs.all id
    return values.any id

end TestCensus.Shell
