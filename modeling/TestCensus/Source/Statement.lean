import TestCensus.Source.CasePattern
import TestCensus.Source.Lexer

/-!
# Reading statements

A block is read statement by statement up to a line that is indented less than
the block.  A line that is indented more than its block is read like any other
line of it, except directly behind a colon, where it opens a new block.  A colon
with nothing deeper behind it has an empty block.

A word that starts a statement is reserved where the statement may start: the
words of compound statements at the start of a line, those of simple statements
also behind a semicolon and on the line of a colon.  Four words are reserved only
if the line reads as their statement and does not read as an expression: `print`,
`exec`, `type` and `match`.  A clause word such as `else` belongs to the statement
before it if that statement can have the clause, and is a name otherwise.

What stops the reading of a statement is reported for the innermost statement
around it.
-/

namespace TestCensus.Source

open Parse

/-! ## Lines -/

/-- The next token starts a new line. -/
def atLineEnd : Parse Bool := do
  return (← head).gap.endsLine

/-- Reads with a reader whose construct has to end at a line end or a semicolon. -/
def ended (b : Bounds) (p : Parse α) : Parse α := do
  let a ← p
  if (← atLineEnd) || (← atOperator b ";") then return a else stop

/-- Reads names between commas. -/
def namesRest (b : Bounds) : Nat → Parse Unit
  | 0 => return
  | n + 1 => do
      if ← skipOperator b "," then
        let _ ← expectWord b.middle
        namesRest b n

/-- Reads expressions between commas, behind the first one.  No comma may stand behind the
last. -/
def expressionsRest (k : Inner) (b : Bounds) : Nat → Parse Unit
  | 0 => return
  | n + 1 => do
      if ← skipOperator b "," then
        let _ ← k.expr b.behind
        expressionsRest k b n

/-- Reads an imported name, which may get another name. -/
def importedName (n : Nat) (b : Bounds) : Parse Unit := do
  let _ ← expectWord b
  dottedRest b n
  if ← skipWord b "as" then
    let _ ← expectWord b.middle

/-- Reads the further imported names.  A comma may stand behind the last. -/
def importedRest (n : Nat) (b : Bounds) : Nat → Parse Unit
  | 0 => return
  | m + 1 => do
      if ← skipOperator b "," then
        if (← next? b).any (·.kind == .word) then
          importedName n b
          importedRest n b m

/-- Reads the dots of a relative import.  Answers whether there were any. -/
def importDots (b : Bounds) : Nat → Bool → Parse Bool
  | 0, found => return found
  | n + 1, found => do
      if (← atOperator b ".") || (← atOperator b "...") then
        let _ ← take
        importDots b n true
      else
        return found

/-- Reads an import behind the word `from`. -/
def fromImport (n : Nat) (indent : Nat) : Parse Unit := do
  let h := Bounds.header indent
  let b := Bounds.line indent
  let relative ← importDots h n false
  let future := !relative && (← atWord h "__future__")
  if !relative || !(← atWord h "import") then
    let _ ← expectWord h
    dottedRest h n
  let _ ← expectThe h "import"
  if ← skipOperator h "(" then
    let inside := Bounds.bracket indent
    importedName n inside
    importedRest n inside n
    let _ ← expect inside ")"
  else if !future && (← atOperator h "*") then
    let _ ← take
    return
  else
    importedName n { b with lineEnds := false, leads := false }
    importedRest n b n

/-! ## Simple statements -/

/-- The operators of augmented assignments. -/
def augmentingOperators : List String :=
  ["+=", "-=", "*=", "/=", "@=", "//=", "%=", "**=", ">>=", "<<=", "&=", "^=", "|="]

/-- Reads the value of an assignment, which may be a further assignment. -/
def assigned (k : Inner) (n : Nat) (b : Bounds) : Nat → Parse Assigned
  | 0 => stop
  | m + 1 => do
      if ← atWord b.middle "yield" then
        let _ ← yieldExpr k n b
        return .other
      else
        let (parts, comma) ← row k n b.behind []
        if (← atOperator b "=") || (← atOneOf b augmentingOperators) then
          if areTargets parts then
            let _ ← take
            let _ ← assigned k n b m
            return .other
          else stop
        else if ← atOperator b ":" then
          if areTargets parts then
            let _ ← take
            typeExpr k b.behind false
            if ← skipOperator b "=" then
              let _ ← assigned k n b m
            return .other
          else stop
        else
          match comma, parts with
          | false, [.item e] => return .single e
          | _, _ => return .row parts

/-- The name that a row of targets assigns, if it is one name. -/
def assignedName? : List Part → Bool → Option String
  | [.item (.name id)], false => some id
  | _, _ => none

/-- Reads an assignment or a row of expressions. -/
def exprStatement (k : Inner) (n : Nat) (b : Bounds) : Parse SmallStatement := do
  if (← head).isWord "yield" then
    let e ← yieldExpr k n b
    return .expressions [.item e] false
  else
    let (parts, comma) ← row k n b []
    if ← atOperator b "=" then
      if areTargets parts then
        let _ ← take
        return .assignment (assignedName? parts comma) (some (← assigned k n b n))
      else stop
    else if ← atOperator b ":" then
      if areTargets parts then
        let _ ← take
        typeExpr k b.behind false
        if ← skipOperator b "=" then
          return .assignment (assignedName? parts comma) (some (← assigned k n b n))
        else
          return .assignment (assignedName? parts comma) none
      else stop
    else if ← atOneOf b augmentingOperators then
      if areTargets parts then
        let _ ← take
        let _ ← assigned k n b n
        return .simple
      else stop
    else
      return .expressions parts comma

/-- Reads what is printed, behind the word `print`. -/
def printed (k : Inner) (n : Nat) (b : Bounds) : Parse Unit := do
  if ← skipOperator b ">>" then
    let _ ← k.expr b.behind
    let _ ← rowRest k b [] n [] false
  else
    let _ ← row k n b []

/-- Reads what is executed, behind the word `exec`. -/
def executed (k : Inner) (n : Nat) (b : Bounds) : Parse Unit := do
  match ← next? b with
  | some t =>
      if t.kind = .stringOpen then
        let _ ← oneLiteral k n b.indent
      else
        let _ ← expectWord b
  | none => stop
  if ← skipWord b "in" then
    let _ ← k.expr b.behind
    expressionsRest k b n

/-- Reads the declaration of a type, behind the word `type`. -/
def typeDeclared (k : Inner) (n : Nat) (b : Bounds) : Parse Unit := do
  let named := do
    let _ ← expectWord b
    typeParameters k n b
    let _ ← expect b "="
  either named (do
    typeExpr k b false
    let _ ← expect b "=")
  typeExpr k b.behind false

/-- Reads an expression if the construct goes on with one. -/
def optionalRow (k : Inner) (n : Nat) (b : Bounds) (stops : List String) : Parse Unit := do
  if ← atOperand b stops then
    let _ ← row k n b stops

/-- Reads a statement on one line, up to the semicolon or line end behind it. -/
def smallStatement (k : Inner) (n : Nat) (indent : Nat) : Parse SmallStatement := do
  let b := Bounds.line indent
  let h := Bounds.header indent
  let t ← head
  let orElse := fun (p : Parse Unit) =>
    either (ended b (exprStatement k n b)) (do
      let _ ← take
      p
      return SmallStatement.simple)
  if t.kind = .word then
    match t.text with
    | "import" =>
        let _ ← take
        importedName n h
        importedRest n b n
        return .simple
    | "from" =>
        let _ ← take
        fromImport n indent
        return .simple
    | "assert" =>
        let _ ← take
        let _ ← k.expr b.behind
        expressionsRest k b n
        return .simple
    | "return" =>
        let _ ← take
        optionalRow k n b []
        return .simple
    | "del" =>
        let _ ← take
        let _ ← row k n b.behind []
        return .simple
    | "raise" =>
        let _ ← take
        optionalRow k n b ["from"]
        if ← skipWord b "from" then
          let _ ← k.expr b.behind
        return .simple
    | "pass" | "break" | "continue" =>
        let _ ← take
        return .simple
    | "global" | "nonlocal" =>
        let _ ← take
        let _ ← expectWord h
        namesRest b n
        return .simple
    | "print" => orElse (printed k n b)
    | "exec" => orElse (executed k n b)
    | "type" => orElse (typeDeclared k n h)
    | _ => exprStatement k n b
  else exprStatement k n b

/-- Reads the further statements of a line. -/
def lineRest (k : Inner) (n : Nat) (indent : Nat) :
    Nat → List Statement → Parse (List Statement)
  | 0, _ => stop
  | m + 1, found => do
      if ← atLineEnd then
        return found
      else if ← skipOperator (Bounds.line indent) ";" then
        if ← atLineEnd then
          return found
        else
          let before := (← fillers true).map Statement.filler
          let s ← smallStatement k n indent
          lineRest k n indent m (found ++ before ++ [.small s])
      else stop

/-- Reads the statements of a line. -/
def line (k : Inner) (n : Nat) (indent : Nat) : Parse (List Statement) := do
  let before := (← fillers true).map Statement.filler
  let s ← smallStatement k n indent
  lineRest k n indent n (before ++ [.small s])

/-! ## Compound statements -/

/-- The readers that compound statements need. -/
structure Outer where
  /-- Reads expressions. -/
  inner : Inner
  /-- The number of rounds that a loop may take. -/
  rounds : Nat
  /-- Reads the statements of a block of the given indentation. -/
  block : Nat → Parse (List Statement)

/-- Reads the block behind a colon, in a block of the given indentation. -/
def suite (o : Outer) (indent : Nat) : Parse (List Statement) := do
  let t ← head
  if t.gap.endsLine then
    if indent < t.gap.indent then o.block t.gap.indent else return []
  else line o.inner o.rounds indent

/-- Takes the colon of a compound statement and reads the block behind it. -/
def colonSuite (o : Outer) (indent : Nat) : Parse (List Statement) := do
  let _ ← expect (Bounds.header indent) ":"
  suite o indent

/-- The given word is next, in a block that has not ended. -/
def atClause (indent : Nat) (word : String) : Parse Bool := do
  let t ← head
  return t.isWord word && !(t.gap.endsLine && t.gap.indent < indent)

/-- Reads a clause that consists of a word and a block, if it is next. -/
def wordClause (o : Outer) (indent : Nat) (word : String) :
    Parse (List (List Statement)) := do
  if ← atClause indent word then
    let _ ← take
    return [← colonSuite o indent]
  else
    return []

/-- Reads the further conditions of a conditional statement, and its last block. -/
def conditionsRest (o : Outer) (indent : Nat) :
    Nat → List (List Statement) → Parse (List (List Statement))
  | 0, _ => stop
  | n + 1, blocks => do
      if ← atClause indent "elif" then
        let _ ← take
        let _ ← o.inner.expr (Bounds.header indent)
        let block ← colonSuite o indent
        conditionsRest o indent n (blocks ++ [block])
      else
        return blocks ++ (← wordClause o indent "else")

/-- Reads a handler of a guarded block up to its colon. -/
def handlerHead (o : Outer) (indent : Nat) (groups : Bool) : Parse Unit := do
  let h := Bounds.header indent
  let _ ← take
  if groups then
    let _ ← take
  if !(← atOperator h ":") then
    let _ ← o.inner.expr h
    if !groups && (← atOperator h ",") then
      let _ ← take
      let _ ← o.inner.expr h
  else if groups then
    stop

/-- Reads the handlers of a guarded block.  Handlers of groups and of single
exceptions do not mix. -/
def handlersRest (o : Outer) (indent : Nat) (groups : Bool) :
    Nat → List (List Statement) → Parse (List (List Statement))
  | 0, _ => stop
  | n + 1, blocks => do
      let starred := (← second).any fun t => t.isOperator "*" && t.gap.text == ""
      if (← atClause indent "except") && (starred == groups) then
        handlerHead o indent groups
        let block ← colonSuite o indent
        handlersRest o indent groups n (blocks ++ [block])
      else
        return blocks

/-- Reads a guarded block behind its first word. -/
def guardedBlock (o : Outer) (indent : Nat) : Parse Statement := do
  let body ← colonSuite o indent
  let starred := (← second).any fun t => t.isOperator "*" && t.gap.text == ""
  let handlers ← handlersRest o indent starred o.rounds []
  if handlers.isEmpty then
    if ← atClause indent "finally" then
      return .compound .guarded ([body] ++ (← wordClause o indent "finally"))
    else stop
  else
    let otherwise ← wordClause o indent "else"
    let finally' ← wordClause o indent "finally"
    return .compound .guarded ([body] ++ handlers ++ otherwise ++ finally')

/-- Reads a loop over a sequence behind the word `for`. -/
def forLoop (o : Outer) (indent : Nat) : Parse Statement := do
  let h := Bounds.header indent
  loopTargets o.inner o.rounds h
  let _ ← expectThe h "in"
  let _ ← row o.inner o.rounds h []
  let body ← colonSuite o indent
  return .compound .loop ([body] ++ (← wordClause o indent "else"))

/-- Reads a managed block behind the word `with`. -/
def managedBlock (o : Outer) (indent : Nat) : Parse Statement := do
  let _ ← row o.inner o.rounds (Bounds.header indent) []
  return .compound .managed [← colonSuite o indent]

/-- Reads what stands between the name of a function and the colon: its type
parameters, its parameters and the type of its value. -/
def functionSignature (o : Outer) (indent : Nat) : Parse Unit := do
  let h := Bounds.header indent
  let inside := Bounds.bracket indent
  typeParameters o.inner o.rounds h
  let _ ← expect h "("
  if (← head).isOperator ":" then
    fail (.missing (← head).start)
  if !(← skipOperator inside ")") then
    parameter o.inner inside true
    if (← head).isOperator ":" then
      fail (.missing (← head).start)
    parametersRest o.inner inside true ")" o.rounds
  if ← skipOperator h "->" then
    typeExpr o.inner h.behind false

/-- Reads a function definition behind the word `def`. -/
def functionDefinition (o : Outer) (indent : Nat) (decorators : List Decorator)
    (isAsync : Bool) (start : Position) : Parse Statement := do
  let name ← expectWord (Bounds.header indent)
  functionSignature o indent
  let body ← colonSuite o indent
  return .function decorators ⟨name.text, isAsync, start.line + 1⟩ body

/-- Reads a function definition whose keyword is next. -/
def plainFunction (o : Outer) (indent : Nat) (decorators : List Decorator) : Parse Statement := do
  let t ← take
  functionDefinition o indent decorators false t.start

/-- Reads the definition of a coroutine whose first keyword is next. -/
def coroutine (o : Outer) (indent : Nat) (decorators : List Decorator) : Parse Statement := do
  let t ← take
  let _ ← expectThe (Bounds.header indent) "def"
  functionDefinition o indent decorators true t.start

/-- Reads what stands between the name of a class and the colon. -/
def classSignature (o : Outer) (indent : Nat) : Parse Unit := do
  let h := Bounds.header indent
  typeParameters o.inner o.rounds h
  if ← atOperator h "(" then
    let _ ← arguments o.inner o.rounds indent

/-- Reads a class definition behind the word `class`. -/
def classDefinition (o : Outer) (indent : Nat) (decorators : List Decorator) :
    Parse Statement := do
  let name ← expectWord (Bounds.header indent)
  classSignature o indent
  let body ← colonSuite o indent
  return .classDef decorators name.text body

/-- Reads the further patterns of a case. -/
def patternsRest (pattern : Bounds → Parse Unit) (h : Bounds) : Nat → Parse Unit
  | 0 => return
  | n + 1 => do
      if ← skipOperator h "," then
        if !(← atOperator h ":") && !(← atWord h "if") then
          pattern h
          patternsRest pattern h n

/-- Reads a case of a case distinction up to its colon. -/
def caseHead (o : Outer) (indent : Nat) (n : Nat) : Parse Unit := do
  let h := Bounds.header indent
  let _ ← expectThe (Bounds.bracket indent) "case"
  let pattern := casePattern o.inner o.rounds o.rounds true
  pattern h
  patternsRest pattern h n
  if ← skipWord h "if" then
    let _ ← o.inner.expr h

/-- Reads the cases of a case distinction. -/
def casesRest (o : Outer) (indent : Nat) :
    Nat → List (List Statement) → Parse (List (List Statement))
  | 0, _ => stop
  | n + 1, blocks => do
      let t ← head
      if t.kind = .finish || (t.gap.endsLine && t.gap.indent < indent) then
        return blocks
      else
        caseHead o indent n
        let block ← colonSuite o indent
        casesRest o indent n (blocks ++ [block])

/-- Reads the subjects of a case distinction and the colon behind them, behind the
word `match`.  The line has to end there. -/
def matchHeader (o : Outer) (indent : Nat) : Parse Unit := do
  let h := Bounds.header indent
  let _ ← take
  let _ ← row o.inner o.rounds h []
  let _ ← expect h ":"
  if !(← atLineEnd) then stop

/-- Reads the block of a case distinction behind its colon. -/
def matchBody (o : Outer) (indent : Nat) : Parse Statement := do
  let t ← head
  if indent < t.gap.indent then
    return .compound .cases (← casesRest o t.gap.indent o.rounds [])
  else
    return .compound .cases []

/-- Reads a decorator, whose sign is next. -/
def decorator (o : Outer) (indent : Nat) : Parse Decorator := do
  let _ ← take
  let before ← fillerParts true
  let e ← o.inner.expr (Bounds.line indent).behind
  if ← atLineEnd then return before ++ [.item e] else stop

/-- Reads a definition with its decorators, the first of which is next. -/
def decorated (o : Outer) (indent : Nat) :
    Nat → List Decorator → Parse Statement
  | 0, _ => stop
  | n + 1, decorators => do
      let t ← head
      if !decorators.isEmpty && t.gap.indent < indent then stop
      else if t.isOperator "@" then
        let d ← decorator o indent
        decorated o indent n (decorators ++ [d])
      else if t.isWord "def" then plainFunction o indent decorators
      else if t.isWord "class" then
        let _ ← take
        classDefinition o indent decorators
      else if t.isWord "async" then coroutine o indent decorators
      else stop

/-- Reads a compound statement, if one starts with the next token. -/
def compoundStatement? (o : Outer) (indent : Nat) : Parse (Option Statement) := do
  let t ← head
  let h := Bounds.header indent
  if t.isOperator "@" then
    return some (← decorated o indent o.rounds [])
  else if t.kind = .word then
    match t.text with
    | "if" =>
        let _ ← take
        let _ ← o.inner.expr h
        let body ← colonSuite o indent
        return some (.compound .conditional (← conditionsRest o indent o.rounds [body]))
    | "while" =>
        let _ ← take
        let _ ← o.inner.expr h
        let body ← colonSuite o indent
        return some (.compound .loop ([body] ++ (← wordClause o indent "else")))
    | "for" =>
        let _ ← take
        return some (← forLoop o indent)
    | "try" =>
        let _ ← take
        return some (← guardedBlock o indent)
    | "with" =>
        let _ ← take
        return some (← managedBlock o indent)
    | "def" => return some (← plainFunction o indent [])
    | "class" =>
        let _ ← take
        return some (← classDefinition o indent [])
    | "async" =>
        match ← second with
        | some u =>
            if u.gap.endsLine then return none
            else if u.isWord "def" then return some (← coroutine o indent [])
            else if u.isWord "for" then
              let _ ← take
              let _ ← take
              return some (← forLoop o indent)
            else if u.isWord "with" then
              let _ ← take
              let _ ← take
              return some (← managedBlock o indent)
            else return none
        | none => return none
    | "match" =>
        let isMatch ← either (do matchHeader o indent; return true) (return false)
        if isMatch then
          return some (← matchBody o indent)
        else
          return none
    | _ => return none
  else return none

/-- Reads the statement or the line of statements that is next, with the fillers
before it. -/
def statementLine (o : Outer) (indent : Nat) : Parse (List Statement) :=
  asStatement do
    let before := (← fillers true).map Statement.filler
    match ← compoundStatement? o indent with
    | some s => return before ++ [s]
    | none => line o.inner o.rounds indent

/-- Reads the statements of a block up to its end.  The lines read so far are
given last first. -/
def blockRest (o : Outer) (indent : Nat) :
    Nat → List (List Statement) → Parse (List Statement)
  | 0, _ => stop
  | n + 1, lines => do
      let t ← head
      if t.kind = .finish || (t.gap.endsLine && t.gap.indent < indent) then
        return lines.reverse.flatten
      else
        let found ← statementLine o indent
        blockRest o indent n (found :: lines)

/-- Reads blocks with the blocks nested in them up to a depth. -/
def blocks (k : Inner) (n : Nat) : Nat → Nat → Parse (List Statement)
  | 0, _ => stop
  | depth + 1, indent => blockRest ⟨k, n, blocks k n depth⟩ indent n []

/-- The statements of a source, or the damage that stops its reading.  A token that is none
damages the source wherever it stands. -/
def parse (source : List Char) : Except Damage (List Statement) :=
  let ts := tokens source
  let n := ts.length + 1
  match (blocks (readers n) n n 0).run ts with
  | .error d => .error d
  | .ok (statements, _) =>
      match ts.find? Token.isUnknown with
      | some t => .error (.unexpected t.start)
      | none => .ok statements

end TestCensus.Source
