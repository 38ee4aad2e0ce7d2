import TestCensus.Source.Grammar

/-!
# Reading expressions

An expression is a chain of operands with operators between them.  Which
operator binds closer does not matter to the census, so a chain of more than one
operand becomes one tree node that keeps its text.  What matters is which
operands may stand where.

* At *expression level* an operand may start with `not`, with an anonymous
  function or with the binding of a name.  This is the level at the start of an
  expression and behind `and`, `or`, `as` and the words of a conditional.
* At *operand level*, behind an arithmetic sign or a comparison, it may not.

A word that is reserved elsewhere is a name wherever an operand is expected and
the word could not start one.

Every reader here takes the readers of smaller constructs as an argument, in
`Inner`, and the number of rounds that its loops may take.  `readers` ties the
knot: each level of nesting takes at least one token, so the number of tokens
bounds the depth and the rounds.
-/

namespace TestCensus.Source

open Parse

/-- The readers of constructs that are nested in the one being read. -/
structure Inner where
  /-- Reads an expression. -/
  expr : Bounds → Parse Expr
  /-- Reads an operand with what is attached to it, without operators. -/
  attached : Bounds → Parse Expr

/-! ## Rows of expressions -/

/-- The operators an operand may start with. -/
def operandStarts : List String := ["(", "[", "\x7b", "-", "+", "~", "*", "..."]

/-- An operand may start with the token. -/
def Token.startsOperand (t : Token) : Bool :=
  t.kind == .word || t.kind == .number || t.kind == .stringOpen ||
    (t.kind == .operator && operandStarts.contains t.text)

/-- The construct goes on with an operand, and not with one of the given words. -/
def atOperand (b : Bounds) (stops : List String) : Parse Bool := do
  return (← next? b).any fun t =>
    t.startsOperand && !(t.kind == .word && stops.contains t.text)

/-- Reads the rest of a row behind its first expression: commas with expressions
behind them.  Answers the parts and whether there was a comma. -/
def rowRest (k : Inner) (b : Bounds) (stops : List String) :
    Nat → List Part → Bool → Parse (List Part × Bool)
  | 0, parts, comma => return (parts, comma)
  | n + 1, parts, comma => do
      if ← atOperator b "," then
        let before ← fillerParts false
        let _ ← take
        if ← atOperand b stops then
          let between ← fillerParts true
          let e ← k.expr b.behind
          rowRest k b stops n (parts ++ before ++ between ++ [.item e]) true
        else
          return (parts ++ before, true)
      else
        return (parts, comma)

/-- Reads expressions between commas, with or without a comma behind the last. -/
def row (k : Inner) (n : Nat) (b : Bounds) (stops : List String) :
    Parse (List Part × Bool) := do
  let e ← k.expr b
  rowRest k b stops n [.item e] false

/-- Reads a yield, whose first word is next. -/
def yieldExpr (k : Inner) (n : Nat) (b : Bounds) : Parse Expr := do
  let before ← ahead
  let _ ← take
  if ← skipWord b "from" then
    let _ ← k.expr b.behind
  else if ← atOperand b [] then
    let _ ← row k n b.behind []
  return .other (← textSince before)

/-! ## String literals -/

/-- Reads a format specification and the brace behind it. -/
def specRest (field : Parse Unit) : Nat → Parse Unit
  | 0 => stop
  | n + 1 => do
      let t ← take
      match t.kind with
      | .specText => specRest field n
      | .fieldOpen =>
          field
          specRest field n
      | .fieldClose => return
      | _ => stop

/-- Reads a replacement field behind its opening brace.  Fields are nested in
format specifications, up to the given depth. -/
def field (k : Inner) (indent : Nat) : Nat → Parse Unit
  | 0 => stop
  | n + 1 => do
      let b := Bounds.bracket indent
      if ← atWord b "yield" then
        let _ ← yieldExpr k n b
      else
        let _ ← row k n b []
      let _ ← skipOperator b "="
      if (← head).kind = .conversion then
        let _ ← take
      let t ← take
      match t.kind with
      | .fieldClose => return
      | .specOpen => specRest (field k indent n) n
      | _ => stop

/-- Reads a string literal behind its opening. -/
def literalRest (k : Inner) (indent : Nat) : Nat → Parse Unit
  | 0 => stop
  | n + 1 => do
      let t ← take
      match t.kind with
      | .stringText => literalRest k indent n
      | .fieldOpen =>
          field k indent n
          literalRest k indent n
      | .stringClose => return
      | _ => stop

/-- Reads one string literal, and answers its text. -/
def oneLiteral (k : Inner) (n : Nat) (indent : Nat) : Parse String := do
  let before ← ahead
  let _ ← take
  literalRest k indent n
  textSince before

/-- Reads the literals that follow a literal directly. -/
def adjacentLiterals (k : Inner) (b : Bounds) : Nat → List String → Parse (List String)
  | 0, pieces => return pieces
  | n + 1, pieces => do
      if (← next? b).any (·.kind == .stringOpen) then
        let piece ← oneLiteral k n b.indent
        adjacentLiterals k b n (pieces ++ [piece])
      else
        return pieces

/-- Reads one literal or several adjacent ones. -/
def literalExpr (k : Inner) (n : Nat) (b : Bounds) : Parse Expr := do
  let before ← ahead
  let piece ← oneLiteral k n b.indent
  match ← adjacentLiterals k b n [piece] with
  | [text] => return .literal text
  | pieces => return .literals pieces (← textSince before)

/-! ## Targets and comprehensions -/

/-- Reads an operand that may be assigned to. -/
def target (k : Inner) (b : Bounds) : Parse Expr := do
  let e ← k.attached b
  if e.isTarget then return e else stop

/-- Reads the further targets of a row of them.  The word that ends the row is
no target. -/
def targetsRest (k : Inner) (b : Bounds) (last : String) : Nat → Parse Unit
  | 0 => return
  | n + 1 => do
      if ← skipOperator b "," then
        if ← atOperand b [last] then
          let _ ← target k b.behind
          targetsRest k b last n

/-- Reads the targets of a loop, up to the word `in`. -/
def loopTargets (k : Inner) (n : Nat) (b : Bounds) : Parse Unit := do
  let _ ← target k b
  targetsRest k b "in" n

/-- The words that end the sources of a comprehension. -/
def clauseWords : List String := ["for", "async", "if"]

/-- The construct goes on with a loop of a comprehension. -/
def atLoop (b : Bounds) : Parse Bool := do
  if ← atWord b "for" then return true
  if ← atWord b "async" then return (← second).any (·.isWord "for")
  return false

/-- Reads the loops and conditions of a comprehension. -/
def clauses (k : Inner) (b : Bounds) : Nat → Parse Unit
  | 0 => return
  | n + 1 => do
      let inside := { b with conditional := false }
      if ← atLoop b then
        let _ ← skipWord b "async"
        let _ ← expectThe b "for"
        loopTargets k n b.middle
        let _ ← expectThe b.middle "in"
        let _ ← row k n inside.behind clauseWords
        clauses k b n
      else if ← skipWord b "if" then
        let _ ← k.expr inside.behind
        clauses k b n

/-! ## Brackets -/

/-- Reads an element of a list, tuple or set.  A double star is two stars that touch
where two unpackings may be nested. -/
def element (k : Inner) (n : Nat) (b : Bounds) : Parse Expr := do
  if ← atOperator b "**" then splitStars
  if ← atOperator b "*" then
    let before ← ahead
    let _ ← take
    let e ← k.expr b.behind
    return .splat e.isBindable (← textSince before)
  else if ← atWord b "yield" then
    yieldExpr k n b
  else
    k.expr b

/-- Reads the elements behind the first one, up to the closing bracket, which is
taken too.  Answers the parts and whether there was a comma. -/
def elementsRest (k : Inner) (b : Bounds) (close : String) :
    Nat → List Part → Bool → Parse (List Part × Bool)
  | 0, _, _ => stop
  | n + 1, parts, comma => do
      let before ← fillerParts false
      if ← skipOperator b close then
        return (parts ++ before, comma)
      else
        let _ ← expect b ","
        let between ← fillerParts true
        if ← skipOperator b close then
          return (parts ++ before ++ between, true)
        else
          let e ← element k n b
          elementsRest k b close n (parts ++ before ++ between ++ [.item e]) true

/-- Reads what stands between round brackets: nothing, one expression, a
generator, or the elements of a tuple. -/
def roundBrackets (k : Inner) (n : Nat) (indent : Nat) : Parse Expr := do
  let b := Bounds.bracket indent
  let start ← ahead
  let _ ← take
  let before ← fillerParts true
  if ← skipOperator b ")" then
    return .tuple before (← textSince start)
  else
    let e ← element k n b
    if ← atLoop b then
      clauses k b n
      let _ ← expect b ")"
      return .other (← textSince start)
    else
      let (parts, comma) ← elementsRest k b ")" n (before ++ [.item e]) false
      let text ← textSince start
      return if comma then .tuple parts text else .parens parts text

/-- Reads a list or a list comprehension. -/
def squareBrackets (k : Inner) (n : Nat) (indent : Nat) : Parse Expr := do
  let b := Bounds.bracket indent
  let start ← ahead
  let _ ← take
  let before ← fillerParts true
  if ← skipOperator b "]" then
    return .list before (← textSince start)
  else
    let e ← element k n b
    if ← atLoop b then
      clauses k b n
      let _ ← expect b "]"
      return .other (← textSince start)
    else
      let (parts, _) ← elementsRest k b "]" n (before ++ [.item e]) false
      return .list parts (← textSince start)

/-- Reads one entry of a mapping. -/
def entry (k : Inner) (b : Bounds) : Parse Unit := do
  if ← skipOperator b "**" then
    let _ ← k.expr b.behind
  else
    let _ ← k.expr b
    let _ ← expect b.middle ":"
    let _ ← k.expr b.behind

/-- Reads the entries of a mapping behind the first one, and the closing brace. -/
def entriesRest (k : Inner) (b : Bounds) : Nat → Parse Unit
  | 0 => stop
  | n + 1 => do
      if ← skipOperator b "\x7d" then
        return
      else
        let _ ← expect b ","
        if ← skipOperator b "\x7d" then
          return
        else
          entry k b
          entriesRest k b n

/-- Reads what stands between braces: a mapping, a set, or a comprehension of
either. -/
def braces (k : Inner) (n : Nat) (indent : Nat) : Parse Expr := do
  let b := Bounds.bracket indent
  let start ← ahead
  let _ ← take
  if ← skipOperator b "\x7d" then
    return .other (← textSince start)
  else if ← skipOperator b "," then
    let _ ← expect b "\x7d"
  else if ← atOperator b "**" then
    entry k b
    entriesRest k b n
  else
    let e ← element k n b
    if !e.isSplat && (← atOperator b ":") then
      let _ ← take
      let _ ← k.expr b.behind
      if ← atLoop b then
        clauses k b n
        let _ ← expect b "\x7d"
      else
        entriesRest k b n
    else if ← atLoop b then
      clauses k b n
      let _ ← expect b "\x7d"
    else
      let _ ← elementsRest k b "\x7d" n [.item e] false
  return .other (← textSince start)

/-! ## What is attached to an operand -/

/-- The words that cannot name an argument. -/
def valueWords : List String := ["None", "True", "False", "not", "lambda"]

/-- The next two tokens start an argument known by its name. -/
def atKeyword (b : Bounds) : Parse Bool := do
  match ← next? b with
  | some t =>
      if t.kind == .word && !valueWords.contains t.text then
        return (← second).any (·.isOperator "=")
      else
        return false
  | none => return false

/-- Reads one argument of a call. -/
def argument (k : Inner) (b : Bounds) : Parse ArgumentPart := do
  if (← atOperator b "*") || (← atOperator b "**") then
    let _ ← take
    let _ ← k.expr b.behind
    return .splat
  else if ← atKeyword b then
    let name ← take
    let _ ← take
    let value ← k.expr b.behind
    return .keyword name.text value
  else
    return .positional (← k.expr b)

/-- Reads arguments up to the closing bracket, which is taken too. -/
def argumentsRest (k : Inner) (b : Bounds) :
    Nat → List ArgumentPart → Parse (List ArgumentPart)
  | 0, _ => stop
  | n + 1, parts => do
      let before := (← fillers false).map ArgumentPart.filler
      if ← skipOperator b ")" then
        return parts ++ before
      else
        let _ ← expect b ","
        let between := (← fillers true).map ArgumentPart.filler
        if ← skipOperator b ")" then
          return parts ++ before ++ between
        else
          let a ← argument k b
          argumentsRest k b n (parts ++ before ++ between ++ [a])

/-- Reads the bracketed arguments of a call or of a class definition.  A generator
without brackets of its own may be the only argument of a call. -/
def arguments (k : Inner) (n : Nat) (indent : Nat) : Parse (List ArgumentPart) := do
  let b := Bounds.bracket indent
  let _ ← take
  let before := (← fillers true).map ArgumentPart.filler
  if ← skipOperator b ")" then
    return before
  else if ← skipOperator b "," then
    let _ ← expect b ")"
    return before
  else
    let a ← argument k b
    if ← atLoop b then
      clauses k b n
      let _ ← expect b ")"
      return [.generator]
    else
      argumentsRest k b n (before ++ [a])

/-- Reads a subscript: an expression, or a slice with up to three of them. -/
def slice (k : Inner) (b : Bounds) : Parse Unit := do
  if !(← atOperator b ":") then
    let _ ← k.expr b
  if ← skipOperator b ":" then
    if ← atOperand b [] then
      let _ ← k.expr b.behind
    if ← skipOperator b ":" then
      if ← atOperand b [] then
        let _ ← k.expr b.behind

/-- Reads the subscripts behind the first one, and the closing bracket. -/
def slicesRest (k : Inner) (b : Bounds) : Nat → Parse Unit
  | 0 => stop
  | n + 1 => do
      if ← skipOperator b "]" then
        return
      else
        let _ ← expect b ","
        if ← skipOperator b "]" then
          return
        else
          slice k b
          slicesRest k b n

/-- Reads the members, calls and subscripts attached to an operand. -/
def attachments (k : Inner) (b : Bounds) (start : List Token) : Nat → Expr → Parse Expr
  | 0, e => return e
  | n + 1, e => do
      if ← skipOperator b "." then
        let member ← expectWord b.middle
        attachments k b start n (.attribute e member.text (← textSince start))
      else if ← atOperator b "(" then
        let parts ← arguments k n b.indent
        attachments k b start n (.call e parts)
      else if ← atOperator b "[" then
        let inside := Bounds.bracket b.indent
        let _ ← take
        slice k inside
        slicesRest k inside n
        attachments k b start n (.subscript (← textSince start))
      else
        return e

/-- The words that are values. -/
def constantWords : List String := ["None", "True", "False"]

/-- Reads an operand without a sign before it and without what is attached. -/
def atom (k : Inner) (n : Nat) (b : Bounds) : Parse Expr := do
  match ← nextOperand? b with
  | none => stop
  | some t =>
      match t.kind with
      | .word =>
          let _ ← take
          return if constantWords.contains t.text then .other t.text else .name t.text
      | .number =>
          let _ ← take
          return .other t.text
      | .stringOpen => literalExpr k n b
      | .operator =>
          if t.text == "(" then roundBrackets k n b.indent
          else if t.text == "[" then squareBrackets k n b.indent
          else if t.text == "\x7b" then braces k n b.indent
          else if t.text == "..." then
            let _ ← take
            return .other t.text
          else stop
      | _ => stop

/-- Reads an operand with what is attached to it.  A star before it has to have
something to unpack. -/
def attachedStep (n : Nat) (k : Inner) (b : Bounds) : Parse Expr := do
  let start ← ahead
  match ← nextOperand? b with
  | some t =>
      if t.isOperator "*" then
        let _ ← take
        let first ← atom k n b.behind
        let text ← textSince start
        let e ← attachments k b.behind start n (first.starred text)
        match e.unpacked? with
        | some unpacked => return unpacked
        | none => stop
      else
        attachments k b start n (← atom k n b)
  | none => stop

/-! ## Parameters and types -/

/-- Reads a type.  In a list of type parameters, a constraint may follow. -/
def typeExpr (k : Inner) (b : Bounds) (constrained : Bool) : Parse Unit := do
  if ← skipOperator b "**" then
    let _ ← expectWord b.middle
  else
    let _ ← k.expr b
  if constrained then
    if ← skipOperator b ":" then
      let _ ← k.expr b.behind

/-- Reads the type parameters behind the first one, and the closing bracket. -/
def typeParametersRest (k : Inner) (b : Bounds) : Nat → Parse Unit
  | 0 => stop
  | n + 1 => do
      if ← skipOperator b "]" then
        return
      else
        let _ ← expect b ","
        if ← skipOperator b "]" then
          return
        else
          typeExpr k b true
          typeParametersRest k b n

/-- Reads type parameters in square brackets, if they are next. -/
def typeParameters (k : Inner) (n : Nat) (header : Bounds) : Parse Unit := do
  if ← skipOperator header "[" then
    let b := Bounds.bracket header.indent
    typeExpr k b true
    typeParametersRest k b n

/-- The construct goes on with one of the given operators. -/
def atOneOf (b : Bounds) (texts : List String) : Parse Bool := do
  return (← next? b).any fun t => t.kind == .operator && texts.contains t.text

/-- Reads the type of a parameter, if parameters may have types and one is next. -/
def parameterType (k : Inner) (b : Bounds) (typed : Bool) : Parse Unit := do
  if typed then
    if ← skipOperator b ":" then
      typeExpr k b.behind false

/-- Reads one parameter.  `typed` says that parameters may have types. -/
def parameter (k : Inner) (b : Bounds) (typed : Bool) : Parse Unit := do
  if ← skipOperator b "*" then
    if !(← atOneOf b [",", ")", ":"]) then
      let _ ← target k b.behind
      parameterType k b typed
  else if ← skipOperator b "**" then
    let _ ← target k b.behind
    parameterType k b typed
  else if ← skipOperator b "/" then
    return
  else if ← atOperator b "(" then
    let _ ← target k b
    if ← skipOperator b "=" then
      let _ ← k.expr b.behind
  else
    let _ ← expectWord b
    parameterType k b typed
    if ← skipOperator b "=" then
      let _ ← k.expr b.behind

/-- Reads parameters up to the closing text, which is taken too. -/
def parametersRest (k : Inner) (b : Bounds) (typed : Bool) (close : String) : Nat → Parse Unit
  | 0 => stop
  | n + 1 => do
      if ← skipOperator b close then
        return
      else
        let _ ← expect b ","
        if ← skipOperator b close then
          return
        else
          parameter k b typed
          parametersRest k b typed close n

/-- Reads the parameters of an anonymous function and the colon behind them. -/
def functionParameters (k : Inner) (n : Nat) (b : Bounds) : Parse Unit := do
  if ← skipOperator b ":" then
    return
  else
    parameter k b false
    parametersRest k b false ":" n

/-! ## Chains of operands -/

/-- The signs that may stand before an operand. -/
def signs : List String := ["+", "-", "~"]

/-- The operators behind which an operand without `not` follows. -/
def operandOperators : List String :=
  ["+", "-", "*", "@", "/", "%", "//", "**", "|", "&", "^", "<<", ">>", "<", "<=", "==", "!=",
    ">=", ">", "<>"]

/-- The words that stand between two operands, or behind one. -/
def joiningWords : List String :=
  ["if", "else", "and", "or", "in", "not", "is", "as", "for", "from"]

/-- The token behind `await` makes it a word of its own. -/
def awaits (t : Token) : Bool :=
  t.startsOperand && !(t.kind == .word && joiningWords.contains t.text)

/-- Reads an operand.  `free` says that it stands at expression level.  Answers
the expression unless something stands before the operand. -/
def operand (k : Inner) : Nat → Bounds → Bool → Parse (Option Expr)
  | 0, _, _ => stop
  | n + 1, b, free => do
      match ← nextOperand? b with
      | none => stop
      | some t =>
          if t.kind = .operator && signs.contains t.text then
            let _ ← take
            let _ ← operand k n b.behind false
            return none
          else if free && t.isWord "not" then
            let _ ← take
            let _ ← operand k n b.behind true
            return none
          else if free && t.isWord "lambda" then
            let _ ← take
            functionParameters k n b.middle
            let _ ← operand k n b.behind true
            return none
          else if free && t.kind = .word && !constantWords.contains t.text &&
              (← second).any (·.isOperator ":=") then
            let _ ← take
            let _ ← take
            let _ ← operand k n b.behind true
            return none
          else if t.isWord "await" && (← second).any awaits then
            let _ ← take
            if ← atOperand b.behind [] then
              let _ ← operand k n b.behind false
              return none
            else
              let e ← attachments k b (← ahead) n (.name "await")
              return some e
          else
            return some (← attachedStep n k b)

/-- Reads the operators and operands behind the first operand.  Answers whether
there were any. -/
def chainRest (k : Inner) (b : Bounds) : Nat → Bool → Parse Bool
  | 0, more => return more
  | n + 1, more => do
      match ← next? b with
      | none => return more
      | some t =>
          if t.kind = .operator && operandOperators.contains t.text then
            let _ ← take
            let _ ← operand k n b.behind false
            chainRest k b n true
          else if t.isWord "and" || t.isWord "or" || t.isWord "as" then
            let _ ← take
            let _ ← operand k n b.behind true
            chainRest k b n true
          else if t.isWord "in" then
            let _ ← take
            let _ ← operand k n b.behind false
            chainRest k b n true
          else if t.isWord "is" then
            let _ ← take
            let _ ← skipWord b.middle "not"
            let _ ← operand k n b.behind false
            chainRest k b n true
          else if t.isWord "not" && (← second).any (·.isWord "in") then
            let _ ← take
            let _ ← take
            let _ ← operand k n b.behind false
            chainRest k b n true
          else if t.isWord "if" && b.conditional then
            let _ ← take
            let _ ← k.expr b.middle
            let _ ← expectThe b.middle "else"
            let _ ← operand k n b.behind true
            chainRest k b n true
          else
            return more

/-- Reads an expression. -/
def exprStep (n : Nat) (k : Inner) (b : Bounds) : Parse Expr := do
  let start ← ahead
  let first ← operand k n b true
  let more ← chainRest k b n false
  match first, more with
  | some e, false => return e
  | _, _ => return .other (← textSince start)

/-- The readers for constructs up to the given depth of nesting. -/
def readers : Nat → Inner
  | 0 => ⟨fun _ => stop, fun _ => stop⟩
  | n + 1 => ⟨fun b => exprStep n (readers n) b, fun b => attachedStep n (readers n) b⟩

end TestCensus.Source
