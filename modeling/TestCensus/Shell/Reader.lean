import TestCensus.Shell.Syntax
import TestCensus.Text.Name
import TestCensus.Text.Parts

/-!
# Reading scripts

A script is read by functions that take characters and give what they read and the
characters behind it, or a fault.  They call each other to any depth, which fuel
bounds; a script of `n` characters needs no more than `readFuel n`.

A list of commands ends at the end of the text, at a closing parenthesis, at two
semicolons, or at a word that ends or continues a compound command.  Whoever reads
a list looks at what ended it.

A script is read line by line (`readLine`), so that the lines before a fault run.
-/

namespace TestCensus.Shell

open TestCensus.Text

/-! ## Faults -/

/-- Why a text is no script. -/
structure Fault where
  /-- What is wrong. -/
  message : String
  /-- The number of line ends behind the place. -/
  linesLeft : Nat

/-- The number of line ends in a text. -/
def lineEnds (cs : List Char) : Nat := cs.count '\n'

/-- A fault before the rest of a script. -/
def fault (message : String) (rest : List Char) : Except Fault α := .error ⟨message, lineEnds rest⟩

/-! ## Characters and gaps -/

/-- The character ends a word. -/
def endsWord (c : Char) : Bool := " \t\n;&|<>()".toList.contains c

/-- The mark around a command whose output is put in. -/
def backquote : Char := '\x60'

/-- The character has no meaning of its own inside of a word. -/
def isPlain (c : Char) : Bool :=
  !endsWord c && !(['\'', '"', '$', '\\', backquote].contains c)

/-- A character of a parameter name. -/
def isNameChar (c : Char) : Bool := c.isAlphanum || c = '_'

/-- The text is a name of a parameter or a command. -/
def isName (cs : List Char) : Bool := cs.all isNameChar && cs.head?.any fun c => !c.isDigit

/-- The name of a parameter that is no ordinary one. -/
def isSpecialName (c : Char) : Bool := ['@', '*', '#', '?', '$', '!', '-', '0'].contains c

/-- Skips blanks and a comment on a line.  Words are not separated by line ends
behind a backslash. -/
def skipSpace : List Char → List Char
  | ' ' :: rest => skipSpace rest
  | '\t' :: rest => skipSpace rest
  | '\\' :: '\n' :: rest => skipSpace rest
  | '#' :: rest => rest.dropWhile (· != '\n')
  | cs => cs

/-- Skips blanks, comments and line ends. -/
def skipLines (fuel : Nat) (cs : List Char) : List Char :=
  match fuel, skipSpace cs with
  | n + 1, '\n' :: rest => skipLines n rest
  | _, rest => rest

/-- What follows a word of the language, if it comes next. -/
def keyword? (word : String) (cs : List Char) : Option (List Char) :=
  match dropStart? word.toList cs with
  | some rest => if rest.head?.all endsWord then some rest else none
  | none => none

/-- The words that end a list of commands. -/
def closingWords : List String := ["then", "fi", "else", "elif", "do", "done", "esac", "\x7d"]

/-- The words of the language. -/
def keywords : List String :=
  ["!", "\x7b", "if", "while", "until", "for", "case", "in"] ++ closingWords

/-- A list of commands ends here. -/
def atEnd (cs : List Char) : Bool :=
  match cs with
  | [] => true
  | ')' :: _ => true
  | ';' :: ';' :: _ => true
  | _ => closingWords.any fun w => (keyword? w cs).isSome

/-- Between double quotes. -/
def inQuotes (s : String) : String := "\"" ++ s ++ "\""

/-- What comes next, as faults name it, and the rest of the script behind it. -/
def nextToken (cs : List Char) : String × List Char :=
  match cs with
  | [] => ("end of file", [])
  | '\n' :: rest => ("newline", rest)
  | '&' :: '&' :: rest => (inQuotes "&&", rest)
  | '|' :: '|' :: rest => (inQuotes "||", rest)
  | ';' :: ';' :: rest => (inQuotes ";;", rest)
  | c :: rest =>
      if c = '<' || c = '>' then ("redirection", rest)
      else if endsWord c then (inQuotes c.toString, rest)
      else
        match keywords.find? fun w => (keyword? w cs).isSome with
        | some word => (inQuotes word, rest)
        | none => ("word", rest)

/-- The fault that something else should come next. -/
def unexpected (expected : Option String) (cs : List Char) : Except Fault α :=
  let (found, rest) := nextToken (skipSpace cs)
  fault ("Syntax error: " ++ found ++ " unexpected" ++
    (match expected with
      | some word => " (expecting " ++ inQuotes word ++ ")"
      | none => "")) rest

/-- What follows a word of the language, which has to come next. -/
def readKeyword (word : String) (cs : List Char) : Except Fault (List Char) :=
  match keyword? word (skipSpace cs) with
  | some rest => .ok rest
  | none => unexpected (some word) cs

/-- What stands before the closing mark of a command whose output is put in, and
what stands behind it. -/
def splitBackquoted : List Char → Option (List Char × List Char)
  | [] => none
  | '\\' :: c :: rest =>
      (splitBackquoted rest).map fun (inner, after) =>
        (if c = backquote || c = '\\' || c = '$' then c :: inner else '\\' :: c :: inner, after)
  | c :: rest =>
      if c = backquote then some ([], rest)
      else (splitBackquoted rest).map fun (inner, after) => (c :: inner, after)

/-- What stands before the two closing parentheses of a sum, and what stands
behind them; `depth` parentheses are open inside. -/
def splitSum : Nat → List Char → Option (List Char × List Char)
  | _, [] => none
  | 0, ')' :: ')' :: rest => some ([], rest)
  | 0, ')' :: _ => none
  | n + 1, ')' :: rest => (splitSum n rest).map fun (inner, after) => (')' :: inner, after)
  | n, '(' :: rest => (splitSum (n + 1) rest).map fun (inner, after) => ('(' :: inner, after)
  | n, c :: rest => (splitSum n rest).map fun (inner, after) => (c :: inner, after)

/-- The name before an equals sign, if an assignment comes next. -/
def assignment? (cs : List Char) : Option (String × List Char) :=
  match cs.takeWhile isNameChar, cs.dropWhile isNameChar with
  | name, '=' :: rest => if isName name then some (String.ofList name, rest) else none
  | _, _ => none

/-- The text of a word without insertions. -/
def plainText? : Word → Option (List Char)
  | [] => some []
  | .text _ cs :: rest => (plainText? rest).map (cs ++ ·)
  | _ :: _ => none

/-- The word holds quotes. -/
def holdsQuotes (word : Word) : Bool :=
  word.any fun
    | .text isQuoted _ => isQuoted
    | _ => false

/-- The adjustment that comes next in braces behind a name, and what follows. -/
def readAdjustment : List Char → Adjustment × List Char
  | ':' :: '-' :: rest => (.default true, rest)
  | ':' :: '=' :: rest => (.assigned true, rest)
  | ':' :: '?' :: rest => (.demanded true, rest)
  | ':' :: '+' :: rest => (.replaced true, rest)
  | '-' :: rest => (.default false, rest)
  | '=' :: rest => (.assigned false, rest)
  | '?' :: rest => (.demanded false, rest)
  | '+' :: rest => (.replaced false, rest)
  | '%' :: '%' :: rest => (.withoutEnd true, rest)
  | '%' :: rest => (.withoutEnd false, rest)
  | '#' :: '#' :: rest => (.withoutStart true, rest)
  | '#' :: rest => (.withoutStart false, rest)
  | rest => (.unknown, rest)

/-! ## Texts that stand in a script -/

/-- A line and what follows it. -/
def splitLine (cs : List Char) : List Char × List Char :=
  (cs.takeWhile (· != '\n'), (cs.dropWhile (· != '\n')).tail)

/-- Lines up to one that is a given text, and what follows that line.  With
`indented`, tabs at the beginning of a line do not count. -/
def textLines (indented : Bool) (last : List Char) : Nat → List Char → List Char × List Char
  | 0, cs => ([], cs)
  | _, [] => ([], [])
  | n + 1, cs =>
      let (line, rest) := splitLine cs
      let line := if indented then line.dropWhile (· == '\t') else line
      if line = last then ([], rest)
      else
        let (more, after) := textLines indented last n rest
        (line ++ '\n' :: more, after)

/-! ## Words and commands -/

/-- Reads what stands between single quotes. -/
def readLiteral (cs : List Char) : Except Fault (Part × List Char) :=
  match cs.dropWhile (· != '\'') with
  | [] => fault "Syntax error: Unterminated quoted string" []
  | _ :: after => .ok (.text true (cs.takeWhile (· != '\'')), after)

mutual

/-- Reads a word up to the character that ends it. -/
def readWord : Nat → List Char → Except Fault (Word × List Char)
  | 0, cs => fault "Syntax error" cs
  | _, [] => .ok ([], [])
  | n + 1, c :: rest =>
      if endsWord c then .ok ([], c :: rest)
      else if c = '\'' then do
        let (quote, after) ← readLiteral rest
        let (more, cs) ← readWord n after
        return (quote :: more, cs)
      else if c = '"' then do
        let (inner, after) ← readQuoted n (some '"') rest
        let (more, cs) ← readWord n after
        return (.text true [] :: inner ++ more, cs)
      else if c = '\\' then
        match rest with
        | '\n' :: after => readWord n after
        | d :: after => do
            let (more, cs) ← readWord n after
            return (.text true [d] :: more, cs)
        | [] => .ok ([.text true ['\\']], [])
      else if isPlain c then do
        let (more, cs) ← readWord n (rest.dropWhile isPlain)
        return (.text false (c :: rest.takeWhile isPlain) :: more, cs)
      else do
        let (part, after) ← readInsertion n false c rest
        let (more, cs) ← readWord n after
        return (part :: more, cs)

/-- Reads what stands between quotes up to the closing one, or up to the end. -/
def readQuoted : Nat → Option Char → List Char → Except Fault (Word × List Char)
  | 0, _, cs => fault "Syntax error" cs
  | _, closing, [] =>
      if closing.isNone then .ok ([], []) else fault "Syntax error: Unterminated quoted string" []
  | n + 1, closing, c :: rest =>
      if some c = closing then .ok ([], rest)
      else if c = '\\' then
        match rest with
        | '\n' :: after => readQuoted n closing after
        | d :: after => do
            let (more, cs) ← readQuoted n closing after
            let isEscaped := ['$', backquote, '\\'].contains d || some d = closing
            return (.text true (if isEscaped then [d] else ['\\', d]) :: more, cs)
        | [] => do
            let (more, cs) ← readQuoted n closing []
            return (.text true ['\\'] :: more, cs)
      else if c = '$' || c = backquote then do
        let (part, after) ← readInsertion n true c rest
        let (more, cs) ← readQuoted n closing after
        return (part :: more, cs)
      else do
        let isText (d : Char) := some d != closing && !(['\\', '$', backquote].contains d)
        let (more, cs) ← readQuoted n closing (rest.dropWhile isText)
        return (.text true (c :: rest.takeWhile isText) :: more, cs)

/-- Reads a word in braces up to the closing one. -/
def readBraced : Nat → Bool → List Char → Except Fault (Word × List Char)
  | 0, _, cs => fault "Syntax error" cs
  | _, _, [] => fault "Syntax error: Missing '\x7d'" []
  | n + 1, q, c :: rest =>
      if c = '}' then .ok ([], rest)
      else if c = '\'' && !q then do
        let (quote, after) ← readLiteral rest
        let (more, cs) ← readBraced n q after
        return (quote :: more, cs)
      else if c = '"' then do
        let (inner, after) ← readQuoted n (some '"') rest
        let (more, cs) ← readBraced n q after
        return (.text true [] :: inner ++ more, cs)
      else if c = '\\' then
        match rest with
        | d :: after => do
            let (more, cs) ← readBraced n q after
            return (.text true [d] :: more, cs)
        | [] => readBraced n q []
      else if c = '$' || c = backquote then do
        let (part, after) ← readInsertion n q c rest
        let (more, cs) ← readBraced n q after
        return (part :: more, cs)
      else do
        let isText (d : Char) := !(['}', '\\', '"', '$', backquote].contains d) && (q || d != '\'')
        let (more, cs) ← readBraced n q (rest.dropWhile isText)
        return (.text false (c :: rest.takeWhile isText) :: more, cs)

/-- Reads what is to be put in, behind its first character. -/
def readInsertion : Nat → Bool → Char → List Char → Except Fault (Part × List Char)
  | 0, _, _, cs => fault "Syntax error" cs
  | n + 1, q, c, rest =>
      if c = backquote then
        match splitBackquoted rest with
        | none => fault "Syntax error: EOF in backquote substitution" []
        | some (inner, after) => do
            let (body, left) ← readList n true inner
            if left.isEmpty then return (.output q body, after) else unexpected none left
      else
        match rest with
        | '(' :: '(' :: sum =>
            match splitSum 0 sum with
            | some (inner, after) => do
                let (expression, _) ← readQuoted n none inner
                return (.sum q expression, after)
            | none => fault "Syntax error: Missing '))'" []
        | '(' :: body => readOutput n q body
        | '{' :: '#' :: '}' :: after => .ok (.parameter q "#", after)
        | '{' :: '#' :: d :: inner =>
            let name := if isSpecialName d then [d] else (d :: inner).takeWhile isNameChar
            match (d :: inner).drop name.length with
            | '}' :: after => .ok (.size q (String.ofList name), after)
            | after => do
                let (word, left) ← readBraced n q after
                return (.adjusted q "#" .unknown word, left)
        | '{' :: d :: inner => do
            let name := if isSpecialName d then [d] else (d :: inner).takeWhile isNameChar
            match (d :: inner).drop name.length with
            | '}' :: after =>
                return (if name.isEmpty then .adjusted q "" .unknown []
                  else .parameter q (String.ofList name), after)
            | after =>
                let (adjustment, behind) := readAdjustment after
                let (word, left) ← readBraced n q behind
                return (.adjusted q (String.ofList name)
                  (if name.isEmpty then .unknown else adjustment) word, left)
        | d :: after =>
            if isSpecialName d || d.isDigit then .ok (.parameter q d.toString, after)
            else if isNameChar d then
              .ok (.parameter q (String.ofList ((d :: after).takeWhile isNameChar)),
                after.dropWhile isNameChar)
            else .ok (.text q ['$'], d :: after)
        | [] => .ok (.text q ['$'], [])

/-- Reads a command whose output is put in, up to the closing parenthesis. -/
def readOutput : Nat → Bool → List Char → Except Fault (Part × List Char)
  | 0, _, cs => fault "Syntax error" cs
  | n + 1, q, cs => do
      let (body, after) ← readList n true cs
      match skipSpace after with
      | ')' :: left => return (.output q body, left)
      | left => unexpected (some ")") left

/-- Reads a list of commands. -/
def readList : Nat → Bool → List Char → Except Fault (Command × List Char)
  | 0, _, cs => fault "Syntax error" cs
  | n + 1, mayBeEmpty, cs => do
      let cs := skipLines cs.length cs
      if cs.isEmpty || (mayBeEmpty && atEnd cs) then return (.nothing, cs)
      let (first, after) ← readChain n cs
      match skipSpace after with
      | ';' :: ';' :: rest => return (first, ';' :: ';' :: rest)
      | ';' :: rest =>
          let (second, left) ← readList n true rest
          return (.sequence first second, left)
      | '\n' :: rest =>
          let (second, left) ← readList n true rest
          return (.sequence first second, left)
      | '&' :: rest =>
          let (second, left) ← readList n true rest
          return (.sequence (.background first) second, left)
      | rest => return (first, rest)

/-- Reads commands of which one depends on the success of the other. -/
def readChain : Nat → List Char → Except Fault (Command × List Char)
  | 0, cs => fault "Syntax error" cs
  | n + 1, cs => do
      let (first, after) ← readPipeline n cs
      readChainRest n first after

/-- Reads the rest of commands that depend on each other. -/
def readChainRest : Nat → Command → List Char → Except Fault (Command × List Char)
  | 0, _, cs => fault "Syntax error" cs
  | n + 1, first, cs =>
      match skipSpace cs with
      | '&' :: '&' :: rest => do
          let (second, after) ← readPipeline n (skipLines rest.length rest)
          readChainRest n (.andThen first second) after
      | '|' :: '|' :: rest => do
          let (second, after) ← readPipeline n (skipLines rest.length rest)
          readChainRest n (.orElse first second) after
      | rest => .ok (first, rest)

/-- Reads commands of which each reads the output of the one before it, and a mark
before them that exchanges success and failure. -/
def readPipeline : Nat → List Char → Except Fault (Command × List Char)
  | 0, cs => fault "Syntax error" cs
  | n + 1, cs =>
      let cs := skipSpace cs
      match keyword? "!" cs with
      | some rest => do
          let (body, after) ← readConnected n (skipSpace rest)
          return (.negation body, after)
      | none => readConnected n cs

/-- Reads commands of which each reads the output of the one before it. -/
def readConnected : Nat → List Char → Except Fault (Command × List Char)
  | 0, cs => fault "Syntax error" cs
  | n + 1, cs => do
      let (first, after) ← readCommand n cs
      match skipSpace after with
      | '|' :: '|' :: rest => return (first, '|' :: '|' :: rest)
      | '|' :: rest =>
          let (second, left) ← readConnected n (skipLines rest.length rest)
          return (.pipeline first second, left)
      | rest => return (first, rest)

/-- Reads a list of commands and the word that ends it. -/
def readUpTo : Nat → String → List Char → Except Fault (Command × List Char)
  | 0, _, cs => fault "Syntax error" cs
  | n + 1, word, cs => do
      let (body, after) ← readList n false cs
      return (body, ← readKeyword word after)

/-- Reads a command. -/
def readCommand : Nat → List Char → Except Fault (Command × List Char)
  | 0, cs => fault "Syntax error" cs
  | n + 1, cs =>
      match cs with
      | '(' :: rest => do
          let (body, after) ← readList n false rest
          match skipSpace after with
          | ')' :: left =>
              let (redirections, left) ← readRedirections n left
              return (.subshell body redirections, left)
          | left => unexpected (some ")") left
      | cs =>
          if (closingWords ++ ["!", "in"]).any fun w => (keyword? w cs).isSome then
            unexpected none cs
          else do
            match ← readCompound n cs with
            | none => readSimple n (lineEnds cs) [] [] [] cs
            | some (body, after) =>
                match ← readRedirections n after with
                | ([], left) => return (body, left)
                | (redirections, left) => return (.group body redirections, left)

/-- Reads a compound command, if one comes next. -/
def readCompound : Nat → List Char → Except Fault (Option (Command × List Char))
  | 0, cs => fault "Syntax error" cs
  | n + 1, cs =>
      match keyword? "\x7b" cs, keyword? "if" cs, keyword? "while" cs, keyword? "until" cs,
          keyword? "for" cs, keyword? "case" cs with
      | some rest, _, _, _, _, _ => some <$> readUpTo n "\x7d" rest
      | _, some rest, _, _, _, _ => some <$> readBranch n rest
      | _, _, some rest, _, _, _ => some <$> readLoop n false rest
      | _, _, _, some rest, _, _ => some <$> readLoop n true rest
      | _, _, _, _, some rest, _ => some <$> readEach n (skipSpace rest)
      | _, _, _, _, _, some rest => do
          let (word, after) ← readWord n (skipSpace rest)
          if word.isEmpty then unexpected none after
          else
            let inside ← readKeyword "in" (skipLines after.length after)
            let (cases, left) ← readCases n inside
            return some (.choice word cases, left)
      | none, none, none, none, none, none => .ok none

/-- Reads a choice behind its first word. -/
def readBranch : Nat → List Char → Except Fault (Command × List Char)
  | 0, cs => fault "Syntax error" cs
  | n + 1, cs => do
      let (condition, afterCondition) ← readUpTo n "then" cs
      let (whenTrue, after) ← readList n false afterCondition
      match keyword? "elif" (skipSpace after), keyword? "else" (skipSpace after) with
      | some rest, _ =>
          let (whenFalse, left) ← readBranch n rest
          return (.branch condition whenTrue whenFalse, left)
      | _, some rest =>
          let (whenFalse, left) ← readUpTo n "fi" rest
          return (.branch condition whenTrue whenFalse, left)
      | none, none => return (.branch condition whenTrue .nothing, ← readKeyword "fi" after)

/-- Reads a loop behind its first word. -/
def readLoop : Nat → Bool → List Char → Except Fault (Command × List Char)
  | 0, _, cs => fault "Syntax error" cs
  | n + 1, untilSuccess, cs => do
      let (condition, afterCondition) ← readUpTo n "do" cs
      let (body, after) ← readUpTo n "done" afterCondition
      return (.loop untilSuccess condition body, after)

/-- Reads a loop over words behind its first word. -/
def readEach : Nat → List Char → Except Fault (Command × List Char)
  | 0, cs => fault "Syntax error" cs
  | n + 1, cs => do
      let name := cs.takeWhile fun c => !endsWord c
      let after := cs.dropWhile fun c => !endsWord c
      if !isName name then fault "Syntax error: Bad for loop variable" after
      else
        let next := skipLines after.length after
        let (words, head) ←
          match keyword? "in" next with
          | none => pure (none, next)
          | some rest => do
              let (words, left) ← readWords n (skipSpace rest)
              match left with
              | '\n' :: _ => pure (some words, left)
              | ';' :: ';' :: _ => unexpected none left
              | ';' :: _ => pure (some words, left)
              | _ => unexpected none left
        let head := match head with
          | ';' :: rest => rest
          | rest => rest
        let inside ← readKeyword "do" (skipLines head.length head)
        let (body, left) ← readUpTo n "done" inside
        return (.each (String.ofList name) words body, left)

/-- Reads the cases of a choice by patterns, up to the word that ends it. -/
def readCases : Nat → List Char → Except Fault (List (List Word × Command) × List Char)
  | 0, cs => fault "Syntax error" cs
  | n + 1, cs =>
      let cs := skipLines cs.length cs
      match keyword? "esac" cs with
      | some after => .ok ([], after)
      | none => do
          let cs := match cs with
            | '(' :: rest => rest
            | rest => rest
          let (patterns, after) ← readPatterns n cs
          let (body, left) ← readList n true after
          match skipLines left.length left with
          | ';' :: ';' :: rest =>
              let (more, last) ← readCases n rest
              return ((patterns, body) :: more, last)
          | rest =>
              match keyword? "esac" rest with
              | some last => return ([(patterns, body)], last)
              | none => unexpected (some ";;") rest

/-- Reads patterns up to the closing parenthesis. -/
def readPatterns : Nat → List Char → Except Fault (List Word × List Char)
  | 0, cs => fault "Syntax error" cs
  | n + 1, cs => do
      let (pattern, after) ← readWord n (skipSpace cs)
      match skipSpace after with
      | ')' :: rest => return ([pattern], rest)
      | '|' :: rest =>
          let (more, left) ← readPatterns n rest
          return (pattern :: more, left)
      | rest => unexpected (some ")") rest

/-- Reads words up to the end of a command. -/
def readWords : Nat → List Char → Except Fault (List Word × List Char)
  | 0, cs => fault "Syntax error" cs
  | n + 1, cs =>
      match skipSpace cs with
      | [] => .ok ([], [])
      | c :: rest =>
          if endsWord c then .ok ([], c :: rest)
          else do
            let (word, after) ← readWord n (c :: rest)
            let (more, left) ← readWords n after
            return (word :: more, left)

/-- Reads the word behind a redirection. -/
def readTarget : Nat → List Char → Except Fault (Word × List Char)
  | 0, cs => fault "Syntax error" cs
  | n + 1, cs => do
      match ← readWord n (skipSpace cs) with
      | ([], left) => unexpected none left
      | result => return result

/-- Reads a redirection, if one comes next.  A text that stands in the script is
taken out of it. -/
def readRedirection : Nat → List Char → Except Fault (Option Redirection × List Char)
  | 0, cs => fault "Syntax error" cs
  | n + 1, cs => do
      let (channel, rest) : Option Nat × List Char :=
        match cs with
        | d :: '>' :: rest => if d.isDigit then (some (d.toNat - '0'.toNat), '>' :: rest) else (none, cs)
        | d :: '<' :: rest => if d.isDigit then (some (d.toNat - '0'.toNat), '<' :: rest) else (none, cs)
        | _ => (none, cs)
      let other (channel : Nat) (after : List Char) :
          Except Fault (Option Redirection × List Char) := do
        let (word, left) ← readTarget n after
        match plainText? word with
        | some ['-'] => return (some (.closed channel), left)
        | some [d] =>
            if d.isDigit then return (some (.toChannel channel (d.toNat - '0'.toNat)), left)
            else fault "Syntax error: Bad fd number" left
        | _ => fault "Syntax error: Bad fd number" left
      match rest with
      | '>' :: '&' :: after => other (channel.getD 1) after
      | '<' :: '&' :: after => other (channel.getD 0) after
      | '>' :: '>' :: after =>
          let (path, left) ← readTarget n after
          return (some (.toFile (channel.getD 1) true path), left)
      | '>' :: '|' :: after =>
          let (path, left) ← readTarget n after
          return (some (.toFile (channel.getD 1) false path), left)
      | '>' :: after =>
          let (path, left) ← readTarget n after
          return (some (.toFile (channel.getD 1) false path), left)
      | '<' :: '<' :: after =>
          let indented := after.head? = some '-'
          let (word, left) ← readTarget n (if indented then after.tail else after)
          let (line, below) := splitLine left
          let (body, behind) :=
            textLines indented ((plainText? word).getD []) below.length below
          let text ←
            if holdsQuotes word then pure [.text true body]
            else Prod.fst <$> readQuoted n none body
          return (some (.fromText text), line ++ '\n' :: behind)
      | '<' :: after =>
          let (path, left) ← readTarget n after
          return (some (.fromFile path), left)
      | _ => return (none, cs)

/-- Reads redirections behind a compound command. -/
def readRedirections : Nat → List Char → Except Fault (List Redirection × List Char)
  | 0, cs => fault "Syntax error" cs
  | n + 1, cs => do
      match ← readRedirection n (skipSpace cs) with
      | (none, after) => return ([], after)
      | (some first, after) =>
          let (more, left) ← readRedirections n after
          return (first :: more, left)

/-- Reads the rest of a simple command; what was read before comes last first. -/
def readSimple : Nat → Nat → List (String × Word) → List Word → List Redirection → List Char →
    Except Fault (Command × List Char)
  | 0, _, _, _, _, cs => fault "Syntax error" cs
  | n + 1, linesLeft, assignments, words, redirections, cs => do
      match ← readRedirection n (skipSpace cs) with
      | (some r, after) => readSimple n linesLeft assignments words (r :: redirections) after
      | (none, after) =>
          if after.head?.all endsWord then
            match after, assignments, words, redirections with
            | _, [], [], [] => unexpected none after
            | '(' :: rest, [], [[.text false name]], [] => readNamed n name rest
            | _, _, _, _ =>
                return (.simple linesLeft assignments.reverse words.reverse redirections.reverse,
                  after)
          else
            match assignment? after, words with
            | some (name, value), [] =>
                let (word, left) ← readWord n value
                readSimple n linesLeft ((name, word) :: assignments) words redirections left
            | _, _ =>
                let (word, left) ← readWord n after
                readSimple n linesLeft assignments (word :: words) redirections left

/-- Reads a command that gets a name, behind the name and a parenthesis. -/
def readNamed : Nat → List Char → List Char → Except Fault (Command × List Char)
  | 0, _, cs => fault "Syntax error" cs
  | n + 1, name, cs =>
      match skipSpace cs with
      | ')' :: rest =>
          if !isName name then fault "Syntax error: Bad function name" rest
          else do
            let (body, left) ← readCommand n (skipLines rest.length rest)
            return (.named (String.ofList name) body, left)
      | rest => unexpected (some ")") rest

end

/-- Enough fuel for a script of a number of characters. -/
def readFuel (length : Nat) : Nat := 8 * length + 16

/-- Reads the commands on the next line of a script, which may go on on lines after
it. -/
def readLine (fuel : Nat) (cs : List Char) : Except Fault (Command × List Char) := do
  let cs := skipSpace cs
  match fuel, cs with
  | _, [] => return (.nothing, [])
  | _, '\n' :: rest => return (.nothing, rest)
  | 0, _ => fault "Syntax error" cs
  | n + 1, _ =>
      let (first, after) ← readChain n cs
      match skipSpace after with
      | [] => return (first, [])
      | '\n' :: rest => return (first, rest)
      | ';' :: ';' :: rest => unexpected none (';' :: ';' :: rest)
      | ';' :: rest =>
          let (second, left) ← readLine n rest
          return (.sequence first second, left)
      | '&' :: rest =>
          let (second, left) ← readLine n rest
          return (.sequence (.background first) second, left)
      | rest => unexpected none rest

end TestCensus.Shell
