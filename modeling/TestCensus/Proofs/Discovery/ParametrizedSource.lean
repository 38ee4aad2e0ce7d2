import TestCensus.Proofs.Source.Statements

/-!
# Parametrized sources

`parametrizedSource` is a source with one test under any number of decorators, each of
which lists the values of a parameter.  Its tokens are put together here from those of its
pieces, line by line.

Line ends belong to the token behind them.  So the text is cut in front of line ends: what
`Gives` says of a decorator and of the head of the function (`gives_parameter`,
`gives_head`) is said with the blanks before it, and in front of a line end.
`tokens_parametrizedSource` is the statement for the whole source.
-/

namespace TestCensus

open TestCensus.Source
open TestCensus.Text

/-! ## Sources -/

/-- What a parametrizing decorator says. -/
structure Parameter where
  /-- The name of the parameter. -/
  name : String
  /-- The number of its values. -/
  values : Nat

namespace Parameter

/-- The decorator that gives the parameter the numbers from zero on as its values. -/
def text (p : Parameter) : String :=
  "@pytest.mark.parametrize(\"" ++ p.name ++ "\", [" ++
    ", ".intercalate ((List.range p.values).map toString) ++ "])"

/-- Numbered parameters with the given numbers of values. -/
def numbered (sizes : List Nat) : List Parameter :=
  sizes.mapIdx fun i size => ⟨"p" ++ toString i, size⟩

end Parameter

/-- A source with one test, which is parametrized by all parameters. -/
def parametrizedSource (ps : List Parameter) : String :=
  "import pytest\n\n" ++ String.join (ps.map (·.text ++ "\n")) ++ "def test_product():\n    pass\n"

/-! ## Decorators -/

section

variable {line : Nat} {blanks rest : List Char}

/-- The characters of a decorator. -/
def Parameter.chars (p : Parameter) : List Char :=
  ['@'] ++ (['p', 'y', 't', 'e', 's', 't'] ++ (['.'] ++ (['m', 'a', 'r', 'k'] ++ (['.'] ++
    (['p', 'a', 'r', 'a', 'm', 'e', 't', 'r', 'i', 'z', 'e'] ++ (['('] ++
    (('"' :: p.name.toList ++ ['"']) ++ ([','] ++ (([' '] ++ ['[']) ++
    (numbersChars (List.range p.values) ++ ([']'] ++ [')'])))))))))))

theorem Parameter.text_toList (p : Parameter) : p.text.toList = p.chars := by
  have hstart : "@pytest.mark.parametrize(\"".toList = ['@', 'p', 'y', 't', 'e', 's', 't', '.', 'm',
      'a', 'r', 'k', '.', 'p', 'a', 'r', 'a', 'm', 'e', 't', 'r', 'i', 'z', 'e', '(', '"'] := rfl
  have hmiddle : "\", [".toList = ['"', ',', ' ', '['] := rfl
  have hcomma : ", ".toList = [',', ' '] := rfl
  have hend : "])".toList = [']', ')'] := rfl
  delta text
  simp only [chars, numbersChars, String.toList_append, String.toList_intercalate, hstart,
    hmiddle, hcomma, hend, List.map_map, List.append_assoc, List.cons_append, List.nil_append,
    Function.comp_def]

/-- The lexemes of a decorator. -/
def Parameter.lexemes (gap : Gap) (line : Nat) (p : Parameter) : List Lexeme :=
  ⟨.operator, "@", gap, line⟩ :: wordLexeme .touching line "pytest" ::
    (memberLexemes line ["mark", "parametrize"] ++ operatorLexeme line "(" ::
      (literalLexemes line p.name ++ operatorLexeme line "," ::
        ⟨.operator, "[", .space, line⟩ :: (numbersLexemes line (List.range p.values) ++
          [operatorLexeme line "]", operatorLexeme line ")"])))

/-- The name of the parameter can stand in a literal. -/
def Parameter.IsPlain (p : Parameter) : Prop := IsPlainContent p.name.toList ∧ p.name ≠ ""

theorem gives_dot (line : Nat) {c : Char} (hc : c = 'm' ∨ c = 'p') :
    Gives line ['.'] (c :: rest) [operatorLexeme line "."] line := by
  rcases hc with rfl | rfl
  all_goals exact .operator (List.forall_mem_nil _) (by decide) (by decide) rfl rfl rfl

theorem gives_parameter {p : Parameter} (hp : p.IsPlain)
    (hblanks : ∀ b ∈ blanks, b = '\n' ∨ b = ' ') :
    Gives line (blanks ++ p.chars) ('\n' :: rest)
      (p.lexemes (.ofBlanks blanks) (line + blanks.count '\n')) (line + blanks.count '\n') := by
  have hspace : ∀ b ∈ [' '], b = '\n' ∨ b = ' ' := by simp
  have hname : p.name.toList ≠ [] := by
    simpa using hp.2
  have hliteral : ∀ {line : Nat} {rest : List Char}, Gives line ('"' :: p.name.toList ++ ['"']) rest
      (literalLexemes line p.name) line := by
    intro line rest
    have h : Gives line ('"' :: p.name.toList ++ ['"']) rest
        (literalLexemes line (String.ofList p.name.toList)) line := .literal hp.1 hname
    rwa [String.ofList_toList] at h
  rw [Parameter.chars, ← List.append_assoc blanks]
  refine Gives.cons (.operator hblanks (by decide) (by decide) rfl rfl rfl) ?_
  refine Gives.cons (Gives.touchingWord (by decide) (by simp; rfl)) ?_
  refine Gives.cons (gives_dot _ (.inl rfl)) ?_
  refine Gives.cons (Gives.touchingWord (by decide) (by simp; rfl)) ?_
  refine Gives.cons (gives_dot _ (.inr rfl)) ?_
  refine Gives.cons (Gives.touchingWord (by decide) (by simp; rfl)) ?_
  refine Gives.cons (Gives.touchingSymbol (by simp [symbols])) ?_
  refine .append hliteral ?_
  refine Gives.cons (Gives.touchingSymbol (by simp [symbols])) ?_
  refine Gives.cons (Gives.symbol hspace (by simp [symbols])) ?_
  refine .append (Gives.numbers _) ?_
  refine Gives.cons (Gives.touchingSymbol (by simp [symbols])) ?_
  exact Gives.touchingSymbol (by simp [symbols])

/-! ## Definitions -/

/-- The characters of the head of the function. -/
def headChars : List Char :=
  ['d', 'e', 'f'] ++ (([' '] ++ ['t', 'e', 's', 't', '_', 'p', 'r', 'o', 'd', 'u', 'c', 't']) ++
    (['('] ++ ([')'] ++ [':'])))

theorem gives_head (hblanks : ∀ b ∈ blanks, b = '\n' ∨ b = ' ') :
    Gives line (blanks ++ headChars) ('\n' :: rest)
      (functionLexemes (.ofBlanks blanks) (line + blanks.count '\n') "test_product")
      (line + blanks.count '\n') := by
  have hspace : ∀ b ∈ [' '], b = '\n' ∨ b = ' ' := by simp
  rw [headChars, ← List.append_assoc blanks]
  refine Gives.cons (.word hblanks (by decide) (by simp; rfl)) ?_
  refine Gives.cons (.word hspace (by decide) (by simp; rfl)) ?_
  refine Gives.cons (Gives.touchingSymbol (by simp [symbols])) ?_
  refine Gives.cons (Gives.touchingSymbol (by simp [symbols])) ?_
  exact .operator (List.forall_mem_nil _) (by decide) (by decide) rfl rfl rfl

/-- The characters of the decorators, each with its line end, and of the head behind them. -/
def definitionChars (ps : List Parameter) : List Char :=
  ps.flatMap (fun p => p.chars ++ ['\n']) ++ headChars

/-- The layout of a line that follows a line of the module. -/
def Source.Gap.nextLine : Gap := .ofBlanks ['\n']

/-- The lexemes of the decorators and of the head behind them, from a line on. -/
def definitionLexemes (gap : Gap) (line : Nat) : List Parameter → List Lexeme
  | [] => functionLexemes gap line "test_product"
  | p :: ps => p.lexemes gap line ++ definitionLexemes Gap.nextLine (line + 1) ps

theorem gives_definition {ps : List Parameter} (hps : ∀ p ∈ ps, p.IsPlain)
    (hblanks : ∀ b ∈ blanks, b = '\n' ∨ b = ' ') :
    Gives line (blanks ++ definitionChars ps) ('\n' :: rest)
      (definitionLexemes (.ofBlanks blanks) (line + blanks.count '\n') ps)
      (line + blanks.count '\n' + ps.length) := by
  induction ps generalizing line blanks with
  | nil => exact gives_head hblanks
  | cons p ps ih =>
      have hfeed : ∀ b ∈ ['\n'], b = '\n' ∨ b = ' ' := by simp
      have hfirst : Gives line (blanks ++ p.chars)
          ((['\n'] ++ definitionChars ps) ++ '\n' :: rest)
          (p.lexemes (.ofBlanks blanks) (line + blanks.count '\n')) (line + blanks.count '\n') :=
        gives_parameter (hps p (.head _)) hblanks
      have hothers := @ih (line + blanks.count '\n') ['\n'] (fun q hq => hps q (.tail _ hq)) hfeed
      have htext : blanks ++ definitionChars (p :: ps) =
          (blanks ++ p.chars) ++ (['\n'] ++ definitionChars ps) := by
        simp [definitionChars]
      rw [htext, List.length_cons, Nat.add_comm ps.length 1, ← Nat.add_assoc]
      exact hfirst.append hothers

/-! ## Whole sources -/

/-- The layout in front of the body of the function. -/
def Source.Gap.bodyLine : Gap := .ofBlanks ['\n', ' ', ' ', ' ', ' ']

/-- The characters of the source up to its last line end. -/
def sourceChars (ps : List Parameter) : List Char :=
  ['i', 'm', 'p', 'o', 'r', 't'] ++ (([' '] ++ ['p', 'y', 't', 'e', 's', 't']) ++
    ((['\n', '\n'] ++ definitionChars ps) ++ (['\n', ' ', ' ', ' ', ' '] ++ ['p', 'a', 's', 's'])))

/-- The lexemes of the source up to its end. -/
def sourceLexemes (ps : List Parameter) : List Lexeme :=
  wordLexeme .touching 0 "import" :: wordLexeme .space 0 "pytest" ::
    (definitionLexemes (.ofBlanks ['\n', '\n']) 2 ps ++
      [wordLexeme .bodyLine (2 + ps.length + 1) "pass"])

theorem parametrizedSource_toList (ps : List Parameter) :
    (parametrizedSource ps).toList = sourceChars ps ++ ['\n'] := by
  have hstart : "import pytest\n\n".toList = ['i', 'm', 'p', 'o', 'r', 't', ' ', 'p', 'y', 't', 'e',
      's', 't', '\n', '\n'] := rfl
  have hbody : "def test_product():\n    pass\n".toList = headChars ++
      ['\n', ' ', ' ', ' ', ' ', 'p', 'a', 's', 's', '\n'] := rfl
  have hfeed : "\n".toList = ['\n'] := rfl
  have hlines : (String.join (ps.map (·.text ++ "\n"))).toList =
      ps.flatMap fun p => p.chars ++ ['\n'] := by
    simp only [String.toList_join, List.flatMap_map, String.toList_append, Parameter.text_toList,
      hfeed]
  delta parametrizedSource
  simp only [String.toList_append, hstart, hbody, hlines, sourceChars, definitionChars,
    List.append_assoc, List.cons_append, List.nil_append]

theorem gives_source {ps : List Parameter} (hps : ∀ p ∈ ps, p.IsPlain) :
    Gives 0 (sourceChars ps) ['\n'] (sourceLexemes ps) (2 + ps.length + 1) := by
  have hfeeds : ∀ b ∈ ['\n', '\n'], b = '\n' ∨ b = ' ' := by simp
  have hspace : ∀ b ∈ [' '], b = '\n' ∨ b = ' ' := by simp
  have hindent : ∀ b ∈ ['\n', ' ', ' ', ' ', ' '], b = '\n' ∨ b = ' ' := by simp
  refine Gives.cons (Gives.touchingWord (by decide) (by simp; rfl)) ?_
  refine Gives.cons (.word hspace (by decide) (by simp; rfl)) ?_
  refine .append (gives_definition hps hfeeds) ?_
  exact .word hindent (by decide) (by simp; rfl)

theorem tokens_parametrizedSource {ps : List Parameter} (hps : ∀ p ∈ ps, p.IsPlain) :
    ∃ finish, finish.kind = .finish ∧ finish.gap.endsLine = true ∧
      (tokens (parametrizedSource ps).toList).map Token.lexeme = sourceLexemes ps ++ [finish] := by
  rw [parametrizedSource_toList]
  exact ⟨_, rfl, rfl, tokens_of_gives (gives_source hps) rfl⟩

end

end TestCensus
