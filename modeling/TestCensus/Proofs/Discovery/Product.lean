import TestCensus.Discovery
import TestCensus.Proofs.Decoration.Instances
import TestCensus.Proofs.Discovery.ParametrizedSource

/-!
# From a source to a count

Stacked parametrizing decorators multiply.  `discover_product` says so of the text of a
source: its only test has one decorator for each line, and the number of its instances is
the saturated product of the lengths of the lists, where an empty list counts once.

The parts are the tokens of the source (`tokens_parametrizedSource`), what the rules of
the grammar read them as (`readSource_parametrizedSource`), and the product of what
decorators multiply by (`Decoration.instances_eq`).  The number of tokens bounds the
rounds and the depth of the readers, and `length_definition` says that it suffices.
-/

namespace TestCensus

open TestCensus.Source
open TestCensus.Text

/-! ## Statements -/

/-- The decoration that a parametrizing decorator is. -/
def Parameter.decoration (p : Parameter) : Decoration :=
  Decoration.parametrizing "pytest" [.positional .unsized, .positional (.sequence p.values)]

theorem sequenceValue_numbers (vs : List Nat) :
    sequenceValue (numberParts vs) = .sequence vs.length := by
  have hunpacks : anyUnpacks (numberParts vs) = false := by
    induction vs with
    | nil => rfl
    | cons v vs ih => exact ih
  have hsolid : solid (numberParts vs) = numberParts vs := by
    simp [solid, numberParts, Part.isComment]
  rw [sequenceValue, hsolid, hunpacks]
  simp [numberParts]

section

open Parse

variable {o : Outer} {l m : Lexeme} {ls ls' : List Lexeme} {line n : Nat}

theorem beginsArgument_literal (text : String) :
    Lexeme.BeginsArgument ⟨.stringOpen, text, .touching, line⟩ :=
  ⟨rfl, nofun, fun _ _ => rfl⟩

theorem beginsArgument_bracket : Lexeme.BeginsArgument ⟨.operator, "[", .space, line⟩ where
  noFiller := rfl
  noWord := nofun
  noOperator text htext := by
    simp only [List.mem_cons, List.not_mem_nil, or_false] at htext
    rcases htext with rfl | rfl | rfl | rfl
    all_goals rfl

/-- The arguments of a parametrizing decorator: a literal and a list of numbers. -/
theorem arguments_parameter {p : Parameter} (hn : p.values ≤ n) (indent : Nat) :
    (arguments (readers (n + 6)) (n + 2) indent).Accepts
      (operatorLexeme line "(" :: (literalLexemes line p.name ++ operatorLexeme line "," ::
        ⟨.operator, "[", .space, line⟩ :: (numbersLexemes line (List.range p.values) ++
          operatorLexeme line "]" :: operatorLexeme line ")" :: m :: ls)))
      (fun parts => argumentsOf parts = [.positional .unsized, .positional (.sequence p.values)])
      (m :: ls) := by
  have hclose : (operatorLexeme line ")").closes (.bracket indent) = true :=
    closes_operator line (by decide)
  have hcomma : (operatorLexeme line ",").closes (.bracket indent) = true :=
    closes_operator line (by decide)
  have hvalues : (List.range p.values).length ≤ n + 2 := by
    rw [List.length_range]
    omega
  refine arguments_accepts (beginsArgument_literal _) (literal_accepts line p.name _ hcomma) hcomma
    ?_
  rintro e ⟨text, rfl⟩
  refine argumentsRest_next beginsArgument_bracket (numbers_accepts rfl line hvalues hclose) ?_
  rintro e ⟨text', rfl⟩
  refine argumentsRest_ends.mono fun parts hparts => ?_
  rw [hparts]
  simp [argumentsOf, ArgumentPart.isComment, ArgumentPart.argument, Expr.value,
    sequenceValue_numbers]

theorem parameter_accepts {p : Parameter} (hn : p.values ≤ n) {b : Bounds} {gap : Gap}
    (hm : m.closes b = true) :
    ((readers (n + 7)).expr b).Accepts ((p.lexemes gap line).tail ++ m :: ls)
      (fun e => e.decoration = p.decoration) (m :: ls) := by
  have hlist : (p.lexemes gap line).tail ++ m :: ls = wordLexeme .touching line "pytest" ::
      (memberLexemes line ["mark", "parametrize"] ++ operatorLexeme line "(" ::
        (literalLexemes line p.name ++ operatorLexeme line "," ::
          ⟨.operator, "[", .space, line⟩ :: (numbersLexemes line (List.range p.values) ++
            operatorLexeme line "]" :: operatorLexeme line ")" :: m :: ls))) := by
    simp [Parameter.lexemes]
  rw [hlist]
  refine exprStep_accepts (begins_word rfl line (by simp) (by simp)) ?_ hm
  refine attachedStep_accepts (begins_word rfl line (by simp) (by simp))
    (atom_name rfl line _ (by decide)) fun start e he => ?_
  subst he
  -- Two rounds go to the members and one to the call.  Inside, one goes to each argument and
  -- one to each number of the list, at a depth that is smaller by one.
  have hname : (Expr.name "pytest").dotted? = some ["pytest"] := rfl
  refine attachments_members line start (n + 3) ["mark", "parametrize"] hname
    fun callee hcallee => ?_
  refine attachments_call start (n + 2) (arguments_parameter hn b.indent) fun parts hparts => ?_
  refine (attachments_ends hm start _ _).mono fun e he => ?_
  rw [he, Expr.decoration, decoration_of_dotted hcallee, hparts]
  rfl

/-- A definition starts with its first decorator, or with the head of the function. -/
theorem exists_definitionLexeme (gap : Gap) (line : Nat) (ps : List Parameter)
    (ls : List Lexeme) :
    ∃ first rest, definitionLexemes gap line ps ++ ls = first :: rest ∧
      (first = ⟨.operator, "@", gap, line⟩ ∨ first = wordLexeme gap line "def") := by
  cases ps with
  | nil => exact ⟨_, _, rfl, .inr rfl⟩
  | cons p ps => exact ⟨_, _, rfl, .inl rfl⟩

theorem decorator_parameter {p : Parameter} (ho : o.inner = readers (n + 7)) (hn : p.values ≤ n)
    {gap : Gap} (hm : m.gap.endsLine = true) :
    (decorator o 0).Accepts (p.lexemes gap line ++ m :: ls)
      (fun d => decoratorDecoration? d = some p.decoration) (m :: ls) := by
  have hclose : m.closes (Bounds.line 0).behind = true := by
    simp [Lexeme.closes, Bounds.stopsAt, Bounds.line, Bounds.behind, hm]
  have hexpr : (o.inner.expr (Bounds.line 0).behind).Accepts ((p.lexemes gap line).tail ++ m :: ls)
      (fun e => e.decoration = p.decoration) (m :: ls) := by
    rw [ho]
    exact parameter_accepts hn hclose
  refine (decorator_accepts rfl hm hexpr).mono ?_
  rintro _ ⟨e, rfl, he⟩
  simpa [decoratorDecoration?, solid, Part.isComment, Part.decoration] using he

theorem decorations_append (ds : List Decorator) {d : Decorator} {decoration : Decoration}
    (hd : decoratorDecoration? d = some decoration) :
    decorations (ds ++ [d]) = decorations ds ++ [decoration] := by
  simp [decorations, hd]

/-- The statement defines the test on a line, with decorators for the parameters behind
those that were read before. -/
def IsParametrized (ds : List Decorator) (line : Nat) (ps : List Parameter) (s : Statement) :
    Prop :=
  ∃ ds', s = .function ds' ⟨"test_product", false, line⟩ [.small .simple] ∧
    decorations ds' = decorations ds ++ ps.map Parameter.decoration

/-- Decorators are read one by one, and the function behind them. -/
theorem decorated_parameters (ho : o.inner = readers (n + 7)) {ps : List Parameter}
    (hps : ∀ p ∈ ps, p.values ≤ n) {rounds : Nat} (hrounds : ps.length < rounds)
    {gap : Gap} {ds : List Decorator} (hl : l.gap.endsLine = true) (hindent : 0 < l.gap.indent)
    (hbody : (o.block l.gap.indent).Accepts (l :: ls) (· = [.small .simple]) ls') :
    (decorated o 0 rounds ds).Accepts (definitionLexemes gap line ps ++ l :: ls)
      (IsParametrized ds (line + ps.length + 1) ps) ls' := by
  induction ps generalizing line gap ds rounds with
  | nil =>
      obtain ⟨rounds, rfl⟩ : ∃ r, rounds = r + 1 := ⟨rounds - 1, by omega⟩
      refine decorated_ends (Nat.zero_le _) ((plainFunction_accepts hl hindent hbody).mono ?_)
      rintro _ ⟨body, rfl, rfl⟩
      exact ⟨ds, rfl, (List.append_nil _).symm⟩
  | cons p ps ih =>
      obtain ⟨rounds, rfl⟩ : ∃ r, rounds = r + 1 := ⟨rounds - 1, by omega⟩
      obtain ⟨first, rest, hrest, hfirst⟩ :=
        exists_definitionLexeme Gap.nextLine (line + 1) ps (l :: ls)
      rw [definitionLexemes, List.append_assoc, hrest]
      have hnextLine : first.gap.endsLine = true := by
        rcases hfirst with rfl | rfl <;> rfl
      refine decorated_next (Nat.zero_le _)
        (decorator_parameter ho (hps p (.head _)) hnextLine) fun d hd => ?_
      rw [← hrest]
      refine (ih (fun q hq => hps q (.tail _ hq)) (by simpa using hrounds)).mono ?_
      rintro _ ⟨ds', rfl, hds'⟩
      refine ⟨ds', ?_, ?_⟩
      · rw [List.length_cons, Nat.add_comm ps.length 1, ← Nat.add_assoc]
      · rw [hds', decorations_append ds hd]
        simp

/-- The definition is a compound statement, with decorators or without. -/
theorem compoundStatement?_parameters (ho : o.inner = readers (n + 7)) {ps : List Parameter}
    (hps : ∀ p ∈ ps, p.values ≤ n) (hrounds : ps.length < o.rounds) {gap : Gap}
    (hl : l.gap.endsLine = true) (hindent : 0 < l.gap.indent)
    (hbody : (o.block l.gap.indent).Accepts (l :: ls) (· = [.small .simple]) ls') :
    (compoundStatement? o 0).Accepts (definitionLexemes gap line ps ++ l :: ls)
      (fun s => ∃ s', s = some s' ∧ IsParametrized [] (line + ps.length + 1) ps s') ls' := by
  cases ps with
  | nil =>
      refine compoundStatement?_function ((plainFunction_accepts hl hindent hbody).mono ?_)
      rintro _ ⟨body, rfl, rfl⟩
      exact ⟨[], rfl, rfl⟩
  | cons p ps =>
      exact compoundStatement?_decorated (decorated_parameters ho hps hrounds hl hindent hbody)

theorem block_pass {k : Inner} (r depth : Nat) (hl : l.kind = .finish)
    (hend : l.gap.endsLine = true) :
    (blocks k (r + 2) (depth + 1) 4).Accepts (wordLexeme .bodyLine line "pass" :: l :: ls)
      (· = [.small .simple]) (l :: ls) := by
  refine blockRest_next nofun (fun _ => Nat.le_refl 4)
    (statementLine_small (Nat.succ_pos _) rfl hend (by decide) smallStatement_pass) ?_
  rintro _ rfl
  exact blockRest_ends hl

/-- The source is read as the import and the definition. -/
theorem block_source {ps : List Parameter} (hps : ∀ p ∈ ps, p.values ≤ n) (hn : ps.length < n)
    (hl : l.kind = .finish) (hend : l.gap.endsLine = true) :
    (blocks (readers (n + 7)) (n + 7) (n + 7) 0).Accepts (sourceLexemes ps ++ [l])
      (fun ss => ∃ s, ss = [.small .simple, s] ∧ IsParametrized [] (ps.length + 3) ps s) [l] := by
  obtain ⟨first, rest, hrest, hfirst⟩ := exists_definitionLexeme (.ofBlanks ['\n', '\n']) 2 ps
    ([wordLexeme .bodyLine (2 + ps.length + 1) "pass"] ++ [l])
  have hlist : sourceLexemes ps ++ [l] = wordLexeme .touching 0 "import" ::
      wordLexeme .space 0 "pytest" :: first :: rest := by
    rw [← hrest]
    simp [sourceLexemes]
  have hends : first.gap.endsLine = true ∧ first.gap.fillers = [] := by
    rcases hfirst with rfl | rfl <;> exact ⟨rfl, rfl⟩
  have hdot : first.isOperator "." = false ∧ first.isWord "as" = false := by
    rcases hfirst with rfl | rfl <;> exact ⟨rfl, rfl⟩
  have hkind : first.kind ≠ .finish := by
    rcases hfirst with rfl | rfl <;> exact nofun
  -- The definition is read at the outermost level, and its body one level deeper.
  let o : Outer := ⟨readers (n + 7), n + 7, blocks (readers (n + 7)) (n + 7) (n + 6)⟩
  have hrounds : ps.length < o.rounds := Nat.lt_add_right 7 hn
  have hdefinition : (compoundStatement? o 0).Accepts (first :: rest)
      (fun s => ∃ s', s = some s' ∧ IsParametrized [] (2 + ps.length + 1) ps s') [l] := by
    rw [← hrest]
    exact compoundStatement?_parameters rfl hps hrounds rfl (Nat.succ_pos 3)
      (block_pass (n + 5) (n + 5) hl hend)
  rw [hlist]
  refine blockRest_next nofun (fun h => by cases h)
    (statementLine_small (o := o) (Nat.succ_pos _) rfl hends.1 (by decide)
      (smallStatement_import rfl rfl hends.1 hdot.1 hdot.2)) ?_
  rintro _ rfl
  refine blockRest_next hkind (fun _ => Nat.zero_le _)
    (statementLine_compound hends.2 hdefinition) ?_
  rintro _ ⟨s, rfl, hs⟩
  rw [Nat.add_comm 2, Nat.add_assoc] at hs
  exact (blockRest_ends hl).mono fun ss hss => ⟨s, hss, hs⟩

end

/-! ## Rounds -/

/-- A definition has more tokens than decorators, and more than a parameter has values. -/
theorem length_definition (gap : Gap) (line : Nat) (ps : List Parameter) :
    ps.length + 5 ≤ (definitionLexemes gap line ps).length ∧
      ∀ p ∈ ps, p.values + 5 ≤ (definitionLexemes gap line ps).length := by
  induction ps generalizing gap line with
  | nil => exact ⟨Nat.le_refl 5, fun p hp => absurd hp List.not_mem_nil⟩
  | cons p ps ih =>
      obtain ⟨hlength, hvalues⟩ := ih Gap.nextLine (line + 1)
      have hnumbers := length_numbersLexemes line (List.range p.values)
      rw [List.length_range] at hnumbers
      have hlist : (definitionLexemes gap line (p :: ps)).length =
          (p.lexemes gap line).length + (definitionLexemes Gap.nextLine (line + 1) ps).length :=
        List.length_append
      have hfirst : p.values + 1 ≤ (p.lexemes gap line).length := by
        simp only [Parameter.lexemes, List.length_cons, List.length_append]
        omega
      refine ⟨?_, fun q hq => ?_⟩
      · rw [hlist, List.length_cons]
        omega
      · rw [hlist]
        rcases List.mem_cons.1 hq with rfl | hq
        · omega
        · have := hvalues q hq
          omega

/-- No lexeme of a definition is unknown. -/
theorem kind_definition (gap : Gap) (line : Nat) (ps : List Parameter) :
    (definitionLexemes gap line ps).all (·.kind != .unknown) = true := by
  have hnumbers : ∀ line vs, (numbersLexemes line vs).all (·.kind != .unknown) = true := by
    intro line vs
    cases vs with
    | nil => rfl
    | cons v vs => simp [numbersLexemes, furtherLexemes, numberLexeme, operatorLexeme]
  induction ps generalizing gap line with
  | nil => rfl
  | cons p ps ih =>
      rw [definitionLexemes, List.all_append, ih, Bool.and_true, Parameter.lexemes]
      simp only [List.all_cons, List.all_append, hnumbers]
      rfl

/-- The source is read as the import and the definition of the test. -/
theorem readSource_parametrizedSource {ps : List Parameter} (hps : ∀ p ∈ ps, p.IsPlain) :
    ∃ s, readSource (parametrizedSource ps) = .ok [.small .simple, s] ∧
      IsParametrized [] (ps.length + 3) ps s := by
  obtain ⟨finish, hkind, hend, htokens⟩ := tokens_parametrizedSource hps
  obtain ⟨hlength, hvalues⟩ := length_definition (.ofBlanks ['\n', '\n']) 2 ps
  let n := (definitionLexemes (.ofBlanks ['\n', '\n']) 2 ps).length - 2
  have hrounds : (tokens (parametrizedSource ps).toList).length + 1 = n + 7 := by
    rw [← List.length_map Token.lexeme, htokens]
    simp only [sourceLexemes, List.length_append, List.length_cons, List.length_nil, n]
    omega
  have hvalue : ∀ p ∈ ps, p.values ≤ n := fun p hp => by
    have := hvalues p hp
    omega
  obtain ⟨ss, rest, hrun, ⟨s, rfl, hs⟩, -⟩ :=
    block_source hvalue (by omega) hkind hend _ htokens
  refine ⟨s, ?_, hs⟩
  have hknown : (tokens (parametrizedSource ps).toList).find? Token.isUnknown = none := by
    refine List.find?_eq_none.2 fun t ht => ?_
    have hmem : t.lexeme ∈ sourceLexemes ps ++ [finish] := htokens ▸ List.mem_map_of_mem ht
    have hall : (sourceLexemes ps ++ [finish]).all (·.kind != .unknown) = true := by
      rw [List.all_append, sourceLexemes, List.all_cons, List.all_cons, List.all_append,
        kind_definition, List.all_cons, List.all_cons, hkind]
      rfl
    simpa [Token.isUnknown, Token.lexeme] using List.all_eq_true.1 hall _ hmem
  unfold readSource parse
  dsimp only
  rw [hrounds, hrun, hknown]

/-! ## Counting -/

/-- The numbers behind a letter are plain names of parameters. -/
theorem isPlain_numbered (sizes : List Nat) : ∀ p ∈ Parameter.numbered sizes, p.IsPlain := by
  intro p hp
  obtain ⟨i, hi, rfl⟩ := List.mem_mapIdx.1 hp
  have hname : ("p" ++ toString i).toList = 'p' :: (toString i).toList := by
    rw [String.toList_append]
    rfl
  refine ⟨fun c hc hmem => ?_, fun hempty => ?_⟩
  · rw [hname] at hc
    rcases List.mem_cons.1 hc with rfl | hc
    · exact absurd hmem (by decide)
    · have hdigit := (isNumeral_toString i).decimal c hc
      have hplain : ['"', '\\', '\n', '\x00'].all (!·.isDigit) = true := by decide
      exact ne_of_isDigit hdigit (by simpa using List.all_eq_true.1 hplain c hmem) rfl
  · have hchars : 'p' :: (toString i).toList = [] :=
      hname.symm.trans (congrArg String.toList hempty)
    cases hchars

theorem multiplicity_parameter (p : Parameter) :
    Decoration.multiplicity "pytest" p.decoration = max 1 p.values := by
  have hlist : ([.positional .unsized, .positional (.sequence p.values)] : List Argument) =
      [] ++ .positional .unsized :: [] ++ .positional (.sequence p.values) :: [] := rfl
  exact Decoration.multiplicity_sized
    (.second hlist (List.forall_mem_nil _) (List.forall_mem_nil _))

/-- A parametrizing decorator names no category. -/
theorem categoryNames_parameters (ps : List Parameter) :
    Decoration.categoryNames "pytest" (ps.map Parameter.decoration) = [] := by
  have hnone : ∀ p : Parameter, p.decoration.category? "pytest" = none := fun p => by
    have hnamed : Category.named? "parametrize" = none := by decide +kernel
    exact hnamed
  simp [Decoration.categoryNames, hnone]

theorem numbered_length (sizes : List Nat) : (Parameter.numbered sizes).length = sizes.length :=
  List.length_mapIdx

theorem numbered_values (sizes : List Nat) :
    (Parameter.numbered sizes).map Parameter.values = sizes := by
  refine List.ext_getElem (by simp [Parameter.numbered]) fun i hi hi' => ?_
  simp [Parameter.numbered]

/-- The test of the source, with its decorators. -/
def productTest (line : Nat) (ds : List Decorator) : Declaration :=
  Scope.declare ⟨[], ∅, true⟩ .standard ds ⟨"test_product", false, line⟩ [.small .simple]

/-- The definition behind a statement that declares nothing is the only test. -/
theorem discoverIn_parametrized (path : String) (line : Nat) (ds : List Decorator) :
    discoverIn .standard path
        [.small .simple, .function ds ⟨"test_product", false, line⟩ [.small .simple]] =
      ⟨path, [productTest line ds], []⟩ := by
  have htest : NamingRules.standard.isTestFunction "test_product" = true := by decide +kernel
  have hdeclared : declarations .standard ⟨[], ∅, true⟩
      [.small .simple, .function ds ⟨"test_product", false, line⟩ [.small .simple]] =
      [productTest line ds] := by
    simp [declarations, declarationsOf, htest, productTest]
  have hsettled : settle [productTest line ds] = ⟨[productTest line ds], []⟩ := rfl
  show ParsedFile.mk path ((settle (declarations _ ⟨[], ∅, true⟩ _)).tests.mergeSort _)
    (settle (declarations _ ⟨[], ∅, true⟩ _)).redeclared = _
  rw [hdeclared, hsettled, List.mergeSort_singleton]

/-- From the text of a source to the number of instances: stacked parametrizing decorators give
one test whose instances are counted by the product of their numbers of values. -/
theorem discover_product (path : String) (sizes : List Nat) :
    ∃ t, discover .standard path (parametrizedSource (Parameter.numbered sizes)) =
        .ok ⟨path, [t], []⟩ ∧
      t.name = "test_product" ∧ t.classPath = [] ∧ t.line = sizes.length + 3 ∧ t.markers = ∅ ∧
      t.decorators.length = sizes.length ∧
      (Decoration.instances NamingRules.standard.markModule t.decorators).val =
        min Count.limit (sizes.map (max 1)).prod := by
  obtain ⟨s, hread, ds, rfl, hds⟩ := readSource_parametrizedSource (isPlain_numbered sizes)
  rw [show decorations [] = [] from rfl, List.nil_append] at hds
  rw [numbered_length] at hread
  refine ⟨productTest (sizes.length + 3) ds, ?_, rfl, rfl, rfl, ?_, ?_, ?_⟩
  · rw [discover, hread]
    exact congrArg Except.ok (discoverIn_parametrized path _ ds)
  · show MarkerSet.insertAll ∅ (Decoration.categoryNames "pytest" (decorations ds)) = ∅
    rw [hds, categoryNames_parameters]
    rfl
  · show (decorations ds).length = sizes.length
    rw [hds, List.length_map, numbered_length]
  · show (Decoration.instances "pytest" (decorations ds)).val = _
    have hfactors : (decorations ds).map (Decoration.multiplicity "pytest") =
        sizes.map (max 1) := by
      have hmap : sizes.map (max 1) =
          ((Parameter.numbered sizes).map Parameter.values).map (max 1) := by
        rw [numbered_values]
      rw [hds, hmap, List.map_map, List.map_map]
      exact List.map_congr_left fun p _ => multiplicity_parameter p
    rw [Decoration.instances_eq, hfactors, Count.ofNat_val, Nat.min_comm]

end TestCensus
