import TestCensus.Proofs.Discovery.FirstDeclarations
import TestCensus.Proofs.Source.ParallelStatements
import TestCensus.Proofs.Source.ReturnsInDocstrings
import TestCensus.Proofs.Source.ReturnsInSources
import TestCensus.Proofs.Source.RewrittenDecorations

/-!
# Line ends

A source may be checked out with a carriage return before each line feed.  This module says
what becomes of its tests.

*Trees.*  If no literal between single quotes takes in a line feed, both sources are damaged,
or their trees are the same but for the texts in them (`parse_returned`).  In a grammar that
ends such a literal on its line, the exception is a line feed directly behind the opening quote
or an escape.  With a carriage return before it, it is no such line feed, and the source is
damaged (`parse_of_hasBareFeed`).

*Tests.*  Texts of a tree reach a test in its decorators and its docstring.  Those in
decorators keep the carriage returns, and the docstring is made of lines, which have none
(`keepsDocstrings_returns`).  So declarations differ in the texts of their decorators only
(`declarations_rewritten`), and settling and sorting do not look at these.
-/

namespace TestCensus

open TestCensus.Source
open TestCensus.Text

/-! ## Trees -/

namespace Source

variable {source source' : List Char}

/-- If a literal between single quotes takes in a line feed, the source with carriage returns is
damaged. -/
theorem parse_of_hasBareFeed (h : Returned source source') (hfeed : hasBareFeed source = true) :
    (parse source').toOption = none := by
  have htokens := tokens_returned h
  rw [if_pos hfeed] at htokens
  rw [toOption_parse, if_pos (List.any_eq_true.2 htokens)]

/-- Otherwise both sources are damaged, or the trees are the same but for carriage returns. -/
theorem parse_returned (h : Returned source source') (hfeed : hasBareFeed source = false)
    {f g : Rewriting} (hfg : f.Agree g) :
    Option.Rel (SameBlock f g) (parse source).toOption (parse source').toOption := by
  have htokens := tokens_returned h
  rw [if_neg (by simp [hfeed])] at htokens
  rcases htokens with htokens | ⟨ht, hu⟩
  · exact parse_parallel (htokens.imp fun _ _ htu => htu.parallel hfg)
  · rw [toOption_parse, if_pos (List.any_eq_true.2 ht), toOption_parse,
      if_pos (List.any_eq_true.2 hu)]
    exact .none

/-- There are no carriage returns in the texts of the block. -/
def LacksReturns (block : List Statement) : Prop :=
  rewrittenBlock Rewriting.drops.apply block = rewrittenBlock id block

/-- Trees of the two sources: the second is the first with carriage returns in its texts. -/
theorem parse_returned_ok (h : Returned source source') (hfeed : hasBareFeed source = false)
    {block block' : List Statement} (hblock : (parse source).toOption = some block)
    (hblock' : (parse source').toOption = some block') :
    LacksReturns block ∧
      rewrittenBlock Rewriting.returns.apply block = rewrittenBlock id block' := by
  have hsame : ∀ {f g : Rewriting}, f.Agree g → SameBlock f g block block' := by
    intro f g hfg
    have hrel := parse_returned h hfeed hfg
    rw [hblock, hblock'] at hrel
    cases hrel with | some hsame => exact hsame
  exact ⟨(hsame drops_agree_drops).trans (hsame drops_agree).symm, hsame returns_agree⟩

end Source

/-! ## Declarations -/

/-- The declaration with other texts in its decorators. -/
def Declaration.rewritten (f : String → String) (d : Declaration) : Declaration :=
  { d with decorators := d.decorators.map (Decoration.rewritten f) }

/-- The file with other texts in the decorators of its tests. -/
def ParsedFile.rewritten (f : String → String) (file : ParsedFile) : ParsedFile :=
  { file with tests := file.tests.map (Declaration.rewritten f) }

/-- Literals that one rewriting leaves as they are write the same docstring after the other. -/
def KeepsDocstrings (f c : String → String) : Prop :=
  ∀ pieces : List String, pieces.map c = pieces →
    Docstring.ofLiterals? ((pieces.map f).map String.toList) =
      Docstring.ofLiterals? (pieces.map String.toList)

theorem keepsDocstrings_id (c : String → String) : KeepsDocstrings id c := fun pieces _ => by
  rw [List.map_id]

/-- Carriage returns before the line feeds of literals are not seen in the docstring. -/
theorem keepsDocstrings_returns :
    KeepsDocstrings Rewriting.returns.apply Rewriting.drops.apply := by
  intro pieces hpieces
  refine ofLiterals?_returned ?_
  rw [List.forall₂_map_left_iff, List.forall₂_map_right_iff, List.forall₂_map_right_iff,
    List.forall₂_same]
  intro piece hpiece
  have hlacks := List.map_inj_left.1 (hpieces.trans (List.map_id _).symm) piece hpiece
  exact returns_returned (not_mem_of_drops hlacks)

theorem enter_rewritten (f : String → String) (rules : NamingRules) (scope : Scope)
    (decorators : List Decorator) (name : String) (body : List Statement) :
    scope.enter rules (decorators.map (rewrittenParts f)) name (rewrittenBlock f body) =
      scope.enter rules decorators name body := by
  rw [Scope.enter, Scope.enter, decorations_rewritten, blockDecorations_rewritten,
    ← List.map_append, Decoration.categoryNames_rewritten]

theorem declare_rewritten (f : String → String) (rules : NamingRules) (scope : Scope)
    (decorators : List Decorator) (head : FunctionHead) {body : List Statement}
    (hdocstring : docstring? (rewrittenBlock f body) = docstring? body) :
    scope.declare rules (decorators.map (rewrittenParts f)) head (rewrittenBlock f body) =
      (scope.declare rules decorators head body).rewritten f := by
  rw [Scope.declare, decorations_rewritten, Decoration.categoryNames_rewritten, hdocstring]
  rfl

variable {f c : String → String} {rules : NamingRules}

theorem docstring?_of_keeps (hf : KeepsDocstrings f c) {body : List Statement}
    (hbody : rewrittenBlock c body = rewrittenBlock id body) :
    docstring? (rewrittenBlock f body) = docstring? body := by
  refine docstring?_rewritten f fun pieces hpieces => hf pieces ?_
  have hsame := congrArg docLiterals? hbody
  rw [docLiterals?_rewritten, docLiterals?_rewritten, hpieces] at hsame
  simpa using hsame

mutual

theorem declarationsOf_rewritten (hf : KeepsDocstrings f c) (scope : Scope) (s : Statement)
    (hs : s.rewritten c = s.rewritten id) :
    declarationsOf rules scope (s.rewritten f) =
      (declarationsOf rules scope s).map (Declaration.rewritten f) := by
  cases s with
  | filler x => rfl
  | small s => rfl
  | function decorators head body =>
      obtain ⟨-, -, hbody⟩ := Statement.function.inj hs
      have hdeclare := declare_rewritten f rules scope decorators head
        (docstring?_of_keeps hf hbody)
      rw [Statement.rewritten, declarationsOf, declarationsOf, hdeclare]
      split <;> rfl
  | classDef decorators name body =>
      obtain ⟨-, -, hbody⟩ := Statement.classDef.inj hs
      rw [Statement.rewritten, declarationsOf, declarationsOf, enter_rewritten]
      exact declarations_rewritten hf _ body hbody
  | compound kind blocks =>
      obtain ⟨-, hblocks⟩ := Statement.compound.inj hs
      rw [Statement.rewritten, declarationsOf, declarationsOf]
      split
      · exact declarationsInBlocks_rewritten hf scope blocks hblocks
      · rfl

/-- The declarations of a rewritten block have rewritten decorators and are the same
otherwise. -/
theorem declarations_rewritten (hf : KeepsDocstrings f c) (scope : Scope) (block : List Statement)
    (hblock : rewrittenBlock c block = rewrittenBlock id block) :
    declarations rules scope (rewrittenBlock f block) =
      (declarations rules scope block).map (Declaration.rewritten f) := by
  cases block with
  | nil => rfl
  | cons s rest =>
      obtain ⟨hs, hrest⟩ := List.cons.inj hblock
      rw [rewrittenBlock, declarations, declarations, List.map_append,
        declarationsOf_rewritten hf scope s hs, declarations_rewritten hf scope rest hrest]

theorem declarationsInBlocks_rewritten (hf : KeepsDocstrings f c) (scope : Scope)
    (blocks : List (List Statement))
    (hblocks : rewrittenBlocks c blocks = rewrittenBlocks id blocks) :
    declarationsInBlocks rules scope (rewrittenBlocks f blocks) =
      (declarationsInBlocks rules scope blocks).map (Declaration.rewritten f) := by
  cases blocks with
  | nil => rfl
  | cons block rest =>
      obtain ⟨hblock, hrest⟩ := List.cons.inj hblocks
      rw [rewrittenBlocks, declarationsInBlocks, declarationsInBlocks, List.map_append,
        declarations_rewritten hf scope block hblock,
        declarationsInBlocks_rewritten hf scope rest hrest]

end

/-- The file of a rewritten tree. -/
theorem discoverIn_rewritten (hf : KeepsDocstrings f c) (rules : NamingRules) (path : String)
    {block : List Statement} (hblock : rewrittenBlock c block = rewrittenBlock id block) :
    discoverIn rules path (rewrittenBlock f block) = (discoverIn rules path block).rewritten f := by
  have hscope : Scope.ofModule rules (rewrittenBlock f block) = Scope.ofModule rules block := by
    rw [Scope.ofModule, Scope.ofModule, blockDecorations_rewritten, Decoration.markers,
      Decoration.categoryNames_rewritten, ← Decoration.markers]
  have hsettle : ∀ ds : List Declaration, settle (ds.map (Declaration.rewritten f)) =
      ⟨(settle ds).tests.map (Declaration.rewritten f), (settle ds).redeclared.map (·.moved id)⟩ :=
    settle_map (fun _ => rfl) (fun _ => rfl) fun _ => rfl
  have hsort : ∀ ts : List Declaration,
      (ts.map (Declaration.rewritten f)).mergeSort Declaration.comesBefore =
        (ts.mergeSort Declaration.comesBefore).map (Declaration.rewritten f) := fun ts =>
    (List.map_mergeSort (f := Declaration.rewritten f) fun _ _ _ _ => rfl).symm
  have hmoved : ∀ r : Redeclaration, r.moved id = r := fun _ => rfl
  rw [discoverIn, hscope, declarations_rewritten hf _ block hblock, hsettle, discoverIn]
  simp only [hmoved, List.map_id', hsort, ParsedFile.rewritten]

/-! ## Files -/

@[simp] theorem Declaration.rewritten_id (d : Declaration) : d.rewritten id = d := by
  have hid : Decoration.rewritten id = id := funext Decoration.rewritten_id
  rw [Declaration.rewritten, hid, List.map_id]

@[simp] theorem ParsedFile.rewritten_id (file : ParsedFile) : file.rewritten id = file := by
  have hid : Declaration.rewritten id = id := funext Declaration.rewritten_id
  rw [ParsedFile.rewritten, hid, List.map_id]

theorem toOption_discover (rules : NamingRules) (path source : String) :
    (discover rules path source).toOption =
      (parse source.toList).toOption.map (discoverIn rules path) := by
  rw [discover, readSource]
  cases parse source.toList <;> rfl

/-- What carriage returns before the line feeds of a source do to its tests.

* The source is damaged if a literal between single quotes takes in a line feed that no escape
  takes.
* Otherwise it is damaged exactly if the source without them is.  If it is not, it has the same
  tests and redeclarations, and only the texts in decorators have carriage returns.
* The tests have the same numbers of instances. -/
theorem discover_line_ends (rules : NamingRules) (path : String) {source : String}
    (hsource : '\r' ∉ source.toList) :
    (discover rules path (Rewriting.returns.apply source)).toOption =
        (if hasBareFeed source.toList then none
          else (discover rules path source).toOption.map
            (ParsedFile.rewritten Rewriting.returns.apply)) ∧
      ∀ file : ParsedFile,
        (file.rewritten Rewriting.returns.apply).tests.map
            (fun t => Decoration.instances rules.markModule t.decorators) =
          file.tests.map fun t => Decoration.instances rules.markModule t.decorators := by
  have hreturned := returns_returned hsource
  refine ⟨?_, fun file => ?_⟩
  · rw [toOption_discover, toOption_discover]
    cases hfeed : hasBareFeed source.toList with
    | true => rw [parse_of_hasBareFeed hreturned hfeed]; rfl
    | false =>
        rw [if_neg (by decide)]
        have hrel := parse_returned hreturned hfeed returns_agree
        cases hblock : (parse source.toList).toOption with
        | none =>
            rw [hblock] at hrel
            generalize (parse _).toOption = block'? at hrel
            cases hrel with | none => rfl
        | some block =>
            rw [hblock] at hrel
            cases hblock' : (parse (Rewriting.returns.apply source).toList).toOption with
            | none => rw [hblock'] at hrel; cases hrel
            | some block' =>
                obtain ⟨hlacks, hsame⟩ := parse_returned_ok hreturned hfeed hblock hblock'
                have hfile := discoverIn_rewritten keepsDocstrings_returns rules path hlacks
                have hfile' : discoverIn rules path (rewrittenBlock id block') =
                    (discoverIn rules path block').rewritten id :=
                  discoverIn_rewritten (keepsDocstrings_id id) rules path rfl
                rw [ParsedFile.rewritten_id, ← hsame, hfile] at hfile'
                exact congrArg some hfile'.symm
  · rw [ParsedFile.rewritten, List.map_map]
    exact List.map_congr_left fun t _ => Decoration.instances_rewritten _ _

/-- A source with a docstring of three lines. -/
def docstringSource : String := "def test_a():\n '''A\n\n  B'''\n"

theorem discover_line_ends_docstring :
    ∃ t, discover .standard "test_a.py" docstringSource = .ok ⟨"test_a.py", [t], []⟩ ∧
      t.docstring = some "A\n\nB" ∧
      (discover .standard "test_a.py" (Rewriting.returns.apply docstringSource)).toOption =
        some (ParsedFile.rewritten Rewriting.returns.apply ⟨"test_a.py", [t], []⟩) := by
  have hdocstring : ∃ t, discover .standard "test_a.py" docstringSource =
      .ok ⟨"test_a.py", [t], []⟩ ∧ t.docstring = some "A\n\nB" :=
    exists_only_test (by decide +kernel) _
  obtain ⟨t, hdiscover, hdocstring⟩ := hdocstring
  have hsource : '\r' ∉ docstringSource.toList := by decide
  have hends := (discover_line_ends .standard "test_a.py" hsource).1
  have hfeed : hasBareFeed docstringSource.toList = false := by decide +kernel
  rw [hfeed, hdiscover] at hends
  exact ⟨t, hdiscover, hdocstring, hends⟩

/-- A literal between single quotes takes in a line feed that stands directly behind its opening
quote.  With a carriage return before it, the source is damaged. -/
theorem bare_feed_with_return :
    (∃ t, discover .standard "test_a.py" "x = '\n'\ndef test_a():\n    pass\n" =
        .ok ⟨"test_a.py", [t], []⟩ ∧ t.name = "test_a") ∧
      (discover .standard "test_a.py"
        (Rewriting.returns.apply "x = '\n'\ndef test_a():\n    pass\n")).toOption = none := by
  refine ⟨exists_only_test (by decide +kernel) _, ?_⟩
  have hnone : (parse (Rewriting.returns.apply
      "x = '\n'\ndef test_a():\n    pass\n").toList).toOption.isNone = true := by decide +kernel
  rw [toOption_discover, Option.isNone_iff_eq_none.1 hnone]
  rfl

end TestCensus
