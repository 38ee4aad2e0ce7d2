import TestCensus.Proofs.Source.Definitions
import TestCensus.Proofs.Source.LiteralTokens
import TestCensus.Proofs.Source.StatementPlaces

/-!
# Literals in the tree of a source

The literals that stand on their own in a row of expressions are whole: letters, quotes,
content and the same quotes again (`IsLiteral`).  `Expr.Whole` says so of an expression and
`Statement.Whole` of a statement and all statements in it.

The proofs follow the readers, one lemma for each, by the rules of `Parse.Ensures`.  Only the
readers of literals look at the tokens behind an opening (`literalRest_closes`); all others
pass on what they read, or make something of it that is no literal.
-/

namespace TestCensus.Source

open Parse

/-! ## Whole literals -/

/-- The text is a string literal as it stands in a source.  Nothing is said of what stands
behind the opening quotes of a formatted literal. -/
inductive IsLiteral (text : List Char) : Prop where
  /-- A literal without replacement fields. -/
  | plain {d : Delimiter} {letters content : List Char} : d.Sets letters → d.formatted = false →
      d.Encloses content → text = letters ++ d.closing ++ (content ++ d.closing) → IsLiteral text
  /-- A formatted literal. -/
  | formatted {d : Delimiter} {letters rest : List Char} : d.Sets letters →
      d.formatted = true → text = letters ++ d.closing ++ rest → IsLiteral text

/-- The expression is a whole literal or several of them, if it is made of literals. -/
def Expr.Whole : Expr → Prop
  | .literal text => IsLiteral text.toList
  | .literals pieces _ => ∀ piece ∈ pieces, IsLiteral piece.toList
  | _ => True

/-- The part is a filler or an expression whose literals are whole. -/
def Part.Whole : Part → Prop
  | .filler _ => True
  | .item e => e.Whole

/-- The literals in a row of expressions are whole. -/
def SmallStatement.Whole : SmallStatement → Prop
  | .expressions parts _ => ∀ p ∈ parts, p.Whole
  | _ => True

mutual

/-- The literals in all rows of expressions of a statement are whole. -/
def Statement.Whole : Statement → Prop
  | .filler _ => True
  | .small s => s.Whole
  | .function _ _ body => WholeBlock body
  | .classDef _ _ body => WholeBlock body
  | .compound _ blocks => WholeBlocks blocks

/-- The literals in all rows of expressions of a list of statements are whole. -/
def WholeBlock : List Statement → Prop
  | [] => True
  | s :: rest => s.Whole ∧ WholeBlock rest

/-- The literals in all rows of expressions of several blocks are whole. -/
def WholeBlocks : List (List Statement) → Prop
  | [] => True
  | block :: rest => WholeBlock block ∧ WholeBlocks rest

end

theorem wholeBlock_iff {ss : List Statement} : WholeBlock ss ↔ ∀ s ∈ ss, s.Whole := by
  induction ss with
  | nil => exact iff_of_true trivial nofun
  | cons s rest ih => rw [WholeBlock, ih, List.forall_mem_cons]

theorem WholeBlock.append {ss ts : List Statement} (hs : WholeBlock ss) (ht : WholeBlock ts) :
    WholeBlock (ss ++ ts) :=
  wholeBlock_iff.2 (List.forall_mem_append.2 ⟨wholeBlock_iff.1 hs, wholeBlock_iff.1 ht⟩)

theorem wholeBlock_fillers (fs : List Filler) : WholeBlock (fs.map Statement.filler) :=
  wholeBlock_iff.2 fun s hs => by
    obtain ⟨f, -, rfl⟩ := List.mem_map.1 hs
    trivial

theorem wholeBlocks_iff {blocks : List (List Statement)} :
    WholeBlocks blocks ↔ ∀ block ∈ blocks, WholeBlock block := by
  induction blocks with
  | nil => exact iff_of_true trivial nofun
  | cons block rest ih => rw [WholeBlocks, ih, List.forall_mem_cons]

theorem WholeBlocks.append {bs cs : List (List Statement)} (hb : WholeBlocks bs)
    (hc : WholeBlocks cs) : WholeBlocks (bs ++ cs) :=
  wholeBlocks_iff.2 (List.forall_mem_append.2 ⟨wholeBlocks_iff.1 hb, wholeBlocks_iff.1 hc⟩)

mutual

theorem Statement.Whole.of_definition {s : Statement} (h : s.Whole) :
    ∀ d ∈ definitionsOf s, WholeBlock d.body := by
  cases s with
  | filler f => exact nofun
  | small s => exact nofun
  | function decorators head body =>
      intro d hd
      rcases List.mem_cons.1 hd with rfl | hd
      · exact h
      · obtain ⟨inner, hinner, rfl⟩ := List.mem_map.1 hd
        exact WholeBlock.of_definition h inner hinner
  | classDef decorators name body =>
      intro d hd
      obtain ⟨inner, hinner, rfl⟩ := List.mem_map.1 hd
      exact WholeBlock.of_definition h inner hinner
  | compound kind blocks =>
      intro d hd
      obtain ⟨inner, hinner, rfl⟩ := List.mem_map.1 hd
      exact WholeBlocks.of_definition h inner hinner

/-- What is whole in a tree is whole in the bodies of its functions. -/
theorem WholeBlock.of_definition {ss : List Statement} (h : WholeBlock ss) :
    ∀ d ∈ definitions ss, WholeBlock d.body := by
  cases ss with
  | nil => exact nofun
  | cons s rest =>
      intro d hd
      rcases List.mem_append.1 hd with hd | hd
      · exact Statement.Whole.of_definition h.1 d hd
      · exact WholeBlock.of_definition h.2 d hd

theorem WholeBlocks.of_definition {blocks : List (List Statement)} (h : WholeBlocks blocks) :
    ∀ d ∈ definitionsInBlocks blocks, WholeBlock d.body := by
  cases blocks with
  | nil => exact nofun
  | cons block rest =>
      intro d hd
      rcases List.mem_append.1 hd with hd | hd
      · exact WholeBlock.of_definition h.1 d hd
      · exact WholeBlocks.of_definition h.2 d hd

end

/-! ## What readers ensure -/

namespace Parse

variable {α β : Type} {p q : Parse α} {f : α → Parse β} {P : α → Prop} {Q : β → Prop}

/-- Whatever the reader answers on marked tokens has the property. -/
def Ensures (p : Parse α) (P : α → Prop) : Prop :=
  ∀ (ts : List Token) (a : α) (rest : List Token), Marked ts → p.run ts = .ok (a, rest) → P a

theorem Ensures.pure {a : α} (h : P a) : (pure a : Parse α).Ensures P := by
  intro ts b rest _ hrun
  cases hrun
  exact h

theorem Ensures.stop : (stop : Parse α).Ensures P :=
  fun _ _ _ _ hrun => absurd hrun run_stop_ne_ok

theorem Ensures.bind (hp : p.Ensures P) (hf : ∀ a, P a → (f a).Ensures Q) :
    (p >>= f).Ensures Q := by
  intro ts b rest hts hrun
  obtain ⟨a, mid, ha, hb⟩ := run_bind_eq_ok.1 hrun
  exact hf a (hp ts a mid hts ha) mid b rest ((p.leaves ha).marked hts) hb

theorem Ensures.skip (hf : ∀ a, (f a).Ensures Q) : (p >>= f).Ensures Q := by
  intro ts b rest hts hrun
  obtain ⟨a, mid, ha, hb⟩ := run_bind_eq_ok.1 hrun
  exact hf a mid b rest ((p.leaves ha).marked hts) hb

theorem Ensures.ite {c : Prop} [Decidable c] (hp : c → p.Ensures P) (hq : ¬c → q.Ensures P) :
    (if c then p else q).Ensures P := by
  split
  · rename_i h
    exact hp h
  · rename_i h
    exact hq h

theorem Ensures.either (hp : p.Ensures P) (hq : q.Ensures P) : (either p q).Ensures P := by
  intro ts a rest hts hrun
  unfold Parse.either at hrun
  dsimp only at hrun
  split at hrun
  · rename_i r hr
    cases hrun
    exact hp ts _ _ hts hr
  · exact hq ts _ _ hts hrun

theorem Ensures.asStatement (h : p.Ensures P) : p.asStatement.Ensures P := by
  intro ts a rest hts hrun
  refine h ts a rest hts ?_
  unfold Parse.asStatement at hrun
  dsimp only at hrun
  split at hrun
  · cases hrun
  · exact hrun

end Parse

/-! ## Literals -/

variable {k : Inner} {b : Bounds}

/-- A literal is not read over tokens that do not close it. -/
theorem literalRest_unclosed {ts rest : List Token} (h : Unclosed ts) (indent n : Nat) :
    (literalRest k indent n).run ts ≠ .ok ((), rest) := by
  induction n generalizing ts with
  | zero => exact run_stop_ne_ok
  | succ n ih =>
      intro hrun
      obtain ⟨t, mid, htake, hbehind⟩ := run_bind_eq_ok.1 hrun
      obtain rfl := run_take htake
      cases h with
      | text ht hunclosed =>
          rw [ht] at hbehind
          exact ih hunclosed hbehind
      | other htext hfield hclose =>
          split at hbehind
          · exact htext ‹_›
          · exact hfield ‹_›
          · exact hclose ‹_›
          · exact run_stop_ne_ok hbehind

/-- A literal is read up to the tokens that close it, and there are tokens behind. -/
theorem literalRest_closes {body after rest : List Token} {last : Token}
    (hbody : ∀ t ∈ body, t.kind = .stringText) (hlast : last.kind = .stringClose) {indent n : Nat}
    (h : (literalRest k indent n).run (body ++ last :: after) = .ok ((), rest)) :
    rest = after ∧ after ≠ [] := by
  induction n generalizing body with
  | zero => exact absurd h run_stop_ne_ok
  | succ n ih =>
      obtain ⟨t, mid, htake, hbehind⟩ := run_bind_eq_ok.1 h
      obtain ⟨htaken, hmid⟩ := takeToken_eq_ok.1 htake
      cases body with
      | nil =>
          obtain ⟨rfl, rfl⟩ := List.cons.inj htaken
          rw [hlast] at hbehind
          cases hbehind
          exact ⟨rfl, hmid⟩
      | cons u body =>
          obtain ⟨rfl, rfl⟩ := List.cons.inj htaken
          rw [hbody u (.head _)] at hbehind
          exact ih (fun v hv => hbody v (.tail _ hv)) hbehind

theorem textUpTo_toList (stop : Nat) (t : Token) (ts : List Token) :
    (Token.textUpTo stop (t :: ts)).toList =
      t.text.toList ++ spelling (ts.takeWhile (·.index < stop)) := by
  have hjoin : ∀ us : List Token, (String.join (us.map Token.written)).toList = spelling us := by
    intro us
    induction us with
    | nil => rfl
    | cons u us ih => simp [String.join_cons, ih, Token.written]
  rw [Token.textUpTo, String.toList_append, hjoin]

/-- The text of the tokens of a literal without replacement fields. -/
theorem Closes.text_eq {d : Delimiter} {body after : List Token} {last t u : Token}
    (h : Closes d body last (u :: after)) :
    ∃ content, d.Encloses content ∧
      (Token.textUpTo u.index (t :: (body ++ last :: u :: after))).toList =
        t.text.toList ++ (content ++ d.closing) := by
  obtain ⟨content, hencloses, hspelling⟩ := h.encloses
  refine ⟨content, hencloses, ?_⟩
  have htake : (body ++ last :: u :: after).takeWhile (·.index < u.index) = body ++ [last] := by
    have hsplit : body ++ last :: u :: after = (body ++ [last]) ++ u :: after := by simp
    rw [hsplit, List.takeWhile_append_of_pos, List.takeWhile_cons_of_neg, List.append_nil]
    · simp
    · intro v hv
      exact decide_eq_true (h.index v hv u (.head _))
  rw [textUpTo_toList, htake, hspelling]

/-- What is read as one literal is a whole literal. -/
theorem oneLiteral_isLiteral {t : Token} {ts rest : List Token} {piece : String} {n indent : Nat}
    (hmarked : Marked (t :: ts)) (hopen : t.kind = .stringOpen)
    (h : (oneLiteral k n indent).run (t :: ts) = .ok (piece, rest)) : IsLiteral piece.toList := by
  obtain ⟨before, _, hahead, hbehind⟩ := run_bind_eq_ok.1 h
  cases hahead
  obtain ⟨u, mid, htake, hbehind'⟩ := run_bind_eq_ok.1 hbehind
  obtain ⟨-, rfl⟩ := List.cons.inj (run_take htake)
  obtain ⟨_, mid', hrest, htext⟩ := run_bind_eq_ok.1 hbehind'
  obtain ⟨v, _, hhead, hanswer⟩ := run_bind_eq_ok.1 htext
  cases hanswer
  obtain ⟨d, letters, hsets, hletters, hcontinues⟩ := hmarked.1 hopen
  cases hformatted : d.formatted with
  | true =>
      have hwritten := textUpTo_toList v.index t ts
      rw [hletters] at hwritten
      exact .formatted hsets hformatted hwritten
  | false =>
      cases hcontinues hformatted with
      | unclosed hunclosed => exact absurd hrest (literalRest_unclosed hunclosed indent n)
      | closed hcloses =>
          obtain ⟨rfl, hafter⟩ := literalRest_closes hcloses.text hcloses.close hrest
          obtain ⟨w, after, rfl⟩ := List.exists_cons_of_ne_nil hafter
          cases hhead
          obtain ⟨content, hencloses, htext⟩ := hcloses.text_eq
          exact .plain hsets hformatted hencloses (by rw [htext, hletters])

/-- The literals that follow a literal are whole. -/
theorem adjacentLiterals_ensures (n : Nat) {pieces : List String}
    (hpieces : ∀ piece ∈ pieces, IsLiteral piece.toList) :
    (adjacentLiterals k b n pieces).Ensures fun all => ∀ piece ∈ all, IsLiteral piece.toList := by
  induction n generalizing pieces with
  | zero => exact .pure hpieces
  | succ n ih =>
      intro ts all rest hmarked hrun
      obtain ⟨found, mid, hnext, hbehind⟩ := run_bind_eq_ok.1 hrun
      obtain ⟨rfl, hseen⟩ := run_next? hnext
      split at hbehind
      · rename_i hany
        obtain ⟨t, rfl, hopen⟩ := (Option.any_eq_true _ _).1 hany
        rw [beq_iff_eq] at hopen
        obtain hfinish | ⟨later, rfl⟩ := hseen t rfl
        · rw [hopen] at hfinish
          cases hfinish
        obtain ⟨piece, mid', hpiece, hmore⟩ := run_bind_eq_ok.1 hbehind
        have hliteral := oneLiteral_isLiteral hmarked hopen hpiece
        refine ih ?_ mid' all rest (((oneLiteral k n b.indent).leaves hpiece).marked hmarked) hmore
        exact List.forall_mem_append.2 ⟨hpieces, List.forall_mem_singleton.2 hliteral⟩
      · cases hbehind
        exact hpieces

theorem literalExpr_whole {t : Token} {ts rest : List Token} {e : Expr} {n : Nat}
    (hmarked : Marked (t :: ts)) (hopen : t.kind = .stringOpen)
    (h : (literalExpr k n b).run (t :: ts) = .ok (e, rest)) : e.Whole := by
  obtain ⟨before, _, hahead, hbehind⟩ := run_bind_eq_ok.1 h
  cases hahead
  obtain ⟨piece, mid, hpiece, hbehind'⟩ := run_bind_eq_ok.1 hbehind
  have hliteral := oneLiteral_isLiteral hmarked hopen hpiece
  have hmid := ((oneLiteral k n b.indent).leaves hpiece).marked hmarked
  obtain ⟨all, mid', hall, hanswer⟩ := run_bind_eq_ok.1 hbehind'
  have hwhole := adjacentLiterals_ensures n (List.forall_mem_singleton.2 hliteral) mid all mid' hmid
    hall
  split at hanswer
  · cases hanswer
    exact hwhole _ (.head _)
  · obtain ⟨text, _, -, hanswer⟩ := run_bind_eq_ok.1 hanswer
    cases hanswer
    exact hwhole

/-! ## Expressions -/

theorem roundBrackets_ensures (n indent : Nat) : (roundBrackets k n indent).Ensures Expr.Whole := by
  refine .skip fun _ => .skip fun _ => .skip fun _ => .skip fun _ => .ite (fun _ => ?_) fun _ => ?_
  · exact .skip fun _ => .pure trivial
  refine .skip fun _ => .skip fun _ => .ite (fun _ => ?_) fun _ => ?_
  · exact .skip fun _ => .skip fun _ => .skip fun _ => .pure trivial
  · refine .skip fun _ => .skip fun _ => .pure ?_
    split <;> trivial

theorem squareBrackets_ensures (n indent : Nat) :
    (squareBrackets k n indent).Ensures Expr.Whole := by
  refine .skip fun _ => .skip fun _ => .skip fun _ => .skip fun _ => .ite (fun _ => ?_) fun _ => ?_
  · exact .skip fun _ => .pure trivial
  refine .skip fun _ => .skip fun _ => .ite (fun _ => ?_) fun _ => ?_
  · exact .skip fun _ => .skip fun _ => .skip fun _ => .pure trivial
  · exact .skip fun _ => .skip fun _ => .pure trivial

theorem braces_ensures (n indent : Nat) : (braces k n indent).Ensures Expr.Whole := by
  have htext : ∀ {α : Type} {p : Parse α} (start : List Token),
      (do let _ ← p; return Expr.other (← textSince start)).Ensures Expr.Whole := fun _ =>
    .skip fun _ => .skip fun _ => .pure trivial
  refine .skip fun start => .skip fun _ => .skip fun _ => .ite (fun _ => ?_) fun _ => ?_
  · exact .skip fun _ => .pure trivial
  refine .skip fun _ => .ite (fun _ => htext start) fun _ => ?_
  refine .skip fun _ => .ite (fun _ => .skip fun _ => htext start) fun _ => ?_
  refine .skip fun e => .skip fun _ => .ite (fun _ => ?_) fun _ => ?_
  · refine .skip fun _ => .skip fun _ => .skip fun _ => .ite (fun _ => ?_) fun _ => htext start
    exact .skip fun _ => htext start
  · refine .skip fun _ => .ite (fun _ => ?_) fun _ => htext start
    exact .skip fun _ => htext start

theorem attachments_ensures (start : List Token) (n : Nat) {e : Expr} (he : e.Whole) :
    (attachments k b start n e).Ensures Expr.Whole := by
  induction n generalizing e with
  | zero => exact .pure he
  | succ n ih =>
      refine .skip fun _ => .ite (fun _ => ?_) fun _ => ?_
      · exact .skip fun _ => .skip fun _ => ih trivial
      refine .skip fun _ => .ite (fun _ => ?_) fun _ => ?_
      · exact .skip fun _ => ih trivial
      refine .skip fun _ => .ite (fun _ => ?_) fun _ => .pure he
      exact .skip fun _ => .skip fun _ => .skip fun _ => .skip fun _ => ih trivial

/-- The first token of an operand is the next token. -/
theorem run_nextOperand? {ts mid : List Token} {found : Option Token}
    (h : (nextOperand? b).run ts = .ok (found, mid)) :
    mid = ts ∧ ∀ t, found = some t → t.kind = .finish ∨ ∃ rest, ts = t :: rest := by
  obtain ⟨t, mid', hhead, hrest⟩ := run_bind_eq_ok.1 h
  obtain ⟨rfl, ht⟩ := run_head hhead
  split at hrest
  · cases hrest
    exact ⟨rfl, by rintro _ ⟨⟩⟩
  · cases hrest
    refine ⟨rfl, ?_⟩
    rintro _ ⟨⟩
    exact ht

theorem atom_ensures (n : Nat) : (atom k n b).Ensures Expr.Whole := by
  intro ts e rest hmarked hrun
  obtain ⟨found, mid, hnext, hbehind⟩ := run_bind_eq_ok.1 hrun
  obtain ⟨rfl, hseen⟩ := run_nextOperand? hnext
  have hdone : ∀ {p : Parse Expr}, p.Ensures Expr.Whole → p.run mid = .ok (e, rest) → e.Whole :=
    fun hp hp' => hp mid e rest hmarked hp'
  split at hbehind
  · exact hdone .stop hbehind
  · rename_i t
    split at hbehind
    · refine hdone (.skip fun _ => .pure ?_) hbehind
      split <;> trivial
    · exact hdone (.skip fun _ => .pure (a := Expr.other t.text) trivial) hbehind
    · rename_i hopen
      obtain hfinish | ⟨later, rfl⟩ := hseen t rfl
      · rw [hopen] at hfinish
        cases hfinish
      · exact literalExpr_whole hmarked hopen hbehind
    · refine hdone (.ite (fun _ => roundBrackets_ensures n _) fun _ => ?_) hbehind
      refine .ite (fun _ => squareBrackets_ensures n _) fun _ => ?_
      refine .ite (fun _ => braces_ensures n _) fun _ => ?_
      exact .ite (fun _ => .skip fun _ => .pure (a := Expr.other t.text) trivial) fun _ => .stop
    · exact hdone .stop hbehind

/-- What is unpacked and what is called is no literal. -/
theorem whole_of_unpacked? {e unpacked : Expr} (h : e.unpacked? = some unpacked) :
    unpacked.Whole := by
  unfold Expr.unpacked? at h
  split at h
  · cases h; trivial
  · cases h; trivial
  · cases h; trivial
  · obtain ⟨called, -, rfl⟩ := Option.map_eq_some_iff.1 h
    trivial
  · cases h

theorem attachedStep_ensures (n : Nat) : (attachedStep n k b).Ensures Expr.Whole := by
  refine .skip fun start => .skip fun found => ?_
  split
  · refine .ite (fun _ => ?_) fun _ => ?_
    · refine .skip fun _ => .skip fun _ => .skip fun _ => .skip fun e => ?_
      split
      · rename_i hunpacked
        exact .pure (whole_of_unpacked? hunpacked)
      · exact .stop
    · exact .bind (atom_ensures n) fun e he => attachments_ensures start n he
  · exact .stop

/-- The expression, if there is one, is whole. -/
def WholeOption (found : Option Expr) : Prop := ∀ e ∈ found, e.Whole

theorem operand_ensures (n : Nat) (free : Bool) : (operand k n b free).Ensures WholeOption := by
  cases n with
  | zero => exact .stop
  | succ n =>
      have hnone : ∀ {α : Type} {p : Parse α}, (do let _ ← p; return none).Ensures WholeOption :=
        .skip fun _ => .pure nofun
      refine .skip fun found => ?_
      split
      · exact .stop
      refine .ite (fun _ => .skip fun _ => hnone) fun _ => ?_
      refine .ite (fun _ => .skip fun _ => hnone) fun _ => ?_
      refine .ite (fun _ => .skip fun _ => .skip fun _ => hnone) fun _ => ?_
      refine .skip fun _ => .ite (fun _ => .skip fun _ => .skip fun _ => hnone) fun _ => ?_
      refine .skip fun _ => .ite (fun _ => ?_) fun _ => ?_
      · refine .skip fun _ => .skip fun _ => .ite (fun _ => hnone) fun _ => .skip fun start => ?_
        exact .bind (attachments_ensures start n trivial) fun e he => .pure fun _ h => by
          cases h
          exact he
      · exact .bind (attachedStep_ensures n) fun e he => .pure fun _ h => by
          cases h
          exact he

theorem exprStep_ensures (n : Nat) : (exprStep n k b).Ensures Expr.Whole := by
  refine .skip fun start => .bind (operand_ensures n true) fun first hfirst => .skip fun more => ?_
  split
  · exact .pure (hfirst _ rfl)
  · exact .skip fun _ => .pure trivial

theorem readers_ensures (n : Nat) : ∀ b, ((readers n).expr b).Ensures Expr.Whole := by
  intro b
  cases n with
  | zero => exact .stop
  | succ n => exact exprStep_ensures n

end TestCensus.Source
