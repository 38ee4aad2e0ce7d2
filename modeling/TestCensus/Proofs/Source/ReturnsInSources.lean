import TestCensus.Proofs.Source.Parallel
import TestCensus.Proofs.Source.Progress
import TestCensus.Proofs.Source.ReturnsInLayout
import TestCensus.Proofs.Source.ReturnsInLiterals

/-!
# Sources with carriage returns before the line feeds

The reader of tokens goes through a source and through the same source with carriage returns
step by step.  What both have found is related by `Reader.Returned`, and a step keeps that
(`Reader.step_returned`) unless content of a literal between single quotes takes in a line
feed, where the text with carriage returns has no token (`Reader.takesFeed`).

So the tokens of the two sources are the same but for carriage returns, or both sources have a
token that is none (`tokens_returned`), if no literal takes in a line feed.  If one does, the
source with carriage returns has a token that is none.
-/

namespace TestCensus.Source

open TestCensus.Text

/-! ## Rewritings -/

/-- Every character is rewritten by itself. -/
def Rewriting.ofChars (f : Char → List Char) (hstar : f '*' = ['*']) : Rewriting where
  apply s := String.ofList (s.toList.flatMap f)
  append a b := by rw [String.toList_append, List.flatMap_append, String.ofList_append]
  star := congrArg (fun cs => String.ofList (cs ++ [])) hstar

/-- Puts a carriage return before each line feed. -/
def Rewriting.returns : Rewriting := .ofChars (fun c => if c = '\n' then ['\r', '\n'] else [c]) rfl

/-- Takes out the carriage returns. -/
def Rewriting.drops : Rewriting := .ofChars (fun c => if c = '\r' then [] else [c]) rfl

/-- Leaves everything as it is. -/
def Rewriting.verbatim : Rewriting := ⟨id, fun _ _ => rfl, rfl⟩

theorem returns_returned {s : String} (h : '\r' ∉ s.toList) :
    ReturnedText s (Rewriting.returns.apply s) := by
  rw [ReturnedText, returned_iff]
  exact ⟨h, String.toList_ofList⟩

theorem not_mem_of_drops {s : String} (h : Rewriting.drops.apply s = s) : '\r' ∉ s.toList := by
  rw [← h]
  show '\r' ∉ (String.ofList (withoutReturns s.toList)).toList
  rw [String.toList_ofList]
  exact return_not_mem_withoutReturns _

/-- Where two texts are the same but for carriage returns, the rewritings make them equal. -/
def Rewriting.Agree (f g : Rewriting) : Prop :=
  ∀ {a b : String}, ReturnedText a b → f.apply a = g.apply b

theorem returns_agree : Rewriting.returns.Agree .verbatim := by
  intro a b h
  show String.ofList (withReturns a.toList) = b
  rw [← (returned_iff.1 h).2, String.ofList_toList]

theorem drops_agree : Rewriting.verbatim.Agree .drops := by
  intro a b h
  show a = String.ofList (withoutReturns b.toList)
  rw [h.withoutReturns_right, String.ofList_toList]

theorem drops_agree_drops : Rewriting.drops.Agree .drops := by
  intro a b h
  refine Eq.trans ?_ (drops_agree h)
  show String.ofList (withoutReturns a.toList) = a
  rw [h.withoutReturns_left, String.ofList_toList]

/-! ## Tokens -/

/-- The tokens are the same but for carriage returns. -/
structure Token.Returned (t u : Token) : Prop where
  /-- The kinds are the same. -/
  kind : u.kind = t.kind
  /-- The texts. -/
  text : ReturnedText t.text u.text
  /-- Outside of literals the texts are the same. -/
  verbatim : t.kind ≠ .stringText → u.text = t.text
  /-- The layouts. -/
  gap : t.gap.Returned u.gap
  /-- The tokens stand on the same line. -/
  line : u.start.line = t.start.line
  /-- As many tokens stand before them. -/
  index : u.index = t.index

theorem ReturnedText.isEmpty {a b : String} (h : ReturnedText a b) : (b == "") = (a == "") := by
  have hempty : ∀ s : String, (s == "") = s.toList.isEmpty := by
    intro s
    rw [Bool.eq_iff_iff, beq_iff_eq, List.isEmpty_iff, String.toList_eq_nil_iff]
  rw [hempty, hempty, Returned.isEmpty_eq h]

theorem fillers_agree {f g : Rewriting} (h : f.Agree g) {xs ys : List Filler}
    (hxs : List.Forall₂ Filler.Returned xs ys) : SameFillers f g xs ys := by
  induction hxs with
  | nil => rfl
  | cons hx _ ih =>
      rw [SameFillers, List.map_cons, List.map_cons, ih]
      cases hx with
      | comment _ _ => rfl
      | continuation htext => rw [Filler.rewritten, Filler.rewritten, h htext]

theorem Token.Returned.parallel {f g : Rewriting} (h : f.Agree g) {t u : Token}
    (htu : t.Returned u) : t.Parallel f g u where
  kind := htu.kind
  text := h htu.text
  verbatim := htu.verbatim
  layout := h htu.gap.text
  touches := htu.gap.text.isEmpty
  fillers := fillers_agree h htu.gap.fillers
  endsLine := htu.gap.endsLine
  indent := htu.gap.indent
  line := htu.line
  index := htu.index

namespace Reader

/-- What two readers have found is the same but for carriage returns. -/
structure Returned (r r' : Reader) : Prop where
  /-- The same surrounds the place that is read. -/
  frames : r'.frames = r.frames
  /-- No line end delimits a literal. -/
  quotes : ∀ d, .content d ∈ r.frames → d.quote ≠ '\n' ∧ d.quote ≠ '\r'
  /-- The places that are read are on the same line. -/
  line : r'.place.line = r.place.line
  /-- The tokens are the same but for carriage returns. -/
  found : List.Forall₂ Token.Returned r.found r'.found
  /-- There are as many of them. -/
  count : r'.count = r.count

theorem start_returned : start.Returned start := ⟨rfl, nofun, rfl, .nil, rfl⟩

namespace Returned

variable {r r' : Reader} (h : r.Returned r')

include h

theorem emit {gap gap' : Gap} (hgap : gap.Returned gap') {text text' : List Char}
    (htext : Source.Returned text text') {kind : TokenKind}
    (hsame : kind ≠ .stringText → text' = text) :
    (r.emit gap kind text).Returned (r'.emit gap' kind text') := by
  have hstart : (r'.place.behind gap'.text.toList).line =
      (r.place.behind gap.text.toList).line := by
    rw [Position.behind_line, Position.behind_line, h.line,
      Source.Returned.count_lineFeed hgap.text]
  exact
    { frames := h.frames
      quotes := h.quotes
      line := by
        show (Position.behind _ text').line = (Position.behind _ text).line
        rw [Position.behind_line _ text', Position.behind_line _ text, hstart, htext.count_lineFeed]
      found := .cons
        { kind := rfl
          text := htext.text
          verbatim := fun hkind => congrArg String.ofList (hsame hkind)
          gap := hgap
          line := hstart
          index := h.count } h.found
      count := congrArg (· + 1) h.count }

/-- A token that is the same in both. -/
theorem emit_same {gap gap' : Gap} (hgap : gap.Returned gap') {text : List Char}
    (htext : Source.Returned text text) (kind : TokenKind) :
    (r.emit gap kind text).Returned (r'.emit gap' kind text) := h.emit hgap htext fun _ => rfl

theorem pop : r.pop.Returned r'.pop :=
  { h with
    frames := congrArg List.tail h.frames
    quotes := fun d hd => h.quotes d (List.mem_of_mem_tail hd) }

theorem push {f : Frame} (hf : ∀ d, f = .content d → d.quote ≠ '\n' ∧ d.quote ≠ '\r') :
    (r.push f).Returned (r'.push f) :=
  { h with
    frames := congrArg (f :: ·) h.frames
    quotes := fun d hd => (List.mem_cons.1 hd).elim (fun heq => hf d heq.symm) (h.quotes d) }

theorem swap {f : Frame} (hf : ∀ d, f = .content d → d.quote ≠ '\n' ∧ d.quote ≠ '\r') :
    (r.swap f).Returned (r'.swap f) := h.pop.push hf

theorem opening : r.opening.Returned r'.opening := by
  unfold Reader.opening
  rw [h.frames]
  split
  · exact h.swap nofun
  · exact h

theorem closing : r.closing.Returned r'.closing := by
  unfold Reader.closing
  rw [h.frames]
  split
  · exact h.swap nofun
  · exact h

theorem word (text : List Char) : (r.word text).Returned (r'.word text) := by
  unfold Reader.word
  rw [h.frames]
  split
  · split
    · exact h.swap nofun
    · exact h
  · exact h

theorem endsInBindable : r'.endsInBindable = r.endsInBindable := by
  unfold Reader.endsInBindable
  have hfound := h.found
  generalize r.found = ts at hfound
  generalize r'.found = us at hfound
  cases hfound with
  | nil => rfl
  | cons htu hrest =>
      cases hrest with
      | nil => rfl
      | cons hbefore _ =>
          have hbefore := hbefore.parallel returns_agree
          have hword := hbefore.kind_and .word nofun fun text => bindingWords.contains text
          dsimp only
          rw [hword, htu.kind, hbefore.kind, hbefore.isOperator]

end Returned

/-- The reader has found a token that is none, and stopped. -/
def EndsUnknown (r : Reader) : Prop := ∃ t ts, r.found = t :: ts ∧ t.isUnknown = true

theorem emit_endsUnknown (r : Reader) (gap : Gap) (text : List Char) :
    (r.emit gap .unknown text).EndsUnknown := ⟨_, _, rfl, rfl⟩

/-- Reading goes on alike, or it ends alike. -/
inductive Alike : Next → Next → Prop where
  /-- Both go on. -/
  | on {r r' : Reader} {rest rest' : List Char} : r.Returned r' → Source.Returned rest rest' →
      Alike (r, some rest) (r', some rest')
  /-- Both sources have been read. -/
  | finished {r r' : Reader} : r.Returned r' → Alike (r, none) (r', none)
  /-- Both have a token that is none. -/
  | broken {r r' : Reader} : r.EndsUnknown → r'.EndsUnknown → Alike (r, none) (r', none)

variable {r r' : Reader} {cs ds : List Char}

/-! ## Steps -/

theorem Returned.opensFormatted (h : r.Returned r') : r'.opensFormatted = r.opensFormatted := by
  unfold Reader.opensFormatted
  have hfound := h.found
  generalize r.found = ts at hfound
  generalize r'.found = us at hfound
  induction hfound with
  | nil => rfl
  | @cons t u ts us htu _ ih =>
      rw [List.find?_cons, List.find?_cons, htu.kind]
      cases hkind : t.kind == .stringOpen || t.kind == .stringClose with
      | false => exact ih
      | true =>
          have htext : u.text = t.text := htu.verbatim fun heq => by rw [heq] at hkind; cases hkind
          dsimp only
          rw [htu.kind, htext]

theorem layout_returned (h : r.Returned r') {gap gap' : Gap} (hgap : gap.Returned gap') :
    (r.layout gap).Returned (r'.layout gap') := by
  unfold layout
  rw [h.frames, h.opensFormatted]
  split
  · split
    · exact ⟨hgap.text, hgap.fillers, rfl, rfl⟩
    · exact hgap
  · exact hgap

/-- Only three characters are read by the outermost brackets of a field. -/
theorem outermost?_of_ne (r : Reader) (gap : Gap) {c : Char} (hclose : c ≠ '}') (hcolon : c ≠ ':')
    (hmark : c ≠ '!') (rest : List Char) : r.outermost? gap (c :: rest) = none := by
  unfold outermost?
  split <;> simp_all

theorem outermost?_nil (r : Reader) (gap : Gap) : r.outermost? gap [] = none := by
  unfold outermost?
  split <;> simp_all

theorem outermost?_returned (h : r.Returned r') {gap gap' : Gap} (hgap : gap.Returned gap')
    (hcs : Source.Returned cs ds) :
    Option.Rel Alike (r.outermost? gap cs) (r'.outermost? gap' ds) := by
  have hchar : ∀ {c : Char}, c ≠ '\n' → c ≠ '\r' → Source.Returned [c] [c] :=
    fun hc hc' => Source.Returned.nil.char hc hc'
  cases hcs with
  | nil => rw [outermost?_nil, outermost?_nil]; exact .none
  | lineFeed _ =>
      rw [outermost?_of_ne _ _ (by decide) (by decide) (by decide),
        outermost?_of_ne _ _ (by decide) (by decide) (by decide)]
      exact .none
  | @char c rest rest' hc hc' hrest =>
      by_cases hspecial : c = '}' ∨ c = ':' ∨ c = '!'
      case neg =>
        rw [not_or, not_or] at hspecial
        obtain ⟨hclose, hcolon, hmark⟩ := hspecial
        rw [outermost?_of_ne _ _ hclose hcolon hmark, outermost?_of_ne _ _ hclose hcolon hmark]
        exact .none
      have hone := hchar hc hc'
      unfold outermost?
      rw [h.frames, h.endsInBindable]
      rcases r.frames with _ | ⟨_ | ⟨_ | depth, functions⟩ | _, fs⟩
      case cons.field.zero =>
        rcases hspecial with rfl | rfl | rfl
        · exact .some (.on (h.pop.emit_same hgap hone _) hrest)
        · have hswap : ∀ n, (r.swap (.field 0 n)).Returned (r'.swap (.field 0 n)) :=
            fun n => h.swap nofun
          have hspec : (r.swap .spec).Returned (r'.swap .spec) := h.swap nofun
          cases functions with
          | succ n => exact .some (.on ((hswap n).emit_same hgap hone _) hrest)
          | zero =>
              have hequals : (rest'.head? = some '=') = (rest.head? = some '=') :=
                propext (hrest.head?_eq_some (by decide) (by decide))
              simp only [hequals]
              split
              · exact .none
              · exact .some (.on (hspec.emit_same hgap hone _) hrest)
        · cases hrest with
          | nil => exact .none
          | lineFeed _ => exact .none
          | @char b _ _ hletter hletter' hrest =>
              show Option.Rel Alike
                (if 'a' ≤ b && b ≤ 'z' then some (r.emit gap .conversion ['!', b], some _)
                  else none)
                (if 'a' ≤ b && b ≤ 'z' then some (r'.emit gap' .conversion ['!', b], some _)
                  else none)
              split
              · exact .some (.on (h.emit_same hgap ((hchar hletter hletter').char hc hc') _) hrest)
              · exact .none
      all_goals exact .none

theorem open?_quote {text rest : List Char} {d : Delimiter}
    (h : Delimiter.open? cs = some (text, d, rest)) : d.quote ≠ '\n' ∧ d.quote ≠ '\r' := by
  unfold Delimiter.open? at h
  dsimp only at h
  split at h
  · rename_i q after _
    have hquote : q = '"' ∨ q = '\'' ∨ q = '`' → q ≠ '\n' ∧ q ≠ '\r' := by
      rintro (rfl | rfl | rfl) <;> decide
    split at h
    · rename_i hq
      simp only [Bool.or_eq_true, decide_eq_true_eq] at hq
      have hquote := hquote (hq.imp_right Or.inl)
      split at h
      · split at h <;> cases h <;> exact hquote
      · cases h
        exact hquote
    · split at h
      · rename_i hq
        cases h
        exact hquote (Or.inr (Or.inr hq))
      · cases h
  · cases h

theorem atToken_returned (h : r.Returned r') {gap gap' : Gap} (hgap : gap.Returned gap')
    (hcs : Source.Returned cs ds) : Alike (r.atToken gap cs) (r'.atToken gap' ds) := by
  unfold atToken
  have houtermost := outermost?_returned h hgap hcs
  generalize r.outermost? gap cs = next at houtermost
  generalize r'.outermost? gap' ds = next' at houtermost
  cases houtermost with
  | some hnext => exact hnext
  | none =>
  have hopen := open?_returned hcs
  generalize ho : Delimiter.open? cs = opened at hopen
  generalize ho' : Delimiter.open? ds = opened' at hopen
  cases hopen with
  | @some a b hsame =>
      obtain ⟨text, d, rest⟩ := a
      obtain ⟨text', d', rest'⟩ := b
      obtain ⟨rfl, rfl, hrest⟩ := hsame
      have htext : Source.Returned text' text' := by
        rw [← Delimiter.open?_eq_some ho, ← Delimiter.open?_eq_some ho'] at hcs
        exact hcs.front hrest
      refine .on ((h.emit_same hgap htext _).push ?_) hrest
      rintro d ⟨⟩
      exact open?_quote ho
  | none =>
  have hname := name?_returned hcs
  generalize hn : name? cs = named at hname
  generalize hn' : name? ds = named' at hname
  cases hname with
  | some hsame =>
      cases hsame with | mk text hrest =>
      rw [name?_eq_some hn, name?_eq_some hn'] at hcs
      exact .on ((h.word text).emit_same hgap (hcs.front hrest) _) hrest
  | none =>
  have hnumeral := numeral?_returned hcs
  generalize hu : numeral? cs = found at hnumeral
  generalize hu' : numeral? ds = found' at hnumeral
  cases hnumeral with
  | some hsame =>
      cases hsame with | mk text hrest =>
      rw [← numeral?_eq_some hu, ← numeral?_eq_some hu'] at hcs
      exact .on (h.emit_same hgap (hcs.front hrest) _) hrest
  | none =>
  have hoperator := operator?_returned hcs
  generalize hp : operator? cs = found at hoperator
  generalize hp' : operator? ds = found' at hoperator
  cases hoperator with
  | some hsame =>
      cases hsame with | mk text hrest =>
      rw [← operator?_eq_some hp, ← operator?_eq_some hp'] at hcs
      have htext := hcs.front hrest
      dsimp only
      split
      · exact .on (h.opening.emit_same hgap htext _) hrest
      · split
        · exact .on (h.closing.emit_same hgap htext _) hrest
        · exact .on (h.emit_same hgap htext _) hrest
  | none => exact .broken (emit_endsUnknown _ _ _) (emit_endsUnknown _ _ _)

theorem inSpec_returned (h : r.Returned r') (hcs : Source.Returned cs ds) :
    Alike (r.inSpec cs) (r'.inSpec ds) := by
  obtain ⟨htake, hdrop⟩ := hcs.run (p := isLineEnd) rfl
  have hgap : Gap.Returned ⟨String.ofList (cs.takeWhile isLineEnd), [], false, 0⟩
      ⟨String.ofList (ds.takeWhile isLineEnd), [], false, 0⟩ := ⟨htake.text, .nil, rfl, rfl⟩
  have hhead := List.head?_dropWhile_not isLineEnd cs
  unfold inSpec
  dsimp only
  generalize cs.dropWhile isLineEnd = behind at hdrop hhead
  generalize ds.dropWhile isLineEnd = behind' at hdrop
  cases hdrop with
  | nil => exact .broken (emit_endsUnknown _ _ _) (emit_endsUnknown _ _ _)
  | lineFeed _ => cases hhead
  | char hc hc' hrest =>
      have hone := Source.Returned.nil.char hc hc'
      have hall := hrest.char hc hc'
      obtain ⟨hsame, hbehind⟩ := hall.span (p := isSpecText) (by decide) (by decide)
      dsimp only
      split
      · exact .on ((h.emit_same hgap hone _).push nofun) hrest
      · split
        · exact .on (h.pop.emit_same hgap hone _) hrest
        · rw [hsame]
          refine .on (h.emit_same hgap (Source.Returned.front ?_ hbehind) _) hbehind
          rw [← hsame, List.takeWhile_append_dropWhile, hsame, List.takeWhile_append_dropWhile]
          exact hall

/-- Content of the literal that is read takes in a line feed. -/
def takesFeed (r : Reader) (cs : List Char) : Bool :=
  match r.frames with
  | .content d :: _ => !d.triple && Content.takesFeed d false 0 cs
  | _ => false

/-- What follows for the text with carriage returns, if content takes in a line feed and if it
does not. -/
def Follows (feeds : Bool) (next next' : Next) : Prop :=
  if feeds then next'.1.EndsUnknown ∧ next'.2 = none else Alike next next'

theorem Alike.follows {next next' : Next} (h : Alike next next') : Follows false next next' := by
  rwa [Follows, if_neg (by decide)]

theorem Returned.content (h : r.Returned r') {content content' : List Char}
    (hcontent : Source.Returned content content') :
    Returned (if content.isEmpty then r else r.emit .touching .stringText content)
      (if content'.isEmpty then r' else r'.emit .touching .stringText content') := by
  rw [hcontent.isEmpty_eq]
  split
  · exact h
  · exact h.emit Gap.touching_returned hcontent (absurd rfl)

theorem closing_returned {d : Delimiter} (hfeed : d.quote ≠ '\n') (hreturn : d.quote ≠ '\r') :
    Source.Returned d.closing d.closing := by
  have hquote : Source.Returned [d.quote] [d.quote] := Source.Returned.nil.char hfeed hreturn
  unfold Delimiter.closing
  split
  · exact (hquote.append hquote).append hquote
  · exact hquote

theorem inContent_returned (h : r.Returned r') {d : Delimiter} (hfeed : d.quote ≠ '\n')
    (hreturn : d.quote ≠ '\r') (hcs : Source.Returned cs ds) :
    Follows (!d.triple && Content.takesFeed d false 0 cs) (r.inContent d cs)
      (r'.inContent d ds) := by
  have hread : Content.Follows _ (Content.read d [] false 0 cs) (Content.read d [] false 0 ds) :=
    Content.readsAlike hfeed hreturn cs Source.Returned.nil (.done hcs)
  have hstop := Content.read_stop d [] false 0 cs
  have hstop' := Content.read_stop d [] false 0 ds
  unfold inContent
  generalize Content.read d [] false 0 cs = a at hread hstop
  generalize Content.read d [] false 0 ds = b at hread hstop'
  generalize (!d.triple && Content.takesFeed d false 0 cs) = feeds at hread
  cases feeds with
  | true =>
      obtain ⟨content', stop', rest'⟩ := b
      obtain rfl : stop' = .broken := hread
      exact ⟨emit_endsUnknown _ _ _, rfl⟩
  | false =>
      have hread : Content.Alike a b := hread
      refine Alike.follows ?_
      cases hread with
      | broken _ _ _ _ => exact .broken (emit_endsUnknown _ _ _) (emit_endsUnknown _ _ _)
      | stop stop hcontent hrest =>
          have hfound := h.content hcontent
          dsimp only at hstop hstop'
          have hclosing := closing_returned hfeed hreturn
          cases stop with
          | broken => exact .broken (emit_endsUnknown _ _ _) (emit_endsUnknown _ _ _)
          | close =>
              obtain ⟨after, rfl⟩ := hstop
              obtain ⟨after', rfl⟩ := hstop'
              refine .on (hfound.pop.emit_same Gap.touching_returned hclosing _) ?_
              simpa [Content.Stop.text] using hrest.behind hclosing
          | field =>
              obtain ⟨after, rfl⟩ := hstop
              obtain ⟨after', rfl⟩ := hstop'
              have hbrace : Source.Returned ['{'] ['{'] :=
                Source.Returned.nil.char (by decide) (by decide)
              have hpushed : Returned ((_ : Reader).push (.field 0 0))
                  ((_ : Reader).push (.field 0 0)) :=
                (hfound.emit_same Gap.touching_returned hbrace .fieldOpen).push
                  fun d hd => by cases hd
              exact .on hpushed (hrest.behind hbrace)

theorem step_returned (h : r.Returned r') (hcs : Source.Returned cs ds) :
    Follows (r.takesFeed cs) (r.step cs) (r'.step ds) := by
  obtain ⟨hgap, hrest⟩ := gapOf_returned hcs
  have hquotes := h.quotes
  unfold takesFeed step
  rw [h.frames]
  generalize gapOf cs = a at hgap hrest
  generalize gapOf ds = b at hgap hrest
  obtain ⟨gap, rest⟩ := a
  obtain ⟨gap', rest'⟩ := b
  dsimp only at hgap hrest
  generalize r.frames = frames at hquotes
  rcases frames with _ | ⟨d | ⟨depth, functions⟩ | _, fs⟩
  case cons.content =>
    obtain ⟨hfeed, hreturn⟩ := hquotes d (.head _)
    exact inContent_returned h hfeed hreturn hcs
  case cons.spec => exact (inSpec_returned h hcs).follows
  -- outside of literals and in a field, the same layout and token are read
  all_goals
    cases hrest with
    | nil => exact Alike.follows (.finished (h.emit_same hgap .nil _))
    | lineFeed hrest => exact (atToken_returned h (layout_returned h hgap) hrest.lineFeed).follows
    | char hc hc' hrest =>
        exact (atToken_returned h (layout_returned h hgap) (hrest.char hc hc')).follows

/-! ## Runs -/

/-- Within `n` steps from a reader on, a literal between single quotes takes in a line feed. -/
def feeds : Nat → Reader → List Char → Bool
  | 0, _, _ => false
  | n + 1, r, cs =>
      r.takesFeed cs ||
        match r.step cs with
        | (s, some rest) => feeds n s rest
        | (_, none) => false

/-- The readings of two sources end alike. -/
inductive EndsAlike (r r' : Reader) : Prop where
  /-- Both sources have been read. -/
  | finished : r.Returned r' → EndsAlike r r'
  /-- Both have a token that is none. -/
  | broken : r.EndsUnknown → r'.EndsUnknown → EndsAlike r r'

theorem run_returned {n m : Nat} (hn : cs.length < n) (hm : ds.length < m) (h : r.Returned r')
    (hcs : Source.Returned cs ds) :
    if feeds n r cs then (run m r' ds).EndsUnknown else EndsAlike (run n r cs) (run m r' ds) := by
  induction n generalizing m r r' cs ds with
  | zero => exact absurd hn (Nat.not_lt_zero _)
  | succ n ih =>
      obtain ⟨m, rfl⟩ : ∃ k, m = k + 1 := ⟨m - 1, by omega⟩
      have hstep := step_returned h hcs
      rcases hnext : r.step cs with ⟨s, left⟩
      rcases hnext' : r'.step ds with ⟨s', left'⟩
      rw [hnext, hnext'] at hstep
      simp only [feeds, run, hnext, hnext']
      cases hfeed : r.takesFeed cs with
      | true =>
          rw [hfeed] at hstep
          obtain ⟨hunknown, hleft⟩ : s'.EndsUnknown ∧ left' = none := hstep
          subst hleft
          simpa using hunknown
      | false =>
          rw [hfeed] at hstep
          have hstep : Alike (s, left) (s', left') := hstep
          rw [Bool.false_or]
          cases hstep with
          | on hs hrest =>
              have hshort := step_shortens hnext
              have hshort' := step_shortens hnext'
              exact ih (by omega) (by omega) hs hrest
          | finished hs => exact .finished hs
          | broken hs hs' => exact .broken hs hs'

end Reader

/-- A literal between single quotes takes in a line feed that no escape takes. -/
def hasBareFeed (source : List Char) : Bool := Reader.start.feeds (source.length + 1) source

theorem mem_tokens_of_endsUnknown {source : List Char}
    (h : (Reader.start.run (source.length + 1) source).EndsUnknown) :
    ∃ t ∈ tokens source, t.isUnknown = true := by
  obtain ⟨t, ts, hfound, hunknown⟩ := h
  have hkind : t.kind = .unknown := eq_of_beq hunknown
  refine ⟨t, ?_, hunknown⟩
  unfold tokens Reader.tokens
  dsimp only
  rw [hfound]
  dsimp only
  rw [if_neg (by rw [hkind]; decide)]
  simp [Reader.emit, hfound]

/-- The tokens of the source with carriage returns: if no literal takes in a line feed, they are
the tokens of the source but for carriage returns, or both sources have a token that is none. -/
theorem tokens_returned {source source' : List Char} (h : Returned source source') :
    if hasBareFeed source then ∃ u ∈ tokens source', u.isUnknown = true
    else List.Forall₂ Token.Returned (tokens source) (tokens source') ∨
      (∃ t ∈ tokens source, t.isUnknown = true) ∧ ∃ u ∈ tokens source', u.isUnknown = true := by
  have hrun := Reader.run_returned (Nat.lt_succ_self source.length)
    (Nat.lt_succ_self source'.length) Reader.start_returned h
  unfold hasBareFeed
  split
  · rename_i hfeeds
    rw [if_pos hfeeds] at hrun
    exact mem_tokens_of_endsUnknown hrun
  · rename_i hfeeds
    rw [if_neg hfeeds] at hrun
    cases hrun with
    | broken ht hu => exact Or.inr ⟨mem_tokens_of_endsUnknown ht, mem_tokens_of_endsUnknown hu⟩
    | finished hs =>
        have hfinish := List.forall₂_reverse_iff.2
          (hs.emit_same Gap.touching_returned .nil .finish).found
        have hread := List.forall₂_reverse_iff.2 hs.found
        have hfound := hs.found
        refine Or.inl ?_
        unfold tokens
        dsimp only
        generalize (Reader.start.run (source.length + 1) source).found = ts at hfound hread ⊢
        generalize (Reader.start.run (source'.length + 1) source').found = us at hfound hread ⊢
        cases hfound with
        | nil => exact hfinish
        | cons htu _ =>
            dsimp only
            rw [htu.kind]
            split
            · exact hread
            · exact hfinish

end TestCensus.Source
