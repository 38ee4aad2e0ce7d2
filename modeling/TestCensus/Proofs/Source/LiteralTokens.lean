import TestCensus.Docstring
import TestCensus.Proofs.Source.Spelling
import TestCensus.Source.Grammar

/-!
# String literals among the tokens of a source

A literal is written with letters, quotes, content and the same quotes again.
`Delimiter.Sets` says what the letters set, and `Delimiter.Encloses` that content is read up
to the quotes behind it and not past them.

*Tokens.*  Behind the token that opens a literal without replacement fields stand its
content and the quotes that close it, or something that no literal can be read over
(`OpensLiteral`).  The proof follows the reader of tokens.  A step finds one token and enters
the content of a literal if the token opens one, or it is in the content of a literal and
finds that and what stops it (`Reader.step_found`, `Reader.inContent_found`).  By induction a
run marks every literal that it opens (`Reader.run_marked`), and so do the tokens of a source
(`tokens_marked`).

*What is left.*  Readers of the grammar take tokens from the front and split stars, which
open nothing, so what they leave is marked as well (`Leaves.marked`).
-/

namespace TestCensus.Source

open TestCensus.Text

/-! ## What a literal is written with -/

/-- The letters set the manner in which the literal is read. -/
structure Delimiter.Sets (d : Delimiter) (letters : List Char) : Prop where
  /-- They are letters that may stand before a quote. -/
  manner : ∀ c ∈ letters, c ∈ mannerLetters
  /-- Whether a backslash stands for itself. -/
  raw : d.raw = letters.any fun c => c == 'r' || c == 'R'
  /-- Whether the literal writes bytes. -/
  bytes : d.bytes = letters.any fun c => c == 'b' || c == 'B'
  /-- Whether braces enclose replacement fields. -/
  formatted : d.formatted = letters.any fun c => c == 'f' || c == 'F'
  /-- The quote, which stands alone if it is slanted. -/
  quote : d.quote = '"' ∨ d.quote = '\'' ∨ d.quote = '`' ∧ d.triple = false

/-- The content is read up to the quotes that close it: where they stand behind it, it ends
in front of them. -/
def Delimiter.Encloses (d : Delimiter) (content : List Char) : Prop :=
  ∃ behind, Content.read d [] false 0 (content ++ (d.closing ++ behind)) =
    (content, .close, d.closing ++ behind)

theorem Delimiter.open?_sets {cs text rest : List Char} {d : Delimiter}
    (h : Delimiter.open? cs = some (text, d, rest)) :
    ∃ letters, d.Sets letters ∧ text = letters ++ d.closing := by
  have hmanner : ∀ c ∈ cs.takeWhile (mannerLetters.contains ·), c ∈ mannerLetters := fun c hc =>
    List.contains_iff_mem.1 (List.all_eq_true.1 List.all_takeWhile c hc)
  unfold Delimiter.open? at h
  dsimp only at h
  split at h
  · rename_i q after _
    split at h
    · rename_i hquote
      rw [Bool.or_eq_true, decide_eq_true_eq, decide_eq_true_eq] at hquote
      have hsets : ∀ triple, (Delimiter.mk q triple _ _ _).Sets _ := fun triple =>
        ⟨hmanner, rfl, rfl, rfl, hquote.imp_right .inl⟩
      split at h
      · split at h <;> cases h <;> exact ⟨_, hsets _, rfl⟩
      · cases h
        exact ⟨_, hsets _, rfl⟩
    · split at h
      · rename_i hslanted
        cases h
        exact ⟨_, ⟨hmanner, rfl, rfl, rfl, .inr (.inr ⟨hslanted, rfl⟩)⟩, rfl⟩
      · cases h
  · cases h

/-- Only a formatted literal has replacement fields. -/
theorem Content.read_field {d : Delimiter} {taken : List Char} {filled : Bool} {skip : Nat}
    {cs content rest : List Char}
    (h : Content.read d taken filled skip cs = (content, .field, rest)) : d.formatted = true := by
  fun_induction Content.read d taken filled skip cs <;> simp_all

/-- What was read in front of the closing quotes is enclosed by them. -/
theorem Content.read_close {d : Delimiter} {cs content rest : List Char}
    (h : Content.read d [] false 0 cs = (content, .close, rest)) :
    d.Encloses content ∧ ∃ behind, rest = d.closing ++ behind := by
  have hcs : content ++ rest = cs := Content.read_append h
  obtain ⟨behind, hrest⟩ : d.closing <+: rest := by
    simpa [h, Content.Stop.text] using Content.read_stop d [] false 0 cs
  refine ⟨⟨behind, ?_⟩, behind, hrest.symm⟩
  rw [hrest, hcs, h]

/-! ## Tokens behind the opening of a literal -/

/-- No literal can be read over the tokens: behind content stands neither a replacement field
nor the quotes that close the literal. -/
inductive Unclosed : List Token → Prop where
  /-- The tokens end. -/
  | nil : Unclosed []
  /-- Content, and no end of it behind. -/
  | text {t : Token} {ts : List Token} : t.kind = .stringText → Unclosed ts → Unclosed (t :: ts)
  /-- A token that is no part of a literal. -/
  | other {t : Token} {ts : List Token} : t.kind ≠ .stringText → t.kind ≠ .fieldOpen →
      t.kind ≠ .stringClose → Unclosed (t :: ts)

theorem Unclosed.behind {body ts : List Token} (h : Unclosed ts)
    (hbody : ∀ t ∈ body, t.kind = .stringText) : Unclosed (body ++ ts) := by
  induction body with
  | nil => exact h
  | cons t body ih => exact .text (hbody t (.head _)) (ih fun u hu => hbody u (.tail _ hu))

/-- The tokens close a literal: they write its content and its quotes, and the indices of all
tokens behind are larger. -/
structure Closes (d : Delimiter) (body : List Token) (last : Token) (after : List Token) :
    Prop where
  /-- The content is written with tokens of content. -/
  text : ∀ t ∈ body, t.kind = .stringText
  /-- The quotes close the literal. -/
  close : last.kind = .stringClose
  /-- The tokens write content and the quotes that enclose it. -/
  encloses : ∃ content, d.Encloses content ∧ spelling (body ++ [last]) = content ++ d.closing
  /-- The tokens are in order. -/
  index : ∀ t ∈ body ++ [last], ∀ u ∈ after, t.index < u.index

/-- A literal without replacement fields is closed by the tokens, or it is not closed. -/
inductive Continues (d : Delimiter) : List Token → Prop where
  /-- Its content stands in front of the quotes that close it. -/
  | closed {body after : List Token} {last : Token} : Closes d body last after →
      Continues d (body ++ last :: after)
  /-- It is not closed. -/
  | unclosed {ts : List Token} : Unclosed ts → Continues d ts

/-- The token opens a literal whose content, if it is not formatted, stands behind it. -/
def OpensLiteral (t : Token) (ts : List Token) : Prop :=
  ∃ d letters, Delimiter.Sets d letters ∧ t.text.toList = letters ++ d.closing ∧
    (d.formatted = false → Continues d ts)

/-- Every opening of a literal is followed by the rest of it. -/
def Marked : List Token → Prop
  | [] => True
  | t :: ts => (t.kind = .stringOpen → OpensLiteral t ts) ∧ Marked ts

/-- Readers leave marked tokens of marked tokens. -/
theorem Leaves.marked {ts rest : List Token} (h : Leaves ts rest) (hts : Marked ts) :
    Marked rest := by
  induction h with
  | all ts => exact hts
  | taken t _ ih => exact ih hts.2
  | @split t ts rest hk _ ih =>
      have hopens : t.kind ≠ .stringOpen := by
        rw [hk]
        exact nofun
      exact ih ⟨fun h => absurd h hopens, fun h => absurd h hopens, hts.2⟩

/-! ## Steps -/

namespace Reader

/-- The step finds the tokens, the first one first. -/
structure Emits (r s : Reader) (ts : List Token) : Prop where
  /-- They are added to those found before. -/
  found : s.found = ts.reverse ++ r.found
  /-- They are all counted. -/
  count : s.count = r.count + ts.length
  /-- Their indices go on from those before. -/
  index : ∀ t ∈ ts, r.count ≤ t.index ∧ t.index < s.count

theorem Emits.nil (r : Reader) : r.Emits r [] := ⟨rfl, rfl, nofun⟩

/-- One more token is found. -/
theorem Emits.emit {r s : Reader} {ts : List Token} (h : r.Emits s ts) (gap : Gap)
    (kind : TokenKind) (text : List Char) :
    ∃ t, r.Emits (s.emit gap kind text) (ts ++ [t]) ∧ t.kind = kind ∧ t.text.toList = text ∧
      t.gap = gap := by
  refine ⟨⟨kind, String.ofList text, gap, s.place.behind gap.text.toList, s.count⟩,
    ⟨?_, ?_, fun t ht => ?_⟩, rfl, String.toList_ofList, rfl⟩
  · show _ :: s.found = _
    rw [h.found, List.reverse_append]
    rfl
  · show s.count + 1 = _
    rw [h.count, List.length_append]
    rfl
  · rcases List.mem_append.1 ht with ht | ht
    · exact ⟨(h.index t ht).1, Nat.lt_succ_of_lt (h.index t ht).2⟩
    · obtain rfl := List.mem_singleton.1 ht
      exact ⟨by rw [h.count]; exact Nat.le_add_right _ _, Nat.lt_succ_self _⟩

theorem Emits.of_eq {r s r' s' : Reader} {ts : List Token} (h : r.Emits s ts)
    (hr : r.found = r'.found ∧ r.count = r'.count) (hs : s.found = s'.found ∧ s.count = s'.count) :
    r'.Emits s' ts :=
  ⟨by rw [← hs.1, ← hr.1, h.found], by rw [← hs.2, ← hr.2, h.count],
    fun t ht => by rw [← hs.2, ← hr.2]; exact h.index t ht⟩

/-- If the token opens a literal, the reader is in the content of that literal. -/
def Enters (s : Reader) (t : Token) : Prop :=
  t.kind = .stringOpen → ∃ d letters, Delimiter.Sets d letters ∧
    t.text.toList = letters ++ d.closing ∧ s.frames.head? = some (.content d)

variable {r : Reader}

/-- A step finds one token, which opens no literal unless the reader enters it. -/
def FindsOne (r : Reader) (next : Next) : Prop :=
  ∃ t, r.Emits next.1 [t] ∧ next.1.Enters t

/-- A token that opens no literal is found, with changes of the frames before and after. -/
theorem FindsOne.of_emit {s s' : Reader} {gap : Gap} {kind : TokenKind} {text : List Char}
    {left : Option (List Char)} (hr : r.found = s.found ∧ r.count = s.count)
    (hs : (s.emit gap kind text).found = s'.found ∧ (s.emit gap kind text).count = s'.count)
    (hkind : kind ≠ .stringOpen) : r.FindsOne (s', left) := by
  obtain ⟨t, hemits, ht, -, -⟩ := (Emits.nil s).emit gap kind text
  exact ⟨t, hemits.of_eq ⟨hr.1.symm, hr.2.symm⟩ hs, fun h => absurd (ht.symm.trans h) hkind⟩

theorem opening_found (r : Reader) : r.found = r.opening.found ∧ r.count = r.opening.count := by
  unfold Reader.opening
  split <;> exact ⟨rfl, rfl⟩

theorem closing_found (r : Reader) : r.found = r.closing.found ∧ r.count = r.closing.count := by
  unfold Reader.closing
  split <;> exact ⟨rfl, rfl⟩

theorem word_found (r : Reader) (text : List Char) :
    r.found = (r.word text).found ∧ r.count = (r.word text).count := by
  unfold Reader.word
  split
  · split <;> exact ⟨rfl, rfl⟩
  · exact ⟨rfl, rfl⟩

theorem outermost?_found {gap : Gap} {cs : List Char} {next : Next}
    (h : r.outermost? gap cs = some next) : r.FindsOne next := by
  unfold outermost? at h
  split at h
  · cases h
    exact .of_emit (s := r.pop) ⟨rfl, rfl⟩ ⟨rfl, rfl⟩ nofun
  · split at h
    · cases h
      exact .of_emit (s := r.swap _) ⟨rfl, rfl⟩ ⟨rfl, rfl⟩ nofun
    · split at h
      · cases h
      · cases h
        exact .of_emit (s := r.swap _) ⟨rfl, rfl⟩ ⟨rfl, rfl⟩ nofun
  · split at h
    · cases h
      exact .of_emit (s := r) ⟨rfl, rfl⟩ ⟨rfl, rfl⟩ nofun
    · cases h
  · cases h

theorem atToken_found (r : Reader) (gap : Gap) (cs : List Char) :
    r.FindsOne (r.atToken gap cs) := by
  unfold atToken
  split
  · rename_i next hnext
    exact outermost?_found hnext
  split
  · rename_i text d rest hopen
    obtain ⟨letters, hsets, htext⟩ := Delimiter.open?_sets hopen
    obtain ⟨t, hemits, -, hwritten, -⟩ := (Emits.nil r).emit gap .stringOpen text
    exact ⟨t, hemits.of_eq ⟨rfl, rfl⟩ ⟨rfl, rfl⟩,
      fun _ => ⟨d, letters, hsets, hwritten.trans htext, rfl⟩⟩
  split
  · exact .of_emit (word_found r _) ⟨rfl, rfl⟩ nofun
  split
  · exact .of_emit (s := r) ⟨rfl, rfl⟩ ⟨rfl, rfl⟩ nofun
  split
  · refine .of_emit ?_ ⟨rfl, rfl⟩ nofun
    split
    · exact opening_found r
    · split
      · exact closing_found r
      · exact ⟨rfl, rfl⟩
  · exact .of_emit (s := r) ⟨rfl, rfl⟩ ⟨rfl, rfl⟩ nofun

theorem inSpec_found (r : Reader) (cs : List Char) : r.FindsOne (r.inSpec cs) := by
  unfold inSpec
  dsimp only
  split
  · exact .of_emit (s := r) ⟨rfl, rfl⟩ ⟨rfl, rfl⟩ nofun
  · split
    · exact .of_emit (s := r) ⟨rfl, rfl⟩ ⟨rfl, rfl⟩ nofun
    · split
      · exact .of_emit (s := r.pop) ⟨rfl, rfl⟩ ⟨rfl, rfl⟩ nofun
      · exact .of_emit (s := r) ⟨rfl, rfl⟩ ⟨rfl, rfl⟩ nofun

/-- Outside the content of literals a step finds one token. -/
theorem step_found (h : ∀ d, r.frames.head? ≠ some (.content d)) (cs : List Char) :
    r.FindsOne (r.step cs) := by
  unfold step
  split
  · rename_i d _ hframes
    exact absurd (congrArg List.head? hframes) (h d)
  · exact inSpec_found r cs
  · split
    · exact .of_emit (s := r) ⟨rfl, rfl⟩ ⟨rfl, rfl⟩ nofun
    · exact atToken_found r _ _

/-- The tokens write content and the quotes that close it, or they are not closed whatever
stands behind them. -/
def EndsContent (d : Delimiter) (ts : List Token) : Prop :=
  (∃ body last, ts = body ++ [last] ∧ (∀ t ∈ body, t.kind = .stringText) ∧
      last.kind = .stringClose ∧
      ∃ content, d.Encloses content ∧ spelling ts = content ++ d.closing) ∨
    ∀ tail, Unclosed (ts ++ tail)

/-- Content is one token, unless it is empty. -/
theorem content_found (r : Reader) (content : List Char) : ∃ body : List Token,
    r.Emits (if content.isEmpty then r else r.emit .touching .stringText content) body ∧
      (∀ t ∈ body, t.kind = .stringText) ∧ spelling body = content := by
  split
  · rename_i hempty
    exact ⟨[], .nil r, nofun, (List.isEmpty_iff.1 hempty).symm⟩
  · obtain ⟨t, hemits, hkind, hwritten, hgap⟩ := (Emits.nil r).emit .touching .stringText content
    refine ⟨[t], hemits, fun u hu => ?_, ?_⟩
    · rw [List.mem_singleton.1 hu, hkind]
    · simp [spelling, hwritten, hgap, Gap.touching]

/-- In the content of a literal a step finds the content, if there is some, and what stops
it. -/
theorem inContent_found (r : Reader) (d : Delimiter) (cs : List Char) :
    ∃ ts, r.Emits (r.inContent d cs).1 ts ∧ (∀ t ∈ ts, t.kind ≠ .stringOpen) ∧
      (d.formatted = false → EndsContent d ts) := by
  unfold inContent
  rcases hread : Content.read d [] false 0 cs with ⟨content, stop, rest⟩
  dsimp only
  obtain ⟨body, hbody, htext, hspelling⟩ := content_found r content
  have hopens : ∀ {t : Token}, t.kind ≠ .stringOpen → ∀ u ∈ body ++ [t], u.kind ≠ .stringOpen := by
    intro t ht u hu
    rcases List.mem_append.1 hu with hu | hu
    · rw [htext u hu]
      exact nofun
    · rwa [List.mem_singleton.1 hu]
  cases stop with
  | close =>
      have hpop : r.Emits
          (if content.isEmpty then r else r.emit .touching .stringText content).pop body :=
        hbody.of_eq ⟨rfl, rfl⟩ ⟨rfl, rfl⟩
      obtain ⟨t, hemits, hkind, hwritten, hgap⟩ := hpop.emit .touching .stringClose d.closing
      refine ⟨body ++ [t], hemits, hopens (by rw [hkind]; exact nofun), fun _ => .inl ?_⟩
      refine ⟨body, t, rfl, htext, hkind, content, (Content.read_close hread).1, ?_⟩
      rw [spelling_append, hspelling]
      simp [hwritten, hgap, Gap.touching]
  | field =>
      obtain ⟨t, hemits, hkind, -, -⟩ := hbody.emit .touching .fieldOpen ['{']
      refine ⟨body ++ [t], hemits.of_eq ⟨rfl, rfl⟩ ⟨rfl, rfl⟩, hopens (by rw [hkind]; exact nofun),
        fun hplain => ?_⟩
      rw [Content.read_field hread] at hplain
      cases hplain
  | broken =>
      obtain ⟨t, hemits, hkind, -, -⟩ := hbody.emit .touching .unknown (rest.take 1)
      have hopen := hopens (by rw [hkind]; exact nofun)
      refine ⟨body ++ [t], hemits, hopen, fun _ => .inr fun tail => ?_⟩
      have hunknown : Unclosed (t :: tail) := by
        refine .other ?_ ?_ ?_ <;> (rw [hkind]; exact nofun)
      rw [List.append_assoc]
      exact hunknown.behind htext

/-! ## Runs -/

theorem Emits.append {r s u : Reader} {ts us : List Token} (h : r.Emits s ts)
    (h' : s.Emits u us) : r.Emits u (ts ++ us) := by
  have hs := h.count
  have hu := h'.count
  refine ⟨by rw [h'.found, h.found]; simp, by rw [hu, hs, List.length_append]; omega, ?_⟩
  intro t ht
  rcases List.mem_append.1 ht with ht | ht
  · have := h.index t ht
    omega
  · have := h'.index t ht
    omega

theorem marked_append {ts us : List Token} (h : ∀ t ∈ ts, t.kind ≠ .stringOpen) (hus : Marked us) :
    Marked (ts ++ us) := by
  induction ts with
  | nil => exact hus
  | cons t ts ih =>
      exact ⟨fun hopen => absurd hopen (h t (.head _)), ih fun u hu => h u (.tail _ hu)⟩

/-- A run in front of the tokens `tail` marks the literals that it opens, and closes the
literal in whose content it starts. -/
theorem run_marked (n : Nat) (r : Reader) (cs : List Char) (tail : List Token)
    (htail : Marked tail) (hunclosed : Unclosed tail)
    (hindex : ∀ t ∈ tail, (run n r cs).count ≤ t.index) :
    ∃ ts, r.Emits (run n r cs) ts ∧ Marked (ts ++ tail) ∧
      ∀ d, r.frames.head? = some (.content d) → d.formatted = false → Continues d (ts ++ tail) := by
  induction n generalizing r cs with
  | zero => exact ⟨[], .nil r, htail, fun _ _ _ => .unclosed hunclosed⟩
  | succ n ih =>
      obtain ⟨us, hus, hmarked, hcontinues⟩ : ∃ us, (r.step cs).1.Emits (run (n + 1) r cs) us ∧
          Marked (us ++ tail) ∧ ∀ d, (r.step cs).1.frames.head? = some (.content d) →
            d.formatted = false → Continues d (us ++ tail) := by
        rcases hstep : r.step cs with ⟨s, left⟩
        simp only [run, hstep] at hindex ⊢
        cases left with
        | none => exact ⟨[], .nil s, htail, fun _ _ _ => .unclosed hunclosed⟩
        | some left => exact ih s left hindex
      by_cases hcontent : ∃ d, r.frames.head? = some (.content d)
      · obtain ⟨d, hd⟩ := hcontent
        obtain ⟨rest, hframes⟩ := List.head?_eq_some_iff.1 hd
        have hstep : r.step cs = r.inContent d cs := by rw [step, hframes]
        obtain ⟨ts, hts, hopens, hends⟩ := inContent_found r d cs
        rw [← hstep] at hts
        refine ⟨ts ++ us, hts.append hus, ?_, fun d' hd' hplain => ?_⟩
        · rw [List.append_assoc]
          exact marked_append hopens hmarked
        obtain rfl : d = d' := Frame.content.inj (Option.some.inj (hd.symm.trans hd'))
        rw [List.append_assoc]
        rcases hends hplain with ⟨body, last, rfl, htext, hclose, hencloses⟩ | hunclosed
        · rw [List.append_assoc, List.singleton_append]
          refine .closed ⟨htext, hclose, hencloses, fun t ht u hu => ?_⟩
          have hcount := hus.count
          refine Nat.lt_of_lt_of_le (hts.index t ht).2 ?_
          rcases List.mem_append.1 hu with hu | hu
          · exact (hus.index u hu).1
          · have := hindex u hu
            omega
        · exact .unclosed (hunclosed _)
      · have hno : ∀ d, r.frames.head? ≠ some (.content d) := fun d hd => hcontent ⟨d, hd⟩
        obtain ⟨t, ht, henters⟩ := step_found hno cs
        refine ⟨t :: us, ht.append hus, ⟨fun hopen => ?_, hmarked⟩, fun d hd => absurd hd (hno d)⟩
        obtain ⟨d, letters, hsets, htext, hhead⟩ := henters hopen
        exact ⟨d, letters, hsets, htext, hcontinues d hhead⟩

end Reader

/-- Every opening of a literal among the tokens of a source is followed by the rest of it. -/
theorem tokens_marked (source : List Char) : Marked (tokens source) := by
  have hfinish : ∀ r : Reader, ∃ t, r.Emits (r.emit .touching .finish []) [t] ∧ t.kind = .finish :=
    fun r => ((Reader.Emits.nil r).emit .touching .finish []).imp fun t ht => ⟨ht.1, ht.2.1⟩
  have hwhole : Marked (Reader.start.run (source.length + 1) source).found.reverse := by
    obtain ⟨ts, hts, hmarked, -⟩ :=
      Reader.run_marked (source.length + 1) .start source [] trivial .nil nofun
    rw [List.append_nil] at hmarked
    rw [hts.found, List.reverse_append, List.reverse_reverse]
    exact hmarked
  have hclosed : Marked ((Reader.start.run (source.length + 1) source).tokens .touching) := by
    obtain ⟨t, ht, hkind⟩ := hfinish (Reader.start.run (source.length + 1) source)
    have hunclosed : Unclosed [t] := by
      refine .other ?_ ?_ ?_ <;> (rw [hkind]; exact nofun)
    obtain ⟨ts, hts, hmarked, -⟩ := Reader.run_marked (source.length + 1) .start source [t]
      ⟨by rw [hkind]; exact nofun, trivial⟩ hunclosed fun u hu => (ht.index u hu).1
    rw [Reader.tokens, ht.found, hts.found]
    simpa [Reader.start] using hmarked
  unfold tokens
  dsimp only
  split
  · split
    · exact hwhole
    · exact hclosed
  · exact hclosed

end TestCensus.Source
