import TestCensus.Proofs.Source.Spelling

/-!
# The shape of the tokens of a source

The tokens of a source are inner tokens and behind them the finish (`tokens_shape`).
An inner token is not a finish; if it is a word, its text is made of the characters of
names; and if it starts a new line, there is a line feed in the layout before it.

The proof follows the reader of tokens.  A step keeps what was found sound or adds the
finish and stops (`Reader.step_sound`), and by induction so does a run.

As the tokens also spell the source, this orders them by line: no token stands on an
earlier line than one before it, and a token that starts a new line stands on a later
one (`tokens_pairwise`).
-/

namespace TestCensus.Source

open TestCensus.Text

/-! ## Inner tokens -/

/-- The layout has a line feed if it ends a line. -/
def Gap.HasLineEnd (g : Gap) : Prop := g.endsLine = true → '\n' ∈ g.text.toList

/-- The token is as one that is not the last. -/
structure Token.IsInner (t : Token) : Prop where
  /-- The source does not end here. -/
  notFinish : t.kind ≠ .finish
  /-- Words are made of the characters of names. -/
  word : t.kind = .word → ∀ c ∈ t.text.toList, continuesName c = true
  /-- A new line has a line feed before it. -/
  lineEnd : t.gap.HasLineEnd

theorem Gap.touching_hasLineEnd : Gap.touching.HasLineEnd := nofun

/-- A line end was read for every line that ended. -/
def Gap.Reading.Marked (g : Gap.Reading) : Prop := g.endsLine = true → '\n' ∈ g.taken

namespace Gap.Reading

variable {g : Gap.Reading}

theorem Marked.take (h : g.Marked) (c : Char) : (g.take c).Marked := fun hends =>
  List.mem_cons_of_mem _ (h hends)

theorem marked_take_lineFeed : (g.take '\n').Marked := fun _ => .head _

theorem Marked.deepen (h : g.Marked) (n : Nat) : (g.deepen n).Marked := by
  unfold Gap.Reading.deepen
  split <;> exact h

theorem Marked.restart (h : g.Marked) : g.restart.Marked := by
  unfold Gap.Reading.restart
  split <;> exact h

theorem Marked.continued (h : g.Marked) (text : List Char) : (g.continued text).Marked :=
  fun hends => List.mem_append_right _ (h hends)

end Gap.Reading

/-- As long as layout has a text behind it, only a line feed ends a line. -/
theorem Gap.read_marked {g : Gap.Reading} {cs : List Char} (hg : g.Marked)
    (hrest : (Gap.read g cs).2 ≠ []) : (Gap.read g cs).1.Marked := by
  fun_induction Gap.read g cs with
  | case1 g => exact absurd rfl hrest
  | case2 g rest text hcomment ih => exact ih Gap.Reading.marked_take_lineFeed hrest
  | case3 g c rest text hcomment hc ih => exact ih (Gap.Reading.Marked.take hg c) hrest
  | case4 g rest hcomment ih => exact ih Gap.Reading.marked_take_lineFeed hrest
  | case5 g rest hcomment hc ih => exact ih ((hg.deepen 1).take _) hrest
  | case6 g rest hcomment hc hc' ih => exact ih ((hg.deepen 8).take _) hrest
  | case7 g c rest hcomment hc hc' hc'' hreturn ih => exact ih (hg.restart.take _) hrest
  | case8 g rest hcomment hc hc' hc'' hreturn ih => exact ih (Gap.Reading.Marked.take hg _) hrest
  | case9 g c rest hcomment hc hc' hc'' hreturn hhash hhides ih =>
      exact ih (Gap.Reading.Marked.take hg c) hrest
  | case10 g => exact absurd rfl hrest
  | case11 g => rename_i ih; exact ih (hg.continued _) hrest
  | case12 g => rename_i ih; exact ih (hg.continued _) hrest
  | case13 g => exact hg
  | case14 g => exact hg

/-- The layout before a token has a line feed if it ends a line. -/
theorem gapOf_hasLineEnd {cs rest : List Char} {g : Gap} {c : Char}
    (h : gapOf cs = (g, c :: rest)) : g.HasLineEnd := by
  simp only [gapOf, Prod.mk.injEq] at h
  obtain ⟨rfl, hrest⟩ := h
  intro hends
  have hstart : Gap.Reading.start.Marked := fun h => absurd h Bool.false_ne_true
  have hread := Gap.read_marked hstart (by rw [hrest]; exact List.cons_ne_nil _ _)
  simpa [Gap.Reading.gap] using hread hends

theorem continuesName_of_mem_name? {cs text rest : List Char} (h : name? cs = some (text, rest)) :
    ∀ c ∈ text, continuesName c = true := by
  cases cs with
  | nil => cases h
  | cons c tail =>
      simp only [name?] at h
      split at h
      · rename_i hstart
        cases h
        intro d hd
        rcases List.mem_cons.1 hd with rfl | hd
        · exact continuesName_of_startsName hstart
        · exact List.all_eq_true.1 List.all_takeWhile d hd
      · cases h

/-! ## Steps -/

namespace Reader

/-- All that was found are inner tokens. -/
def Sound (r : Reader) : Prop := ∀ t ∈ r.found, t.IsInner

theorem start_sound : start.Sound := nofun

theorem Sound.emit {r : Reader} (h : r.Sound) {gap : Gap} {kind : TokenKind} {text : List Char}
    (hgap : gap.HasLineEnd) (hfinish : kind ≠ .finish)
    (hword : kind = .word → ∀ c ∈ text, continuesName c = true) : (r.emit gap kind text).Sound := by
  intro t ht
  rcases List.mem_cons.1 ht with rfl | ht
  · exact ⟨hfinish, fun hkind => by simpa using hword hkind, hgap⟩
  · exact h t ht

theorem Sound.opening {r : Reader} (h : r.Sound) : r.opening.Sound := by
  unfold Reader.opening
  split <;> exact h

theorem Sound.closing {r : Reader} (h : r.Sound) : r.closing.Sound := by
  unfold Reader.closing
  split <;> exact h

theorem Sound.word {r : Reader} (h : r.Sound) (text : List Char) : (r.word text).Sound := by
  unfold Reader.word
  split
  · split <;> exact h
  · exact h

variable {r : Reader}

theorem outermost?_sound (h : r.Sound) {gap : Gap} (hgap : gap.HasLineEnd) {cs : List Char}
    {next : Next} (hnext : r.outermost? gap cs = some next) : next.1.Sound := by
  unfold outermost? at hnext
  split at hnext
  · cases hnext
    exact Sound.emit h hgap nofun nofun
  · split at hnext
    · cases hnext
      exact Sound.emit h hgap nofun nofun
    · split at hnext
      · cases hnext
      · cases hnext
        exact Sound.emit h hgap nofun nofun
  · split at hnext
    · cases hnext
      exact h.emit hgap nofun nofun
    · cases hnext
  · cases hnext

theorem atToken_sound (h : r.Sound) {gap : Gap} (hgap : gap.HasLineEnd) (cs : List Char) :
    (r.atToken gap cs).1.Sound := by
  unfold atToken
  split
  · rename_i next hnext
    exact outermost?_sound h hgap hnext
  split
  · exact h.emit hgap nofun nofun
  split
  · rename_i text rest hname
    exact (h.word text).emit hgap nofun fun _ => continuesName_of_mem_name? hname
  split
  · exact h.emit hgap nofun nofun
  split
  · refine Sound.emit ?_ hgap nofun nofun
    split
    · exact h.opening
    · split
      · exact h.closing
      · exact h
  · exact h.emit hgap nofun nofun

theorem inSpec_sound (h : r.Sound) (cs : List Char) : (r.inSpec cs).1.Sound := by
  have hgap : ∀ text, (⟨text, [], false, 0⟩ : Gap).HasLineEnd := nofun
  unfold inSpec
  dsimp only
  split
  · exact h.emit (hgap _) nofun nofun
  · split
    · exact h.emit (hgap _) nofun nofun
    · split
      · exact Sound.emit h (hgap _) nofun nofun
      · exact h.emit (hgap _) nofun nofun

theorem inContent_sound (h : r.Sound) (d : Delimiter) (cs : List Char) :
    (r.inContent d cs).1.Sound := by
  have hcontent : ∀ content : List Char,
      (if content.isEmpty then r else r.emit .touching .stringText content).Sound := by
    intro content
    split
    · exact h
    · exact h.emit Gap.touching_hasLineEnd nofun nofun
  unfold inContent
  dsimp only
  split
  · exact Sound.emit (hcontent _) Gap.touching_hasLineEnd nofun nofun
  · exact (hcontent _).emit Gap.touching_hasLineEnd nofun nofun
  · exact (hcontent _).emit Gap.touching_hasLineEnd nofun nofun

theorem layout_hasLineEnd (r : Reader) {gap : Gap} (h : gap.HasLineEnd) :
    (r.layout gap).HasLineEnd := by
  unfold layout
  split
  · split
    · exact nofun
    · exact h
  · exact h

/-- A step finds inner tokens, or it finds the finish and is the last. -/
theorem step_sound (h : r.Sound) (cs : List Char) :
    (r.step cs).1.Sound ∨ ∃ gap, r.step cs = (r.emit gap .finish [], none) := by
  unfold step
  split
  · exact Or.inl (inContent_sound h _ cs)
  · exact Or.inl (inSpec_sound h cs)
  · split
    · exact Or.inr ⟨_, rfl⟩
    · rename_i hgap
      exact Or.inl (atToken_sound h (layout_hasLineEnd r (gapOf_hasLineEnd hgap)) _)

/-! ## Runs -/

theorem run_sound (n : Nat) (h : r.Sound) (cs : List Char) :
    (run n r cs).Sound ∨
      ∃ (s : Reader) (gap : Gap), s.Sound ∧ run n r cs = s.emit gap .finish [] := by
  induction n generalizing r cs with
  | zero => exact Or.inl h
  | succ n ih =>
      rcases step_sound h cs with hstep | ⟨gap, hstep⟩
      · rcases hnext : r.step cs with ⟨s, left⟩
        rw [hnext] at hstep
        simp only [run, hnext]
        cases left with
        | none => exact Or.inl hstep
        | some left => exact ih hstep left
      · simp only [run, hstep]
        exact Or.inr ⟨r, gap, h, rfl⟩

end Reader

/-- The tokens of a source are inner tokens and the finish. -/
theorem tokens_shape (source : List Char) :
    ∃ inner last, tokens source = inner ++ [last] ∧ (∀ t ∈ inner, t.IsInner) ∧
      last.kind = .finish := by
  have hclose : ∀ (s : Reader) (gap : Gap), s.Sound → ∃ inner last,
      (s.emit gap .finish []).found.reverse = inner ++ [last] ∧ (∀ t ∈ inner, t.IsInner) ∧
        last.kind = .finish := by
    intro s gap hs
    exact ⟨s.found.reverse, _, List.reverse_cons, fun t ht => hs t (List.mem_reverse.1 ht), rfl⟩
  unfold tokens
  dsimp only
  rcases Reader.run_sound (source.length + 1) Reader.start_sound source with
    hrun | ⟨s, gap, hs, hrun⟩
  · split
    · rename_i t found hfound
      have hinner := hrun t (by rw [hfound]; exact .head _)
      rw [if_neg hinner.notFinish]
      exact hclose _ _ hrun
    · exact hclose _ _ hrun
  · rw [hrun]
    exact hclose s gap hs

theorem isInner_of_mem {source : List Char} {t : Token} (h : t ∈ tokens source)
    (hkind : t.kind ≠ .finish) : t.IsInner := by
  obtain ⟨inner, last, htokens, hinner, hlast⟩ := tokens_shape source
  rw [htokens, List.mem_append, List.mem_singleton] at h
  rcases h with h | rfl
  · exact hinner t h
  · exact absurd hlast hkind

/-- A token with another one behind it is an inner one. -/
theorem isInner_of_append {source : List Char} {earlier later : List Token} {t : Token}
    (h : tokens source = earlier ++ t :: later) (hlater : later ≠ []) : t.IsInner := by
  obtain ⟨inner, last, htokens, hinner, -⟩ := tokens_shape source
  have hinner' : inner = earlier ++ t :: later.dropLast := by
    have hdrop := congrArg List.dropLast (htokens.symm.trans h)
    rwa [List.dropLast_concat, List.dropLast_append_of_ne_nil (List.cons_ne_nil _ _),
      List.dropLast_cons_of_ne_nil hlater] at hdrop
  exact hinner t (by simp [hinner'])

/-! ## Lines -/

/-- The second token may follow the first one: it stands on no earlier line, and on a
later one if it starts a line. -/
structure Token.Precedes (a b : Token) : Prop where
  /-- Nothing follows the finish. -/
  notFinish : a.kind ≠ .finish
  /-- The lines do not descend. -/
  line_le : a.start.line ≤ b.start.line
  /-- A new line is a later one, unless the source ends. -/
  line_lt : b.gap.endsLine = true → b.kind ≠ .finish → a.start.line < b.start.line

/-- A token precedes those behind it. -/
theorem precedes_of_append {source : List Char} {earlier between after : List Token} {t u : Token}
    (h : tokens source = earlier ++ t :: (between ++ u :: after)) : t.Precedes u := by
  have hbehind : tokens source = (earlier ++ t :: between) ++ u :: after := by simp [h]
  obtain ⟨-, htstart⟩ := token_place h
  obtain ⟨-, hustart⟩ := token_place hbehind
  have hline : u.start.line = t.start.line +
      (t.text.toList ++ spelling between ++ u.gap.text.toList).count '\n' := by
    rw [hustart, htstart, Position.behind_line, Position.behind_line]
    simp only [spelling_append, spelling_cons, List.count_append]
    omega
  have htinner := isInner_of_append h (by simp)
  refine ⟨htinner.notFinish, by omega, fun hends hfinish => ?_⟩
  have huinner := isInner_of_mem (hbehind ▸ List.mem_append_right _ (.head _)) hfinish
  have hfeed := List.count_pos_iff.2 (huinner.lineEnd hends)
  simp only [List.count_append] at hline
  omega

theorem pairwise_of_append {source : List Char} (earlier : List Token) {later : List Token}
    (h : tokens source = earlier ++ later) : later.Pairwise Token.Precedes := by
  induction later generalizing earlier with
  | nil => exact .nil
  | cons t later ih =>
      refine .cons (fun u hu => ?_) (ih (earlier ++ [t]) (by simp [h]))
      obtain ⟨between, after, rfl⟩ := List.append_of_mem hu
      exact precedes_of_append h

/-- The tokens of a source are ordered by line. -/
theorem tokens_pairwise (source : List Char) : (tokens source).Pairwise Token.Precedes :=
  pairwise_of_append [] rfl

end TestCensus.Source
