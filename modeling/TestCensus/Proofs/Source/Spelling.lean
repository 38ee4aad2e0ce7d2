import TestCensus.Source.Lexer

/-!
# Tokens spell the source

The tokens of a source, each with the layout before it, spell the source from its
beginning up to where reading stops, and every token starts where its position
says.  `Spelled found read` states both for the tokens found so far, last first,
and the text read for them.

*Steps.*  A step of the reader takes some text from the front of what is left and
spells just that text (`Reader.step_takes`).  The frames of the reader decide how
the text is cut into tokens and do not matter here.

*Runs.*  By induction on the number of steps the same holds of a run
(`Reader.run_spells`), and hence of all tokens of a source (`tokens_spelled`).

`token_place` reads the place of a single token off this: the text before the
token is the spelling of the tokens before it together with the layout between.
-/

namespace TestCensus.Source

open TestCensus.Text

/-- The text that tokens spell together with the layout before each. -/
def spelling (ts : List Token) : List Char :=
  ts.flatMap fun t => t.gap.text.toList ++ t.text.toList

@[simp] theorem spelling_nil : spelling [] = [] := rfl

@[simp] theorem spelling_cons (t : Token) (ts : List Token) :
    spelling (t :: ts) = t.gap.text.toList ++ t.text.toList ++ spelling ts := rfl

@[simp] theorem spelling_append (ts us : List Token) :
    spelling (ts ++ us) = spelling ts ++ spelling us := List.flatMap_append

/-- The beginning of a source. -/
def Position.origin : Position := ⟨0, 0⟩

theorem Position.behind_append (p : Position) (cs ds : List Char) :
    p.behind (cs ++ ds) = (p.behind cs).behind ds := List.foldl_append

/-- A line feed and nothing else leads to the next line. -/
theorem Position.behind_line (p : Position) (cs : List Char) :
    (p.behind cs).line = p.line + cs.count '\n' := by
  induction cs generalizing p with
  | nil => rfl
  | cons c rest ih =>
      have hstep : p.behind (c :: rest) = (p.after c).behind rest := rfl
      rw [hstep, ih]
      unfold Position.after
      split
      · rename_i hc
        subst hc
        rw [List.count_cons_self]
        show p.line + 1 + _ = _
        omega
      · rename_i hc
        rw [List.count_cons_of_ne hc]

/-! ## Tokens found so far -/

/-- The tokens `found`, last first, spell the text `read`, and each starts where
it says. -/
inductive Spelled : List Token → List Char → Prop where
  /-- Nothing was read. -/
  | nil : Spelled [] []
  /-- One more token was read behind its gap. -/
  | cons {found : List Token} {read : List Char} (t : Token) :
      Spelled found read →
      t.start = Position.origin.behind (read ++ t.gap.text.toList) →
      Spelled (t :: found) (read ++ t.gap.text.toList ++ t.text.toList)

/-- The text that was read is spelled by the tokens. -/
theorem Spelled.eq_spelling {found : List Token} {read : List Char} (h : Spelled found read) :
    read = spelling found.reverse := by
  induction h with
  | nil => rfl
  | cons t _ _ ih => simp [ih]

/-- A token among those found starts behind the tokens before it and its gap. -/
theorem Spelled.start_eq {found : List Token} {read : List Char} (h : Spelled found read)
    {later earlier : List Token} {t : Token} (hf : found = later ++ t :: earlier) :
    t.start = Position.origin.behind (spelling earlier.reverse ++ t.gap.text.toList) := by
  induction h generalizing later with
  | nil => simp at hf
  | cons u hfound hstart ih =>
      cases later with
      | nil =>
          obtain ⟨rfl, rfl⟩ := List.cons.inj hf
          rw [hstart, hfound.eq_spelling]
      | cons v later' =>
          obtain ⟨-, hf'⟩ := List.cons.inj hf
          exact ih hf'

namespace Reader

/-- What the reader found spells `read`, and the reader stands behind it. -/
structure Spells (r : Reader) (read : List Char) : Prop where
  /-- The tokens spell the text. -/
  found : Spelled r.found read
  /-- The reader stands behind the text. -/
  place : r.place = Position.origin.behind read

theorem start_spells : start.Spells [] := ⟨.nil, rfl⟩

theorem Spells.emit {r : Reader} {read : List Char} (h : r.Spells read) (gap : Gap)
    (kind : TokenKind) (text : List Char) :
    (r.emit gap kind text).Spells (read ++ gap.text.toList ++ text) := by
  have hstart : r.place.behind gap.text.toList =
      Position.origin.behind (read ++ gap.text.toList) := by
    rw [h.place, Position.behind_append]
  constructor
  · have hcons := Spelled.cons
      ⟨kind, String.ofList text, gap, r.place.behind gap.text.toList, r.count⟩ h.found hstart
    rw [String.toList_ofList] at hcons
    exact hcons
  · show (r.place.behind gap.text.toList).behind text = _
    rw [hstart, Position.behind_append _ _ text]

/-- The frames do not matter. -/
theorem Spells.of_eq {r s : Reader} {read : List Char} (h : r.Spells read)
    (hf : s.found = r.found) (hp : s.place = r.place) : s.Spells read :=
  ⟨by rw [hf]; exact h.found, by rw [hp]; exact h.place⟩

theorem Spells.swap {r : Reader} {read : List Char} (h : r.Spells read) (f : Frame) :
    (r.swap f).Spells read := h.of_eq rfl rfl

theorem Spells.push {r : Reader} {read : List Char} (h : r.Spells read) (f : Frame) :
    (r.push f).Spells read := h.of_eq rfl rfl

theorem Spells.pop {r : Reader} {read : List Char} (h : r.Spells read) : r.pop.Spells read :=
  h.of_eq rfl rfl

theorem Spells.opening {r : Reader} {read : List Char} (h : r.Spells read) :
    r.opening.Spells read := by
  unfold Reader.opening
  split
  · exact h.swap _
  · exact h

theorem Spells.closing {r : Reader} {read : List Char} (h : r.Spells read) :
    r.closing.Spells read := by
  unfold Reader.closing
  split
  · exact h.swap _
  · exact h

theorem Spells.word {r : Reader} {read : List Char} (h : r.Spells read) (text : List Char) :
    (r.word text).Spells read := by
  unfold Reader.word
  split
  · split
    · exact h.swap _
    · exact h
  · exact h

/-! ## Steps -/

/-- Reading on from `r` at the text `cs` takes a part of the text from its front
and spells it, and goes on behind that part if it goes on. -/
def Takes (r : Reader) (cs : List Char) (next : Next) : Prop :=
  ∃ taken rest, cs = taken ++ rest ∧
    (∀ read, r.Spells read → next.1.Spells (read ++ taken)) ∧
    ∀ left, next.2 = some left → left = rest

/-- A step that emits one token, with changes of the frames before and after. -/
theorem Takes.of_emit {r s t : Reader} {gap : Gap} {kind : TokenKind} {cs text rest : List Char}
    {left : Option (List Char)} (hs : ∀ {read}, r.Spells read → s.Spells read)
    (ht : ∀ {read}, (s.emit gap kind text).Spells read → t.Spells read)
    (hcs : text ++ rest = cs) (hleft : ∀ l, left = some l → l = rest) :
    Takes r (gap.text.toList ++ cs) (t, left) := by
  refine ⟨gap.text.toList ++ text, rest, by rw [← hcs, List.append_assoc], ?_, hleft⟩
  intro read h
  rw [← List.append_assoc]
  exact ht ((hs h).emit gap kind text)

theorem outermost?_takes {r : Reader} {gap : Gap} {cs : List Char} {next : Next}
    (h : r.outermost? gap cs = some next) : Takes r (gap.text.toList ++ cs) next := by
  unfold outermost? at h
  split at h
  · cases h
    exact .of_emit Spells.pop id rfl (by rintro _ ⟨⟩; rfl)
  · split at h
    · cases h
      exact .of_emit (·.swap _) id rfl (by rintro _ ⟨⟩; rfl)
    · split at h
      · cases h
      · cases h
        exact .of_emit (·.swap _) id rfl (by rintro _ ⟨⟩; rfl)
  · split at h
    · cases h
      exact .of_emit id id rfl (by rintro _ ⟨⟩; rfl)
    · cases h
  · cases h

theorem atToken_takes (r : Reader) (gap : Gap) (cs : List Char) :
    Takes r (gap.text.toList ++ cs) (r.atToken gap cs) := by
  unfold atToken
  split
  · rename_i next hnext
    exact outermost?_takes hnext
  split
  · rename_i text d rest hopen
    exact .of_emit id (·.push _) (Delimiter.open?_eq_some hopen) (by rintro _ ⟨⟩; rfl)
  split
  · rename_i text rest hname
    exact .of_emit (·.word text) id (name?_eq_some hname).symm (by rintro _ ⟨⟩; rfl)
  split
  · rename_i text rest hnumeral
    exact .of_emit id id (numeral?_eq_some hnumeral) (by rintro _ ⟨⟩; rfl)
  split
  · rename_i text rest hoperator
    refine .of_emit ?_ id (operator?_eq_some hoperator) (by rintro _ ⟨⟩; rfl)
    intro read h
    split
    · exact h.opening
    · split
      · exact h.closing
      · exact h
  · exact .of_emit id id (List.take_append_drop 1 cs) (by rintro _ ⟨⟩)

theorem inSpec_takes (r : Reader) (cs : List Char) : Takes r cs (r.inSpec cs) := by
  have hcs := List.takeWhile_append_dropWhile (p := isLineEnd) (l := cs)
  unfold inSpec
  dsimp only
  generalize hgap : (⟨String.ofList (cs.takeWhile isLineEnd), [], false, 0⟩ : Gap) = gap
  have htext : gap.text.toList = cs.takeWhile isLineEnd := by
    rw [← hgap]
    exact String.toList_ofList
  rw [← htext] at hcs
  conv => enter [2]; rw [← hcs]
  split
  · rename_i hnil
    rw [hnil]
    exact .of_emit id id rfl (by rintro _ ⟨⟩)
  · rename_i c rest hcons
    rw [hcons]
    split
    · exact .of_emit id (·.push _) rfl (by rintro _ ⟨⟩; rfl)
    · split
      · exact .of_emit Spells.pop id rfl (by rintro _ ⟨⟩; rfl)
      · exact .of_emit id id List.takeWhile_append_dropWhile (by rintro _ ⟨⟩; rfl)

/-- Content spells itself, also where there is none. -/
theorem Spells.content {r : Reader} {read : List Char} (h : r.Spells read) (content : List Char) :
    (if content.isEmpty then r else r.emit .touching .stringText content).Spells
      (read ++ content) := by
  split
  · rename_i hempty
    rw [List.isEmpty_iff.1 hempty, List.append_nil]
    exact h
  · have hemit := h.emit .touching .stringText content
    rwa [show Gap.touching.text.toList = [] from rfl, List.append_nil] at hemit

theorem inContent_takes (r : Reader) (d : Delimiter) (cs : List Char) :
    Takes r cs (r.inContent d cs) := by
  have hcs : (Content.read d [] false 0 cs).1 ++ (Content.read d [] false 0 cs).2.2 = cs :=
    Content.read_append rfl
  have hstop := Content.read_stop d [] false 0 cs
  unfold inContent
  rcases hread : Content.read d [] false 0 cs with ⟨content, stop, rest⟩
  rw [hread] at hcs hstop
  dsimp only at hcs hstop
  have hemit : ∀ (kind : TokenKind) (text : List Char) (s : Reader) {read : List Char},
      s.Spells (read ++ content) →
        (s.emit .touching kind text).Spells (read ++ (content ++ text)) := by
    intro kind text s read h
    have := h.emit .touching kind text
    rwa [show Gap.touching.text.toList = [] from rfl, List.append_nil, List.append_assoc] at this
  cases stop with
  | close =>
      obtain ⟨after, rfl⟩ := hstop
      refine ⟨content ++ d.closing, after, by rw [← hcs, List.append_assoc]; rfl, ?_, ?_⟩
      · intro read h
        exact hemit _ _ _ (h.content content).pop
      · rintro left ⟨⟩
        simp [Content.Stop.text]
  | field =>
      obtain ⟨after, rfl⟩ := hstop
      refine ⟨content ++ ['{'], after, by rw [← hcs, List.append_assoc]; rfl, ?_, ?_⟩
      · intro read h
        exact (hemit _ _ _ (h.content content)).push _
      · rintro left ⟨⟩
        simp [Content.Stop.text]
  | broken =>
      refine ⟨content ++ rest.take 1, rest.drop 1, ?_, ?_, by rintro left ⟨⟩⟩
      · rw [List.append_assoc, List.take_append_drop, hcs]
      · intro read h
        exact hemit _ _ _ (h.content content)

/-- A step takes text from the front and spells it. -/
theorem step_takes (r : Reader) (cs : List Char) : Takes r cs (r.step cs) := by
  unfold step
  split
  · exact inContent_takes r _ cs
  · exact inSpec_takes r cs
  · split
    · rename_i gap hgap
      rw [← gapOf_eq hgap]
      exact .of_emit id id rfl (by rintro _ ⟨⟩)
    · rename_i gap c rest hgap
      rw [← gapOf_eq hgap, ← r.layout_text gap]
      exact atToken_takes r (r.layout gap) (c :: rest)

/-! ## Runs -/

/-- A run takes text from the front and spells it. -/
theorem run_spells (n : Nat) {r : Reader} {read : List Char} (h : r.Spells read)
    (cs : List Char) : ∃ taken rest, cs = taken ++ rest ∧ (run n r cs).Spells (read ++ taken) := by
  induction n generalizing r read cs with
  | zero => exact ⟨[], cs, rfl, by simpa [run] using h⟩
  | succ n ih =>
      obtain ⟨taken, rest, hcs, hspells, hleft⟩ := step_takes r cs
      rcases hstep : r.step cs with ⟨s, left⟩
      rw [hstep] at hspells hleft
      simp only [run, hstep]
      cases left with
      | none => exact ⟨taken, rest, hcs, hspells read h⟩
      | some left =>
          obtain rfl := hleft left rfl
          obtain ⟨more, rest', hrest, hrun⟩ := ih (hspells read h) left
          refine ⟨taken ++ more, rest', by rw [hcs, hrest, List.append_assoc], ?_⟩
          rwa [← List.append_assoc]

end Reader

/-- The tokens of a source spell it from its beginning. -/
theorem tokens_spelled (source : List Char) :
    ∃ taken rest, source = taken ++ rest ∧ Spelled (tokens source).reverse taken := by
  obtain ⟨taken, rest, hsource, hrun⟩ :=
    Reader.run_spells (source.length + 1) Reader.start_spells source
  refine ⟨taken, rest, hsource, ?_⟩
  have closed := (hrun.emit .touching .finish []).found
  rw [show Gap.touching.text.toList = [] from rfl] at closed
  simp only [List.nil_append, List.append_nil] at hrun closed
  unfold tokens Reader.tokens
  dsimp only
  split
  · split
    · rw [List.reverse_reverse]
      exact hrun.found
    · rw [List.reverse_reverse]
      exact closed
  · rw [List.reverse_reverse]
    exact closed

/-- The place of a token: the text before it is the spelling of the tokens before
it and the layout between, and the token stands there as written. -/
theorem token_place {source : List Char} {earlier later : List Token} {t : Token}
    (h : tokens source = earlier ++ t :: later) :
    spelling earlier ++ t.gap.text.toList ++ t.text.toList <+: source ∧
      t.start = Position.origin.behind (spelling earlier ++ t.gap.text.toList) := by
  obtain ⟨taken, rest, hsource, hspelled⟩ := tokens_spelled source
  have hspelling := hspelled.eq_spelling
  rw [List.reverse_reverse, h] at hspelling
  rw [h] at hspelled
  refine ⟨⟨spelling later ++ rest, ?_⟩, ?_⟩
  · rw [hsource, hspelling]
    simp
  · have hfound : (earlier ++ t :: later).reverse = later.reverse ++ t :: earlier.reverse := by
      simp
    have hstart := hspelled.start_eq hfound
    rwa [List.reverse_reverse] at hstart

end TestCensus.Source
