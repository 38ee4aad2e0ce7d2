import TestCensus.Proofs.Source.Spelling
import TestCensus.Proofs.Text.Numeral

/-!
# What tokens a text is read as

A lexeme is a token without its column and its number.  `Gives` says which lexemes a
piece of text is read as outside of literals, in front of a given text and from a given
line on.  Pieces are put together by `Gives.append`, and there is one rule for each kind
of token.

* `Gives.word` for a word, which ends where a character comes that no name goes on with.
* `Gives.operator` for an operator, which has to be the longest one, and `Gives.symbol`
  for those that always are.
* `Gives.numeral` for a number in decimal digits in front of a comma or a bracket.
* `Gives.literal` for a string literal without escapes, which gives three lexemes.

Blanks and line ends stand in front of a token and belong to it (`gapOf_blanks`).
`tokens_of_gives` takes this to whole sources.
-/

namespace TestCensus.Source

open TestCensus.Text

/-! ## Lexemes -/

/-- A token without its column and its number. -/
structure Lexeme where
  /-- What the token is. -/
  kind : TokenKind
  /-- The token as written. -/
  text : String
  /-- The layout before the token. -/
  gap : Gap
  /-- The line of the token, counted from zero. -/
  line : Nat
deriving DecidableEq, Repr

/-- The lexeme of a token. -/
def Token.lexeme (t : Token) : Lexeme := ⟨t.kind, t.text, t.gap, t.start.line⟩

/-- The lexeme of a word. -/
def wordLexeme (gap : Gap) (line : Nat) (text : String) : Lexeme := ⟨.word, text, gap, line⟩

/-- The lexeme of an operator that touches what stands before it. -/
def operatorLexeme (line : Nat) (text : String) : Lexeme := ⟨.operator, text, .touching, line⟩

/-- The lexeme of a number. -/
def numberLexeme (gap : Gap) (line n : Nat) : Lexeme := ⟨.number, toString n, gap, line⟩

/-! ## Blanks -/

/-- One more blank or line feed was read. -/
def Gap.Reading.blank (g : Gap.Reading) (c : Char) : Gap.Reading :=
  if c = '\n' then g.endLine.take c else (g.deepen 1).take c

/-- The layout that consists of blanks and line feeds. -/
def Gap.ofBlanks (blanks : List Char) : Gap := (blanks.foldl Gap.Reading.blank .start).gap

/-- The layout of one blank. -/
def Gap.space : Gap := .ofBlanks [' ']

/-- The characters that may start layout. -/
def layoutStarts : List Char :=
  ['\n', ' ', '\t', '\r', '\x0c', '#', '\x0b', '\ufeff', '\u2060', '\u200b', '\\']

theorem Gap.read_of_not_layout {g : Gap.Reading} (hg : g.comment = none) {c : Char}
    (hc : c ∉ layoutStarts) (rest : List Char) : Gap.read g (c :: rest) = (g, c :: rest) := by
  simp only [layoutStarts, List.mem_cons, List.not_mem_nil, or_false, not_or] at hc
  unfold Gap.read
  simp [hg, hidesLayout, hc]

theorem Gap.read_blanks {g : Gap.Reading} (hg : g.comment = none) {blanks : List Char}
    (hblanks : ∀ b ∈ blanks, b = '\n' ∨ b = ' ') {c : Char} (hc : c ∉ layoutStarts)
    (rest : List Char) :
    Gap.read g (blanks ++ c :: rest) = (blanks.foldl Gap.Reading.blank g, c :: rest) := by
  induction blanks generalizing g with
  | nil => exact Gap.read_of_not_layout hg hc rest
  | cons b blanks ih =>
      have hcomment : (g.blank b).comment = none := by
        unfold Gap.Reading.blank Gap.Reading.endLine Gap.Reading.deepen
        split
        · split <;> exact hg
        · split <;> exact hg
      rw [List.cons_append, List.foldl_cons,
        ← ih hcomment fun x hx => hblanks x (.tail _ hx)]
      rcases hblanks b (.head _) with rfl | rfl
      · rw [Gap.read.eq_def]
        simp [hg, Gap.Reading.blank]
      · rw [Gap.read.eq_def]
        simp [hg, Gap.Reading.blank]

/-- Blanks are layout up to a character that is none. -/
theorem gapOf_blanks {blanks : List Char} (hblanks : ∀ b ∈ blanks, b = '\n' ∨ b = ' ') {c : Char}
    (hc : c ∉ layoutStarts) (rest : List Char) :
    gapOf (blanks ++ c :: rest) = (Gap.ofBlanks blanks, c :: rest) := by
  rw [gapOf, Gap.read_blanks rfl hblanks hc]
  rfl

@[simp] theorem Gap.ofBlanks_text (blanks : List Char) :
    (Gap.ofBlanks blanks).text.toList = blanks := by
  have htaken : ∀ (blanks : List Char) (g : Gap.Reading),
      (blanks.foldl Gap.Reading.blank g).taken = blanks.reverse ++ g.taken := by
    intro blanks
    induction blanks with
    | nil => exact fun _ => rfl
    | cons b blanks ih =>
        intro g
        have hblank : (g.blank b).taken = b :: g.taken := by
          unfold Gap.Reading.blank
          split <;> simp
        rw [List.foldl_cons, ih, hblank, List.reverse_cons, List.append_assoc]
        rfl
  simp [Gap.ofBlanks, Gap.Reading.gap, htaken, Gap.Reading.start]

/-! ## Steps -/

namespace Reader

/-- Reading goes on from a state and a text to others, and each step takes something. -/
inductive Steps : Reader → List Char → Reader → List Char → Prop where
  /-- Nothing is read. -/
  | none (r : Reader) (cs : List Char) : Steps r cs r cs
  /-- One step is taken first. -/
  | more {r s t : Reader} {cs mid rest : List Char} : r.step cs = (s, some mid) →
      mid.length < cs.length → Steps s mid t rest → Steps r cs t rest

theorem Steps.trans {r s t : Reader} {cs mid rest : List Char} (h : Steps r cs s mid)
    (h' : Steps s mid t rest) : Steps r cs t rest := by
  induction h with
  | none _ _ => exact h'
  | more hstep hlt _ ih => exact .more hstep hlt (ih h')

/-- A run with enough rounds takes the steps and has enough rounds left. -/
theorem Steps.run_eq {r s : Reader} {cs rest : List Char} (h : Steps r cs s rest) {n : Nat}
    (hn : cs.length < n) : ∃ m, rest.length < m ∧ run n r cs = run m s rest := by
  induction h generalizing n with
  | none _ _ => exact ⟨n, hn, rfl⟩
  | @more r s t cs mid rest hstep hlt _ ih =>
      obtain ⟨n, rfl⟩ : ∃ k, n = k + 1 := ⟨n - 1, by omega⟩
      obtain ⟨m, hm, hrun⟩ := ih (n := n) (by omega)
      refine ⟨m, hm, ?_⟩
      rw [← hrun]
      simp only [run, hstep]

@[simp] theorem push_place (r : Reader) (f : Frame) : (r.push f).place = r.place := rfl

@[simp] theorem push_found (r : Reader) (f : Frame) : (r.push f).found = r.found := rfl

@[simp] theorem pop_place (r : Reader) : r.pop.place = r.place := rfl

@[simp] theorem pop_found (r : Reader) : r.pop.found = r.found := rfl

theorem emit_line (r : Reader) (gap : Gap) (kind : TokenKind) (text : List Char) :
    (r.emit gap kind text).place.line =
      r.place.line + gap.text.toList.count '\n' + text.count '\n' := by
  show ((r.place.behind gap.text.toList).behind text).line = _
  rw [Position.behind_line, Position.behind_line]

theorem emit_lexemes (r : Reader) (gap : Gap) (kind : TokenKind) (text : List Char) :
    (r.emit gap kind text).found.map Token.lexeme =
      ⟨kind, String.ofList text, gap, r.place.line + gap.text.toList.count '\n'⟩ ::
        r.found.map Token.lexeme := by
  simp only [emit, List.map_cons, Token.lexeme, Position.behind_line]

end Reader

/-! ## Pieces of text -/

/-- Outside of literals and on the line `line`, the text is read as the lexemes if `rest`
stands behind it, and `line'` is the line behind it. -/
def Gives (line : Nat) (text rest : List Char) (ls : List Lexeme) (line' : Nat) : Prop :=
  ∀ r : Reader, r.frames = [] → r.place.line = line →
    ∃ s : Reader, r.Steps (text ++ rest) s rest ∧ s.frames = [] ∧ s.place.line = line' ∧
      s.found.map Token.lexeme = ls.reverse ++ r.found.map Token.lexeme

variable {line line' line'' : Nat} {blanks text text' rest : List Char} {ls ls' : List Lexeme}

theorem Gives.nil : Gives line [] rest [] line := fun r hr hline =>
  ⟨r, .none r rest, hr, hline, rfl⟩

theorem Gives.append (h : Gives line text (text' ++ rest) ls line')
    (h' : Gives line' text' rest ls' line'') :
    Gives line (text ++ text') rest (ls ++ ls') line'' := by
  intro r hr hline
  obtain ⟨s, hsteps, hs, hline', hfound⟩ := h r hr hline
  obtain ⟨t, hsteps', ht, hline'', hfound'⟩ := h' s hs hline'
  refine ⟨t, ?_, ht, hline'', ?_⟩
  · rw [List.append_assoc]
    exact hsteps.trans hsteps'
  · rw [hfound', hfound, List.reverse_append, List.append_assoc]

/-- The first token is put before the others. -/
theorem Gives.cons {l : Lexeme} (h : Gives line text (text' ++ rest) [l] line')
    (h' : Gives line' text' rest ls line'') : Gives line (text ++ text') rest (l :: ls) line'' :=
  h.append h'

/-- A text that is read as one token. -/
theorem Gives.token {kind : TokenKind} {c : Char} (hblanks : ∀ b ∈ blanks, b = '\n' ∨ b = ' ')
    (hc : c ∉ layoutStarts) (hline : '\n' ∉ c :: text)
    (hat : ∀ (r : Reader) (gap : Gap), r.frames = [] →
      r.atToken gap (c :: text ++ rest) = (r.emit gap kind (c :: text), some rest)) :
    Gives line (blanks ++ c :: text) rest
      [⟨kind, String.ofList (c :: text), .ofBlanks blanks, line + blanks.count '\n'⟩]
      (line + blanks.count '\n') := by
  intro r hr hrline
  have hstep : r.step (blanks ++ c :: text ++ rest) =
      (r.emit (.ofBlanks blanks) kind (c :: text), some rest) := by
    unfold Reader.step
    rw [hr, List.append_assoc, List.cons_append, gapOf_blanks hblanks hc]
    dsimp only
    rw [Reader.layout_of_open hr]
    exact hat r _ hr
  refine ⟨_, .more hstep (by simp; omega) (.none _ _), hr, ?_, ?_⟩
  · rw [Reader.emit_line, Gap.ofBlanks_text, hrline, List.count_eq_zero.2 hline, Nat.add_zero]
  · rw [Reader.emit_lexemes, Gap.ofBlanks_text, hrline]
    rfl

/-! ## Tokens -/

namespace Reader

variable {r : Reader} {gap : Gap} {cs : List Char}

theorem outermost?_of_open (hr : r.frames = []) : r.outermost? gap cs = none := by
  unfold outermost?
  rw [hr]

theorem word_of_open (hr : r.frames = []) : r.word text = r := by
  unfold Reader.word
  rw [hr]

theorem counted_of_open (hr : r.frames = []) : r.opening = r ∧ r.closing = r := by
  unfold opening closing
  rw [hr]
  exact ⟨rfl, rfl⟩

end Reader

/-- The characters that may start a literal. -/
def literalStarts : List Char := ['"', '\'', '`'] ++ Delimiter.mannerLetters

theorem open?_eq_none {c : Char} (hc : c ∉ literalStarts) (cs : List Char) :
    Delimiter.open? (c :: cs) = none := by
  simp only [literalStarts, List.mem_append, List.mem_cons, List.not_mem_nil, or_false,
    not_or] at hc
  have hdrop : (c :: cs).dropWhile (Delimiter.mannerLetters.contains ·) = c :: cs :=
    List.dropWhile_cons_of_neg (by simpa using hc.2)
  unfold Delimiter.open?
  dsimp only
  rw [hdrop]
  simp [hc.1]

/-- A word that no literal and no layout starts like. -/
structure IsWord (c : Char) (cs : List Char) : Prop where
  /-- The word starts like a name. -/
  starts : startsName c = true
  /-- The word goes on like a name. -/
  continues : ∀ d ∈ cs, continuesName d = true
  /-- A literal or layout does not start so. -/
  plain : c ∉ literalStarts ++ layoutStarts

instance (c : Char) (cs : List Char) : Decidable (IsWord c cs) :=
  decidable_of_iff ((startsName c && cs.all continuesName &&
      !(literalStarts ++ layoutStarts).contains c) = true) <| by
    rw [Bool.and_eq_true, Bool.and_eq_true, List.all_eq_true, Bool.not_eq_true',
      ← Bool.not_eq_true, List.contains_iff_mem]
    exact ⟨fun h => ⟨h.1.1, h.1.2, h.2⟩, fun h => ⟨⟨h.starts, h.continues⟩, h.plain⟩⟩

theorem name?_append {c : Char} {cs : List Char} (h : IsWord c cs)
    (hrest : ∀ d ∈ rest.head?, continuesName d = false) :
    name? (c :: cs ++ rest) = some (c :: cs, rest) := by
  have hstop : rest.takeWhile continuesName = [] ∧ rest.dropWhile continuesName = rest := by
    cases rest with
    | nil => exact ⟨rfl, rfl⟩
    | cons d rest =>
        have hd := hrest d rfl
        exact ⟨List.takeWhile_cons_of_neg (by simp [hd]), List.dropWhile_cons_of_neg (by simp [hd])⟩
  rw [List.cons_append, name?, if_pos h.starts, List.takeWhile_append_of_pos h.continues,
    List.dropWhile_append_of_pos h.continues, hstop.1, hstop.2, List.append_nil]

theorem Gives.word {c : Char} {cs : List Char} (hblanks : ∀ b ∈ blanks, b = '\n' ∨ b = ' ')
    (h : IsWord c cs) (hrest : ∀ d ∈ rest.head?, continuesName d = false) :
    Gives line (blanks ++ c :: cs) rest
      [wordLexeme (.ofBlanks blanks) (line + blanks.count '\n') (String.ofList (c :: cs))]
      (line + blanks.count '\n') := by
  have hplain := h.plain
  rw [List.mem_append, not_or] at hplain
  refine .token hblanks hplain.2 (fun hmem => ?_) fun r gap hr => ?_
  · have hfeed : continuesName '\n' = true := by
      rcases List.mem_cons.1 hmem with hc | hmem
      · exact hc ▸ continuesName_of_startsName h.starts
      · exact h.continues _ hmem
    exact absurd hfeed (by decide)
  · unfold Reader.atToken
    rw [Reader.outermost?_of_open hr, List.cons_append, open?_eq_none hplain.1, ← List.cons_append,
      name?_append h hrest]
    dsimp only
    rw [Reader.word_of_open hr]

theorem Gives.touchingWord {c : Char} {cs : List Char} (h : IsWord c cs)
    (hrest : ∀ d ∈ rest.head?, continuesName d = false) :
    Gives line (c :: cs) rest [wordLexeme .touching line (String.ofList (c :: cs))] line :=
  .word (List.forall_mem_nil _) h hrest

/-- An operator is read where nothing else starts so. -/
theorem Gives.operator {c : Char} {cs : List Char} (hblanks : ∀ b ∈ blanks, b = '\n' ∨ b = ' ')
    (hc : c ∉ literalStarts ++ layoutStarts) (hline : '\n' ∉ c :: cs)
    (hname : name? (c :: cs ++ rest) = none) (hnumeral : numeral? (c :: cs ++ rest) = none)
    (h : operator? (c :: cs ++ rest) = some (c :: cs, rest)) :
    Gives line (blanks ++ c :: cs) rest
      [⟨.operator, String.ofList (c :: cs), .ofBlanks blanks, line + blanks.count '\n'⟩]
      (line + blanks.count '\n') := by
  rw [List.mem_append, not_or] at hc
  refine .token hblanks hc.2 hline fun r gap hr => ?_
  unfold Reader.atToken
  rw [Reader.outermost?_of_open hr, List.cons_append, open?_eq_none hc.1, ← List.cons_append, hname,
    hnumeral, h]
  obtain ⟨hopening, hclosing⟩ := Reader.counted_of_open hr
  simp only [hopening, hclosing, ite_self]

/-- The operators of one character that no longer operator starts with. -/
def symbols : List Char := [',', '(', ')', '[', ']']

theorem Gives.symbol (hblanks : ∀ b ∈ blanks, b = '\n' ∨ b = ' ') {c : Char} (hc : c ∈ symbols) :
    Gives line (blanks ++ [c]) rest
      [⟨.operator, String.ofList [c], .ofBlanks blanks, line + blanks.count '\n'⟩]
      (line + blanks.count '\n') := by
  simp only [symbols, List.mem_cons, List.not_mem_nil, or_false] at hc
  rcases hc with rfl | rfl | rfl | rfl | rfl
  all_goals exact .operator hblanks (by decide) (by decide) rfl rfl rfl

theorem Gives.touchingSymbol {c : Char} (hc : c ∈ symbols) :
    Gives line [c] rest [operatorLexeme line (String.ofList [c])] line :=
  .symbol (List.forall_mem_nil _) hc

/-! ## Numerals -/

theorem decimalDigits_append {ds : List Char} (hds : ∀ d ∈ ds, d.isDigit = true) (inside : Bool)
    {c : Char} (hc : c.isDigit = false) (hc' : c ≠ '_') (rest : List Char) :
    decimalDigits inside (ds ++ c :: rest) = (ds, c :: rest) := by
  induction ds generalizing inside with
  | nil => simp [decimalDigits, hc, hc']
  | cons d ds ih =>
      have hd := hds d (.head _)
      simp [decimalDigits, hd, ih fun x hx => hds x (.tail _ hx)]

/-- No base is given, so there are no digits. -/
theorem markedDigits_zero (cs : List Char) : markedDigits 0 cs = ([], cs) := by
  have hdigit : ∀ c, isDigitOf 0 c = false := by
    intro c
    unfold isDigitOf
    split <;> rfl
  fun_cases markedDigits 0 cs with
  | case1 => rfl
  | case2 c rest hc => rw [hdigit] at hc; cases hc
  | case3 c rest hc => rfl
  | case4 c rest hne hc => rw [hdigit] at hc; cases hc
  | case5 c rest hne hc => rfl

/-- A comma or a bracket ends a numeral. -/
theorem numeral?_append {n : Nat} {ds : List Char} (h : IsNumeral n ds) {c : Char}
    (hc : c = ',' ∨ c = ']') (rest : List Char) :
    numeral? (ds ++ c :: rest) = some (ds, c :: rest) := by
  obtain ⟨d, ds', rfl, hzero⟩ := h.leading
  have hdecimal : decimalNumeral (d :: ds' ++ c :: rest) = (d :: ds', c :: rest) := by
    have hwhole : decimalDigits false (d :: ds' ++ c :: rest) = (d :: ds', c :: rest) :=
      decimalDigits_append h.decimal false (by rcases hc with rfl | rfl <;> rfl)
        (by rcases hc with rfl | rfl <;> decide) rest
    have hpoint : letterOf ['.'] (c :: rest) = ([], c :: rest) := by
      rcases hc with rfl | rfl <;> rfl
    have hmark : letterOf ['L', 'l', 'J', 'j'] (c :: rest) = ([], c :: rest) := by
      rcases hc with rfl | rfl <;> rfl
    have hexponent : exponent (c :: rest) = ([], c :: rest) := by
      rcases hc with rfl | rfl <;> rfl
    unfold decimalNumeral
    simp only [hwhole, hpoint, hexponent, hmark]
    simp
  have hmarked : markedNumeral? (d :: ds' ++ c :: rest) = none := by
    by_cases hd : d = '0'
    · obtain rfl := hzero hd
      subst hd
      rcases hc with rfl | rfl <;> simp [markedNumeral?, markedDigits_zero]
    · unfold markedNumeral?
      split
      · rename_i heq
        exact absurd (List.cons.inj heq).1 hd
      · rfl
  rw [numeral?, hmarked]
  simp only [hdecimal]
  rfl

theorem not_startsName_of_isDigit {d : Char} (hd : d.isDigit = true) : startsName d = false := by
  have hnot : d ≠ '_' := ne_of_isDigit hd rfl
  simp only [Char.isDigit, Bool.and_eq_true, decide_eq_true_eq, ge_iff_le,
    UInt32.le_iff_toNat_le] at hd
  have hlow : 48 ≤ d.val.toNat := hd.1
  have hhigh : d.val.toNat ≤ 57 := hd.2
  have hascii : d.toNat < 0x80 := Nat.lt_of_le_of_lt hhigh (by decide)
  rw [startsName, if_pos hascii]
  delta Char.isAlpha Char.isUpper Char.isLower
  simp only [Bool.or_eq_false_iff, Bool.and_eq_false_iff, decide_eq_false_iff_not, ge_iff_le,
    UInt32.le_iff_toNat_le, beq_eq_false_iff_ne]
  have hupper : 57 < 'A'.val.toNat := by decide
  have hlower : 57 < 'a'.val.toNat := by decide
  exact ⟨⟨fun h => by omega, .inl (by omega)⟩, hnot⟩

/-- A number is read in front of a comma or a bracket. -/
theorem Gives.numeral (hblanks : ∀ b ∈ blanks, b = '\n' ∨ b = ' ') (n : Nat) {c : Char}
    (hc : c = ',' ∨ c = ']') :
    Gives line (blanks ++ (toString n).toList) (c :: rest)
      [numberLexeme (.ofBlanks blanks) (line + blanks.count '\n') n]
      (line + blanks.count '\n') := by
  have hnumeral := isNumeral_toString n
  obtain ⟨d, ds, hcons, -⟩ := hnumeral.leading
  have hd : d.isDigit = true := hnumeral.decimal d (by rw [hcons]; exact .head _)
  have hplain : (literalStarts ++ layoutStarts).all (!·.isDigit) = true := by decide
  have hnot : ∀ x ∈ literalStarts ++ layoutStarts, d ≠ x := fun x hx =>
    ne_of_isDigit hd (by simpa using List.all_eq_true.1 hplain x hx)
  have htext : toString n = String.ofList (d :: ds) := by
    rw [← hcons, String.ofList_toList]
  rw [numberLexeme, hcons, htext]
  rw [hcons] at hnumeral
  refine .token hblanks (fun h => hnot d (List.mem_append_right _ h) rfl)
    (fun h => ne_of_isDigit (hnumeral.decimal _ h) rfl rfl) fun r gap hr => ?_
  have hname : name? (d :: ds ++ c :: rest) = none :=
    if_neg (by simp [not_startsName_of_isDigit hd])
  unfold Reader.atToken
  rw [Reader.outermost?_of_open hr, List.cons_append,
    open?_eq_none fun h => hnot d (List.mem_append_left _ h) rfl, ← List.cons_append, hname,
    numeral?_append hnumeral hc]

/-! ## Literals -/

/-- The characters that are content of any literal and nothing else. -/
def IsPlainContent (cs : List Char) : Prop := ∀ c ∈ cs, c ∉ ['"', '\\', '\n', '\x00']

/-- A literal between double quotes without letters before it. -/
def Delimiter.plain : Delimiter := ⟨'"', false, false, false, false⟩

theorem Content.read_plain {body : List Char} (h : IsPlainContent body) (taken : List Char)
    (filled : Bool) (rest : List Char) :
    Content.read .plain taken filled 0 (body ++ '"' :: rest) =
      (taken.reverse ++ body, .close, '"' :: rest) := by
  induction body generalizing taken filled with
  | nil => simp [Content.read, Delimiter.plain]
  | cons c body ih =>
      have hc := h c (.head _)
      simp only [List.mem_cons, List.not_mem_nil, or_false, not_or] at hc
      have hread := ih (fun x hx => h x (.tail _ hx)) (c :: taken) true
      rw [List.reverse_cons, List.append_assoc] at hread
      rw [List.cons_append, Content.read.eq_def]
      simpa [Delimiter.plain, hc] using hread

/-- The lexemes of a literal between double quotes. -/
def literalLexemes (line : Nat) (body : String) : List Lexeme :=
  [⟨.stringOpen, "\"", .touching, line⟩, ⟨.stringText, body, .touching, line⟩,
    ⟨.stringClose, "\"", .touching, line⟩]

/-- A literal without escapes is read as three tokens. -/
theorem Gives.literal {body : List Char} (h : IsPlainContent body) (hne : body ≠ []) :
    Gives line ('"' :: body ++ ['"']) rest (literalLexemes line (String.ofList body)) line := by
  intro r hr hline
  have hopen : Delimiter.open? ('"' :: (body ++ '"' :: rest)) =
      some (['"'], .plain, body ++ '"' :: rest) := by
    obtain ⟨c, body, rfl⟩ := List.exists_cons_of_ne_nil hne
    have hc := h c (.head _)
    simp only [List.mem_cons, List.not_mem_nil, or_false, not_or] at hc
    cases body <;> simp [Delimiter.open?, Delimiter.mannerLetters, Delimiter.plain, hc]
  have hopening : r.step ('"' :: body ++ ['"'] ++ rest) =
      ((r.emit .touching .stringOpen ['"']).push (.content .plain),
        some (body ++ '"' :: rest)) := by
    have hgap : gapOf ('"' :: (body ++ '"' :: rest)) = (.touching, '"' :: (body ++ '"' :: rest)) :=
      gapOf_blanks (List.forall_mem_nil _) (by decide) _
    rw [List.append_assoc, List.cons_append, List.singleton_append]
    unfold Reader.step
    rw [hr, hgap]
    dsimp only
    rw [Reader.layout_of_open hr]
    unfold Reader.atToken
    rw [Reader.outermost?_of_open hr, hopen]
  have hclosing : ((r.emit .touching .stringOpen ['"']).push (.content .plain)).step
      (body ++ '"' :: rest) =
      ((((r.emit .touching .stringOpen ['"']).push (.content .plain)).emit .touching .stringText
        body).pop.emit .touching .stringClose ['"'], some rest) := by
    show Reader.inContent _ .plain (body ++ '"' :: rest) = _
    have hbody : body.isEmpty = false := by simpa using hne
    unfold Reader.inContent
    rw [Content.read_plain h]
    simp only [List.reverse_nil, List.nil_append, hbody]
    rfl
  have hfeed : '\n' ∉ body := fun hmem => by simpa using h _ hmem
  refine ⟨_, .more hopening (by simp) (.more hclosing (by simp; omega) (.none _ _)), hr, ?_, ?_⟩
  · simp [Reader.emit_line, Gap.touching, hline, List.count_eq_zero.2 hfeed]
  · simp [Reader.emit_lexemes, Reader.emit_line, literalLexemes, Gap.touching, hline,
      List.count_eq_zero.2 hfeed]

/-! ## Sources -/

/-- The tokens of a source that is read piece by piece, with layout at the end. -/
theorem tokens_of_gives {gap : Gap} (h : Gives 0 text rest ls line)
    (hrest : gapOf rest = (gap, [])) :
    (tokens (text ++ rest)).map Token.lexeme =
      ls ++ [⟨.finish, "", gap, line + gap.text.toList.count '\n'⟩] := by
  obtain ⟨s, hsteps, hs, hline, hfound⟩ := h .start rfl rfl
  obtain ⟨m, hm, hrun⟩ := hsteps.run_eq (Nat.lt_succ_self _)
  obtain ⟨m, rfl⟩ : ∃ k, m = k + 1 := ⟨m - 1, by omega⟩
  have hstep : s.step rest = (s.emit gap .finish [], none) := by
    unfold Reader.step
    rw [hs, hrest]
  have hlast : Reader.run (m + 1) s rest = s.emit gap .finish [] := by
    simp only [Reader.run, hstep]
  have hlexemes := s.emit_lexemes gap .finish []
  rw [hfound, hline] at hlexemes
  unfold tokens
  dsimp only
  rw [hrun, hlast]
  show (s.emit gap .finish []).found.reverse.map Token.lexeme = _
  rw [List.map_reverse, hlexemes]
  simp [Reader.start]

end TestCensus.Source
