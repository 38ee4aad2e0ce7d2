import TestCensus.Toml.Printer

/-!
# Written texts are read back

`quotedText` reads what `writtenText` writes, whatever characters are in the text
(`quotedText_writtenText`).  There are two arguments, one for each kind of quote.

* Between double quotes a character stands for itself or is escaped (`WrittenAs`), and
  each way of writing it has one equation of the reader.
* Between single quotes every character stands for itself.  These forms are only chosen
  for texts whose runs of single quotes are short enough (`longestRun`).

In the long forms the closing quotes could begin too early.  A run of quotes that
stand for themselves has two of them at most.  Three in a row are then the closing
ones, and what belongs to the text is behind them (`furtherQuotes`).
-/

namespace TestCensus.Toml

/-! ## Characters between double quotes -/

/-- The digits of a control character are read back. -/
theorem codePoint?_fourHexDigits {c : Char} (h : isControl c = true) :
    codePoint? (fourHexDigits c.toNat) = some c := by
  have hsmall : ∀ n < 128, codePoint? (fourHexDigits n) = some (Char.ofNat n) := by decide +kernel
  have hlt : c.toNat < 128 := by
    simp only [isControl, Bool.or_eq_true, Bool.and_eq_true, decide_eq_true_eq] at h
    omega
  rw [hsmall _ hlt, Char.ofNat_toNat]

/-- A character that means nothing but itself between double quotes. -/
structure IsBare (c : Char) : Prop where
  /-- It may stand in a text. -/
  plain : isPlain c = true
  /-- It closes no text. -/
  ne_quote : c ≠ '"'
  /-- It begins no escape. -/
  ne_backslash : c ≠ '\\'

/-- The ways to write a character between double quotes, with `quotes` of them directly
before it. -/
inductive WrittenAs (isLong : Bool) (quotes : Nat) : Char → List Char → Prop where
  /-- A quote stands for itself if there are few of them. -/
  | quote (hlong : isLong = true) (hquotes : quotes < 2) : WrittenAs isLong quotes '"' ['"']
  /-- A line end stands for itself in the long form. -/
  | lineEnd (hlong : isLong = true) : WrittenAs isLong quotes '\n' ['\n']
  /-- A character with a letter of its own. -/
  | letter {c x : Char} (h : escaped? x = some c) : WrittenAs isLong quotes c ['\\', x]
  /-- Any other control character. -/
  | digits {c : Char} (h : isControl c = true) :
      WrittenAs isLong quotes c ('\\' :: 'u' :: fourHexDigits c.toNat)
  /-- Any other character. -/
  | bare {c : Char} (h : IsBare c) : WrittenAs isLong quotes c [c]

theorem isPlain_of_not_isControl {c : Char} (h : isControl c = false) (hline : c ≠ '\n') :
    isPlain c = true := by
  simp only [isControl, Bool.or_eq_false_iff, Bool.and_eq_false_iff, decide_eq_false_iff_not,
    ne_eq] at h
  simp only [isPlain, Bool.or_eq_true, Bool.and_eq_true, decide_eq_true_eq]
  grind

theorem writtenAs_writtenChar (isLong : Bool) (quotes : Nat) (c : Char) :
    WrittenAs isLong quotes c (writtenChar isLong quotes c) := by
  unfold writtenChar
  split
  next h =>
    subst h
    split
    next hraw =>
      rw [Bool.and_eq_true, decide_eq_true_eq] at hraw
      exact .quote hraw.1 hraw.2
    next => exact .letter rfl
  next hquote =>
  split
  next h => subst h; exact .letter rfl
  next hbackslash =>
  split
  next h => subst h; exact .letter rfl
  next =>
  split
  next h => subst h; exact .letter rfl
  next =>
  split
  next h =>
    subst h
    split
    next hlong => exact .lineEnd hlong
    next => exact .letter rfl
  next hline =>
  split
  next h => subst h; exact .letter rfl
  next =>
  split
  next h => subst h; exact .letter rfl
  next =>
  split
  next hcontrol => exact .digits hcontrol
  next hcontrol =>
    have hplain := isPlain_of_not_isControl (Bool.not_eq_true _ ▸ hcontrol) hline
    exact .bare ⟨hplain, hquote, hbackslash⟩

/-! ## The short forms -/

theorem basicText_digits {c : Char} (h : isControl c = true) (rest : List Char) :
    basicText ('\\' :: 'u' :: fourHexDigits c.toNat ++ rest) = prepend c (basicText rest) := by
  have hread := codePoint?_fourHexDigits h
  simp only [fourHexDigits, List.map_cons, List.map_nil] at hread
  simp only [fourHexDigits, List.map_cons, List.map_nil, List.cons_append, List.nil_append]
  rw [basicText, hread]
  rfl

theorem basicText_bare {c : Char} (h : IsBare c) (rest : List Char) :
    basicText (c :: rest) = prepend c (basicText rest) := by
  have hquote := h.ne_quote
  have hbackslash := h.ne_backslash
  rw [basicText, h.plain]
  · simp [hbackslash]
  all_goals simp_all

/-- A basic text is read back. -/
theorem basicText_writtenBody (quotes : Nat) (cs rest : List Char) :
    basicText (writtenBody false quotes cs ++ '"' :: rest) = some (cs, rest) := by
  induction cs generalizing quotes with
  | nil => rfl
  | cons c cs ih =>
      have hspell := writtenAs_writtenChar false quotes c
      rw [writtenBody, List.append_assoc]
      generalize writtenChar false quotes c = spelling at hspell
      cases hspell with
      | quote hlong => cases hlong
      | lineEnd hlong => cases hlong
      | letter h => rw [List.cons_append, List.cons_append, List.nil_append, basicText_letter h,
          ih, prepend_some]
      | digits h => rw [basicText_digits h, ih, prepend_some]
      | bare h => rw [List.cons_append, List.nil_append, basicText_bare h, ih, prepend_some]

/-- A literal text is read back. -/
theorem literalText_append {cs : List Char} (hplain : ∀ c ∈ cs, isPlain c = true)
    (hquote : '\'' ∉ cs) (rest : List Char) :
    literalText (cs ++ '\'' :: rest) = some (cs, rest) := by
  induction cs with
  | nil => rfl
  | cons c cs ih =>
      rw [List.forall_mem_cons] at hplain
      rw [List.mem_cons, not_or] at hquote
      rw [List.cons_append, literalText, if_pos hplain.1, ih hplain.2 hquote.2, prepend_some]
      exact fun h => hquote.1 h.symm

/-! ## The long forms -/

theorem longBasicText_digits {c : Char} (h : isControl c = true) (rest : List Char) :
    longBasicText false ('\\' :: 'u' :: fourHexDigits c.toNat ++ rest) =
      prepend c (longBasicText false rest) := by
  have hread := codePoint?_fourHexDigits h
  simp only [fourHexDigits, List.map_cons, List.map_nil] at hread
  simp only [fourHexDigits, List.map_cons, List.map_nil, List.cons_append, List.nil_append]
  rw [longBasicText, hread]
  rfl

/-- Two quotes at most belong to the text behind the closing ones. -/
theorem furtherQuotes_replicate {quote x : Char} (h : x ≠ quote) {n : Nat} (hn : n ≤ 2)
    (rest : List Char) :
    furtherQuotes quote (List.replicate n quote ++ x :: rest) =
      (List.replicate n quote, x :: rest) := by
  match n with
  | 0 => cases rest <;> simp [furtherQuotes, h]
  | 1 => simp [furtherQuotes, h]
  | 2 => simp [furtherQuotes]
  | n + 3 => omega

/-- Quotes of a kind are written in one order. -/
theorem replicate_append_triple (quote : Char) (n : Nat) (rest : List Char) :
    List.replicate n quote ++ quote :: quote :: quote :: rest =
      quote :: quote :: quote :: (List.replicate n quote ++ rest) := by
  induction n with
  | zero => rfl
  | succ n ih => rw [List.replicate_succ, List.cons_append, List.cons_append, ih]

theorem longBasicText_closing {x : Char} (h : x ≠ '"') {n : Nat} (hn : n ≤ 2)
    (rest : List Char) :
    longBasicText false (List.replicate n '"' ++ '"' :: '"' :: '"' :: x :: rest) =
      some (List.replicate n '"', x :: rest) := by
  rw [replicate_append_triple, longBasicText, furtherQuotes_replicate h hn]

theorem longLiteralText_closing {x : Char} (h : x ≠ '\'') {n : Nat} (hn : n ≤ 2)
    (rest : List Char) :
    longLiteralText (List.replicate n '\'' ++ '\'' :: '\'' :: '\'' :: x :: rest) =
      some (List.replicate n '\'', x :: rest) := by
  rw [replicate_append_triple, longLiteralText, furtherQuotes_replicate h hn]

/-- A character that is no quote, or a quote that has to be escaped, begins no run of
quotes. -/
theorem exists_writtenBody_cons {isLong : Bool} {quotes : Nat} {c : Char}
    (h : isLong = true → quotes < 2 → c ≠ '"') (cs : List Char) :
    ∃ x tail, x ≠ '"' ∧ writtenBody isLong quotes (c :: cs) = x :: tail := by
  have hspell := writtenAs_writtenChar isLong quotes c
  rw [writtenBody]
  generalize writtenChar isLong quotes c = spelling at hspell
  cases hspell with
  | quote hlong hquotes => exact absurd rfl (h hlong hquotes)
  | lineEnd => exact ⟨_, _, by decide, rfl⟩
  | letter => exact ⟨_, _, by decide, rfl⟩
  | digits => exact ⟨_, _, by decide, rfl⟩
  | bare hbare => exact ⟨_, _, hbare.ne_quote, rfl⟩

/-- What is written after a quote that stands for itself begins with two quotes only if
the text is at its end. -/
theorem writtenBody_after_quote {quotes : Nat} (hquotes : quotes < 2) {cs rest rest' : List Char}
    (h : writtenBody true (quotes + 1) cs ++ '"' :: '"' :: '"' :: rest = '"' :: '"' :: rest') :
    ∃ n < 2, cs = List.replicate n '"' ∧ writtenBody true (quotes + 1) cs = cs := by
  match cs with
  | [] => exact ⟨0, by decide, rfl, rfl⟩
  | c :: cs =>
      by_cases hc : quotes + 1 < 2 → c ≠ '"'
      · obtain ⟨x, tail, hx, htail⟩ := exists_writtenBody_cons (fun _ => hc) cs
        rw [htail] at h
        exact absurd (List.cons.inj h).1 hx
      · -- A second quote stands for itself too.  A third one would be escaped.
        obtain ⟨hfew, rfl⟩ : quotes + 1 < 2 ∧ c = '"' := by simpa using hc
        obtain rfl : quotes = 0 := by omega
        match cs with
        | [] => exact ⟨1, by decide, rfl, rfl⟩
        | c :: cs =>
            obtain ⟨x, tail, hx, htail⟩ :=
              exists_writtenBody_cons (c := c) (fun _ h => absurd h (Nat.lt_irrefl 2)) cs
            have hbody : writtenBody true 1 ('"' :: c :: cs) = '"' :: x :: tail :=
              congrArg (List.cons '"') htail
            rw [hbody] at h
            exact absurd (List.cons.inj (List.cons.inj h).2).1 hx

theorem quotesAfter_le (isLong : Bool) (quotes : Nat) (c : Char) :
    quotesAfter isLong quotes c ≤ 2 := by
  unfold quotesAfter
  split
  next h =>
    rw [Bool.and_eq_true, decide_eq_true_eq] at h
    exact h.2
  next => exact Nat.zero_le 2

/-- A long basic text is read back. -/
theorem longBasicText_writtenBody {x : Char} (h : x ≠ '"') {quotes : Nat} (hquotes : quotes ≤ 2)
    (cs rest : List Char) :
    longBasicText false (writtenBody true quotes cs ++ '"' :: '"' :: '"' :: x :: rest) =
      some (cs, x :: rest) := by
  induction cs generalizing quotes with
  | nil => exact longBasicText_closing h (Nat.zero_le 2) rest
  | cons c cs ih =>
      have hread := ih (quotesAfter_le true quotes c)
      have hspell := writtenAs_writtenChar true quotes c
      rw [writtenBody, List.append_assoc]
      generalize writtenChar true quotes c = spelling at hspell
      cases hspell with
      | quote hlong hfew =>
          have hafter : quotesAfter true quotes '"' = quotes + 1 := by simp [quotesAfter, hfew]
          rw [hafter] at hread ⊢
          -- Three quotes from here on are the closing ones with the last quotes of the
          -- text before them, which the reader gives back to the text.
          by_cases hclosing : ∃ rest', writtenBody true (quotes + 1) cs ++
              '"' :: '"' :: '"' :: x :: rest = '"' :: '"' :: rest'
          · obtain ⟨rest', hrest'⟩ := hclosing
            obtain ⟨n, hn, hcs, hself⟩ := writtenBody_after_quote hfew hrest'
            rw [hself, hcs]
            exact longBasicText_closing h (n := n + 1) hn rest
          · rw [List.cons_append, List.nil_append,
              longBasicText_self (.inl ⟨rfl, by decide⟩)
                (fun _ rest' hrest' => hclosing ⟨rest', hrest'⟩), hread, prepend_some]
      | lineEnd =>
          rw [List.cons_append, List.nil_append, longBasicText_self (.inr rfl) nofun, hread,
            prepend_some]
      | letter hletter =>
          rw [List.cons_append, List.cons_append, List.nil_append, longBasicText_letter hletter,
            hread, prepend_some]
      | digits hdigits => rw [longBasicText_digits hdigits, hread, prepend_some]
      | bare hbare =>
          rw [List.cons_append, List.nil_append,
            longBasicText_self (.inl ⟨hbare.plain, hbare.ne_backslash⟩)
              (fun hc => absurd hc hbare.ne_quote), hread, prepend_some]

theorem le_longestRun (c : Char) (run : Nat) (cs : List Char) : run ≤ longestRun c run cs := by
  induction cs generalizing run with
  | nil => exact Nat.le_refl run
  | cons x cs ih =>
      rw [longestRun]
      split
      · exact Nat.le_trans (Nat.le_succ run) (ih (run + 1))
      · exact Nat.le_max_left _ _

theorem longestRun_mono (c : Char) {run run' : Nat} (h : run ≤ run') (cs : List Char) :
    longestRun c run cs ≤ longestRun c run' cs := by
  induction cs generalizing run run' with
  | nil => exact h
  | cons x cs ih =>
      rw [longestRun, longestRun]
      split
      · exact ih (Nat.succ_le_succ h)
      · omega

theorem longestRun_tail_le (c x : Char) (cs : List Char) :
    longestRun c 0 cs ≤ longestRun c 0 (x :: cs) := by
  rw [longestRun]
  split
  · exact longestRun_mono c (Nat.zero_le 1) cs
  · exact Nat.le_max_right _ _

theorem longestRun_pos_of_mem {c : Char} {cs : List Char} (h : c ∈ cs) :
    0 < longestRun c 0 cs := by
  induction h with
  | head cs =>
      rw [longestRun, if_pos rfl]
      exact le_longestRun c 1 cs
  | tail x _ ih => exact Nat.lt_of_lt_of_le ih (longestRun_tail_le c x _)

/-- A long literal text is read back. -/
theorem longLiteralText_append {x : Char} (h : x ≠ '\'') {cs : List Char}
    (hself : ∀ c ∈ cs, isPlain c = true ∨ c = '\n') (hrun : longestRun '\'' 0 cs ≤ 2)
    (rest : List Char) :
    longLiteralText (cs ++ '\'' :: '\'' :: '\'' :: x :: rest) = some (cs, x :: rest) := by
  induction cs with
  | nil => exact longLiteralText_closing h (Nat.zero_le 2) rest
  | cons c cs ih =>
      rw [List.forall_mem_cons] at hself
      have hread := ih hself.2 (Nat.le_trans (longestRun_tail_le _ c cs) hrun)
      by_cases hclosing : c = '\'' ∧ ∃ rest', cs ++ '\'' :: '\'' :: '\'' :: x :: rest =
          '\'' :: '\'' :: rest'
      · obtain ⟨rfl, rest', hrest'⟩ := hclosing
        match cs with
        | [] => exact longLiteralText_closing h (n := 1) (by decide) rest
        | [d] =>
            obtain rfl : d = '\'' := (List.cons.inj hrest').1
            exact longLiteralText_closing h (n := 2) (by decide) rest
        | d :: e :: cs =>
            -- Three quotes in the text are more than its form may hold.
            obtain ⟨rfl, htail⟩ := List.cons.inj hrest'
            obtain rfl : e = '\'' := (List.cons.inj htail).1
            exact absurd (Nat.le_trans (le_longestRun '\'' 3 cs) hrun) (by decide)
      · rw [List.cons_append, longLiteralText_self hself.1
          (fun hc rest' hrest' => hclosing ⟨hc, rest', hrest'⟩), hread, prepend_some]

/-! ## Texts in the form that holds them -/

theorem skipLineEnd_of_ne {c : Char} (hline : c ≠ '\n') (hreturn : c ≠ '\r')
    (rest : List Char) : skipLineEnd (c :: rest) = c :: rest := by
  unfold skipLineEnd lineEnd?
  split
  next h => exact absurd (List.cons.inj h).1 hline
  next h => exact absurd (List.cons.inj h).1 hreturn
  next => rfl

/-- Without a line end in a text, what is written of it begins with none. -/
theorem exists_writtenBody_head {cs : List Char} (h : '\n' ∉ cs) (rest : List Char) :
    ∃ x tail, x ≠ '\n' ∧ x ≠ '\r' ∧ writtenBody true 0 cs ++ '"' :: rest = x :: tail := by
  cases cs with
  | nil => exact ⟨'"', rest, by decide, by decide, rfl⟩
  | cons c cs =>
      have hc : c ≠ '\n' := fun hc => h (hc ▸ List.mem_cons_self)
      have hspell := writtenAs_writtenChar true 0 c
      rw [writtenBody]
      generalize writtenChar true 0 c = spelling at hspell
      cases hspell with
      | quote => exact ⟨_, _, by decide, by decide, rfl⟩
      | lineEnd => exact absurd rfl hc
      | letter => exact ⟨_, _, by decide, by decide, rfl⟩
      | digits => exact ⟨_, _, by decide, by decide, rfl⟩
      | bare hbare =>
          refine ⟨_, _, hc, ?_, rfl⟩
          rintro rfl
          exact absurd hbare.plain (by decide)

/-- The form of a text can hold it. -/
inductive Holds (cs : List Char) : Form → Prop where
  /-- Between double quotes what needs it is escaped. -/
  | basic (isLong : Bool) : Holds cs ⟨'"', isLong⟩
  /-- Between single quotes there is none of them. -/
  | literal (hplain : ∀ c ∈ cs, isPlain c = true) (hquote : '\'' ∉ cs) :
      Holds cs ⟨'\'', false⟩
  /-- Between three single quotes there are short runs of them. -/
  | longLiteral (hself : ∀ c ∈ cs, isPlain c = true ∨ c = '\n')
      (hrun : longestRun '\'' 0 cs ≤ 2) : Holds cs ⟨'\'', true⟩

theorem isPlain_or_of_any_eq_false {cs : List Char} (h : cs.any isControl = false) :
    ∀ c ∈ cs, isPlain c = true ∨ c = '\n' := by
  intro c hc
  by_cases hline : c = '\n'
  · exact .inr hline
  · exact .inl (isPlain_of_not_isControl (by simpa using List.any_eq_false.1 h c hc) hline)

theorem Form.holds_of (cs : List Char) : Holds cs (Form.of cs) := by
  unfold Form.of
  dsimp only
  split
  next => exact .basic false
  next =>
  split
  next h =>
    simp only [Bool.and_eq_true, Bool.not_eq_true', decide_eq_true_eq] at h
    obtain ⟨⟨hcontrols, hsingles⟩, hlines⟩ := h
    refine .literal (fun c hc => ?_) fun hmem => ?_
    · refine (isPlain_or_of_any_eq_false hcontrols c hc).resolve_right ?_
      rintro rfl
      simp [hc] at hlines
    · exact absurd (longestRun_pos_of_mem hmem) (by omega)
  next =>
  split
  next => exact .basic true
  next =>
  split
  next h =>
    rw [Bool.and_eq_true, Bool.not_eq_true', decide_eq_true_eq] at h
    exact .longLiteral (isPlain_or_of_any_eq_false h.1) h.2
  next => exact .basic _

/-- Quotes that are not three in a row begin a text on one line. -/
theorem quotedText_short {cs : List Char} (hdouble : ∀ rest, cs ≠ '"' :: '"' :: '"' :: rest)
    (hsingle : ∀ rest, cs ≠ '\'' :: '\'' :: '\'' :: rest) : quotedText cs = shortText cs := by
  unfold quotedText
  split
  next rest => exact absurd rfl (hdouble rest)
  next rest => exact absurd rfl (hsingle rest)
  next => rfl

theorem quotedText_basic {x : Char} (h : x ≠ '"') (cs rest : List Char) :
    quotedText ('"' :: (writtenBody false 0 cs ++ '"' :: x :: rest)) = some (cs, x :: rest) := by
  rw [quotedText_short]
  · exact basicText_writtenBody 0 cs (x :: rest)
  · intro rest' hrest'
    cases cs with
    | nil => exact h (List.cons.inj (List.cons.inj (List.cons.inj hrest').2).2).1
    | cons c cs =>
        have hshort : false = true → 0 < 2 → c ≠ '"' := nofun
        obtain ⟨y, tail, hy, htail⟩ := exists_writtenBody_cons hshort cs
        rw [htail] at hrest'
        exact hy (List.cons.inj (List.cons.inj hrest').2).1
  · exact fun _ hrest' => absurd (List.cons.inj hrest').1 (by decide)

theorem quotedText_literal {x : Char} (h : x ≠ '\'') {cs : List Char}
    (hplain : ∀ c ∈ cs, isPlain c = true) (hquote : '\'' ∉ cs) (rest : List Char) :
    quotedText ('\'' :: (cs ++ '\'' :: x :: rest)) = some (cs, x :: rest) := by
  rw [quotedText_short]
  · exact literalText_append hplain hquote (x :: rest)
  · exact fun _ hrest' => absurd (List.cons.inj hrest').1 (by decide)
  · intro rest' hrest'
    cases cs with
    | nil => exact h (List.cons.inj (List.cons.inj (List.cons.inj hrest').2).2).1
    | cons c cs => exact hquote ((List.cons.inj (List.cons.inj hrest').2).1 ▸ List.mem_cons_self)

/-- A line end behind the opening quotes does not count, so one is written there if the
text has a line end. -/
def opening (cs : List Char) : List Char := if cs.contains '\n' then ['\n'] else []

theorem quotedText_longBasic {x : Char} (h : x ≠ '"') (cs rest : List Char) :
    quotedText ('"' :: '"' :: '"' ::
      (opening cs ++ (writtenBody true 0 cs ++ '"' :: '"' :: '"' :: x :: rest))) =
        some (cs, x :: rest) := by
  rw [quotedText]
  refine Eq.trans (congrArg _ ?_) (longBasicText_writtenBody h (Nat.zero_le 2) cs rest)
  unfold opening
  split
  next => rfl
  next hline =>
    rw [List.contains_iff_mem] at hline
    obtain ⟨y, tail, hy, hy', htail⟩ :=
      exists_writtenBody_head hline ('"' :: '"' :: x :: rest)
    rw [List.nil_append, htail, skipLineEnd_of_ne hy hy']

theorem quotedText_longLiteral {x : Char} (h : x ≠ '\'') {cs : List Char}
    (hself : ∀ c ∈ cs, isPlain c = true ∨ c = '\n') (hrun : longestRun '\'' 0 cs ≤ 2)
    (rest : List Char) :
    quotedText ('\'' :: '\'' :: '\'' ::
      (opening cs ++ (cs ++ '\'' :: '\'' :: '\'' :: x :: rest))) = some (cs, x :: rest) := by
  rw [quotedText]
  refine Eq.trans (congrArg _ ?_) (longLiteralText_append h hself hrun rest)
  unfold opening
  split
  next => rfl
  next hline =>
    rw [List.contains_iff_mem] at hline
    cases cs with
    | nil => rfl
    | cons c cs =>
        rw [List.nil_append, List.cons_append, skipLineEnd_of_ne]
        · exact fun hc => hline (hc ▸ List.mem_cons_self)
        · rintro rfl
          exact absurd (hself _ List.mem_cons_self) (by decide)

/-- A text is read back, whatever its characters are, if no quote follows it. -/
theorem quotedText_writtenText {x : Char} (hdouble : x ≠ '"') (hsingle : x ≠ '\'')
    (cs rest : List Char) : quotedText (writtenText cs ++ x :: rest) = some (cs, x :: rest) := by
  have hform := Form.holds_of cs
  unfold writtenText
  generalize Form.of cs = form at hform
  cases hform with
  | basic isLong =>
      cases isLong with
      | false => simpa using quotedText_basic hdouble cs rest
      | true => simpa [opening] using quotedText_longBasic hdouble cs rest
  | literal hplain hquote => simpa using quotedText_literal hsingle hplain hquote rest
  | longLiteral hself hrun => simpa [opening] using quotedText_longLiteral hsingle hself hrun rest

end TestCensus.Toml
