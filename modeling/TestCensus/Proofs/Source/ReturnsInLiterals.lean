import TestCensus.Proofs.Source.Returns

/-!
# Content of literals with carriage returns before the line feeds

`Skips k cs l ds` says that skipping `k` characters of `cs` and `l` characters of `ds` leads to
related texts by way of related texts.  An escape is skipped so in both texts, also if it is
one of a line end.

A literal between three quotes takes in line ends, and so it is read alike in both texts.  A
literal between single quotes stops at a line feed, unless nothing of its content precedes it.
Then a carriage return does, so it stops there in the text that has one.  That is the only
difference (`Content.readsAlike`), and `Content.takesFeed` says where it is met.
-/

namespace TestCensus.Source

open TestCensus.Text

/-! ## Skipping -/

/-- Skipping `k` characters of one text and `l` characters of the other leads to related texts
by way of related texts. -/
inductive Skips : Nat → List Char → Nat → List Char → Prop where
  /-- Nothing is skipped. -/
  | done {cs ds : List Char} : Returned cs ds → Skips 0 cs 0 ds
  /-- There is nothing to skip. -/
  | nil (k l : Nat) : Skips k [] l []
  /-- A line end is skipped. -/
  | lineFeed {k l : Nat} {cs ds : List Char} : Skips k cs l ds →
      Skips (k + 1) ('\n' :: cs) (l + 2) ('\r' :: '\n' :: ds)
  /-- Any other character is skipped. -/
  | char {c : Char} {k l : Nat} {cs ds : List Char} : c ≠ '\n' → c ≠ '\r' → Skips k cs l ds →
      Skips (k + 1) (c :: cs) (l + 1) (c :: ds)

variable {cs ds : List Char}

theorem Skips.returned {k l : Nat} (h : Skips k cs l ds) : Returned cs ds := by
  induction h with
  | done h => exact h
  | nil _ _ => exact .nil
  | lineFeed _ ih => exact ih.lineFeed
  | char hc hc' _ ih => exact ih.char hc hc'

/-- A first character that is no line feed is skipped alone. -/
theorem Returned.skips_one (h : Returned cs ds) (hfeed : cs.head? ≠ some '\n') :
    Skips 1 cs 1 ds := by
  cases h with
  | nil => exact .nil _ _
  | lineFeed _ => exact absurd rfl hfeed
  | char hc hc' h => exact (Skips.done h).char hc hc'

theorem Returned.any_head? (h : Returned cs ds) {p : Char → Bool} (hfeed : p '\n' = false)
    (hreturn : p '\r' = false) : ds.head?.any p = cs.head?.any p := by
  cases h with
  | nil => rfl
  | lineFeed _ => exact hreturn.trans hfeed.symm
  | char _ _ _ => rfl

theorem Returned.skips_hex (h : Returned cs ds) (n : Nat) :
    startsWithHex n ds = startsWithHex n cs ∧ (startsWithHex n cs = true → Skips n cs n ds) := by
  induction n generalizing cs ds with
  | zero => exact ⟨rfl, fun _ => .done h⟩
  | succ n ih =>
      cases h with
      | nil => exact ⟨rfl, fun _ => .nil _ _⟩
      | lineFeed h =>
          exact ⟨by simp [startsWithHex, isHexDigit], by simp [startsWithHex, isHexDigit]⟩
      | @char c _ _ hc hc' h =>
          have hcons : ∀ cs, startsWithHex (n + 1) (c :: cs) =
              (isHexDigit c && startsWithHex n cs) := by
            intro cs
            simp [startsWithHex, Bool.and_left_comm]
          obtain ⟨heq, hskips⟩ := ih h
          rw [hcons, hcons, heq]
          exact ⟨rfl, fun hhex => (hskips (Bool.and_eq_true_iff.1 hhex).2).char hc hc'⟩

theorem Returned.skips_digits (h : Returned cs ds) (n : Nat) :
    Skips ((cs.take n).takeWhile Char.isDigit).length cs
      ((ds.take n).takeWhile Char.isDigit).length ds := by
  induction n generalizing cs ds with
  | zero => exact .done h
  | succ n ih =>
      cases h with
      | nil => exact .nil _ _
      | lineFeed h => exact .done h.lineFeed
      | char hc hc' h =>
          rw [List.take_succ_cons, List.take_succ_cons, List.takeWhile_cons, List.takeWhile_cons]
          split
          · exact (ih h).char hc hc'
          · exact .done (h.char hc hc')

/-- A name in braces is skipped with its closing brace. -/
theorem Returned.skips_name (h : Returned cs ds) :
    Skips ((cs.takeWhile (· != '}')).length + 1) cs ((ds.takeWhile (· != '}')).length + 1) ds := by
  induction h with
  | nil => exact .nil _ _
  | lineFeed _ ih => exact ih.lineFeed
  | @char c _ _ hc hc' h ih =>
      rw [List.takeWhile_cons, List.takeWhile_cons]
      split
      · exact ih.char hc hc'
      · exact (Skips.done h).char hc hc'

/-- A name in braces is closed in both texts or in none. -/
theorem Returned.name_closed (h : Returned cs ds) :
    ((ds.takeWhile (· != '}')).length == ds.length) =
      ((cs.takeWhile (· != '}')).length == cs.length) := by
  induction h with
  | nil => rfl
  | lineFeed _ ih => simpa using ih
  | @char c _ _ hc hc' h ih =>
      rw [List.takeWhile_cons, List.takeWhile_cons]
      split
      · simpa using ih
      · rfl

/-- How many characters belong to an escape that names its character, if this is the text behind
its first letter. -/
def namedLength : List Char → Nat
  | '{' :: inner =>
      let name := inner.takeWhile (· != '}')
      if name.isEmpty || name.length == inner.length then 0 else name.length + 3
  | _ => 0

theorem namedLength_brace (inner : List Char) :
    namedLength ('{' :: inner) =
      if (inner.takeWhile (· != '}')).isEmpty ||
        (inner.takeWhile (· != '}')).length == inner.length then 0
      else (inner.takeWhile (· != '}')).length + 3 := rfl

theorem namedLength_of_ne {c : Char} (hc : c ≠ '{') (cs : List Char) :
    namedLength (c :: cs) = 0 := by
  unfold namedLength
  split
  · exact absurd (List.cons.inj ‹_›).1 hc
  · rfl

theorem namedLength_skips (h : Returned cs ds) {c : Char} (hc : c ≠ '\n') (hc' : c ≠ '\r') :
    Skips (namedLength cs) (c :: cs) (namedLength ds) (c :: ds) := by
  have hdone := Skips.done (h.char hc hc')
  cases h with
  | nil => exact hdone
  | lineFeed h =>
      rw [namedLength_of_ne (by decide), namedLength_of_ne (by decide)]
      exact hdone
  | @char b inner inner' hb hb' h =>
      by_cases hbrace : b = '{'
      · subst hbrace
        have hempty : (inner'.takeWhile (· != '}')).isEmpty =
            (inner.takeWhile (· != '}')).isEmpty := by
          cases h with
          | nil => rfl
          | lineFeed _ => rfl
          | char _ _ _ => simp only [List.takeWhile_cons]; split <;> rfl
        rw [namedLength_brace, namedLength_brace, hempty, h.name_closed]
        split
        · exact hdone
        · exact (h.skips_name.char hb hb').char hc hc'
      · rw [namedLength_of_ne hbrace, namedLength_of_ne hbrace]
        exact hdone

theorem escapeLength_skips (h : Returned cs ds) :
    Skips (escapeLength cs) cs (escapeLength ds) ds := by
  cases h with
  | nil => exact .nil _ _
  | lineFeed h => exact (Skips.done h).lineFeed
  | @char c cs ds hc hc' h =>
      have hdone := Skips.done (h.char hc hc')
      have hhex : ∀ n, Skips (if startsWithHex n cs then n + 1 else 0) (c :: cs)
          (if startsWithHex n ds then n + 1 else 0) (c :: ds) := by
        intro n
        obtain ⟨heq, hskips⟩ := h.skips_hex n
        rw [heq]
        split
        · exact (hskips ‹_›).char hc hc'
        · exact hdone
      unfold escapeLength
      dsimp only
      split
      · exact hhex 4
      split
      · exact hhex 8
      split
      · exact hhex 2
      split
      · rw [Nat.add_comm, Nat.add_comm 1]
        exact (h.skips_digits 2).char hc hc'
      split
      · exact namedLength_skips h hc hc'
      split
      · exact (Skips.done h).char hc hc'
      · exact hdone

/-- How many characters the line end at the beginning of a text has. -/
def lineEndLength : List Char → Nat
  | '\r' :: '\n' :: _ => 2
  | '\r' :: _ => 1
  | '\n' :: _ => 1
  | _ => 0

theorem rawEscapeLength_cons (quote c : Char) (cs : List Char) :
    rawEscapeLength quote (c :: cs) =
      if c = quote || c = '\\' then 1 + lineEndLength cs else lineEndLength (c :: cs) := by
  unfold rawEscapeLength
  dsimp only
  split
  · rfl
  · exact Nat.zero_add _

theorem lineEndLength_of_ne {c : Char} (hc : c ≠ '\n') (hc' : c ≠ '\r') (cs : List Char) :
    lineEndLength (c :: cs) = 0 := by
  unfold lineEndLength
  split <;> simp_all

theorem lineEndLength_skips (h : Returned cs ds) :
    Skips (lineEndLength cs) cs (lineEndLength ds) ds := by
  cases h with
  | nil => exact .nil _ _
  | lineFeed h => exact (Skips.done h).lineFeed
  | char hc hc' h =>
      rw [lineEndLength_of_ne hc hc', lineEndLength_of_ne hc hc']
      exact .done (h.char hc hc')

theorem rawEscapeLength_skips (h : Returned cs ds) {quote : Char} (hfeed : quote ≠ '\n')
    (hreturn : quote ≠ '\r') :
    Skips (rawEscapeLength quote cs) cs (rawEscapeLength quote ds) ds := by
  cases h with
  | nil => exact .nil _ _
  | lineFeed h =>
      rw [rawEscapeLength_cons, if_neg (by simp [hfeed.symm]), rawEscapeLength_cons,
        if_neg (by simp [hreturn.symm])]
      exact lineEndLength_skips h.lineFeed
  | char hc hc' h =>
      rw [rawEscapeLength_cons, rawEscapeLength_cons]
      split
      · rw [Nat.add_comm, Nat.add_comm 1]
        exact (lineEndLength_skips h).char hc hc'
      · exact lineEndLength_skips (h.char hc hc')

/-! ## Content -/

/-- Content between single quotes takes in a line feed that no escape takes: one with no
content between it and the opening, the last escape or the last field. -/
def Content.takesFeed (d : Delimiter) (filled : Bool) (skip : Nat) : List Char → Bool
  | [] => false
  | c :: rest =>
      if 0 < skip then Content.takesFeed d filled (skip - 1) rest
      else if d.formatted && (c = '{' || c = '}') then
        rest.head? = some c && Content.takesFeed d false 1 rest
      else if c = '\\' then
        if d.raw then Content.takesFeed d filled (rawEscapeLength d.quote rest) rest
        else if d.bytes && (rest.head?.any fun n => n == 'N' || n == 'u' || n == 'U') then
          (rest.drop 1).head? = some '\n' || Content.takesFeed d true 2 rest
        else Content.takesFeed d false (escapeLength rest) rest
      else if c = d.quote || c = '\x00' then false
      else if c = '\n' then !filled
      else Content.takesFeed d true 0 rest

/-- The reading of content is the same in both texts, or it breaks off in both. -/
inductive Content.Alike : List Char × Content.Stop × List Char →
    List Char × Content.Stop × List Char → Prop where
  /-- The same stops content in both, and what is left is related. -/
  | stop {content content' rest rest' : List Char} (stop : Content.Stop) :
      Returned content content' → Returned rest rest' →
      Alike (content, stop, rest) (content', stop, rest')
  /-- Content breaks off. -/
  | broken (content content' rest rest' : List Char) :
      Alike (content, .broken, rest) (content', .broken, rest')

/-- What follows for the text with carriage returns, if content takes in a line feed and if it
does not. -/
def Content.Follows (feeds : Bool) (a b : List Char × Content.Stop × List Char) : Prop :=
  if feeds then b.2.1 = .broken else Content.Alike a b

theorem Content.Alike.follows {a b : List Char × Content.Stop × List Char} (h : Content.Alike a b) :
    Content.Follows false a b := by
  rwa [Content.Follows, if_neg (by decide)]

theorem Content.read_skip (d : Delimiter) (taken : List Char) (filled : Bool) (skip : Nat)
    (c : Char) (rest : List Char) :
    Content.read d taken filled (skip + 1) (c :: rest) =
      Content.read d (c :: taken) filled skip rest := by
  rw [Content.read.eq_def d taken]
  exact if_pos (Nat.succ_pos skip)

/-- Three quotes close a literal if two more follow the first. -/
theorem Content.read_zero (d : Delimiter) (taken : List Char) (filled : Bool) (c : Char)
    (rest : List Char) :
    Content.read d taken filled 0 (c :: rest) =
      if d.formatted && (c = '{' || c = '}') then
        if rest.head? = some c then Content.read d (c :: taken) false 1 rest
        else if c = '{' then (taken.reverse, .field, c :: rest)
        else (taken.reverse, .broken, c :: rest)
      else if c = '\\' then
        if d.raw then Content.read d (c :: taken) filled (rawEscapeLength d.quote rest) rest
        else if d.bytes && (rest.head?.any fun n => n == 'N' || n == 'u' || n == 'U') then
          Content.read d (c :: taken) true 2 rest
        else Content.read d (c :: taken) false (escapeLength rest) rest
      else if c = d.quote then
        if d.triple && (dropStart? [c, c] rest).isNone then Content.read d (c :: taken) false 0 rest
        else (taken.reverse, .close, c :: rest)
      else if c = '\n' && filled && !d.triple then (taken.reverse, .broken, c :: rest)
      else if c = '\x00' then (taken.reverse, .broken, c :: rest)
      else Content.read d (c :: taken) true 0 rest := by
  rw [Content.read.eq_def]
  refine (if_neg (Nat.lt_irrefl 0)).trans ?_
  refine ite_congr rfl (fun _ => rfl) fun _ => ite_congr rfl (fun _ => rfl) fun _ =>
    ite_congr rfl (fun hquote => ?_) fun _ => rfl
  cases d.triple with
  | false => rfl
  | true =>
      rcases rest with _ | ⟨q₁, _ | ⟨q₂, rest⟩⟩
      · rfl
      · by_cases h : c = q₁ <;> simp [dropStart?, h]
      · rw [if_pos rfl, dropStart?, dropStart?, dropStart?]
        by_cases h₁ : c = q₁ <;> by_cases h₂ : c = q₂
        · simp [← h₁, ← h₂]
        · simp [← h₁, h₂, Ne.symm h₂]
        · simp [h₁, ← h₂, Ne.symm h₁]
        · simp [h₁, Ne.symm h₁]

theorem Content.read_lineFeed {d : Delimiter} (hfeed : d.quote ≠ '\n') (taken : List Char)
    (filled : Bool) (rest : List Char) :
    Content.read d taken filled 0 ('\n' :: rest) =
      if filled && !d.triple then (taken.reverse, .broken, '\n' :: rest)
      else Content.read d ('\n' :: taken) true 0 rest := by
  rw [Content.read_zero, if_neg (by simp), if_neg (by decide), if_neg hfeed.symm,
    decide_eq_true rfl, Bool.true_and, if_neg (c := '\n' = '\x00') (by decide)]

theorem Content.read_return {d : Delimiter} (hreturn : d.quote ≠ '\r') (taken : List Char)
    (filled : Bool) (rest : List Char) :
    Content.read d taken filled 0 ('\r' :: rest) = Content.read d ('\r' :: taken) true 0 rest := by
  rw [Content.read_zero, if_neg (by simp), if_neg (by decide), if_neg hreturn.symm,
    if_neg (by simp), if_neg (by decide)]

theorem Content.takesFeed_zero (d : Delimiter) (filled : Bool) (c : Char) (rest : List Char) :
    Content.takesFeed d filled 0 (c :: rest) =
      if d.formatted && (c = '{' || c = '}') then
        rest.head? = some c && Content.takesFeed d false 1 rest
      else if c = '\\' then
        if d.raw then Content.takesFeed d filled (rawEscapeLength d.quote rest) rest
        else if d.bytes && (rest.head?.any fun n => n == 'N' || n == 'u' || n == 'U') then
          (rest.drop 1).head? = some '\n' || Content.takesFeed d true 2 rest
        else Content.takesFeed d false (escapeLength rest) rest
      else if c = d.quote || c = '\x00' then false
      else if c = '\n' then !filled
      else Content.takesFeed d true 0 rest := by
  rw [Content.takesFeed, if_neg (Nat.lt_irrefl 0)]

theorem Content.takesFeed_lineFeed {d : Delimiter} (hfeed : d.quote ≠ '\n') (filled : Bool)
    (rest : List Char) : Content.takesFeed d filled 0 ('\n' :: rest) = !filled := by
  rw [Content.takesFeed_zero, if_neg (by simp), if_neg (by decide), if_neg (by simp [hfeed.symm]),
    if_pos rfl]

/-- From the text `cs` on, content is read alike in the text with carriage returns, whatever
was read before. -/
def Content.ReadsAlike (d : Delimiter) (cs : List Char) : Prop :=
  ∀ {ds taken taken' : List Char} {filled : Bool} {skip skip' : Nat},
    Returned taken.reverse taken'.reverse → Skips skip cs skip' ds →
      Content.Follows (!d.triple && Content.takesFeed d filled skip cs)
        (Content.read d taken filled skip cs) (Content.read d taken' filled skip' ds)

section

variable {d : Delimiter} {rest rest' taken taken' : List Char} (ih : Content.ReadsAlike d rest)
  (h : Returned rest rest')

include ih h

/-- Of a name or a code that bytes do not have, the letter is skipped and one character more.
If that is a line feed, the carriage return is skipped in its place. -/
theorem Content.read_returned_bytes (hfeed : d.quote ≠ '\n')
    (htaken : Returned taken.reverse taken'.reverse)
    (hletter : rest.head?.any (fun n => n == 'N' || n == 'u' || n == 'U') = true) :
    Content.Follows
      (!d.triple && ((rest.drop 1).head? = some '\n' || Content.takesFeed d true 2 rest))
      (Content.read d taken true 2 rest) (Content.read d taken' true 2 rest') := by
  cases h with
  | nil => cases hletter
  | lineFeed _ => cases hletter
  | char hc hc' h =>
      cases h with
      | nil =>
          exact ih htaken ((Skips.nil 1 1).char hc hc')
      | char hc₁ hc₁' h =>
          have hne : ¬(some _ = some '\n') := fun heq => hc₁ (Option.some.inj heq)
          rw [List.drop_one, List.tail_cons, List.head?_cons, decide_eq_false hne, Bool.false_or]
          exact ih htaken (((Skips.done h).char hc₁ hc₁').char hc hc')
      | lineFeed h =>
          have hnext : Content.Follows (!d.triple && Content.takesFeed d true 2 _) _ _ :=
            ih htaken ((Skips.done h).lineFeed.char hc hc')
          simp only [Content.read_skip] at hnext ⊢
          rw [Content.read_lineFeed hfeed]
          cases htriple : d.triple with
          | true => simpa [htriple] using hnext
          | false => rfl

/-- Between single quotes, a line feed stops content if there is some, and the carriage return
before it is some. -/
theorem Content.read_returned_lineFeed (hfeed : d.quote ≠ '\n') (hreturn : d.quote ≠ '\r')
    (htaken : Returned taken.reverse taken'.reverse) (filled : Bool) :
    Content.Follows (!d.triple && Content.takesFeed d filled 0 ('\n' :: rest))
      (Content.read d taken filled 0 ('\n' :: rest))
      (Content.read d taken' filled 0 ('\r' :: '\n' :: rest')) := by
  rw [Content.takesFeed_lineFeed hfeed, Content.read_lineFeed hfeed, Content.read_return hreturn,
    Content.read_lineFeed hfeed]
  cases htriple : d.triple with
  | true =>
      have hnext : Content.Follows (!d.triple && Content.takesFeed d true 0 rest) _ _ :=
        ih htaken.concat_lineFeed (.done h)
      simpa [htriple] using hnext
  | false =>
      cases filled with
      | true => exact (Content.Alike.broken _ _ _ _).follows
      | false => rfl

theorem Content.read_returned_backslash (hfeed : d.quote ≠ '\n') (hreturn : d.quote ≠ '\r')
    (htaken : Returned taken.reverse taken'.reverse) (filled : Bool) :
    Content.Follows (!d.triple && Content.takesFeed d filled 0 ('\\' :: rest))
      (Content.read d taken filled 0 ('\\' :: rest))
      (Content.read d taken' filled 0 ('\\' :: rest')) := by
  have hbrace : ¬(d.formatted && ('\\' = '{' || '\\' = '}')) = true := by simp
  have htaken' : Returned ('\\' :: taken).reverse ('\\' :: taken').reverse :=
    htaken.concat (by decide) (by decide)
  rw [Content.takesFeed_zero, Content.read_zero, Content.read_zero, if_neg hbrace, if_neg hbrace,
    if_neg hbrace, if_pos rfl, if_pos rfl, if_pos rfl]
  split
  · exact ih htaken' (rawEscapeLength_skips h hfeed hreturn)
  · rw [h.any_head? (by decide) (by decide)]
    split
    · rename_i hletter
      exact read_returned_bytes ih h hfeed htaken' (Bool.and_eq_true_iff.1 hletter).2
    · exact ih htaken' (escapeLength_skips h)

theorem Content.read_returned_quote (hfeed : d.quote ≠ '\n') (hreturn : d.quote ≠ '\r')
    (htaken : Returned taken.reverse taken'.reverse) :
    Content.Follows false
      (if d.triple && (dropStart? [d.quote, d.quote] rest).isNone then
        Content.read d (d.quote :: taken) false 0 rest
      else (taken.reverse, .close, d.quote :: rest))
      (if d.triple && (dropStart? [d.quote, d.quote] rest').isNone then
        Content.read d (d.quote :: taken') false 0 rest'
      else (taken'.reverse, .close, d.quote :: rest')) := by
  have hnone : (dropStart? [d.quote, d.quote] rest').isNone =
      (dropStart? [d.quote, d.quote] rest).isNone := by
    have hdrop : Option.Rel Returned (dropStart? [d.quote, d.quote] rest)
        (dropStart? [d.quote, d.quote] rest') :=
      dropStart?_returned h (by simp [hfeed.symm]) (by simp [hreturn.symm])
    generalize dropStart? [d.quote, d.quote] rest = r at hdrop
    generalize dropStart? [d.quote, d.quote] rest' = r' at hdrop
    cases hdrop <;> rfl
  rw [hnone]
  split
  · rename_i htriple
    have hnext : Content.Follows (!d.triple && Content.takesFeed d false 0 rest) _ _ :=
      ih (htaken.concat hfeed hreturn) (.done h)
    rwa [(Bool.and_eq_true_iff.1 htriple).1] at hnext
  · exact (Content.Alike.stop .close htaken (h.char hfeed hreturn)).follows

theorem Content.read_returned_char (hfeed : d.quote ≠ '\n') (hreturn : d.quote ≠ '\r')
    (htaken : Returned taken.reverse taken'.reverse) (filled : Bool) {c : Char} (hc : c ≠ '\n')
    (hc' : c ≠ '\r') :
    Content.Follows (!d.triple && Content.takesFeed d filled 0 (c :: rest))
      (Content.read d taken filled 0 (c :: rest))
      (Content.read d taken' filled 0 (c :: rest')) := by
  have htaken' := htaken.concat hc hc'
  have hstop : ∀ stop, Content.Follows false (taken.reverse, stop, c :: rest)
      (taken'.reverse, stop, c :: rest') := fun stop =>
    (Content.Alike.stop stop htaken (h.char hc hc')).follows
  have hhead : (rest'.head? = some c) = (rest.head? = some c) := propext (h.head?_eq_some hc hc')
  by_cases hbackslash : c = '\\'
  · subst hbackslash
    exact read_returned_backslash ih h hfeed hreturn htaken filled
  rw [Content.takesFeed_zero, Content.read_zero, Content.read_zero]
  simp only [hhead, hc, hbackslash, decide_false, Bool.false_and, if_false]
  split
  · by_cases hdouble : rest.head? = some c
    · rw [if_pos hdouble, if_pos hdouble, decide_eq_true hdouble, Bool.true_and]
      exact ih htaken' (h.skips_one (by simpa [hdouble] using hc))
    · rw [if_neg hdouble, if_neg hdouble, decide_eq_false hdouble, Bool.false_and, Bool.and_false]
      split
      · exact hstop .field
      · exact hstop .broken
  by_cases hquote : c = d.quote
  · subst hquote
    simpa using read_returned_quote ih h hfeed hreturn htaken
  by_cases hzero : c = '\x00'
  · rw [if_pos (by simp [hzero]), Bool.and_false]
    simp only [if_neg hquote, if_pos hzero, Bool.false_eq_true, if_false]
    exact hstop .broken
  · simp only [hquote, hzero, Bool.false_eq_true, if_false, decide_false, Bool.or_self]
    exact ih htaken' (.done h)

end

/-- Content is read alike in the text with carriage returns. -/
theorem Content.readsAlike {d : Delimiter} (hfeed : d.quote ≠ '\n') (hreturn : d.quote ≠ '\r')
    (cs : List Char) : Content.ReadsAlike d cs := by
  induction cs with
  | nil =>
      intro ds taken taken' filled skip skip' htaken h
      rw [Content.takesFeed, Bool.and_false]
      cases h.returned
      exact (Content.Alike.broken _ _ _ _).follows
  | cons c rest ih =>
      intro ds taken taken' filled skip skip' htaken h
      cases h with
      | lineFeed h =>
          rw [Content.takesFeed, if_pos (Nat.succ_pos _), Content.read_skip, Content.read_skip,
            Content.read_skip]
          exact ih htaken.concat_lineFeed h
      | char hc hc' h =>
          rw [Content.takesFeed, if_pos (Nat.succ_pos _), Content.read_skip, Content.read_skip]
          exact ih (htaken.concat hc hc') h
      | done hcs =>
          cases hcs with
          | lineFeed h => exact read_returned_lineFeed ih h hfeed hreturn htaken filled
          | char hc hc' h => exact read_returned_char ih h hfeed hreturn htaken filled hc hc'

end TestCensus.Source
