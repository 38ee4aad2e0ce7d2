/-!
# Numerals

A numeral is written in base sixteen, eight or two behind its mark, or in base
ten with an optional fraction and exponent.  Underscores may stand between
digits, and after the last digit of a run in base ten.  A letter at the end marks
a long or an imaginary number.  `numeral?` reads the longest numeral that a text
starts with; the text may go on with anything.
-/

namespace TestCensus.Source

/-- A digit of the given base, which is at most sixteen. -/
def isDigitOf (base : Nat) (c : Char) : Bool :=
  if c.isDigit then c.toNat - 48 < base
  else base == 16 && (('a' ≤ c && c ≤ 'f') || ('A' ≤ c && c ≤ 'F'))

/-- Groups of digits behind a mark, each after an optional underscore. -/
def markedDigits (base : Nat) : List Char → List Char × List Char
  | [] => ([], [])
  | '_' :: c :: rest =>
      if isDigitOf base c then
        let (digits, after) := markedDigits base rest
        ('_' :: c :: digits, after)
      else ([], '_' :: c :: rest)
  | c :: rest =>
      if isDigitOf base c then
        let (digits, after) := markedDigits base rest
        (c :: digits, after)
      else ([], c :: rest)

/-- A run of decimal digits, with an underscore after any of them.  `inside` says
that a digit stands directly before the text. -/
def decimalDigits (inside : Bool) : List Char → List Char × List Char
  | [] => ([], [])
  | c :: rest =>
      if c.isDigit then
        let (digits, after) := decimalDigits true rest
        (c :: digits, after)
      else if c = '_' && inside then
        let (digits, after) := decimalDigits false rest
        (c :: digits, after)
      else ([], c :: rest)

/-- One of the letters, if the text starts with it. -/
def letterOf (letters : List Char) : List Char → List Char × List Char
  | [] => ([], [])
  | c :: rest => if letters.contains c then ([c], rest) else ([], c :: rest)

/-- An exponent, which needs a digit. -/
def exponent : List Char → List Char × List Char
  | [] => ([], [])
  | c :: rest =>
      if c = 'e' || c = 'E' then
        let (sign, afterSign) := letterOf ['+', '-'] rest
        let (digits, after) := decimalDigits false afterSign
        if digits.isEmpty then ([], c :: rest) else (c :: sign ++ digits, after)
      else ([], c :: rest)

/-- A numeral in base ten. -/
def decimalNumeral (cs : List Char) : List Char × List Char :=
  let (whole, rest) := decimalDigits false cs
  let (point, afterPoint) := letterOf ['.'] rest
  let (fraction, afterFraction) := decimalDigits false afterPoint
  if point.isEmpty || (whole.isEmpty && fraction.isEmpty) then
    let (power, afterPower) := exponent rest
    if whole.isEmpty then ([], cs)
    else if power.isEmpty then
      let (mark, after) := letterOf ['L', 'l', 'J', 'j'] rest
      (whole ++ mark, after)
    else
      let (mark, after) := letterOf ['L', 'l', 'J', 'j'] afterPower
      (whole ++ power ++ mark, after)
  else
    let (power, afterPower) := exponent afterFraction
    let (mark, after) := letterOf ['L', 'l', 'J', 'j'] afterPower
    (whole ++ point ++ fraction ++ power ++ mark, after)

/-- A numeral behind the mark of its base, if there is one. -/
def markedNumeral? : List Char → Option (List Char × List Char)
  | '0' :: m :: rest =>
      let base :=
        if m = 'x' || m = 'X' then 16
        else if m = 'o' || m = 'O' then 8
        else if m = 'b' || m = 'B' then 2
        else 0
      let (digits, afterDigits) := markedDigits base rest
      let (mark, after) := letterOf ['L', 'l'] afterDigits
      if digits.isEmpty then none else some ('0' :: m :: digits ++ mark, after)
  | _ => none

/-- The longest numeral a text starts with, and the text behind it. -/
def numeral? (cs : List Char) : Option (List Char × List Char) :=
  match markedNumeral? cs with
  | some found => some found
  | none =>
      let (text, after) := decimalNumeral cs
      if text.isEmpty then none else some (text, after)

/-! ## Numerals are taken from the front -/

theorem markedDigits_eq {base : Nat} {cs digits after : List Char}
    (h : markedDigits base cs = (digits, after)) : digits ++ after = cs := by
  fun_induction markedDigits base cs generalizing digits after with
  | case1 => cases h; rfl
  | case2 c rest hc digits' after' hrec ih => cases h; simp [ih hrec]
  | case3 c rest hc => cases h; rfl
  | case4 c rest hne hc digits' after' hrec ih => cases h; simp [ih hrec]
  | case5 c rest hne hc => cases h; rfl

theorem decimalDigits_eq {inside : Bool} {cs digits after : List Char}
    (h : decimalDigits inside cs = (digits, after)) : digits ++ after = cs := by
  fun_induction decimalDigits inside cs generalizing digits after with
  | case1 => cases h; rfl
  | case2 inside c rest hc digits' after' hrec ih => cases h; simp [ih hrec]
  | case3 inside c rest hc hu digits' after' hrec ih => cases h; simp [ih hrec]
  | case4 inside c rest hc hu => cases h; rfl

theorem letterOf_eq {letters cs found after : List Char}
    (h : letterOf letters cs = (found, after)) : found ++ after = cs := by
  fun_cases letterOf letters cs with
  | case1 => cases h; rfl
  | case2 c rest hc => rw [letterOf, if_pos hc] at h; cases h; rfl
  | case3 c rest hc => rw [letterOf, if_neg hc] at h; cases h; rfl

theorem exponent_eq {cs power after : List Char} (h : exponent cs = (power, after)) :
    power ++ after = cs := by
  cases cs with
  | nil => cases h; rfl
  | cons c rest =>
      rcases hsign : letterOf ['+', '-'] rest with ⟨sign, afterSign⟩
      rcases hdigits : decimalDigits false afterSign with ⟨digits, afterDigits⟩
      simp only [exponent, hsign, hdigits] at h
      split at h
      · split at h
        · cases h
          rfl
        · cases h
          simp [decimalDigits_eq hdigits, letterOf_eq hsign]
      · cases h
        rfl

theorem decimalNumeral_eq {cs text after : List Char} (h : decimalNumeral cs = (text, after)) :
    text ++ after = cs := by
  rcases hwhole : decimalDigits false cs with ⟨whole, rest⟩
  rcases hpoint : letterOf ['.'] rest with ⟨point, afterPoint⟩
  rcases hfraction : decimalDigits false afterPoint with ⟨fraction, afterFraction⟩
  have hrest := decimalDigits_eq hwhole
  simp only [decimalNumeral, hwhole, hpoint, hfraction] at h
  split at h
  · rcases hpower : exponent rest with ⟨power, afterPower⟩
    simp only [hpower] at h
    split at h
    · cases h
      rfl
    · split at h
      · rcases hmark : letterOf ['L', 'l', 'J', 'j'] rest with ⟨mark, afterMark⟩
        simp only [hmark] at h
        cases h
        rw [List.append_assoc, letterOf_eq hmark, hrest]
      · rcases hmark : letterOf ['L', 'l', 'J', 'j'] afterPower with ⟨mark, afterMark⟩
        simp only [hmark] at h
        cases h
        rw [List.append_assoc, letterOf_eq hmark, List.append_assoc, exponent_eq hpower, hrest]
  · rcases hpower : exponent afterFraction with ⟨power, afterPower⟩
    rcases hmark : letterOf ['L', 'l', 'J', 'j'] afterPower with ⟨mark, afterMark⟩
    simp only [hpower, hmark] at h
    cases h
    rw [List.append_assoc, letterOf_eq hmark, List.append_assoc, exponent_eq hpower,
      List.append_assoc, decimalDigits_eq hfraction, List.append_assoc, letterOf_eq hpoint, hrest]

theorem markedNumeral?_eq_some {cs text after : List Char}
    (h : markedNumeral? cs = some (text, after)) : text ++ after = cs := by
  unfold markedNumeral? at h
  split at h
  · rename_i m rest
    dsimp only at h
    generalize hbase : (if m = 'x' || m = 'X' then 16 else if m = 'o' || m = 'O' then 8
      else if m = 'b' || m = 'B' then 2 else 0) = base at h
    rcases hdigits : markedDigits base rest with ⟨digits, afterDigits⟩
    rcases hmark : letterOf ['L', 'l'] afterDigits with ⟨mark, afterMark⟩
    simp only [hdigits, hmark] at h
    split at h
    · cases h
    · cases h
      simp [letterOf_eq hmark, markedDigits_eq hdigits]
  · cases h

/-- A numeral is taken from the front of the text. -/
theorem numeral?_eq_some {cs text after : List Char} (h : numeral? cs = some (text, after)) :
    text ++ after = cs := by
  unfold numeral? at h
  split at h
  · rename_i found hmarked
    cases h
    exact markedNumeral?_eq_some hmarked
  · rcases hdecimal : decimalNumeral cs with ⟨text', after'⟩
    simp only [hdecimal] at h
    split at h
    · cases h
    · cases h
      exact decimalNumeral_eq hdecimal

end TestCensus.Source
