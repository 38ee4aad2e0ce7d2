import TestCensus.Json.Printer
import TestCensus.Json.Reader
import TestCensus.Proofs.Text.Numeral

/-!
# Written JSON is read back

`read` reads what `written` writes, whatever the value is (`read_render`).  Values are
nested, so the argument follows them: a value is read back if the values in it are
(`Readable`), and for each kind of value there is one lemma.  Arrays and objects have
the same layout (`listText`) and are read in the same way (`bracketed_listText`).
-/

namespace TestCensus.Json

open TestCensus.Text

/-! ## What values say -/

mutual

/-- What the text of a value says. -/
def Value.datum : Value → Datum
  | .null => .null
  | .bool b => .bool b
  | .nat n => .number false n 0
  | .tenths n => .number false n (-1)
  | .text s => .text s
  | .array items => .array (Value.datums items)
  | .object members => .object (Value.memberDatums members)

/-- What the elements of an array say. -/
def Value.datums : List Value → List Datum
  | [] => []
  | v :: rest => v.datum :: Value.datums rest

/-- What the members of an object say. -/
def Value.memberDatums : List (String × Value) → List (String × Datum)
  | [] => []
  | (name, v) :: rest => (name, v.datum) :: Value.memberDatums rest

end

theorem Value.datums_eq_map (vs : List Value) : Value.datums vs = vs.map Value.datum := by
  induction vs with
  | nil => rfl
  | cons v vs ih => rw [Value.datums, ih, List.map_cons]

theorem Value.memberDatums_eq_map (members : List (String × Value)) :
    Value.memberDatums members = members.map fun m => (m.1, m.2.datum) := by
  induction members with
  | nil => rfl
  | cons m members ih => rw [Value.memberDatums, ih, List.map_cons]

/-! ## Space -/

/-- A line end and the spaces behind it are space. -/
theorem skipSpace_newLine (depth : Nat) (cs : List Char) :
    skipSpace (newLine depth ++ cs) = skipSpace cs := by
  have hspace : ∀ c ∈ newLine depth, isSpace c = true := by
    intro c hc
    rcases List.mem_cons.1 hc with rfl | hc
    · rfl
    · rw [(List.mem_replicate.1 hc).2]
      rfl
  rw [skipSpace, List.dropWhile_append_of_pos hspace, skipSpace]

/-! ## Texts -/

/-- The code unit of a control character is the character itself. -/
theorem textRest_control {c : Char} (h : c.toNat < 0x20) (rest : List Char) :
    textRest ('\\' :: 'u' :: fourDigits c.toNat ++ rest) = prepend c (textRest rest) := by
  have hsmall : ∀ n < 0x20, codeUnit? (fourDigits n) = some n := by decide +kernel
  have hunit := hsmall _ h
  have hleading : isLeading c.toNat = false := by
    simp only [isLeading, Bool.and_eq_false_iff, decide_eq_false_iff_not]
    omega
  have htrailing : isTrailing c.toNat = false := by
    simp only [isTrailing, Bool.and_eq_false_iff, decide_eq_false_iff_not]
    omega
  rw [fourDigits] at hunit ⊢
  simp only [List.cons_append, List.nil_append]
  rw [textRest, hunit, Option.bind_some, hleading, htrailing, Char.ofNat_toNat]
  rfl

theorem textRest_escapedChar (c : Char) (rest : List Char) :
    textRest (escapedChar c ++ rest) = prepend c (textRest rest) := by
  unfold escapedChar
  split
  next h =>
    rw [Bool.or_eq_true, decide_eq_true_eq, decide_eq_true_eq] at h
    rcases h with rfl | rfl
    · exact textRest_letter rfl rest
    · exact textRest_letter rfl rest
  next hself =>
  simp only [Bool.or_eq_true, decide_eq_true_eq, not_or] at hself
  split
  next h => subst h; exact textRest_letter rfl rest
  next =>
  split
  next h => subst h; exact textRest_letter rfl rest
  next =>
  split
  next h => subst h; exact textRest_letter rfl rest
  next =>
  split
  next h => subst h; exact textRest_letter rfl rest
  next =>
  split
  next h => subst h; exact textRest_letter rfl rest
  next =>
  split
  next h => exact textRest_control h rest
  next h => exact textRest_plain hself.1 hself.2 h rest

theorem textRest_flatMap (cs rest : List Char) :
    textRest (cs.flatMap escapedChar ++ '"' :: rest) = some (cs, rest) := by
  induction cs with
  | nil => rfl
  | cons c cs ih =>
      rw [List.flatMap_cons, List.append_assoc, textRest_escapedChar, ih, prepend_some]

theorem text_writtenText (s : String) (rest : List Char) :
    text (writtenText s ++ rest) = some (s, rest) := by
  rw [writtenText, List.append_assoc, List.cons_append, text, List.singleton_append,
    textRest_flatMap, Option.map_some]
  exact congrArg (fun s => some (s, rest)) String.ofList_toList

/-! ## Numbers -/

/-- A text that goes on with no number: it is empty, or it begins with a comma or a line
end. -/
def EndsValue (rest : List Char) : Prop := ∀ c ∈ rest.head?, c = ',' ∨ c = '\n'

theorem digits_append {ds : List Char} (hdigits : ∀ d ∈ ds, d.isDigit = true) (hne : ds ≠ [])
    {rest : List Char} (hrest : ∀ c ∈ rest.head?, c.isDigit = false) :
    digits (ds ++ rest) = some (ds, rest) := by
  have htake : rest.takeWhile Char.isDigit = [] := by
    cases rest with
    | nil => rfl
    | cons c rest => exact List.takeWhile_cons_of_neg (by simp [hrest c rfl])
  have hdrop : rest.dropWhile Char.isDigit = rest := by
    cases rest with
    | nil => rfl
    | cons c rest => exact List.dropWhile_cons_of_neg (by simp [hrest c rfl])
  rw [digits, List.takeWhile_append_of_pos hdigits, htake, List.append_nil,
    List.dropWhile_append_of_pos hdigits, hdrop]
  simp [hne]

theorem wholeDigits_append {n : Nat} {ds : List Char} (h : IsNumeral n ds) {rest : List Char}
    (hrest : ∀ c ∈ rest.head?, c.isDigit = false) :
    wholeDigits (ds ++ rest) = some (ds, rest) := by
  obtain ⟨d, ds, rfl, hleading⟩ := h.leading
  rw [wholeDigits, digits_append h.decimal (List.cons_ne_nil d ds) hrest]
  refine Option.filter_some_pos ?_
  by_cases hd : d = '0'
  · rw [hd, hleading hd]
    rfl
  · simp [hd]

theorem EndsValue.fraction_eq {rest : List Char} (h : EndsValue rest) :
    fraction rest = some ([], rest) := by
  unfold fraction
  split
  next => exact absurd (h '.' rfl) (by decide)
  next => rfl

theorem EndsValue.exponent_eq {rest : List Char} (h : EndsValue rest) :
    exponent rest = some (0, rest) := by
  cases rest with
  | nil => rfl
  | cons c rest =>
      rcases h c rfl with rfl | rfl
      · rfl
      · rfl

theorem EndsValue.not_isDigit {rest : List Char} (h : EndsValue rest) :
    ∀ c ∈ rest.head?, c.isDigit = false := by
  intro c hc
  rcases h c hc with rfl | rfl
  · rfl
  · rfl

theorem unsigned_nat (n : Nat) {rest : List Char} (h : EndsValue rest) :
    unsigned false ((toString n).toList ++ rest) = some (.number false n 0, rest) := by
  have hnumeral := isNumeral_toString n
  rw [unsigned, wholeDigits_append hnumeral h.not_isDigit]
  simp only [Option.bind_eq_bind, Option.bind_some, h.fraction_eq, h.exponent_eq,
    List.append_nil, hnumeral.value]
  rfl

/-- The digits on both sides of a point are those of the number of tenths. -/
theorem ofDigitChars_tenths (n : Nat) :
    Nat.ofDigitChars 10 ((toString (n / 10)).toList ++ (toString (n % 10)).toList) 0 = n := by
  have hdigit : (toString (n % 10)).toList = [(n % 10).digitChar] := by
    rw [Nat.toString_eq_repr, Nat.toList_repr, Nat.toDigits_of_lt_base (by omega)]
  rw [Nat.ofDigitChars_append, (isNumeral_toString (n / 10)).value, hdigit,
    Nat.ofDigitChars_cons_digitChar_of_lt_ten (by omega), Nat.ofDigitChars_nil]
  omega

theorem tenthsText_append (n : Nat) (rest : List Char) :
    (Number.tenthsText n).toList ++ rest =
      (toString (n / 10)).toList ++ '.' :: ((toString (n % 10)).toList ++ rest) := by
  have hpoint : ".".toList = ['.'] := by decide +kernel
  rw [Number.tenthsText, String.toList_append, String.toList_append, hpoint]
  simp only [List.append_assoc, List.cons_append, List.nil_append]

theorem unsigned_tenths (n : Nat) {rest : List Char} (h : EndsValue rest) :
    unsigned false ((Number.tenthsText n).toList ++ rest) = some (.number false n (-1), rest) := by
  have hwhole := isNumeral_toString (n / 10)
  have hpart := isNumeral_toString (n % 10)
  have hne : (toString (n % 10)).toList ≠ [] := by
    obtain ⟨d, ds, hds, -⟩ := hpart.leading
    rw [hds]
    exact List.cons_ne_nil d ds
  have hlength : (toString (n % 10)).toList.length = 1 := by
    rw [Nat.toString_eq_repr, Nat.toList_repr, Nat.toDigits_of_lt_base (by omega)]
    rfl
  rw [tenthsText_append, unsigned, wholeDigits_append hwhole (by simp)]
  simp only [Option.bind_eq_bind, Option.bind_some, fraction,
    digits_append hpart.decimal hne h.not_isDigit, h.exponent_eq, ofDigitChars_tenths, hlength]
  rfl

/-! ## Values without others in them -/

/-- Space before a value does not count. -/
theorem value_skip (n depth : Nat) (cs : List Char) :
    value n (newLine depth ++ cs) = value n cs :=
  value_congr (skipSpace_newLine depth cs) n

theorem not_space_of_isDigit {d : Char} (hd : d.isDigit = true) : isSpace d = false := by
  simp [isSpace, ne_of_isDigit hd (show ' '.isDigit = false by decide),
    ne_of_isDigit hd (show '\t'.isDigit = false by decide),
    ne_of_isDigit hd (show '\n'.isDigit = false by decide),
    ne_of_isDigit hd (show '\r'.isDigit = false by decide)]

/-- A number begins with one of its digits. -/
theorem value_digit (n : Nat) {d : Char} (hd : d.isDigit = true) (cs : List Char) :
    value (n + 1) (d :: cs) = unsigned false (d :: cs) := by
  have hne : ∀ {x : Char} {rest : List Char}, x.isDigit = false → d :: cs ≠ x :: rest :=
    fun hx heq => ne_of_isDigit hd hx (List.cons.inj heq).1
  rw [value, skipSpace_of_not_space (not_space_of_isDigit hd)]
  split
  next heq => exact absurd heq (hne (by decide))
  next heq => exact absurd heq (hne (by decide))
  next heq => exact absurd heq (hne (by decide))
  next heq => exact absurd heq (hne (by decide))
  next heq => exact absurd heq (hne (by decide))
  next heq => exact absurd heq (hne (by decide))
  next =>
    unfold number
    split
    next heq => exact absurd heq (hne (by decide))
    next => rfl

/-- A value is read back at every depth, whatever does not go on with it. -/
def Readable (v : Value) : Prop :=
  ∀ depth n rest, (written depth v).length < n → EndsValue rest →
    value n (written depth v ++ rest) = some (v.datum, rest)

/-- A number is read back if its digits are. -/
theorem value_numeral {m : Nat} {ds : List Char} (h : IsNumeral m ds) {n : Nat} (hn : 0 < n)
    (cs : List Char) : value n (ds ++ cs) = unsigned false (ds ++ cs) := by
  obtain ⟨n, rfl⟩ := Nat.exists_eq_succ_of_ne_zero (Nat.ne_of_gt hn)
  obtain ⟨d, ds, rfl, -⟩ := h.leading
  exact value_digit n (h.decimal d List.mem_cons_self) (ds ++ cs)

theorem readable_null : Readable .null := by
  intro depth n rest hn hrest
  obtain ⟨n, rfl⟩ := Nat.exists_eq_succ_of_ne_zero (Nat.ne_zero_of_lt hn)
  rfl

theorem readable_bool (b : Bool) : Readable (.bool b) := by
  intro depth n rest hn hrest
  obtain ⟨n, rfl⟩ := Nat.exists_eq_succ_of_ne_zero (Nat.ne_zero_of_lt hn)
  cases b with
  | false => rfl
  | true => rfl

theorem readable_nat (m : Nat) : Readable (.nat m) := by
  intro depth n rest hn hrest
  have hwritten : written depth (.nat m) = (toString m).toList := rfl
  rw [hwritten, value_numeral (isNumeral_toString m) (Nat.zero_lt_of_lt hn), unsigned_nat m hrest]
  rfl

theorem readable_tenths (m : Nat) : Readable (.tenths m) := by
  intro depth n rest hn hrest
  have hread := unsigned_tenths m hrest
  have hwritten : written depth (.tenths m) = (Number.tenthsText m).toList := rfl
  rw [tenthsText_append] at hread
  rw [hwritten, tenthsText_append,
    value_numeral (isNumeral_toString (m / 10)) (Nat.zero_lt_of_lt hn), hread]
  rfl

theorem readable_text (s : String) : Readable (.text s) := by
  intro depth n rest hn hrest
  obtain ⟨n, rfl⟩ := Nat.exists_eq_succ_of_ne_zero (Nat.ne_zero_of_lt hn)
  have hread : value (n + 1) (writtenText s ++ rest) =
      (text (writtenText s ++ rest)).map fun read => (.text read.1, read.2) := rfl
  have hwritten : written depth (.text s) = writtenText s := rfl
  rw [hwritten, hread, text_writtenText]
  rfl

/-! ## Lists of parts between brackets -/

/-- The parts behind the first one, each on a line of its own. -/
def partLines (depth : Nat) (parts : List (List Char)) : List Char :=
  parts.flatMap fun cs => ',' :: newLine depth ++ cs

/-- Parts between brackets, as an array or an object is written. -/
def listText (openChar closeChar : Char) (depth : Nat) : List (List Char) → List Char
  | [] => [openChar, closeChar]
  | cs :: parts =>
      openChar :: newLine (depth + 1) ++ cs ++ partLines (depth + 1) parts ++ newLine depth ++
        [closeChar]

/-- A member of an object as it is written. -/
def memberText (depth : Nat) (m : String × Value) : List Char :=
  writtenText m.1 ++ [':', ' '] ++ written depth m.2

theorem writtenItems_eq (depth : Nat) (vs : List Value) :
    writtenItems depth vs = partLines depth (vs.map (written depth)) := by
  induction vs with
  | nil => rfl
  | cons v vs ih =>
      rw [writtenItems, ih, partLines, partLines, List.map_cons, List.flatMap_cons]

theorem writtenMembers_eq (depth : Nat) (members : List (String × Value)) :
    writtenMembers depth members = partLines depth (members.map (memberText depth)) := by
  induction members with
  | nil => rfl
  | cons m members ih =>
      rw [writtenMembers, ih, partLines, partLines, List.map_cons, List.flatMap_cons, memberText]
      simp only [List.append_assoc]

theorem written_array (depth : Nat) (vs : List Value) :
    written depth (.array vs) = listText '[' ']' depth (vs.map (written (depth + 1))) := by
  cases vs with
  | nil => rfl
  | cons v vs =>
      have hwritten : written depth (.array (v :: vs)) = '[' :: newLine (depth + 1) ++
        written (depth + 1) v ++ writtenItems (depth + 1) vs ++ newLine depth ++ [']'] := rfl
      rw [hwritten, writtenItems_eq]
      rfl

theorem written_object (depth : Nat) (members : List (String × Value)) :
    written depth (.object members) =
      listText '{' '}' depth (members.map (memberText (depth + 1))) := by
  cases members with
  | nil => rfl
  | cons m members =>
      have hwritten : written depth (.object (m :: members)) = '{' :: newLine (depth + 1) ++
        writtenText m.1 ++ [':', ' '] ++ written (depth + 1) m.2 ++
        writtenMembers (depth + 1) members ++ newLine depth ++ ['}'] := rfl
      rw [hwritten, writtenMembers_eq, List.map_cons, listText, memberText]
      simp only [List.append_assoc]

theorem partLines_cons (depth : Nat) (cs : List Char) (parts : List (List Char)) :
    partLines depth (cs :: parts) = ',' :: (newLine depth ++ (cs ++ partLines depth parts)) := by
  rw [partLines, List.flatMap_cons, List.append_assoc]
  rfl

theorem length_le_partLines {depth : Nat} {parts : List (List Char)} {cs : List Char}
    (h : cs ∈ parts) : cs.length ≤ (partLines depth parts).length := by
  induction h with
  | head parts =>
      rw [partLines_cons]
      simp only [List.length_cons, List.length_append]
      omega
  | tail first _ ih =>
      rw [partLines_cons]
      simp only [List.length_cons, List.length_append]
      omega

/-- A part is shorter than what it is a part of. -/
theorem length_lt_listText (openChar closeChar : Char) (depth : Nat) {parts : List (List Char)}
    {cs : List Char} (h : cs ∈ parts) :
    cs.length + 1 < (listText openChar closeChar depth parts).length := by
  cases h with
  | head parts =>
      simp only [listText, List.length_cons, List.length_append]
      omega
  | tail first h =>
      have hle : cs.length ≤ (partLines (depth + 1) _).length := length_le_partLines h
      simp only [listText, List.length_cons, List.length_append]
      omega

theorem length_parts_le (depth : Nat) (parts : List (List Char)) :
    parts.length ≤ (partLines depth parts).length := by
  induction parts with
  | nil => exact Nat.le_refl 0
  | cons cs parts ih =>
      rw [partLines_cons]
      simp only [List.length_cons, List.length_append]
      omega

/-- A part of a list is read back. -/
structure ReadsPart (item : Reader α) (closeChar : Char) (part : List Char × α) : Prop where
  /-- It begins with neither space nor the closing bracket. -/
  head : ∃ c cs, part.1 = c :: cs ∧ isSpace c = false ∧ c ≠ closeChar
  /-- It is read as what it says. -/
  read : ∀ rest, EndsValue rest → item (part.1 ++ rest) = some (part.2, rest)

section Lists

variable {item : Reader α} {closeChar : Char}

theorem items_skip {depth : Nat} (hskip : ∀ cs, item (newLine depth ++ cs) = item cs) (n : Nat)
    (cs : List Char) :
    items closeChar item n (newLine depth ++ cs) = items closeChar item n cs := by
  cases n with
  | zero => rfl
  | succ n => rw [items, items, hskip]

/-- Behind a part there is a comma or a line end. -/
theorem endsValue_partLines (depth depth' : Nat) (parts : List (List Char)) (rest : List Char) :
    EndsValue (partLines depth parts ++ (newLine depth' ++ rest)) := by
  intro c hc
  cases parts with
  | nil =>
      cases hc
      exact .inr rfl
  | cons cs parts =>
      rw [partLines_cons] at hc
      cases hc
      exact .inl rfl

theorem items_parts {depth : Nat} (hspace : isSpace closeChar = false) (hcomma : closeChar ≠ ',')
    (hskip : ∀ cs, item (newLine (depth + 1) ++ cs) = item cs) {part : List Char × α}
    (hpart : ReadsPart item closeChar part) {parts : List (List Char × α)}
    (hparts : ∀ part ∈ parts, ReadsPart item closeChar part) {n : Nat} (hn : parts.length < n)
    (rest : List Char) :
    items closeChar item n
        (part.1 ++ (partLines (depth + 1) (parts.map Prod.fst) ++
          (newLine depth ++ closeChar :: rest))) =
      some (part.2 :: parts.map Prod.snd, rest) := by
  induction parts generalizing part n with
  | nil =>
      obtain ⟨n, rfl⟩ := Nat.exists_eq_succ_of_ne_zero (Nat.ne_zero_of_lt hn)
      refine items_last n (hpart.read _ (endsValue_partLines _ _ _ _)) ?_
      rw [List.map_nil, partLines, List.flatMap_nil, List.nil_append, skipSpace_newLine,
        skipSpace_of_not_space hspace]
  | cons next parts ih =>
      obtain ⟨n, rfl⟩ := Nat.exists_eq_succ_of_ne_zero (Nat.ne_zero_of_lt hn)
      rw [List.forall_mem_cons] at hparts
      have hmore := ih hparts.1 hparts.2 (Nat.lt_of_succ_lt_succ hn)
      rw [← items_skip hskip] at hmore
      refine items_next hcomma (hpart.read _ (endsValue_partLines _ _ _ _)) ?_ hmore
      rw [List.map_cons, partLines_cons, List.cons_append, skipSpace_of_not_space (by decide)]
      simp only [List.append_assoc]

/-- What stands between brackets is read back if its parts are. -/
theorem bracketed_listText (openChar : Char) {depth : Nat} (hspace : isSpace closeChar = false)
    (hcomma : closeChar ≠ ',') (hskip : ∀ cs, item (newLine (depth + 1) ++ cs) = item cs)
    {parts : List (List Char × α)} (hparts : ∀ part ∈ parts, ReadsPart item closeChar part)
    (rest : List Char) :
    ∃ cs, listText openChar closeChar depth (parts.map Prod.fst) ++ rest = openChar :: cs ∧
      bracketed closeChar item cs = some (parts.map Prod.snd, rest) := by
  cases parts with
  | nil =>
      refine ⟨closeChar :: rest, rfl, ?_⟩
      rw [bracketed, skipSpace_of_not_space hspace]
      exact if_pos rfl
  | cons part parts =>
      rw [List.forall_mem_cons] at hparts
      refine ⟨newLine (depth + 1) ++ (part.1 ++ (partLines (depth + 1) (parts.map Prod.fst) ++
        (newLine depth ++ closeChar :: rest))), ?_, ?_⟩
      · simp [listText]
      · -- The bound of the reader is the length of its text, and every part has a character.
        have hread := fun n (hn : parts.length < n) =>
          items_parts hspace hcomma hskip hparts.1 hparts.2 hn rest
        obtain ⟨c, cs, hcs, hc, hne⟩ := hparts.1.head
        rw [bracketed, skipSpace_newLine]
        rw [hcs, List.cons_append] at hread ⊢
        rw [skipSpace_of_not_space hc]
        dsimp only
        rw [if_neg hne, hread]
        · rfl
        · have hlength := length_parts_le (depth + 1) (parts.map Prod.fst)
          simp only [List.length_append, List.length_map] at hlength ⊢
          omega

end Lists

/-! ## Arrays and objects -/

/-- A numeral begins with neither space nor the end of an array. -/
theorem exists_numeral {n : Nat} {ds : List Char} (h : IsNumeral n ds) (rest : List Char) :
    ∃ c cs, ds ++ rest = c :: cs ∧ isSpace c = false ∧ c ≠ ']' := by
  obtain ⟨d, ds, rfl, -⟩ := h.leading
  have hd := h.decimal d List.mem_cons_self
  exact ⟨d, ds ++ rest, rfl, not_space_of_isDigit hd, ne_of_isDigit hd (by decide)⟩

/-- A value begins with neither space nor the end of an array. -/
theorem exists_written (depth : Nat) (v : Value) :
    ∃ c cs, written depth v = c :: cs ∧ isSpace c = false ∧ c ≠ ']' := by
  cases v with
  | null => exact ⟨_, _, rfl, rfl, by decide⟩
  | bool b =>
      cases b with
      | false => exact ⟨_, _, rfl, rfl, by decide⟩
      | true => exact ⟨_, _, rfl, rfl, by decide⟩
  | nat n =>
      have h := exists_numeral (isNumeral_toString n) []
      rwa [List.append_nil] at h
  | tenths n =>
      have h := exists_numeral (isNumeral_toString (n / 10))
        ('.' :: ((toString (n % 10)).toList ++ []))
      rwa [← tenthsText_append, List.append_nil] at h
  | text s => exact ⟨_, _, rfl, rfl, by decide⟩
  | array items =>
      rw [written_array]
      cases items with
      | nil => exact ⟨_, _, rfl, rfl, by decide⟩
      | cons v items => exact ⟨_, _, rfl, rfl, by decide⟩
  | object members =>
      rw [written_object]
      cases members with
      | nil => exact ⟨_, _, rfl, rfl, by decide⟩
      | cons m members => exact ⟨_, _, rfl, rfl, by decide⟩

theorem value_array {n : Nat} {cs rest : List Char} {vs : List Datum}
    (h : bracketed ']' (value n) cs = some (vs, rest)) :
    value (n + 1) ('[' :: cs) = some (.array vs, rest) := by
  have hread : value (n + 1) ('[' :: cs) =
      (bracketed ']' (value n) cs).map fun read => (.array read.1, read.2) := rfl
  rw [hread, h]
  rfl

theorem value_object {n : Nat} {cs rest : List Char} {members : List (String × Datum)}
    (h : bracketed '}' (member (value n)) cs = some (members, rest)) :
    value (n + 1) ('{' :: cs) = some (.object members, rest) := by
  have hread : value (n + 1) ('{' :: cs) =
      (bracketed '}' (member (value n)) cs).map fun read => (.object read.1, read.2) := rfl
  rw [hread, h]
  rfl

theorem readable_array {vs : List Value} (h : ∀ v ∈ vs, Readable v) : Readable (.array vs) := by
  intro depth n rest hn hrest
  obtain ⟨n, rfl⟩ := Nat.exists_eq_succ_of_ne_zero (Nat.ne_zero_of_lt hn)
  rw [written_array] at hn ⊢
  have hparts : ∀ part ∈ vs.map fun v => (written (depth + 1) v, v.datum),
      ReadsPart (value n) ']' part := by
    intro part hpart
    obtain ⟨v, hv, rfl⟩ := List.mem_map.1 hpart
    -- An item is shorter than its array, so what is left of the bound is enough for it.
    have hlength := length_lt_listText '[' ']' depth
      (List.mem_map_of_mem (f := written (depth + 1)) hv)
    exact ⟨exists_written (depth + 1) v, fun rest hrest => h v hv _ _ rest (by omega) hrest⟩
  obtain ⟨cs, hcs, hread⟩ := bracketed_listText '[' (by decide) (by decide)
    (value_skip n (depth + 1)) hparts rest
  rw [List.map_map] at hcs hread
  have hdatum : Value.datum (.array vs) = .array (vs.map Value.datum) := by
    rw [Value.datum, Value.datums_eq_map]
  rw [hdatum]
  exact (congrArg _ hcs).trans (value_array hread)

theorem member_skip (n depth : Nat) (cs : List Char) :
    member (value n) (newLine depth ++ cs) = member (value n) cs := by
  rw [member, member, skipSpace_newLine]

/-- A member is read back if its value is. -/
theorem member_memberText {n depth : Nat} {m : String × Value} {rest : List Char}
    (h : value n (written depth m.2 ++ rest) = some (m.2.datum, rest)) :
    member (value n) (memberText depth m ++ rest) = some ((m.1, m.2.datum), rest) := by
  have hskip : skipSpace (writtenText m.1 ++ (':' :: ' ' :: (written depth m.2 ++ rest))) =
      writtenText m.1 ++ (':' :: ' ' :: (written depth m.2 ++ rest)) := rfl
  have hcolon : skipSpace (':' :: ' ' :: (written depth m.2 ++ rest)) =
      ':' :: ' ' :: (written depth m.2 ++ rest) := rfl
  have hspace : value n (' ' :: (written depth m.2 ++ rest)) = some (m.2.datum, rest) := by
    rw [← h]
    cases n with
    | zero => rfl
    | succ n => rfl
  rw [memberText, List.append_assoc, List.append_assoc, List.cons_append, List.cons_append,
    List.nil_append, member, hskip, text_writtenText]
  simp only [Option.bind_eq_bind, Option.bind_some, hcolon, hspace]
  rfl

theorem readable_object {members : List (String × Value)} (h : ∀ m ∈ members, Readable m.2) :
    Readable (.object members) := by
  intro depth n rest hn hrest
  obtain ⟨n, rfl⟩ := Nat.exists_eq_succ_of_ne_zero (Nat.ne_zero_of_lt hn)
  rw [written_object] at hn ⊢
  have hparts : ∀ part ∈ members.map fun m => (memberText (depth + 1) m, (m.1, m.2.datum)),
      ReadsPart (member (value n)) '}' part := by
    intro part hpart
    obtain ⟨m, hm, rfl⟩ := List.mem_map.1 hpart
    have hlength := length_lt_listText '{' '}' depth
      (List.mem_map_of_mem (f := memberText (depth + 1)) hm)
    have hvalue : (written (depth + 1) m.2).length ≤ (memberText (depth + 1) m).length := by
      rw [memberText, List.length_append]
      omega
    exact ⟨⟨_, _, rfl, rfl, by decide⟩,
      fun rest hrest => member_memberText (h m hm _ _ rest (by omega) hrest)⟩
  obtain ⟨cs, hcs, hread⟩ := bracketed_listText '{' (by decide) (by decide)
    (member_skip n (depth + 1)) hparts rest
  rw [List.map_map] at hcs hread
  have hdatum : Value.datum (.object members) =
      .object (members.map fun m => (m.1, m.2.datum)) := by
    rw [Value.datum, Value.memberDatums_eq_map]
  rw [hdatum]
  exact (congrArg _ hcs).trans (value_object hread)

/-! ## All values -/

mutual

/-- Every value is read back. -/
theorem readable : ∀ v : Value, Readable v
  | .null => readable_null
  | .bool b => readable_bool b
  | .nat n => readable_nat n
  | .tenths n => readable_tenths n
  | .text s => readable_text s
  | .array items => readable_array (readable_items items)
  | .object members => readable_object (readable_members members)

theorem readable_items : ∀ vs : List Value, ∀ v ∈ vs, Readable v
  | [] => nofun
  | v :: rest => List.forall_mem_cons.2 ⟨readable v, readable_items rest⟩

theorem readable_members : ∀ members : List (String × Value), ∀ m ∈ members, Readable m.2
  | [] => nofun
  | (_, v) :: rest => List.forall_mem_cons.2 ⟨readable v, readable_members rest⟩

end

/-- A value that is written on its own is read as what it says. -/
theorem read_render (v : Value) : read v.render.toList = some v.datum := by
  have hread := readable v 0 ((written 0 v).length + 1) [] (Nat.lt_succ_self _) nofun
  rw [List.append_nil] at hread
  rw [Value.render, String.toList_ofList, read, hread]
  rfl

/-- The reader knows other ways to write a value, too. -/
example : read "[-2.50e3, \"\\ud83d\\ude00\\/\"]".toList =
    some (.array [.number true 250 1, .text "😀/"]) := by cbv

/-- A comma behind the last element is not one of them. -/
example : (read "[1,]".toList).isNone = true := by decide +kernel

end TestCensus.Json
