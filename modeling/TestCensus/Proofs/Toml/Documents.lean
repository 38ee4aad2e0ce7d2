import TestCensus.Proofs.Toml.Values

/-!
# Written documents are read back

A document of settings consists of sections, and a section of a header and the
settings that are there.  Reading it has two halves.

* *Lines*.  `lines` reads the lines of a text one after the other, so what is known of
  two texts is known of the one behind the other (`Lists.append`).
* *Tables*.  The lines of a section whose name is new add a table with the settings of
  the section, and leave the rest alone (`addAll_section`).

`read_sections` puts both together.
-/

namespace TestCensus.Toml

/-! ## Keys -/

/-- A key that needs no quotes. -/
def isBareKey (name : String) : Bool := !name.toList.isEmpty && name.toList.all isKeyChar

theorem isBareKey_iff {name : String} :
    isBareKey name = true ↔ name.toList ≠ [] ∧ ∀ c ∈ name.toList, isKeyChar c = true := by
  rw [isBareKey, Bool.and_eq_true, List.all_eq_true, Bool.not_eq_true', List.isEmpty_eq_false_iff]

/-- A character of a key has no other meaning at the beginning of a line. -/
structure StartsKey (c : Char) : Prop where
  /-- It begins no quoted key. -/
  ne_double : c ≠ '"'
  /-- It begins no literal key. -/
  ne_single : c ≠ '\''
  /-- It begins no header. -/
  ne_bracket : c ≠ '['
  /-- It begins no comment. -/
  ne_comment : c ≠ '#'
  /-- It ends no line. -/
  ne_lineEnd : c ≠ '\n'
  /-- It does not belong to the end of a line. -/
  ne_return : c ≠ '\r'
  /-- It separates nothing. -/
  not_space : isSpace c = false

theorem startsKey_of_isKeyChar {c : Char} (h : isKeyChar c = true) : StartsKey c := by
  have hne : ∀ x : Char, isKeyChar x = false → c ≠ x := by
    rintro x hx rfl
    exact Bool.false_ne_true (hx.symm.trans h)
  exact
    { ne_double := hne _ (by decide)
      ne_single := hne _ (by decide)
      ne_bracket := hne _ (by decide)
      ne_comment := hne _ (by decide)
      ne_lineEnd := hne _ (by decide)
      ne_return := hne _ (by decide)
      not_space := by simp [isSpace, hne ' ' (by decide), hne '\t' (by decide)] }

theorem exists_startsKey {name : String} (h : isBareKey name = true) :
    ∃ c cs, name.toList = c :: cs ∧ isKeyChar c = true ∧ StartsKey c := by
  cases hname : name.toList with
  | nil => exact absurd hname (isBareKey_iff.1 h).1
  | cons c cs =>
      have hc := (isBareKey_iff.1 h).2 c (hname ▸ List.mem_cons_self)
      exact ⟨c, cs, rfl, hc, startsKey_of_isKeyChar hc⟩

theorem skipSpaces_of_not_space {c : Char} (h : isSpace c = false) (rest : List Char) :
    skipSpaces (c :: rest) = c :: rest := by
  rw [skipSpaces, List.dropWhile_cons_of_neg (by simp [h])]

theorem keyPart_append {name : String} (h : isBareKey name = true) {x : Char}
    (hx : isKeyChar x = false) (rest : List Char) :
    keyPart (name.toList ++ x :: rest) = some (name, x :: rest) := by
  have hall := (isBareKey_iff.1 h).2
  have htake : (name.toList ++ x :: rest).takeWhile isKeyChar = name.toList := by
    rw [List.takeWhile_append_of_pos hall, List.takeWhile_cons_of_neg (by simp [hx]),
      List.append_nil]
  have hdrop : (name.toList ++ x :: rest).dropWhile isKeyChar = x :: rest := by
    rw [List.dropWhile_append_of_pos hall, List.dropWhile_cons_of_neg (by simp [hx])]
  obtain ⟨c, cs, hname, hc, hstart⟩ := exists_startsKey h
  rw [hname, List.cons_append] at htake hdrop ⊢
  unfold keyPart
  dsimp only
  rw [if_neg (by simp [hstart.ne_double, hstart.ne_single]), if_pos hc, htake, hdrop, ← hname,
    String.ofList_toList]

/-- A key of one part ends before a character that neither goes on with it nor is
space. -/
theorem key_append {name : String} (h : isBareKey name = true) {x y : Char}
    (hx : isKeyChar x = false) {rest rest' : List Char}
    (hrest : skipSpaces (x :: rest) = y :: rest') (hy : y ≠ '.') :
    key depthLimit (name.toList ++ x :: rest) = some (([], name), y :: rest') := by
  have hpart := keyPart_append h hx rest
  obtain ⟨c, cs, hname, hc, hstart⟩ := exists_startsKey h
  rw [hname, List.cons_append] at hpart ⊢
  show key (78 + 1) _ = _
  rw [key, skipSpaces_of_not_space hstart.not_space, hpart]
  simp only [Option.bind_eq_bind, Option.bind_some, hrest]
  split
  next heq => exact absurd (List.cons.inj heq).1 hy
  next => rfl

/-! ## Lines -/

/-- A text that is read as a value before a line end. -/
structure IsWritten (cs : List Char) (v : Value) : Prop where
  /-- It begins with no space. -/
  unspaced : ∀ rest, skipSpaces (cs ++ rest) = cs ++ rest
  /-- It is read as the value. -/
  read : ∀ rest, value depthLimit (cs ++ '\n' :: rest) = some (v, '\n' :: rest)

/-- A text is read as lines, whatever follows it. -/
def Lists (cs : List Char) (ls : List Line) : Prop :=
  ∀ n rest, (cs ++ rest).length < n →
    ∃ m, rest.length < m ∧ lines n (cs ++ rest) = (lines m rest).map (ls ++ ·)

theorem Lists.nil : Lists [] [] := by
  intro n rest hn
  refine ⟨n, hn, ?_⟩
  show lines n rest = (lines n rest).map id
  rw [Option.map_id, id]

theorem Lists.append {cs cs' : List Char} {ls ls' : List Line} (h : Lists cs ls)
    (h' : Lists cs' ls') : Lists (cs ++ cs') (ls ++ ls') := by
  intro n rest hn
  rw [List.append_assoc] at hn ⊢
  obtain ⟨m, hm, hlines⟩ := h n _ hn
  obtain ⟨k, hk, hlines'⟩ := h' m rest hm
  refine ⟨k, hk, ?_⟩
  rw [hlines, hlines', Option.map_map]
  congr 1
  funext more
  exact (List.append_assoc ls ls' more).symm

/-- A text without anything behind it. -/
theorem Lists.lines_eq {cs : List Char} {ls : List Line} (h : Lists cs ls) {n : Nat}
    (hn : cs.length < n) : lines n cs = some ls := by
  obtain ⟨m, hm, hlines⟩ := h n [] (by rwa [List.append_nil])
  obtain ⟨m, rfl⟩ := Nat.exists_eq_succ_of_ne_zero (Nat.ne_zero_of_lt hm)
  rw [List.append_nil] at hlines
  rw [hlines, lines]
  exact congrArg some (List.append_nil ls)

/-- An empty line counts as none. -/
theorem lists_blank : Lists ['\n'] [] := by
  intro n rest hn
  obtain ⟨n, rfl⟩ := Nat.exists_eq_succ_of_ne_zero (Nat.ne_zero_of_lt hn)
  refine ⟨n, Nat.lt_of_succ_lt_succ hn, ?_⟩
  show lines n rest = (lines n rest).map id
  rw [Option.map_id, id]

/-- The end of a line that a header or an assignment leaves. -/
theorem closeLine?_lineEnd (rest : List Char) : closeLine? ('\n' :: rest) = some rest := rfl

/-- A character that means something at the beginning of a line. -/
theorem closeLine?_of_ne {c : Char} (hspace : isSpace c = false) (hcomment : c ≠ '#')
    (hline : c ≠ '\n') (hreturn : c ≠ '\r') (rest : List Char) :
    closeLine? (c :: rest) = none := by
  have hskip : skipComment (c :: rest) = c :: rest := by
    unfold skipComment
    split
    next heq => exact absurd (List.cons.inj heq).1 hcomment
    next => rfl
  have hend : lineEnd? (c :: rest) = none := by
    unfold lineEnd?
    split
    next heq => exact absurd (List.cons.inj heq).1 hline
    next heq => exact absurd (List.cons.inj heq).1 hreturn
    next => rfl
  unfold closeLine?
  rw [skipSpaces_of_not_space hspace, hskip]
  exact hend

/-- A line of its own that is not blank. -/
theorem lists_line {c : Char} (cs : List Char) {l : Line} (hspace : isSpace c = false)
    (hclose : ∀ rest, closeLine? (c :: rest) = none)
    (hline : ∀ rest, line (c :: cs ++ '\n' :: rest) = some (l, '\n' :: rest)) :
    Lists (c :: cs ++ ['\n']) [l] := by
  intro n rest hn
  obtain ⟨n, rfl⟩ := Nat.exists_eq_succ_of_ne_zero (Nat.ne_zero_of_lt hn)
  refine ⟨n, ?_, ?_⟩
  · simp only [List.length_append, List.length_cons, List.length_nil] at hn
    omega
  · have hread := hline rest
    rw [List.append_assoc]
    rw [List.cons_append] at hread ⊢
    rw [lines, hclose, skipSpaces_of_not_space hspace]
    · simp only [List.cons_append, List.nil_append, hread, Option.bind_eq_bind, Option.bind_some,
        closeLine?_lineEnd]
      cases lines n rest with
      | none => rfl
      | some ls => rfl
    · exact List.cons_ne_nil _ _

theorem line_header {name : String} (h : isBareKey name = true) (rest : List Char) :
    line ('[' :: (name.toList ++ ']' :: rest)) = some (.header [] name, rest) := by
  have hkey : key depthLimit (name.toList ++ ']' :: rest) = some (([], name), ']' :: rest) :=
    key_append h (by decide) rfl (by decide)
  obtain ⟨c, cs, hname, hc, hstart⟩ := exists_startsKey h
  rw [hname, List.cons_append] at hkey ⊢
  rw [line, hkey]
  · rfl
  · exact fun _ heq => hstart.ne_bracket (List.cons.inj heq).1

theorem line_entry {name : String} (h : isBareKey name = true) {cs : List Char} {v : Value}
    (hv : IsWritten cs v) (rest : List Char) :
    line (name.toList ++ ' ' :: '=' :: ' ' :: (cs ++ '\n' :: rest)) =
      some (.assignment [] name v, '\n' :: rest) := by
  have hkey : key depthLimit (name.toList ++ ' ' :: '=' :: ' ' :: (cs ++ '\n' :: rest)) =
      some (([], name), '=' :: ' ' :: (cs ++ '\n' :: rest)) :=
    key_append h (by decide) rfl (by decide)
  have hspace : skipSpaces (' ' :: (cs ++ '\n' :: rest)) = cs ++ '\n' :: rest :=
    hv.unspaced ('\n' :: rest)
  obtain ⟨c, cs', hname, hc, hstart⟩ := exists_startsKey h
  rw [hname, List.cons_append] at hkey ⊢
  rw [line, keyAndSign, hkey]
  · simp [hspace, hv.read]
  · exact fun _ heq => absurd (List.cons.inj heq).1 hstart.ne_bracket
  · exact fun _ heq => absurd (List.cons.inj heq).1 hstart.ne_bracket

theorem lists_header {name : String} (h : isBareKey name = true) :
    Lists ('[' :: name.toList ++ [']', '\n']) [.header [] name] := by
  have hclose := closeLine?_of_ne (c := '[') rfl (by decide) (by decide) (by decide)
  have hlists := lists_line (name.toList ++ [']']) rfl hclose
    (fun rest => by simpa using line_header h ('\n' :: rest))
  simpa using hlists

/-- The line of an entry. -/
theorem lists_entry {name : String} (h : isBareKey name = true) {cs : List Char} {v : Value}
    (hv : IsWritten cs v) : Lists (writtenEntry name cs) [.assignment [] name v] := by
  have hread := line_entry h hv
  have hsign : " = ".toList = [' ', '=', ' '] := by decide +kernel
  obtain ⟨c, cs', hname, hc, hstart⟩ := exists_startsKey h
  rw [writtenEntry, hsign]
  rw [hname] at hread ⊢
  have hclose :=
    closeLine?_of_ne hstart.not_space hstart.ne_comment hstart.ne_lineEnd hstart.ne_return
  have hlists := lists_line (cs' ++ [' ', '=', ' '] ++ cs) hstart.not_space hclose
    (fun rest => by simpa using hread rest)
  simpa using hlists

/-! ## Sections -/

/-- The values that are there, with their names. -/
def present (fields : List (String × Option Value)) : Table :=
  fields.filterMap fun (name, v) => v.map (name, ·)

@[simp] theorem present_none (name : String) (fields : List (String × Option Value)) :
    present ((name, none) :: fields) = present fields := rfl

@[simp] theorem present_some (name : String) (v : Value) (fields : List (String × Option Value)) :
    present ((name, some v) :: fields) = (name, v) :: present fields := rfl

theorem present_names_sublist (fields : List (String × Option Value)) :
    ((present fields).map Prod.fst).Sublist (fields.map Prod.fst) := by
  induction fields with
  | nil => exact .slnil
  | cons field fields ih =>
      obtain ⟨name, v⟩ := field
      cases v with
      | none => exact ih.cons name
      | some v => exact ih.cons_cons name

theorem nodup_present {fields : List (String × Option Value)}
    (h : (fields.map Prod.fst).Nodup) : ((present fields).map Prod.fst).Nodup :=
  h.sublist (present_names_sublist fields)

/-- A part of a document with a name, and the settings that it may hold. -/
structure Section where
  /-- The name in the header. -/
  name : String
  /-- The names of the settings, with the values that are there. -/
  fields : List (String × Option Value)

/-- The line of a value with a name. -/
def assignment (entry : String × Value) : Line := .assignment [] entry.1 entry.2

namespace Section

/-- The lines of a section. -/
def lines (s : Section) : List Line := .header [] s.name :: (present s.fields).map assignment

/-- What a section adds to a table. -/
def entry (s : Section) : String × Value := (s.name, .table (present s.fields))

/-- No setting has a name twice. -/
def IsProper (s : Section) : Prop := (s.fields.map Prod.fst).Nodup

/-- A section adds a table under a header. -/
def item (s : Section) : String × Item :=
  (s.name, .table .headed ((present s.fields).map fun (name, v) => (name, .value v)))

end Section

theorem lookup_eq_none_of_not_mem {es : List (String × α)} {name : String}
    (h : name ∉ es.map Prod.fst) : es.lookup name = none := by
  rw [List.lookup_eq_none_iff]
  intro e he
  rw [bne_iff_ne]
  rintro rfl
  exact h (List.mem_map_of_mem he)

/-- Looking up a name gives its value, or nothing if the value is not there. -/
theorem lookup_present {fields : List (String × Option Value)}
    (h : (fields.map Prod.fst).Nodup) {name : String} {v : Option Value}
    (hmem : (name, v) ∈ fields) : (present fields).lookup name = v := by
  induction fields with
  | nil => cases hmem
  | cons field fields ih =>
      obtain ⟨hfirst, hrest⟩ := List.nodup_cons.1 h
      cases hmem with
      | head =>
          cases v with
          | none =>
              exact lookup_eq_none_of_not_mem
                fun hname => hfirst ((present_names_sublist fields).subset hname)
          | some v => exact List.lookup_cons_self
      | tail _ hmem =>
          have hne : name ≠ field.1 := by
            rintro rfl
            exact hfirst (List.mem_map.2 ⟨_, hmem, rfl⟩)
          obtain ⟨first, v'⟩ := field
          cases v' with
          | none => exact ih hrest hmem
          | some v' =>
              rw [present_some, List.lookup_cons, beq_eq_false_iff_ne.2 hne]
              exact ih hrest hmem

theorem lookup_append_self {es : List (String × α)} {name : String} (h : name ∉ es.map Prod.fst)
    (a : α) : (es ++ [(name, a)]).lookup name = some a := by
  rw [List.lookup_append, lookup_eq_none_of_not_mem h, List.lookup_cons_self, Option.none_or]

theorem replace_append_self {es : Entries} {name : String} (h : name ∉ es.map Prod.fst)
    (item new : Item) :
    Entries.replace (es ++ [(name, item)]) name new = es ++ [(name, new)] := by
  have hkeep : es.map (fun e => if e.1 = name then (name, new) else e) = es := by
    refine (List.map_congr_left fun e he => if_neg ?_).trans (List.map_id es)
    rintro rfl
    exact h (List.mem_map_of_mem he)
  rw [Entries.replace, List.map_append, hkeep]
  simp

theorem add_assignment {es : Entries} {name : String} (h : name ∉ es.map Prod.fst)
    {inner : Entries} {entry : String × Value} (hentry : entry.1 ∉ inner.map Prod.fst) :
    Draft.add ⟨es ++ [(name, .table .headed inner)], [name]⟩ (assignment entry) =
      some ⟨es ++ [(name, .table .headed (inner ++ [(entry.1, .value entry.2)]))], [name]⟩ := by
  have hassign : Entries.assign entry.1 entry.2 [] inner =
      some (inner ++ [(entry.1, .value entry.2)]) := by
    rw [Entries.assign, lookup_eq_none_of_not_mem hentry]
    rfl
  rw [assignment, Draft.add, Entries.changeAt, lookup_append_self h]
  dsimp only
  rw [Entries.changeAt, hassign]
  simp only [Option.bind_eq_bind, Option.bind_some, Option.pure_def, replace_append_self h]

/-- Assignments go to the table of the last header. -/
theorem addAll_assignments {es : Entries} {name : String} (h : name ∉ es.map Prod.fst)
    (entries : Table) (inner : Entries)
    (hnodup : (inner.map Prod.fst ++ entries.map Prod.fst).Nodup) :
    Draft.addAll ⟨es ++ [(name, .table .headed inner)], [name]⟩ (entries.map assignment) =
      some ⟨es ++ [(name, .table .headed
        (inner ++ entries.map fun (name, v) => (name, .value v)))], [name]⟩ := by
  induction entries generalizing inner with
  | nil => simp [Draft.addAll]
  | cons entry entries ih =>
      have hentry : entry.1 ∉ inner.map Prod.fst := by
        intro hmem
        exact (List.nodup_append.1 hnodup).2.2 _ hmem _ List.mem_cons_self rfl
      rw [List.map_cons, Draft.addAll, add_assignment h hentry, Option.bind_eq_bind,
        Option.bind_some, ih]
      · simp
      · simpa using hnodup

theorem addAll_append (d : Draft) (ls ls' : List Line) :
    d.addAll (ls ++ ls') = (d.addAll ls).bind fun d => d.addAll ls' := by
  induction ls generalizing d with
  | nil => rfl
  | cons l ls ih =>
      rw [List.cons_append, Draft.addAll, Draft.addAll]
      cases d.add l with
      | none => rfl
      | some d => exact ih d

/-- A section with a new name adds its table, and nothing else changes. -/
theorem addAll_section {s : Section} (hs : s.IsProper) {es : Entries}
    (h : s.name ∉ es.map Prod.fst) (path : List String) :
    Draft.addAll ⟨es, path⟩ s.lines = some ⟨es ++ [s.item], [s.name]⟩ := by
  have hopen : Draft.add ⟨es, path⟩ (.header [] s.name) =
      some ⟨es ++ [(s.name, .table .headed [])], [s.name]⟩ := by
    rw [Draft.add, Entries.changeAt, Entries.openTable, lookup_eq_none_of_not_mem h]
    rfl
  rw [Section.lines, Draft.addAll, hopen, Option.bind_eq_bind, Option.bind_some,
    addAll_assignments h _ [] (nodup_present hs)]
  rfl

/-- Sections with different names add their tables in order. -/
theorem addAll_sections {sections : List Section} (hs : ∀ s ∈ sections, s.IsProper)
    (es : Entries) (hnodup : (es.map Prod.fst ++ sections.map Section.name).Nodup)
    (path : List String) :
    ∃ path', Draft.addAll ⟨es, path⟩ (sections.flatMap Section.lines) =
      some ⟨es ++ sections.map Section.item, path'⟩ := by
  induction sections generalizing es path with
  | nil => exact ⟨path, by simp [Draft.addAll]⟩
  | cons s sections ih =>
      rw [List.forall_mem_cons] at hs
      have hname : s.name ∉ es.map Prod.fst := by
        intro hmem
        exact (List.nodup_append.1 hnodup).2.2 _ hmem _ List.mem_cons_self rfl
      obtain ⟨path', hrest⟩ := ih hs.2 (es ++ [s.item])
        (by simpa [Section.item] using hnodup) [s.name]
      refine ⟨path', ?_⟩
      rw [List.flatMap_cons, addAll_append, addAll_section hs.1 hname, Option.bind_some, hrest]
      simp

theorem toTable_map_value (entries : Table) :
    Item.toTable (entries.map fun (name, v) => (name, .value v)) = entries := by
  induction entries with
  | nil => rfl
  | cons entry entries ih => rw [List.map_cons, Item.toTable, ih, Item.toValue]

theorem toTable_map_item (sections : List Section) :
    Item.toTable (sections.map Section.item) = sections.map Section.entry := by
  induction sections with
  | nil => rfl
  | cons s sections ih =>
      rw [List.map_cons, Section.item, Item.toTable, ih, Item.toValue, toTable_map_value]
      rfl

/-- A text that lists the lines of sections with different names is read as their
table. -/
theorem read_sections {sections : List Section} (hs : ∀ s ∈ sections, s.IsProper)
    (hnodup : (sections.map Section.name).Nodup) {cs : List Char} (hmark : skipMark cs = cs)
    (h : Lists cs (sections.flatMap Section.lines)) :
    read cs = some (sections.map Section.entry) := by
  obtain ⟨path, hbuild⟩ := addAll_sections hs [] hnodup []
  rw [read, hmark, h.lines_eq (Nat.lt_succ_self cs.length), Option.bind_some, build, hbuild]
  exact congrArg some (toTable_map_item sections)

end TestCensus.Toml
