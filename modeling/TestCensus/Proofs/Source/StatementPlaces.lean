import TestCensus.Source.Reading
import TestCensus.Proofs.Source.Places

/-!
# Where the definitions of a source are read

The readers of statements meet the openings of exactly the definitions that they put
into the tree, in the order of the tree.  The proofs follow the readers: one lemma
for each, by the rules of `Parse.Finds`.  Loops are proved by induction on their
number of rounds, with the openings of what was read so far in front, and blocks by
induction on the depth of nesting.

`readSource_places` is the statement for a whole source.  What follows from it is said
in terms of the tree: where in the source its definitions stand (`readSource_offsets`),
that they stand on ascending lines (`readSource_lines`), and that its classes have words
for names (`readSource_classNames`).
-/

namespace TestCensus.Source

open Parse

/-! ## Taking tokens -/

theorem run_head {ts mid : List Token} {t : Token} (h : head.run ts = .ok (t, mid)) :
    mid = ts ∧ (t.kind = .finish ∨ ∃ rest, ts = t :: rest) := by
  cases ts with
  | nil =>
      cases h
      exact ⟨rfl, Or.inl rfl⟩
  | cons u rest =>
      cases h
      exact ⟨rfl, Or.inr ⟨rest, rfl⟩⟩

theorem run_take {ts rest : List Token} {t : Token} (h : take.run ts = .ok (t, rest)) :
    ts = t :: rest := (takeToken_eq_ok.1 h).1

theorem run_second {ts mid : List Token} {u : Option Token} (h : second.run ts = .ok (u, mid)) :
    mid = ts ∧ u = ts[1]? := by
  cases h
  exact ⟨rfl, rfl⟩

/-- The next token of a construct is the next token. -/
theorem run_next? {b : Bounds} {ts mid : List Token} {found : Option Token}
    (h : (next? b).run ts = .ok (found, mid)) :
    mid = ts ∧ ∀ t, found = some t → t.kind = .finish ∨ ∃ rest, ts = t :: rest := by
  obtain ⟨t, mid', hhead, hrest⟩ := run_bind_eq_ok.1 h
  obtain ⟨rfl, ht⟩ := run_head hhead
  split at hrest
  · cases hrest
    exact ⟨rfl, by rintro _ ⟨⟩⟩
  · cases hrest
    refine ⟨rfl, ?_⟩
    rintro _ ⟨⟩
    exact ht

/-- A taken token that was seen before is the token that was seen. -/
theorem seen_eq_taken {ts rest : List Token} {t u : Token}
    (hseen : t.kind = .finish ∨ ∃ later, ts = t :: later) (ht : t.kind ≠ .finish)
    (htake : ts = u :: rest) : t = u := by
  rcases hseen with hfinish | ⟨later, rfl⟩
  · exact absurd hfinish ht
  · exact (List.cons.inj htake).1

theorem run_expectWord {b : Bounds} {ts rest : List Token} {t : Token}
    (h : (expectWord b).run ts = .ok (t, rest)) : ts = t :: rest ∧ t.kind = .word := by
  obtain ⟨found, mid, hnext, hrest⟩ := run_bind_eq_ok.1 h
  obtain ⟨rfl, hseen⟩ := run_next? hnext
  split at hrest
  · rename_i u
    split at hrest
    · rename_i hword
      have htake := run_take hrest
      have hu := seen_eq_taken (hseen u rfl) (by rw [hword]; decide) htake
      exact ⟨htake, hu ▸ hword⟩
    · exact absurd hrest run_stop_ne_ok
  · exact absurd hrest run_stop_ne_ok

theorem run_expectThe {b : Bounds} {text : String} {ts rest : List Token} {t : Token}
    (h : (expectThe b text).run ts = .ok (t, rest)) : ts = t :: rest ∧ t.isWord text := by
  obtain ⟨found, mid, hat, hrest⟩ := run_bind_eq_ok.1 h
  obtain ⟨next, mid', hnext, hfound⟩ := run_bind_eq_ok.1 hat
  obtain ⟨rfl, hseen⟩ := run_next? hnext
  cases hfound
  split at hrest
  · rename_i hany
    obtain ⟨u, rfl, hu⟩ := (Option.any_eq_true _ _).1 hany
    have htake := run_take hrest
    have hu' := seen_eq_taken (hseen u rfl) ?_ htake
    · exact ⟨htake, hu' ▸ hu⟩
    · intro hfinish
      simp [Token.isWord, hfinish] at hu
  · exact absurd hrest run_stop_ne_ok

/-! ## Small statements -/

variable {o : Outer} {k : Inner} {ts : List Token} {before : List Opening}

theorem startsLine_of_head {ts mid : List Token} {t : Token} (h : head.run ts = .ok (t, mid))
    (ht : t.gap.endsLine = true) : StartsLine ts := by
  cases ts with
  | nil =>
      cases h
      cases ht
  | cons u rest =>
      cases h
      exact ⟨_, _, rfl, ht⟩

theorem run_atLineEnd {ended : Bool} {mid : List Token} (h : atLineEnd.run ts = .ok (ended, mid)) :
    mid = ts ∧ (ended = true → StartsLine ts) := by
  obtain ⟨t, mid', hhead, hrest⟩ := run_bind_eq_ok.1 h
  cases hrest
  exact ⟨(run_head hhead).1, startsLine_of_head hhead⟩

/-- There is no definition among the further statements of a line, and a line ends behind
them. -/
theorem lineRest_run {n indent m : Nat} {found a : List Statement} {rest : List Token}
    (h : (lineRest k n indent m found).run ts = .ok (a, rest)) :
    openings a = openings found ∧ StartsLine rest := by
  induction m generalizing ts found with
  | zero => exact absurd h run_stop_ne_ok
  | succ m ih =>
      obtain ⟨ended, mid, hended, hbehind⟩ := run_bind_eq_ok.1 h
      obtain ⟨rfl, hline⟩ := run_atLineEnd hended
      split at hbehind
      · rename_i hends
        cases hbehind
        exact ⟨rfl, hline hends⟩
      obtain ⟨more, mid', -, hmore⟩ := run_bind_eq_ok.1 hbehind
      split at hmore
      · obtain ⟨ended', mid'', hended', hnext⟩ := run_bind_eq_ok.1 hmore
        obtain ⟨rfl, hline'⟩ := run_atLineEnd hended'
        split at hnext
        · rename_i hends
          cases hnext
          exact ⟨rfl, hline' hends⟩
        · obtain ⟨fs, _, -, hsmall⟩ := run_bind_eq_ok.1 hnext
          obtain ⟨s, _, -, hothers⟩ := run_bind_eq_ok.1 hsmall
          obtain ⟨hopenings, hrest⟩ := ih hothers
          exact ⟨by simpa using hopenings, hrest⟩
      · exact absurd hmore run_stop_ne_ok

theorem line_run {n indent : Nat} {a : List Statement} {rest : List Token}
    (h : (line k n indent).run ts = .ok (a, rest)) : openings a = [] ∧ StartsLine rest := by
  obtain ⟨fs, _, -, hsmall⟩ := run_bind_eq_ok.1 h
  obtain ⟨s, _, -, hothers⟩ := run_bind_eq_ok.1 hsmall
  obtain ⟨hopenings, hrest⟩ := lineRest_run hothers
  exact ⟨by simpa using hopenings, hrest⟩

theorem line_finds (n indent : Nat) : (line k n indent).Finds ts [] openings := fun _ _ h =>
  ⟨[], (line_run h).1, .nil ((line k n indent).leaves h)⟩

/-! ## Blocks of compound statements -/

/-- The readers for nested blocks find the definitions of these blocks. -/
def Outer.FindsBlocks (o : Outer) : Prop :=
  ∀ (indent : Nat) (ts : List Token), (o.block indent).Finds ts [] openings

/-- A line ends between a colon and the definitions behind it, also if there are none. -/
theorem suite_run (ho : o.FindsBlocks) {indent : Nat} {body : List Statement} {rest : List Token}
    (h : (suite o indent).run ts = .ok (body, rest)) :
    ∃ below, Leaves ts below ∧ StartsLine below ∧ Places (openings body) below rest := by
  obtain ⟨t, mid, hhead, hbehind⟩ := run_bind_eq_ok.1 h
  obtain ⟨rfl, -⟩ := run_head hhead
  split at hbehind
  · rename_i hends
    have hline := startsLine_of_head hhead hends
    split at hbehind
    · obtain ⟨found, hopenings, hplaces⟩ := ho _ _ _ _ hbehind
      rw [List.nil_append] at hopenings
      exact ⟨_, .all _, hline, hopenings ▸ hplaces⟩
    · cases hbehind
      exact ⟨_, .all _, hline, .nil (.all _)⟩
  · obtain ⟨hopenings, hline⟩ := line_run hbehind
    refine ⟨rest, (line o.inner o.rounds indent).leaves hbehind, hline, ?_⟩
    rw [hopenings]
    exact .nil (.all rest)

theorem colonSuite_run (ho : o.FindsBlocks) {indent : Nat} {body : List Statement}
    {rest : List Token} (h : (colonSuite o indent).run ts = .ok (body, rest)) :
    ∃ below, Leaves ts below ∧ StartsLine below ∧ Places (openings body) below rest := by
  obtain ⟨colon, mid, hcolon, hsuite⟩ := run_bind_eq_ok.1 h
  obtain ⟨below, hbelow, hline, hplaces⟩ := suite_run ho hsuite
  exact ⟨below, ((expect (Bounds.header indent) ":").leaves hcolon).trans hbelow, hline, hplaces⟩

theorem colonSuite_finds (ho : o.FindsBlocks) (indent : Nat) :
    (colonSuite o indent).Finds ts [] openings := by
  intro body rest h
  obtain ⟨below, hbelow, -, hplaces⟩ := colonSuite_run ho h
  exact ⟨openings body, rfl, hplaces.after hbelow⟩

theorem wordClause_finds (ho : o.FindsBlocks) (indent : Nat) (word : String) :
    (wordClause o indent word).Finds ts [] openingsInBlocks := by
  refine .skip fun atClause mid _ => .ite (fun _ => ?_) fun _ => .pure rfl
  refine .skip fun t mid _ => .bind (colonSuite_finds ho indent) fun block mid _ => .pure ?_
  simp

theorem conditionsRest_finds (ho : o.FindsBlocks) (indent m : Nat)
    (blocks : List (List Statement)) :
    (conditionsRest o indent m blocks).Finds ts (openingsInBlocks blocks) openingsInBlocks := by
  induction m generalizing ts blocks with
  | zero => exact .stop
  | succ m ih =>
      refine .skip fun more mid _ => .ite (fun _ => ?_) fun _ => ?_
      · refine .skip fun t mid _ => .skip fun e mid _ => ?_
        refine .bind (colonSuite_finds ho indent).behind fun block mid _ => .congr ?_ (ih _)
        simp
      · refine .bind (wordClause_finds ho indent _).behind fun last mid _ => .pure ?_
        simp

theorem handlersRest_finds (ho : o.FindsBlocks) (indent : Nat) (groups : Bool) (m : Nat)
    (blocks : List (List Statement)) :
    (handlersRest o indent groups m blocks).Finds ts (openingsInBlocks blocks)
      openingsInBlocks := by
  induction m generalizing ts blocks with
  | zero => exact .stop
  | succ m ih =>
      refine .skip fun u mid _ => .skip fun more mid _ => .ite (fun _ => ?_) fun _ => .pure rfl
      refine .skip fun _ mid _ => ?_
      refine .bind (colonSuite_finds ho indent).behind fun block mid _ => .congr ?_ (ih _)
      simp

theorem guardedBlock_finds (ho : o.FindsBlocks) (indent : Nat) :
    (guardedBlock o indent).Finds ts [] fun s => openings [s] := by
  refine .bind (colonSuite_finds ho indent) fun body mid _ => .skip fun u mid _ => ?_
  refine .bind (handlersRest_finds ho indent _ _ []).behind fun handlers mid _ => .ite ?_ ?_
  · intro hempty
    obtain rfl := List.isEmpty_iff.1 hempty
    refine .skip fun last mid _ => .ite (fun _ => ?_) fun _ => .stop
    refine .bind (wordClause_finds ho indent _).behind fun finally' mid _ => .pure ?_
    simp
  · intro _
    refine .bind (wordClause_finds ho indent _).behind fun otherwise mid _ => ?_
    refine .bind (wordClause_finds ho indent _).behind fun finally' mid _ => .pure ?_
    simp

theorem forLoop_finds (ho : o.FindsBlocks) (indent : Nat) :
    (forLoop o indent).Finds ts [] fun s => openings [s] := by
  refine .skip fun _ mid _ => .skip fun _ mid _ => .skip fun _ mid _ => ?_
  refine .bind (colonSuite_finds ho indent) fun body mid _ => ?_
  refine .bind (wordClause_finds ho indent _).behind fun otherwise mid _ => .pure ?_
  simp

theorem managedBlock_finds (ho : o.FindsBlocks) (indent : Nat) :
    (managedBlock o indent).Finds ts [] fun s => openings [s] := by
  refine .skip fun _ mid _ => .bind (colonSuite_finds ho indent) fun body mid _ => .pure ?_
  simp

theorem casesRest_finds (ho : o.FindsBlocks) (indent m : Nat) (blocks : List (List Statement)) :
    (casesRest o indent m blocks).Finds ts (openingsInBlocks blocks) openingsInBlocks := by
  induction m generalizing ts blocks with
  | zero => exact .stop
  | succ m ih =>
      refine .skip fun t mid _ => .ite (fun _ => .pure rfl) fun _ => .skip fun _ mid _ => ?_
      refine .bind (colonSuite_finds ho indent).behind fun block mid _ => .congr ?_ (ih _)
      simp

theorem matchBody_finds (ho : o.FindsBlocks) (indent : Nat) :
    (matchBody o indent).Finds ts [] fun s => openings [s] := by
  refine .skip fun t mid _ => .ite (fun _ => ?_) fun _ => .pure rfl
  refine .bind (casesRest_finds ho _ _ []) fun blocks mid _ => .pure ?_
  simp

/-! ## Definitions -/

theorem classDefinition_finds (ho : o.FindsBlocks) (indent : Nat) (decorators : List Decorator) :
    (classDefinition o indent decorators).Finds ts [] fun s => openings [s] := by
  intro s rest h
  obtain ⟨name, mid, hname, hbehind⟩ := run_bind_eq_ok.1 h
  obtain ⟨u, mid', hsignature, hbehind'⟩ := run_bind_eq_ok.1 hbehind
  obtain ⟨body, mid'', hbody, hanswer⟩ := run_bind_eq_ok.1 hbehind'
  obtain ⟨rfl, hword⟩ := run_expectWord hname
  cases hanswer
  obtain ⟨below, hbelow, hline, hplaces⟩ := colonSuite_run ho hbody
  have hleaves := ((classSignature o indent).leaves hsignature).trans hbelow
  exact ⟨_, openings_classDef _ _ _, .cons (.all _) (.classDef mid hword) hleaves hline hplaces⟩

/-- Behind its keyword a function definition starts with its name.  A line ends behind the
name, and the definitions in the body are met below. -/
theorem functionDefinition_run (ho : o.FindsBlocks) {indent : Nat} {decorators : List Decorator}
    {isAsync : Bool} {start : Position} {s : Statement} {rest : List Token}
    (h : (functionDefinition o indent decorators isAsync start).run ts = .ok (s, rest)) :
    ∃ name mid below inner, ts = name :: mid ∧ name.kind = .word ∧
      openings [s] = .function ⟨name.text, isAsync, start.line + 1⟩ :: inner ∧
      Leaves mid below ∧ StartsLine below ∧ Places inner below rest := by
  obtain ⟨name, mid, hname, hbehind⟩ := run_bind_eq_ok.1 h
  obtain ⟨u, mid', hsignature, hbehind'⟩ := run_bind_eq_ok.1 hbehind
  obtain ⟨body, mid'', hbody, hanswer⟩ := run_bind_eq_ok.1 hbehind'
  obtain ⟨rfl, hword⟩ := run_expectWord hname
  cases hanswer
  obtain ⟨below, hbelow, hline, hplaces⟩ := colonSuite_run ho hbody
  have hleaves := ((functionSignature o indent).leaves hsignature).trans hbelow
  exact ⟨name, mid, below, openings body, rfl, hword, openings_function _ _ _, hleaves, hline,
    hplaces⟩

theorem plainFunction_finds (ho : o.FindsBlocks) (indent : Nat) (decorators : List Decorator)
    {t : Token} {later : List Token} (hts : ts = t :: later) (ht : t.isWord "def") :
    (plainFunction o indent decorators).Finds ts [] fun s => openings [s] := by
  intro s rest h
  obtain ⟨u, mid, htake, hbehind⟩ := run_bind_eq_ok.1 h
  obtain rfl := run_take htake
  obtain ⟨rfl, rfl⟩ := List.cons.inj hts
  obtain ⟨name, mid', below, inner, rfl, hword, hopenings, hbelow, hline, hplaces⟩ :=
    functionDefinition_run ho hbehind
  exact ⟨_, hopenings,
    .cons (.all _) (.function (.plain mid' ht hword)) (.taken name hbelow) hline hplaces⟩

theorem coroutine_finds (ho : o.FindsBlocks) (indent : Nat) (decorators : List Decorator)
    {t : Token} {later : List Token} (hts : ts = t :: later) (ht : t.isWord "async") :
    (coroutine o indent decorators).Finds ts [] fun s => openings [s] := by
  intro s rest h
  obtain ⟨v, mid, htake, hbehind⟩ := run_bind_eq_ok.1 h
  obtain ⟨u, mid', hexpect, hbehind'⟩ := run_bind_eq_ok.1 hbehind
  obtain rfl := run_take htake
  obtain ⟨rfl, hu⟩ := run_expectThe hexpect
  obtain ⟨rfl, rfl⟩ := List.cons.inj hts
  obtain ⟨name, mid'', below, inner, rfl, hword, hopenings, hbelow, hline, hplaces⟩ :=
    functionDefinition_run ho hbehind'
  exact ⟨_, hopenings, .cons (.all _) (.function (.coroutine mid'' ht hu hword))
    (.taken u (.taken name hbelow)) hline hplaces⟩

/-- A word that was seen is the next token. -/
theorem seen_word {t : Token} (hseen : t.kind = .finish ∨ ∃ later, ts = t :: later)
    {text : String} (ht : t.isWord text) : ∃ later, ts = t :: later := by
  rcases hseen with hfinish | hseen
  · simp [Token.isWord, hfinish] at ht
  · exact hseen

/-- Definitions with their decorators. -/
theorem decorated_finds (ho : o.FindsBlocks) (indent m : Nat) (decorators : List Decorator) :
    (decorated o indent m decorators).Finds ts [] fun s => openings [s] := by
  induction m generalizing ts decorators with
  | zero => exact .stop
  | succ m ih =>
      refine .skip fun t mid hhead => ?_
      obtain ⟨rfl, hseen⟩ := run_head hhead
      refine .ite (fun _ => .stop) fun _ => .ite (fun _ => ?_) fun _ => ?_
      · exact .skip fun d mid _ => ih _
      refine .ite (fun hdef => ?_) fun _ => ?_
      · obtain ⟨later, hts⟩ := seen_word hseen hdef
        exact plainFunction_finds ho indent decorators hts hdef
      refine .ite (fun _ => ?_) fun _ => ?_
      · exact .skip fun _ mid _ => classDefinition_finds ho indent decorators
      refine .ite (fun hasync => ?_) fun _ => .stop
      obtain ⟨later, hts⟩ := seen_word hseen hasync
      exact coroutine_finds ho indent decorators hts hasync

/-! ## Lines and blocks -/

/-- An answer that is a statement, as an answer that may be one. -/
theorem Parse.Finds.some {p : Parse Statement} (h : p.Finds ts [] fun s => openings [s]) :
    (do return Option.some (← p)).Finds ts [] fun s => openings s.toList :=
  .bind h fun _ _ _ => .pure rfl

theorem compoundStatement?_finds (ho : o.FindsBlocks) (indent : Nat) :
    (compoundStatement? o indent).Finds ts [] fun s => openings s.toList := by
  refine .skip fun t mid hhead => ?_
  obtain ⟨rfl, hseen⟩ := run_head hhead
  refine .ite (fun _ => .some (decorated_finds ho indent _ [])) fun _ => ?_
  refine .ite (fun hkind => ?_) fun _ => .pure rfl
  have hword : ∀ {text : String}, t.text = text → t.isWord text := by
    rintro text rfl
    simp [Token.isWord, hkind]
  split
  · refine .skip fun _ _ _ => .skip fun _ _ _ => ?_
    refine .bind (colonSuite_finds ho indent) fun body _ _ => ?_
    refine .bind (.congr (by simp) (conditionsRest_finds ho indent _ [body])) fun blocks _ _ => ?_
    exact .pure (openings_compound _ _)
  · refine .skip fun _ _ _ => .skip fun _ _ _ => ?_
    refine .bind (colonSuite_finds ho indent) fun body _ _ => ?_
    refine .bind (wordClause_finds ho indent _).behind fun otherwise _ _ => .pure ?_
    simp
  · exact .skip fun _ _ _ => .some (forLoop_finds ho indent)
  · exact .skip fun _ _ _ => .some (guardedBlock_finds ho indent)
  · exact .skip fun _ _ _ => .some (managedBlock_finds ho indent)
  · rename_i htext
    obtain ⟨later, hts⟩ := seen_word hseen (hword htext)
    exact .some (plainFunction_finds ho indent [] hts (hword htext))
  · exact .skip fun _ _ _ => .some (classDefinition_finds ho indent [])
  · rename_i htext
    obtain ⟨later, hts⟩ := seen_word hseen (hword htext)
    refine .skip fun u mid hsecond => ?_
    obtain ⟨rfl, -⟩ := run_second hsecond
    split
    · refine .ite (fun _ => .pure rfl) fun _ => .ite (fun _ => ?_) fun _ => ?_
      · exact .some (coroutine_finds ho indent [] hts (hword htext))
      refine .ite (fun _ => ?_) fun _ => .ite (fun _ => ?_) fun _ => .pure rfl
      · exact .skip fun _ _ _ => .skip fun _ _ _ => .some (forLoop_finds ho indent)
      · exact .skip fun _ _ _ => .skip fun _ _ _ => .some (managedBlock_finds ho indent)
    · exact .pure rfl
  · refine .skip fun isMatch _ _ => .ite (fun _ => ?_) fun _ => .pure rfl
    exact .some (matchBody_finds ho indent)
  · exact .pure rfl

theorem statementLine_finds (ho : o.FindsBlocks) (indent : Nat) :
    (statementLine o indent).Finds ts [] openings := by
  refine .asStatement (.skip fun fs _ _ => ?_)
  refine .bind (compoundStatement?_finds ho indent) fun s _ _ => ?_
  split
  · refine .pure ?_
    simp
  · exact line_finds _ indent

/-- The lines are given last first. -/
theorem blockRest_finds (ho : o.FindsBlocks) (indent m : Nat) (lines : List (List Statement)) :
    (blockRest o indent m lines).Finds ts (openings lines.reverse.flatten) openings := by
  induction m generalizing ts lines with
  | zero => exact .stop
  | succ m ih =>
      refine .skip fun t mid _ => .ite (fun _ => .pure rfl) fun _ => ?_
      refine .bind (statementLine_finds ho indent).behind fun found _ _ => .congr ?_ (ih _)
      simp

/-- Blocks of any depth. -/
theorem blocks_finds (n depth indent : Nat) :
    (blocks k n depth indent).Finds ts [] openings := by
  induction depth generalizing indent ts with
  | zero => exact .stop
  | succ depth ih => exact blockRest_finds (fun indent ts => ih indent) indent n []

/-- The definitions of a source are met in the order of its tree. -/
theorem parse_places {source : List Char} {statements : List Statement}
    (h : parse source = .ok statements) :
    ∃ rest, Places (openings statements) (tokens source) rest := by
  unfold parse at h
  dsimp only at h
  cases hrun : (blocks (readers ((tokens source).length + 1)) ((tokens source).length + 1)
      ((tokens source).length + 1) 0).run (tokens source) with
  | error d => rw [hrun] at h; cases h
  | ok r =>
      rw [hrun] at h
      dsimp only at h
      split at h
      · cases h
      cases h
      obtain ⟨found, hopenings, hplaces⟩ := blocks_finds _ _ _ _ _ hrun
      rw [List.nil_append] at hopenings
      exact ⟨r.2, hopenings ▸ hplaces⟩

theorem readSource_places {source : String} {statements : List Statement}
    (h : readSource source = .ok statements) :
    ∃ rest, Places (openings statements) (tokens source.toList) rest := by
  unfold readSource at h
  split at h
  · rename_i hparse
    cases h
    exact parse_places hparse
  · cases h

/-- The definitions of a tree that was read stand in the source as their heads say,
one after the other. -/
theorem readSource_offsets {source : String} {statements : List Statement}
    (h : readSource source = .ok statements) :
    ∃ offsets : List Nat, offsets.Pairwise (· < ·) ∧
      List.Forall₂ (fun d offset => d.head.StandsAt source.toList offset)
        (definitions statements) offsets := by
  obtain ⟨rest, hplaces⟩ := readSource_places h
  obtain ⟨offsets, hascending, hstand, -⟩ :=
    hplaces.exists_offsets (.all _) (List.nil_append _).symm
  rw [openings_heads] at hstand
  exact ⟨offsets, hascending, List.forall₂_map_left_iff.1 hstand⟩

/-- The definitions of a tree that was read stand on ascending lines. -/
theorem readSource_lines {source : String} {statements : List Statement}
    (h : readSource source = .ok statements) :
    (definitions statements).Pairwise fun d e => d.head.line < e.head.line := by
  obtain ⟨rest, hplaces⟩ := readSource_places h
  have hascend := hplaces.lines_ascend (tokens_pairwise source.toList)
  rw [openings_heads, heads, List.pairwise_map] at hascend
  exact hascend

/-- The class names of a tree that was read are made of the characters of names. -/
theorem readSource_classNames {source : String} {statements : List Statement}
    (h : readSource source = .ok statements) {name : String}
    (hname : .classDef name ∈ openings statements) :
    ∀ c ∈ name.toList, Text.continuesName c = true := by
  obtain ⟨rest, hplaces⟩ := readSource_places h
  obtain ⟨t, ht, hword, rfl⟩ := hplaces.exists_word hname
  exact (isInner_of_mem ht (hword ▸ nofun)).word hword

end TestCensus.Source
