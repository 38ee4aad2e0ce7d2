import Mathlib.Data.List.Forall2
import TestCensus.Source.Grammar
import TestCensus.Proofs.Source.Definitions
import TestCensus.Proofs.Source.Shape

/-!
# Where definitions are read

A function definition opens with its keyword and its name: `def` and a word, or
`async`, `def` and a word.  A class definition opens with the word that is its name.
`Opening.Opens` says that a list of tokens begins so and that the opening agrees with
it.  `Places` says that several openings are met one after the other on the way from
some tokens to those that are left, and that a line ends behind each of them before
the next one.

`Parse.Finds` states this of a reader: on success it met the openings of its answer.
Readers are put together, and so are statements about them.  There is one rule for
each way of putting readers together.

* `Finds.pure` for an answer, `Finds.stop` for a reader that has none.
* `Finds.skip` for a first reader whose answer holds no definition.
* `Finds.bind` for a first reader whose answer is kept.
* `Finds.ite` for a choice.

Where a definition opens among the tokens of a source, its keyword stands in the
source, and the line feeds before the keyword give the line of the definition
(`Opens.standsAt`).  Function definitions that are met one after the other stand at
ascending offsets (`Places.exists_offsets`) and on ascending lines
(`Places.lines_ascend`).  The names of classes are words (`Places.exists_word`).
-/

namespace TestCensus.Source

/-! ## Openings -/

/-- The tokens begin with the keyword and the name of the function. -/
inductive FunctionHead.Opens : FunctionHead → List Token → Prop where
  /-- A plain function. -/
  | plain {t name : Token} (rest : List Token) : t.isWord "def" → name.kind = .word →
      Opens ⟨name.text, false, t.start.line + 1⟩ (t :: name :: rest)
  /-- A coroutine. -/
  | coroutine {t u name : Token} (rest : List Token) : t.isWord "async" → u.isWord "def" →
      name.kind = .word → Opens ⟨name.text, true, t.start.line + 1⟩ (t :: u :: name :: rest)

/-- The tokens begin with what opens the definition. -/
inductive Opening.Opens : Opening → List Token → Prop where
  /-- A function. -/
  | function {head : FunctionHead} {ts : List Token} : head.Opens ts → Opens (.function head) ts
  /-- A class, from its name on. -/
  | classDef {name : Token} (rest : List Token) : name.kind = .word →
      Opens (.classDef name.text) (name :: rest)

/-- The next token starts a line. -/
def StartsLine (ts : List Token) : Prop := ∃ t rest, ts = t :: rest ∧ t.gap.endsLine = true

/-- The openings are met in order between the tokens `ts` and the tokens that are
left, each of them with a line end behind it. -/
inductive Places : List Opening → List Token → List Token → Prop where
  /-- No opening is left. -/
  | nil {ts rest : List Token} : Leaves ts rest → Places [] ts rest
  /-- The first opening is met, a line ends behind its first token, and the others are
  met on the lines below. -/
  | cons {o : Opening} {os : List Opening} {ts mid below rest : List Token} {t : Token} :
      Leaves ts (t :: mid) → o.Opens (t :: mid) → Leaves mid below → StartsLine below →
      Places os below rest → Places (o :: os) ts rest

theorem Places.after {os : List Opening} {ts mid rest : List Token} (hl : Leaves ts mid)
    (h : Places os mid rest) : Places os ts rest := by
  cases h with
  | nil hl' => exact .nil (hl.trans hl')
  | cons hl' hopens hbelow hline hrest => exact .cons (hl.trans hl') hopens hbelow hline hrest

theorem Places.append {os ps : List Opening} {ts mid rest : List Token}
    (h : Places os ts mid) (h' : Places ps mid rest) : Places (os ++ ps) ts rest := by
  induction h with
  | nil hl => exact h'.after hl
  | cons hl hopens hbelow hline _ ih => exact .cons hl hopens hbelow hline (ih h')

/-! ## Words that are left -/

/-- What is left from a word on is an end of what was there: only a double star is
ever split. -/
theorem Leaves.eq_append {ts later : List Token} {t : Token} (h : Leaves ts (t :: later))
    (ht : t.kind = .word) : ∃ earlier, ts = earlier ++ t :: later := by
  generalize hrest : t :: later = rest at h ⊢
  induction h with
  | all ts => exact ⟨[], rfl⟩
  | taken v _ ih =>
      obtain ⟨earlier, rfl⟩ := ih hrest
      exact ⟨v :: earlier, rfl⟩
  | @split v ts' rest' hv _ ih =>
      obtain ⟨earlier, heq⟩ := ih hrest
      subst hrest
      match earlier with
      | [] =>
          obtain ⟨rfl, -⟩ := List.cons.inj heq
          rw [show v.firstStar.kind = v.kind from rfl, hv] at ht
          cases ht
      | [w] =>
          obtain ⟨-, heq⟩ := List.cons.inj heq
          obtain ⟨rfl, -⟩ := List.cons.inj heq
          rw [show v.secondStar.kind = v.kind from rfl, hv] at ht
          cases ht
      | w :: x :: earlier =>
          obtain ⟨-, heq⟩ := List.cons.inj heq
          obtain ⟨-, rfl⟩ := List.cons.inj heq
          exact ⟨v :: earlier, rfl⟩

/-! ## Offsets -/

/-- The words with which the definition of the function starts. -/
def FunctionHead.keyword (h : FunctionHead) : List String :=
  if h.isAsync then ["async", "def"] else ["def"]

/-- The definition stands at an offset of the source as the head says.  Among the
tokens of the source the words `first` and `more` spell its keyword and the name
follows; `first` stands at the offset; and the line of the head is the line of the
offset, counted from one. -/
def FunctionHead.StandsAt (h : FunctionHead) (source : List Char) (offset : Nat) : Prop :=
  ∃ (earlier later more : List Token) (first name : Token),
    tokens source = earlier ++ (first :: more ++ name :: later) ∧
    (∀ t ∈ first :: more ++ [name], t.kind = .word) ∧
    (first :: more).map Token.text = h.keyword ∧
    name.text = h.name ∧
    source.take offset = spelling earlier ++ first.gap.text.toList ∧
    first.text.toList <+: source.drop offset ∧
    h.line = (source.take offset).count '\n' + 1

theorem Token.isWord_iff {t : Token} {text : String} :
    t.isWord text = true ↔ t.kind = .word ∧ t.text = text := by
  simp [Token.isWord]

/-- The offset of a token behind other tokens. -/
def offsetBehind (earlier : List Token) (t : Token) : Nat :=
  (spelling earlier ++ t.gap.text.toList).length

/-- What stands before a token of a source and at it, and on which line. -/
theorem token_offset {source : List Char} {earlier later : List Token} {t : Token}
    (h : tokens source = earlier ++ t :: later) :
    source.take (offsetBehind earlier t) = spelling earlier ++ t.gap.text.toList ∧
      t.text.toList <+: source.drop (offsetBehind earlier t) ∧
      t.start.line = (source.take (offsetBehind earlier t)).count '\n' := by
  obtain ⟨⟨after, hsource⟩, hstart⟩ := token_place h
  have htake : source.take (offsetBehind earlier t) = spelling earlier ++ t.gap.text.toList := by
    rw [← hsource, List.append_assoc _ t.text.toList, offsetBehind, List.take_left]
  refine ⟨htake, ⟨after, ?_⟩, ?_⟩
  · rw [← hsource, List.append_assoc _ t.text.toList, offsetBehind, List.drop_left]
  · rw [htake, hstart, Position.behind_line, show Position.origin.line = 0 from rfl, Nat.zero_add]

/-- A definition that opens among the tokens of a source stands in the source. -/
theorem FunctionHead.Opens.standsAt {h : FunctionHead} {source : List Char}
    {earlier mid : List Token} {t : Token} (hopens : h.Opens (t :: mid))
    (htokens : tokens source = earlier ++ t :: mid) :
    h.StandsAt source (offsetBehind earlier t) := by
  obtain ⟨htake, htext, hline⟩ := token_offset htokens
  cases hopens with
  | @plain _ name rest ht hname =>
      obtain ⟨hkind, hdef⟩ := Token.isWord_iff.1 ht
      refine ⟨earlier, rest, [], t, name, htokens, ?_, ?_, rfl, htake, htext, ?_⟩
      · simp [hkind, hname]
      · simp [keyword, hdef]
      · rw [hline]
  | @coroutine _ u name rest ht hu hname =>
      obtain ⟨hkind, hasync⟩ := Token.isWord_iff.1 ht
      obtain ⟨hkind', hdef⟩ := Token.isWord_iff.1 hu
      refine ⟨earlier, rest, [u], t, name, htokens, ?_, ?_, rfl, htake, htext, ?_⟩
      · simp [hkind, hkind', hname]
      · simp [keyword, hasync, hdef]
      · rw [hline]

/-- The first token of a definition is a word, and not an empty one. -/
theorem FunctionHead.Opens.head_word {h : FunctionHead} {mid : List Token} {t : Token}
    (hopens : h.Opens (t :: mid)) : t.kind = .word ∧ 0 < t.text.toList.length := by
  cases hopens with
  | plain _ ht _ =>
      obtain ⟨hkind, htext⟩ := Token.isWord_iff.1 ht
      exact ⟨hkind, by rw [htext]; decide⟩
  | coroutine _ ht _ _ =>
      obtain ⟨hkind, htext⟩ := Token.isWord_iff.1 ht
      exact ⟨hkind, by rw [htext]; decide⟩

theorem Opening.Opens.head_word {o : Opening} {mid : List Token} {t : Token}
    (hopens : o.Opens (t :: mid)) : t.kind = .word := by
  cases hopens with
  | function hhead => exact hhead.head_word.1
  | classDef _ hname => exact hname

/-- The functions that are met stand at ascending offsets of the source. -/
theorem Places.exists_offsets {source : List Char} {os : List Opening}
    {ts after rest earlier : List Token} (h : Places os after rest) (hafter : Leaves ts after)
    (htokens : tokens source = earlier ++ ts) :
    ∃ offsets : List Nat, offsets.Pairwise (· < ·) ∧
      List.Forall₂ (fun h offset => h.StandsAt source offset) (os.filterMap Opening.head?)
        offsets ∧
      ∀ offset ∈ offsets, (spelling earlier).length ≤ offset := by
  induction h generalizing ts earlier with
  | nil _ => exact ⟨[], .nil, .nil, by simp⟩
  | @cons o os after mid below rest t hleaves hopens hbelow _ _ ih =>
      obtain ⟨skipped, rfl⟩ := (hafter.trans hleaves).eq_append hopens.head_word
      rw [← List.append_assoc] at htokens
      have hmid : tokens source = (earlier ++ skipped ++ [t]) ++ mid := by simp [htokens]
      obtain ⟨offsets, hascending, hstand, hbound⟩ := ih hbelow hmid
      simp only [spelling_append, spelling_cons, spelling_nil, List.length_append] at hbound
      cases hopens with
      | classDef _ _ =>
          refine ⟨offsets, hascending, hstand, fun offset hoffset => ?_⟩
          have hle := hbound offset hoffset
          omega
      | @function head _ hhead =>
          obtain ⟨-, hlength⟩ := hhead.head_word
          refine ⟨offsetBehind (earlier ++ skipped) t :: offsets, ?_, ?_, ?_⟩
          · refine .cons (fun offset hoffset => ?_) hascending
            have hle := hbound offset hoffset
            simp only [offsetBehind, spelling_append, List.length_append]
            omega
          · exact .cons (hhead.standsAt htokens) hstand
          · intro offset hoffset
            rcases List.mem_cons.1 hoffset with rfl | hoffset
            · simp only [offsetBehind, spelling_append, List.length_append]
              omega
            · have hle := hbound offset hoffset
              omega

/-! ## Lines -/

/-- What is left is ordered by line if what was there is. -/
theorem Leaves.pairwise {ts rest : List Token} (h : Leaves ts rest) (before : List Token)
    (hts : (before ++ ts).Pairwise Token.Precedes) : (before ++ rest).Pairwise Token.Precedes := by
  induction h with
  | all ts => exact hts
  | @taken t ts rest _ ih =>
      exact ih (hts.sublist ((List.sublist_cons_self t ts).append_left before))
  | @split t ts rest hkind _ ih =>
      refine ih ?_
      simp only [List.pairwise_append, List.pairwise_cons, List.forall_mem_cons] at hts ⊢
      obtain ⟨hbefore, ⟨ht, hts⟩, hcross⟩ := hts
      -- the stars stand where the double star stood, and no line ends between them
      have hinner : t.kind ≠ .finish := by
        rw [hkind]
        exact nofun
      have hfirst : t.firstStar.Precedes t.secondStar := ⟨hinner, Nat.le_refl _, nofun⟩
      have hbehind : ∀ u ∈ ts, t.firstStar.Precedes u ∧ t.secondStar.Precedes u := fun u hu =>
        have h := ht u hu
        ⟨⟨h.notFinish, h.line_le, h.line_lt⟩, ⟨h.notFinish, h.line_le, h.line_lt⟩⟩
      refine ⟨hbefore, ⟨⟨hfirst, fun u hu => (hbehind u hu).1⟩, fun u hu => (hbehind u hu).2, hts⟩,
        fun u hu => ?_⟩
      obtain ⟨hut, huts⟩ := hcross u hu
      exact ⟨⟨hut.notFinish, hut.line_le, hut.line_lt⟩, ⟨hut.notFinish, hut.line_le, nofun⟩, huts⟩

theorem FunctionHead.Opens.line_eq {h : FunctionHead} {t : Token} {mid : List Token}
    (hopens : h.Opens (t :: mid)) : h.line = t.start.line + 1 := by
  cases hopens <;> rfl

/-- A word below a line end stands on a later line. -/
theorem StartsLine.line_lt {t u : Token} {mid below later : List Token} (hline : StartsLine below)
    (hbelow : Leaves mid below) (hu : Leaves below (u :: later)) (hword : u.kind = .word)
    (hts : (t :: mid).Pairwise Token.Precedes) : t.start.line < u.start.line := by
  obtain ⟨v, more, rfl, hends⟩ := hline
  have hpairwise := hbelow.pairwise [t] hts
  obtain ⟨earlier, hearlier⟩ := hu.eq_append hword
  rw [hearlier] at hpairwise
  cases earlier with
  | nil =>
      obtain ⟨rfl, -⟩ := List.cons.inj hearlier
      have htv := List.rel_of_pairwise_cons hpairwise (.head _)
      exact htv.line_lt hends (hword ▸ nofun)
  | cons w earlier =>
      obtain ⟨rfl, -⟩ := List.cons.inj hearlier
      have htv := List.rel_of_pairwise_cons hpairwise (.head _)
      have hvu := List.rel_of_pairwise_cons hpairwise.of_cons
        (List.mem_append_right earlier (.head _))
      exact Nat.lt_of_lt_of_le (htv.line_lt hends hvu.notFinish) hvu.line_le

/-- Every opening is met. -/
theorem Places.exists_opens {os : List Opening} {ts rest : List Token} (h : Places os ts rest)
    {o : Opening} (ho : o ∈ os) : ∃ t mid, Leaves ts (t :: mid) ∧ o.Opens (t :: mid) := by
  induction h with
  | nil _ => cases ho
  | @cons p os ts mid below rest t hleaves hopens hbelow _ _ ih =>
      rcases List.mem_cons.1 ho with rfl | ho
      · exact ⟨t, mid, hleaves, hopens⟩
      · obtain ⟨u, more, hu, huopens⟩ := ih ho
        exact ⟨u, more, hleaves.trans (.taken t (hbelow.trans hu)), huopens⟩

/-- The functions that are met stand on ascending lines. -/
theorem Places.lines_ascend {os : List Opening} {ts rest : List Token} (h : Places os ts rest)
    (hts : ts.Pairwise Token.Precedes) :
    (os.filterMap Opening.head?).Pairwise fun a b => a.line < b.line := by
  induction h with
  | nil _ => exact .nil
  | @cons o os ts mid below rest t hleaves hopens hbelow hline hrest ih =>
      have hmid := hleaves.pairwise [] hts
      have hascend := ih (hbelow.pairwise [] hmid.of_cons)
      cases hopens with
      | classDef _ _ => exact hascend
      | @function head _ hhead =>
          refine .cons (fun later hlater => ?_) hascend
          obtain ⟨o, ho, hhead'⟩ := List.mem_filterMap.1 hlater
          obtain ⟨u, more, hu, huopens⟩ := hrest.exists_opens ho
          have hlt := hline.line_lt hbelow hu huopens.head_word hmid
          cases huopens with
          | classDef _ _ => cases hhead'
          | function hopens' =>
              cases hhead'
              rw [hhead.line_eq, hopens'.line_eq]
              omega

/-- The names of the classes that are met are words. -/
theorem Places.exists_word {os : List Opening} {ts rest : List Token} (h : Places os ts rest)
    {name : String} (hname : .classDef name ∈ os) : ∃ t ∈ ts, t.kind = .word ∧ t.text = name := by
  obtain ⟨t, mid, hleaves, hopens⟩ := h.exists_opens hname
  cases hopens with
  | classDef _ hword =>
      obtain ⟨earlier, rfl⟩ := hleaves.eq_append hword
      exact ⟨t, by simp, hword, rfl⟩

/-! ## What a reader finds -/

namespace Parse

/-- Whenever the reader succeeds on `ts`, the openings of its answer are those before
and then those that it met. -/
def Finds (p : Parse α) (ts : List Token) (before : List Opening)
    (openings : α → List Opening) : Prop :=
  ∀ (a : α) (rest : List Token), p.run ts = .ok (a, rest) →
    ∃ found, openings a = before ++ found ∧ Places found ts rest

variable {p : Parse α} {f : α → Parse β} {ts : List Token} {before : List Opening}
  {openings : α → List Opening} {openings' : β → List Opening}

theorem Finds.pure {a : α} (h : openings a = before) :
    (pure a : Parse α).Finds ts before openings := by
  intro b rest hrun
  cases hrun
  exact ⟨[], by simp [h], .nil (.all ts)⟩

theorem run_stop_ne_ok {r : α × List Token} : (stop : Parse α).run ts ≠ .ok r := by
  intro h
  cases ts with
  | nil => cases h
  | cons t rest => cases h

theorem Finds.stop : (stop : Parse α).Finds ts before openings :=
  fun _ _ hrun => absurd hrun run_stop_ne_ok

theorem Finds.skip (h : ∀ a mid, p.run ts = .ok (a, mid) → (f a).Finds mid before openings') :
    (p >>= f).Finds ts before openings' := by
  intro b rest hrun
  obtain ⟨a, mid, hp, hf⟩ := run_bind_eq_ok.1 hrun
  obtain ⟨found, hopenings, hplaces⟩ := h a mid hp b rest hf
  exact ⟨found, hopenings, hplaces.after (p.leaves hp)⟩

theorem Finds.bind (hp : p.Finds ts before openings)
    (h : ∀ a mid, p.run ts = .ok (a, mid) → (f a).Finds mid (openings a) openings') :
    (p >>= f).Finds ts before openings' := by
  intro b rest hrun
  obtain ⟨a, mid, ha, hf⟩ := run_bind_eq_ok.1 hrun
  obtain ⟨found, hopenings, hplaces⟩ := hp a mid ha
  obtain ⟨found', hopenings', hplaces'⟩ := h a mid ha b rest hf
  exact ⟨found ++ found', by rw [hopenings', hopenings, List.append_assoc], hplaces.append hplaces'⟩

theorem Finds.ite {c : Prop} [Decidable c] {q : Parse α} (hp : c → p.Finds ts before openings)
    (hq : ¬c → q.Finds ts before openings) : (if c then p else q).Finds ts before openings := by
  split
  · rename_i h
    exact hp h
  · rename_i h
    exact hq h

/-- The openings before may be named otherwise. -/
theorem Finds.congr {before' : List Opening} (hb : before' = before)
    (h : p.Finds ts before' openings) : p.Finds ts before openings := by rwa [hb] at h

/-- What a reader finds behind nothing it finds behind anything. -/
theorem Finds.behind (h : p.Finds ts [] openings) :
    p.Finds ts before fun a => before ++ openings a := by
  intro a rest hrun
  obtain ⟨found, hopenings, hplaces⟩ := h a rest hrun
  refine ⟨found, ?_, hplaces⟩
  show before ++ openings a = before ++ found
  rw [hopenings, List.nil_append]

theorem Finds.asStatement (h : p.Finds ts before openings) :
    p.asStatement.Finds ts before openings := by
  intro a rest hrun
  refine h a rest ?_
  unfold Parse.asStatement at hrun
  dsimp only at hrun
  split at hrun
  · cases hrun
  · exact hrun

end Parse

end TestCensus.Source
