import TestCensus.Report.Console
import TestCensus.Proofs.Text.Numeral

/-!
# What reports quote

The reports write numbers, fixed texts, and texts that they quote: paths, names, and what a
collector wrote.  Numbers and fixed texts have no control characters, so a control character
of a message stands in a text that the message quotes (`IsControl.lacks_message_iff`,
`IsControl.lacks_function_iff`).  What that means for a report depends on the character: a line
feed makes further lines, and an escape character may begin a sequence.
-/

namespace TestCensus

open TestCensus.Text

/-! ## Quoted texts -/

/-- The texts that a warning quotes. -/
def Warning.quotedTexts : Warning → List String
  | .parseFailure path detail => [path, detail]
  | .collectFailure category detail => category.toList ++ [detail]
  | .countMismatch _ _ => []
  | .redeclaration path name _ _ => [path, name]
  | .scanProblem detail => [detail]

/-- The texts that the bullet of a function quotes. -/
def TestFunction.quotedTexts (f : TestFunction) : List String :=
  f.className.toList ++ [f.name, f.file]

/-- The texts that the report of a tally quotes. -/
def Tally.quotedTexts (t : Tally) : List String :=
  t.warnings.flatMap Warning.quotedTexts ++
    t.uncategorizedFunctions.flatMap TestFunction.quotedTexts

/-! ## Texts without a character -/

/-- The character does not stand in the text. -/
def Lacks (x : Char) (s : String) : Prop := x ∉ s.toList

/-- The character is a control character. -/
def IsControl (x : Char) : Prop := x.toNat < 32

instance (x : Char) : Decidable (IsControl x) := inferInstanceAs (Decidable (x.toNat < 32))

variable {x : Char}

@[simp] theorem lacks_append {a b : String} : Lacks x (a ++ b) ↔ Lacks x a ∧ Lacks x b := by
  simp [Lacks]

theorem lacks_ofList {cs : List Char} (h : x ∉ cs) : Lacks x (String.ofList cs) := by
  rwa [Lacks, String.toList_ofList]

theorem lacks_empty : Lacks x "" := by
  simp [Lacks]

theorem lacks_join {texts : List String} :
    Lacks x (String.join texts) ↔ ∀ s ∈ texts, Lacks x s := by
  induction texts with
  | nil => simp [lacks_empty]
  | cons s rest ih => rw [String.join_cons, lacks_append, ih, List.forall_mem_cons]

namespace IsControl

/-- A control character stands in no text of other characters. -/
theorem lacks (hx : IsControl x) {cs : List Char} (h : cs.all (32 ≤ ·.toNat) = true) :
    Lacks x (String.ofList cs) := by
  refine lacks_ofList fun hmem => ?_
  have hprinted := of_decide_eq_true (List.all_eq_true.1 h x hmem)
  exact absurd hx (Nat.not_lt.2 hprinted)

theorem lacks_nat (hx : IsControl x) (n : Nat) : Lacks x (toString n) := by
  intro hmem
  have hdigit := (isNumeral_toString n).decimal x hmem
  have hzero : '0'.toNat ≤ x.toNat := (Char.isDigit_iff_toNat.1 hdigit).1
  exact absurd hx (Nat.not_lt.2 (Nat.le_trans (by decide) hzero))

theorem lacks_count (hx : IsControl x) (n : Count) : Lacks x (toString n) := hx.lacks_nat n.val

theorem lacks_tenthsText (hx : IsControl x) (n : Nat) : Lacks x (Number.tenthsText n) := by
  simp only [Number.tenthsText, lacks_append, hx.lacks_nat, true_and, and_true]
  exact hx.lacks (by decide)

theorem lacks_percentText (hx : IsControl x) (p : Number.Binary64) :
    Lacks x (Report.percentText p) := by
  simp only [Report.percentText, lacks_append, hx.lacks_tenthsText, true_and]
  exact hx.lacks (by decide)

theorem lacks_countSource (hx : IsControl x) (source : CountSource) : Lacks x source.name := by
  cases source with
  | collected => exact hx.lacks (by decide)
  | static => exact hx.lacks (by decide)

theorem lacks_category (hx : IsControl x) : ∀ c ∈ Category.all,
    Lacks x c.glyph ∧ Lacks x c.name ∧ Lacks x c.description := by
  simp only [Category.all, List.forall_mem_cons, List.not_mem_nil, false_implies, implies_true,
    and_true]
  and_intros <;> exact hx.lacks (by decide)

/-! ## Messages -/

theorem lacks_issue (hx : IsControl x) (issue : Issue) : Lacks x issue.message := by
  cases issue with
  | gap functions instances =>
      show Lacks x ("Found " ++ toString functions ++ " uncategorized test functions (" ++
        toString instances ++ " test instances)")
      simp only [lacks_append, hx.lacks_count, hx.lacks_nat, and_true]
      and_intros <;> exact hx.lacks (by decide)

/-- The message of a warning lacks a control character exactly if all that it quotes do. -/
theorem lacks_message_iff (hx : IsControl x) {w : Warning} :
    Lacks x w.message ↔ ∀ s ∈ w.quotedTexts, Lacks x s := by
  cases w with
  | parseFailure path detail =>
      have hstart : Lacks x "could not parse " := hx.lacks (by decide)
      have hcolon : Lacks x ": " := hx.lacks (by decide)
      show Lacks x ("could not parse " ++ path ++ ": " ++ detail) ↔ _
      simp [Warning.quotedTexts, hstart, hcolon]
  | collectFailure category detail =>
      cases category with
      | none =>
          have hstart : Lacks x "collection failed for the full suite: " := hx.lacks (by decide)
          show Lacks x ("collection failed for the full suite: " ++ detail) ↔ _
          simp [Warning.quotedTexts, hstart]
      | some category =>
          have hstart : Lacks x "collection failed for category '" := hx.lacks (by decide)
          have hcolon : Lacks x "': " := hx.lacks (by decide)
          show Lacks x ("collection failed for category '" ++ category ++ "': " ++ detail) ↔ _
          simp [Warning.quotedTexts, hstart, hcolon]
  | countMismatch staticTotal collectedTotal =>
      have hstart : Lacks x "static analysis found " := hx.lacks (by decide)
      have hmiddle : Lacks x " test instances but the collector reported " :=
        hx.lacks (by decide)
      show Lacks x ("static analysis found " ++ toString staticTotal ++
        " test instances but the collector reported " ++ toString collectedTotal) ↔ _
      simp [Warning.quotedTexts, hstart, hmiddle, hx.lacks_count]
  | redeclaration path name line firstLine =>
      have hcolon : Lacks x ":" := hx.lacks (by decide)
      have hspace : Lacks x ": " := hx.lacks (by decide)
      have hmiddle : Lacks x " redefines the test declared at line " := hx.lacks (by decide)
      show Lacks x (path ++ ":" ++ toString line ++ ": " ++ name ++
        " redefines the test declared at line " ++ toString firstLine) ↔ _
      simp only [lacks_append, hx.lacks_nat, hcolon, hspace, hmiddle]
      simp [Warning.quotedTexts]
  | scanProblem detail =>
      have hstart : Lacks x "scan problem: " := hx.lacks (by decide)
      show Lacks x ("scan problem: " ++ detail) ↔ _
      simp [Warning.quotedTexts, hstart]

/-- The name and the place of a function lack a control character exactly if all that is quoted
of the function do. -/
theorem lacks_function_iff (hx : IsControl x) {f : TestFunction} :
    Lacks x f.qualifiedName ∧ Lacks x f.place ↔ ∀ s ∈ f.quotedTexts, Lacks x s := by
  have hcolon : Lacks x ":" := hx.lacks (by decide)
  have hcolons : Lacks x "::" := hx.lacks (by decide)
  have hname : Lacks x f.qualifiedName ↔ (∀ c ∈ f.className, Lacks x c) ∧ Lacks x f.name := by
    unfold TestFunction.qualifiedName
    cases f.className with
    | none => simp
    | some c => simp [hcolons]
  simp only [TestFunction.place, lacks_append, hx.lacks_nat, hname, hcolon,
    TestFunction.quotedTexts, List.forall_mem_append, Option.mem_toList]
  simp [and_assoc]

end IsControl

end TestCensus
