import TestCensus.Proofs.Files.Search

/-!
# The order of paths

Paths are compared by their components, and components by their kind and then by
the bytes of their text.  This is a linear order, so located files stand in strictly ascending
order, and no two of them have the same components (`findFiles_ascending`).
-/

namespace TestCensus.Files

namespace Component

/-! ## Texts -/

theorem textLt_asymm {a b : Component} (h : a.textLt b) : ¬b.textLt a := by
  rcases h with hbytes | ⟨hsame, htext⟩
  · rintro (hbytes' | ⟨hsame', -⟩)
    · exact List.lt_asymm hbytes hbytes'
    · exact List.lt_irrefl _ (hsame' ▸ hbytes)
  · rintro (hbytes' | ⟨-, htext'⟩)
    · exact List.lt_irrefl _ (hsame ▸ hbytes')
    · exact String.lt_asymm htext htext'

theorem textLt_trans {a b c : Component} (h : a.textLt b) (h' : b.textLt c) : a.textLt c := by
  rcases h with hbytes | ⟨hsame, htext⟩
  · rcases h' with hbytes' | ⟨hsame', -⟩
    · exact .inl (List.lt_trans hbytes hbytes')
    · exact .inl (hsame' ▸ hbytes)
  · rcases h' with hbytes' | ⟨hsame', htext'⟩
    · exact .inl (hsame ▸ hbytes')
    · exact .inr ⟨hsame.trans hsame', String.lt_trans htext htext'⟩

/-- Different texts are in some order. -/
theorem text_eq_of_not_textLt {a b : Component} (h : ¬a.textLt b) (h' : ¬b.textLt a) :
    a.text = b.text := by
  simp only [textLt, not_or, not_and] at h h'
  have hbytes : a.bytes = b.bytes := List.le_antisymm (List.not_lt.1 h'.1) (List.not_lt.1 h.1)
  exact String.le_antisymm (String.not_lt.1 (h'.2 hbytes.symm)) (String.not_lt.1 (h.2 hbytes))

theorem not_textLt_trans {a b c : Component} (h : ¬a.textLt b) (h' : ¬b.textLt c) :
    ¬a.textLt c := by
  intro hac
  by_cases hba : b.textLt a
  · exact h' (textLt_trans hba hac)
  · rw [textLt, bytes, text_eq_of_not_textLt h hba] at hac
    exact h' hac

/-! ## Components -/

theorem lt_iff {a b : Component} :
    a < b ↔ a.rank < b.rank ∨ (a.rank = b.rank ∧ a.textLt b) := Iff.rfl

theorem not_lt_iff {a b : Component} :
    ¬a < b ↔ b.rank < a.rank ∨ (a.rank = b.rank ∧ ¬a.textLt b) := by
  rw [lt_iff, not_or, not_and]
  constructor
  · rintro ⟨hrank, htext⟩
    rcases Nat.lt_or_ge b.rank a.rank with hlt | hle
    · exact .inl hlt
    · have heq : a.rank = b.rank := Nat.le_antisymm hle (Nat.not_lt.1 hrank)
      exact .inr ⟨heq, htext heq⟩
  · rintro (hlt | ⟨heq, htext⟩)
    · exact ⟨Nat.lt_asymm hlt, fun heq => absurd heq (Nat.ne_of_gt hlt)⟩
    · exact ⟨Nat.not_lt.2 (Nat.le_of_eq heq.symm), fun _ => htext⟩

/-- A component is determined by its kind and its text. -/
theorem ext_of_rank {a b : Component} (hrank : a.rank = b.rank) (htext : a.text = b.text) :
    a = b := by
  cases a with
  | root => cases b <;> first | rfl | cases hrank
  | here => cases b <;> first | rfl | cases hrank
  | up => cases b <;> first | rfl | cases hrank
  | name s =>
      cases b with
      | name s' => exact congrArg name htext
      | root | here | up => cases hrank

instance : Std.Asymm (α := Component) (· < ·) where
  asymm a b hab := by
    rw [not_lt_iff]
    rcases hab with hrank | ⟨hrank, htext⟩
    · exact .inl hrank
    · exact .inr ⟨hrank.symm, textLt_asymm htext⟩

instance : Std.Trichotomous (α := Component) (· < ·) where
  trichotomous a b hab hba := by
    rw [not_lt_iff] at hab hba
    have hrank : a.rank = b.rank := by omega
    refine ext_of_rank hrank (text_eq_of_not_textLt ?_ ?_)
    · exact (hab.resolve_left (by omega)).2
    · exact (hba.resolve_left (by omega)).2

instance : Trans (α := Component) (· < ·) (· < ·) (· < ·) where
  trans {a b c} hab hbc := by
    rw [lt_iff] at hab hbc ⊢
    rcases hab with hab | ⟨hab, htext⟩
    · left
      omega
    · rcases hbc with hbc | ⟨hbc, htext'⟩
      · left
        omega
      · exact .inr ⟨hab.trans hbc, textLt_trans htext htext'⟩

instance : Trans (α := Component) (¬· < ·) (¬· < ·) (¬· < ·) where
  trans {a b c} hab hbc := by
    rw [not_lt_iff] at hab hbc ⊢
    rcases hab with hab | ⟨hab, htext⟩
    · left
      omega
    · rcases hbc with hbc | ⟨hbc, htext'⟩
      · left
        omega
      · exact .inr ⟨hab.trans hbc, not_textLt_trans htext htext'⟩

end Component

namespace Path

theorem comesBefore_iff {a b : Path} : a.comesBefore b = true ↔ a.components ≤ b.components :=
  decide_eq_true_iff

theorem comesBefore_trans {a b c : Path} (hab : a.comesBefore b = true)
    (hbc : b.comesBefore c = true) : a.comesBefore c = true := by
  rw [comesBefore_iff] at *
  let _ : LE Component := LE.ofLT Component
  have : Std.IsLinearOrder Component := .of_lt
  exact List.le_trans hab hbc

theorem comesBefore_total (a b : Path) : (a.comesBefore b || b.comesBefore a) = true := by
  rw [Bool.or_eq_true, comesBefore_iff, comesBefore_iff]
  exact List.le_total _ _

end Path

/-- Nothing is added where repeated paths are dropped. -/
theorem dropRepeated_subset (paths : List Path) : dropRepeated paths ⊆ paths := by
  induction paths with
  | nil => exact List.Subset.refl _
  | cons p rest ih =>
      rw [dropRepeated]
      cases hrest : dropRepeated rest with
      | nil => exact List.cons_subset_cons p (List.nil_subset _)
      | cons q others =>
          rw [hrest] at ih
          dsimp only
          split
          · exact List.cons_subset_cons p fun x hx => ih (.tail _ hx)
          · exact List.cons_subset_cons p ih

/-- Of paths in order those that stay are in strictly ascending order. -/
theorem dropRepeated_ascending {paths : List Path}
    (h : paths.Pairwise fun a b => a.comesBefore b = true) :
    (dropRepeated paths).Pairwise fun a b => a.components < b.components := by
  induction paths with
  | nil => exact .nil
  | cons p rest ih =>
      obtain ⟨hp, hrest⟩ := List.pairwise_cons.1 h
      have hkept := dropRepeated_subset rest
      have hascending := ih hrest
      rw [dropRepeated]
      cases hdropped : dropRepeated rest with
      | nil => exact List.pairwise_singleton _ _
      | cons q others =>
          rw [hdropped] at hkept hascending
          obtain ⟨hq, hothers⟩ := List.pairwise_cons.1 hascending
          dsimp only
          split
          · rename_i hsame
            have heq : p.components = q.components := beq_iff_eq.1 hsame
            exact List.pairwise_cons.2 ⟨fun r hr => heq ▸ hq r hr, hothers⟩
          · rename_i hsame
            have hle := Path.comesBefore_iff.1 (hp q (hkept (.head _)))
            have hlt : p.components < q.components :=
              (List.le_iff_lt_or_eq.1 hle).resolve_right fun heq => hsame (beq_iff_eq.2 heq)
            refine List.pairwise_cons.2 ⟨fun r hr => ?_, hascending⟩
            rcases List.mem_cons.1 hr with rfl | hr
            · exact hlt
            · exact List.lt_trans hlt (hq r hr)

/-- Located files stand in strictly ascending order of their components. -/
theorem inOrder_ascending (paths : List Path) :
    (inOrder paths).Pairwise fun a b => a.components < b.components := by
  refine dropRepeated_ascending (List.pairwise_mergeSort ?_ ?_ paths)
  · intro a b c hab hbc
    exact Path.comesBefore_trans hab hbc
  · intro a b
    exact Path.comesBefore_total a b

end TestCensus.Files

namespace TestCensus.ScanSettings

open TestCensus.Files

/-- What a search locates stands in strictly ascending order. -/
theorem findFiles_ascending {s : ScanSettings} {t : Tree} {roots : List Path}
    {located : LocatedFiles} (h : s.findFiles t roots = .ok located) :
    located.files.Pairwise fun a b => a.components < b.components := by
  rw [findFiles, locate_eq] at h
  cases hfound : s.locateFrom t (fun _ => false) 0 roots with
  | error f =>
      rw [hfound] at h
      cases h
  | ok found =>
      rw [hfound] at h
      cases h
      exact inOrder_ascending found.files

end TestCensus.ScanSettings
