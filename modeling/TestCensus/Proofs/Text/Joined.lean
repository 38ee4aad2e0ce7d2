/-!
# Joined texts

Texts that are joined by a separator can be told from the joined text, if none of them holds the
first character of the separator (`intercalate_inj`).
-/

namespace TestCensus.Text

theorem append_sep_inj {α : Type} {c : α} {as bs cs ds : List α} (ha : c ∉ as) (hb : c ∉ bs)
    (h : as ++ c :: cs = bs ++ c :: ds) : as = bs ∧ cs = ds := by
  induction as generalizing bs with
  | nil =>
      cases bs with
      | nil => exact ⟨rfl, (List.cons.inj h).2⟩
      | cons b bs =>
          obtain ⟨rfl, -⟩ := List.cons.inj h
          exact absurd (.head _) hb
  | cons a as ih =>
      cases bs with
      | nil =>
          obtain ⟨rfl, -⟩ := List.cons.inj h
          exact absurd (.head _) ha
      | cons b bs =>
          obtain ⟨rfl, htail⟩ := List.cons.inj h
          rw [List.mem_cons, not_or] at ha hb
          obtain ⟨rfl, hcs⟩ := ih ha.2 hb.2 htail
          exact ⟨rfl, hcs⟩

/-- Texts without the first character of a separator can be told from the joined text. -/
theorem intercalate_inj {α : Type} {c : α} {sep : List α} {as bs : List (List α)}
    (ha : ∀ a ∈ as, c ∉ a) (hb : ∀ b ∈ bs, c ∉ b) (hane : as ≠ []) (hbne : bs ≠ [])
    (h : (c :: sep).intercalate as = (c :: sep).intercalate bs) : as = bs := by
  induction as generalizing bs with
  | nil => exact absurd rfl hane
  | cons a as ih =>
      cases bs with
      | nil => exact absurd rfl hbne
      | cons b bs =>
          have haa := ha a (.head _)
          have hbb := hb b (.head _)
          match as, bs with
          | [], [] =>
              rw [List.intercalate_singleton, List.intercalate_singleton] at h
              rw [h]
          | [], b' :: bs =>
              rw [List.intercalate_singleton, List.intercalate_cons_cons] at h
              exact absurd (by rw [h]; simp) haa
          | a' :: as, [] =>
              rw [List.intercalate_singleton, List.intercalate_cons_cons] at h
              exact absurd (by rw [← h]; simp) hbb
          | a' :: as, b' :: bs =>
              rw [List.intercalate_cons_cons, List.intercalate_cons_cons, List.append_assoc,
                List.append_assoc] at h
              obtain ⟨rfl, hrest⟩ := append_sep_inj haa hbb h
              rw [ih (fun x hx => ha x (.tail _ hx)) (fun x hx => hb x (.tail _ hx))
                (List.cons_ne_nil _ _) (List.cons_ne_nil _ _) (List.append_cancel_left hrest)]

end TestCensus.Text
