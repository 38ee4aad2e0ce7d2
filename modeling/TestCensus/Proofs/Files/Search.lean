import TestCensus.Files.Locate

/-!
# Searches that nobody cancels

A search goes from root to root, and what it locates is what the roots give, one
after the other.  `locateFrom` has one equation for each thing that can happen at a
root: it does not exist, it is closed or the exclude list cannot be used there, or it
is walked.  The numbers of the events matter for the check points only.
-/

namespace TestCensus.ScanSettings

open TestCensus.Files TestCensus.Text

variable {s : ScanSettings} {t : Tree} {seen : Nat → Bool} {n : Nat} {root : Path}
  {roots : List Path}

@[simp] theorem ofEvents_nil : s.ofEvents [] = .empty := rfl

theorem ofEvents_append (events events' : List WalkEvent) :
    s.ofEvents (events ++ events') = s.ofEvents events ++ s.ofEvents events' := by
  show s.ofEvents (events ++ events') = LocatedFiles.append (s.ofEvents events) (s.ofEvents events')
  simp [ofEvents, LocatedFiles.append]

theorem ofEvents_cons (e : WalkEvent) (events : List WalkEvent) :
    s.ofEvents (e :: events) = s.ofEvents [e] ++ s.ofEvents events :=
  ofEvents_append [e] events

/-- A root that does not exist is noted. -/
theorem locateFrom_absent (h : t.has root = false) :
    s.locateFrom t seen n (root :: roots) =
      (s.locateFrom t seen n roots).map (⟨[], [root], []⟩ ++ ·) := by
  rw [locateFrom, h]
  cases s.locateFrom t seen n roots with
  | error f => rfl
  | ok later => rfl

/-- A root that is closed and an exclude list that cannot be used end the search. -/
theorem locateFrom_refused {f : ScanFailure} (h : t.has root = true)
    (hrules : s.rulesAt t root = .error f) :
    s.locateFrom t seen n (root :: roots) = .error f := by
  rw [locateFrom, h, hrules]
  rfl

/-- A root is walked unless the search is found cancelled on the way. -/
theorem locateFrom_entered {rules : IgnoreRules} (h : t.has root = true)
    (hrules : s.rulesAt t root = .ok rules) :
    s.locateFrom t seen n (root :: roots) =
      if (List.range (t.walk s.ignoreFilesUse rules root).length).any fun i => seen (n + i) then
        .error .cancelled
      else
        (s.locateFrom t seen (n + (t.walk s.ignoreFilesUse rules root).length) roots).map
          (s.ofEvents (t.walk s.ignoreFilesUse rules root) ++ ·) := by
  rw [locateFrom, h, hrules, if_neg (by simp)]
  simp only [bind, Except.bind]
  split
  · rfl
  · cases s.locateFrom t seen (n + (t.walk s.ignoreFilesUse rules root).length) roots with
    | error f => rfl
    | ok later => rfl

/-- In a search that nobody cancels the numbers of the events do not matter. -/
theorem locateFrom_unseen (m : Nat) :
    s.locateFrom t (fun _ => false) n roots = s.locateFrom t (fun _ => false) m roots := by
  induction roots generalizing n m with
  | nil => rfl
  | cons root roots ih =>
      cases hroot : t.has root with
      | false => rw [locateFrom_absent hroot, locateFrom_absent hroot, ih m]
      | true =>
          cases hrules : s.rulesAt t root with
          | error f => rw [locateFrom_refused hroot hrules, locateFrom_refused hroot hrules]
          | ok rules =>
              rw [locateFrom_entered hroot hrules, locateFrom_entered hroot hrules,
                if_neg (by simp), if_neg (by simp), ih]

theorem locateFrom_walked {rules : IgnoreRules} (h : t.has root = true)
    (hrules : s.rulesAt t root = .ok rules) :
    s.locateFrom t (fun _ => false) 0 (root :: roots) =
      (s.locateFrom t (fun _ => false) 0 roots).map
        (s.ofEvents (t.walk s.ignoreFilesUse rules root) ++ ·) := by
  rw [locateFrom_entered h hrules, if_neg (by simp), locateFrom_unseen 0]

/-- What a search locates is put in order at the end. -/
theorem locate_eq : s.locate t seen roots =
    (s.locateFrom t seen 0 roots).map LocatedFiles.arranged := by
  rw [locate]
  cases s.locateFrom t seen 0 roots with
  | error f => rfl
  | ok located => rfl

/-- What is located below a single root. -/
theorem findFiles_walked {rules : IgnoreRules} (h : t.has root = true)
    (hrules : s.rulesAt t root = .ok rules) :
    s.findFiles t [root] = .ok (s.ofEvents (t.walk s.ignoreFilesUse rules root)).arranged := by
  rw [findFiles, locate_eq, locateFrom_walked h hrules]
  exact congrArg (Except.ok ·.arranged) (LocatedFiles.append_empty _)

/-- A search that is disturbed gives nothing else than an undisturbed one: it ends
as if nobody had disturbed it, or it ends cancelled. -/
theorem locateFrom_disturbed : s.locateFrom t seen n roots = .error .cancelled ∨
    s.locateFrom t seen n roots = s.locateFrom t (fun _ => false) 0 roots := by
  induction roots generalizing n with
  | nil => exact Or.inr rfl
  | cons root roots ih =>
      cases hroot : t.has root with
      | false =>
          rw [locateFrom_absent hroot, locateFrom_absent hroot]
          rcases ih (n := n) with h | h
          · exact Or.inl (by rw [h]; rfl)
          · exact Or.inr (by rw [h])
      | true =>
          cases hrules : s.rulesAt t root with
          | error f =>
              rw [locateFrom_refused hroot hrules, locateFrom_refused hroot hrules]
              exact Or.inr rfl
          | ok rules =>
              rw [locateFrom_entered hroot hrules, locateFrom_walked hroot hrules]
              split
              · exact Or.inl rfl
              · rcases ih (n := n + (t.walk s.ignoreFilesUse rules root).length) with h | h
                · exact Or.inl (by rw [h]; rfl)
                · exact Or.inr (by rw [h])

/-! ## Failures of a search that nobody cancels -/

/-- A pass over a list fails at one of its elements. -/
theorem exists_of_mapM_eq_error {α β ε : Type} {f : α → Except ε β} {xs : List α} {e : ε}
    (h : xs.mapM f = .error e) : ∃ x ∈ xs, f x = .error e := by
  induction xs with
  | nil => cases h
  | cons x rest ih =>
      rw [List.mapM_cons] at h
      cases hx : f x with
      | error e' =>
          rw [hx] at h
          cases h
          exact ⟨x, .head _, hx⟩
      | ok y =>
          rw [hx] at h
          cases hrest : rest.mapM f with
          | error e' =>
              rw [hrest] at h
              cases h
              obtain ⟨z, hz, hfails⟩ := ih hrest
              exact ⟨z, .tail _ hz, hfails⟩
          | ok ys =>
              rw [hrest] at h
              cases h

theorem error_of_map_eq_error {α β ε : Type} {x : Except ε α} {f : α → β} {e : ε}
    (h : x.map f = .error e) : x = .error e := by
  cases x with
  | error e' =>
      cases h
      rfl
  | ok a => cases h

/-- An exclude list that cannot be used has an entry that is no pattern, and the
failure names it. -/
theorem excludeRules_eq_error {exclude : List String} {f : ScanFailure}
    (h : excludeRules root exclude = .error f) :
    ∃ entry ∈ exclude, ∃ message, f = .invalidPattern entry message := by
  obtain ⟨entry, hentry, hfails⟩ := exists_of_mapM_eq_error (error_of_map_eq_error h)
  unfold excludeRule at hfails
  split at hfails
  · cases hfails
  · cases hfails
    exact ⟨entry, hentry, _, rfl⟩

/-- The failure about a closed root names the root, and says why it is closed. -/
theorem closedRoot?_eq_some_iff {f : ScanFailure} : closedRoot? t root = some f ↔
    ∃ why, t.node? root = some (.closed why) ∧
      f = if why = .denied then .permissionDenied (displayed root.text)
        else .io (displayed root.text) why.message := by
  unfold closedRoot?
  split
  · rename_i hnode
    simp [hnode, eq_comm]
  · rename_i why hother hnode
    have hwhy : why ≠ .denied := hother
    simp [hnode, hwhy, eq_comm]
  · rename_i hother
    exact iff_of_false nofun fun ⟨why, hnode, _⟩ => hother why hnode

theorem closedRoot?_eq_none_iff :
    closedRoot? t root = none ↔ ∀ why, t.node? root ≠ some (.closed why) := by
  rw [Option.eq_none_iff_forall_ne_some]
  constructor
  · exact fun h why hnode => h _ (closedRoot?_eq_some_iff.2 ⟨why, hnode, rfl⟩)
  · intro h f hf
    obtain ⟨why, hnode, -⟩ := closedRoot?_eq_some_iff.1 hf
    exact h why hnode

/-- The rules of a root are those of the exclude list, unless the root is closed. -/
theorem rulesAt_eq_ok_iff {rules : IgnoreRules} : s.rulesAt t root = .ok rules ↔
    closedRoot? t root = none ∧ excludeRules root s.exclude = .ok rules := by
  unfold rulesAt
  cases closedRoot? t root with
  | none => simp
  | some failure => simp

/-- Why a search that nobody cancels fails: the exclude list has an entry that is no pattern, and
the failure names it, or a root is closed. -/
def Hindered (s : ScanSettings) (t : Tree) (roots : List Path) (f : ScanFailure) : Prop :=
  (∃ entry ∈ s.exclude, ∃ message, f = .invalidPattern entry message) ∨
    ∃ root ∈ roots, closedRoot? t root = some f

theorem Hindered.tail {f : ScanFailure} (h : s.Hindered t roots f) :
    s.Hindered t (root :: roots) f :=
  h.imp_right fun ⟨r, hr, hclosed⟩ => ⟨r, .tail _ hr, hclosed⟩

theorem Hindered.ne_cancelled {f : ScanFailure} (h : s.Hindered t roots f) : f ≠ .cancelled := by
  obtain ⟨entry, -, message, rfl⟩ | ⟨root, -, hclosed⟩ := h
  · exact nofun
  · obtain ⟨why, -, rfl⟩ := closedRoot?_eq_some_iff.1 hclosed
    split
    · exact nofun
    · exact nofun

theorem hindered_of_rulesAt {f : ScanFailure} (h : s.rulesAt t root = .error f) :
    s.Hindered t (root :: roots) f := by
  unfold rulesAt at h
  split at h
  · rename_i hclosed
    cases h
    exact .inr ⟨root, .head _, hclosed⟩
  · exact .inl (excludeRules_eq_error h)

theorem locateFrom_eq_error {f : ScanFailure}
    (h : s.locateFrom t (fun _ => false) 0 roots = .error f) : s.Hindered t roots f := by
  induction roots with
  | nil => cases h
  | cons root roots ih =>
      cases hroot : t.has root with
      | false =>
          rw [locateFrom_absent hroot] at h
          exact (ih (error_of_map_eq_error h)).tail
      | true =>
          cases hrules : s.rulesAt t root with
          | error f' =>
              rw [locateFrom_refused hroot hrules] at h
              cases h
              exact hindered_of_rulesAt hrules
          | ok rules =>
              rw [locateFrom_walked hroot hrules] at h
              exact (ih (error_of_map_eq_error h)).tail

theorem findFiles_eq_error {f : ScanFailure} (h : s.findFiles t roots = .error f) :
    s.Hindered t roots f :=
  locateFrom_eq_error (error_of_map_eq_error (locate_eq.symm.trans h))

end TestCensus.ScanSettings
