import TestCensus.Collect.Launch
import TestCensus.Collect.Watch
import TestCensus.Settings.Validation

/-!
# Watching a process

*Ends.*  Every step lowers the rank of a moment (`Watched.Step.rank_lt`), and a moment that
is not the end has a next step (`Watched.exists_step`).  So every course ends, after a number
of steps that the time bounds (`Watched.Course.length_le`).

*What is known.*  `Watched.Known` says what holds at every stage, and each step keeps it
(`Watched.Known.step`).  At the end this is an account of the outcome (`Watched.Accounted`).

*Truth.*  An outcome is truthful if it is no crash, and if it is a count only of complete
output.  `Watched.courses_truthful_iff` says when.  The clock has to count as far as the time that
the query may take, and the output must not be given up after status 0 or 5: the watch does
not tell output that it gave up from output that is empty.

*Without delays.*  `answer` and `report` are the end of a course (`Watched.punctual_ends`).
-/

namespace TestCensus.Collect

open TestCensus.Text

namespace Watched

variable {w : Watched} {m m' : Moment}

/-! ## Ends -/

instance (a : Awaited) (time : Nat) : Decidable (w.Handed a time) :=
  inferInstanceAs (Decidable (∃ handed ∈ w.handedAt a, handed ≤ time))

/-- How many steps the waits may take that are still to come. -/
def Awaited.waits : Awaited → Nat
  | .output _ => 5
  | .errors _ _ => 1

/-- A bound on the steps that are still to come. -/
def rank (w : Watched) (m : Moment) : Nat :=
  match m.stage with
  | .starting => 2 * w.timeout + 20
  | .looking deadline => 2 * (deadline - m.time) + 12
  | .comparing deadline => 2 * (deadline - m.time) + 11
  | .expecting a deadline =>
      Awaited.waits a + if deadline ≤ m.time ∨ w.Handed a m.time then 1 else 3
  | .lacking a deadline => Awaited.waits a + if deadline ≤ m.time then 0 else 2
  | .ended _ _ => 0

/-- Going on ends the waits for the pipe. -/
theorem rank_proceed (a : Awaited) (taken : Option (List UInt8)) (time later : Nat) :
    w.rank ⟨later, proceed time a taken⟩ < Awaited.waits a := by
  cases a with
  | errors code output => exact Nat.one_pos
  | output ending =>
      cases ending with
      | signal => exact Nat.succ_pos 4
      | status code =>
          simp only [proceed]
          split
          · exact Nat.succ_pos 4
          split
          · exact Nat.succ_pos 4
          · simp only [rank, Awaited.waits]
            split <;> omega

theorem Step.rank_lt (h : w.Step m m') : w.rank m' < w.rank m := by
  cases h with
  | crash _ => exact Nat.succ_pos _
  | start _ hle =>
      simp only [rank]
      omega
  | @see now later _ _ ending _ _ hle =>
      simp only [rank, Awaited.waits]
      split <;> omega
  | miss _ hle =>
      simp only [rank]
      omega
  | overdue _ _ => exact Nat.succ_pos _
  | rest hlt hle =>
      simp only [rank, pollInterval] at *
      omega
  | @take now later deadline a hhanded _ =>
      exact Nat.lt_of_lt_of_le (rank_proceed a _ later later) (Nat.le_add_right _ _)
  | @lack now later deadline a hhanded hle =>
      simp only [rank, hhanded, or_false]
      split <;> split <;> omega
  | @giveUp now later deadline a hle _ =>
      exact Nat.lt_of_lt_of_le (rank_proceed a _ later later) (Nat.le_add_right _ _)
  | @wake now later deadline a hlt _ hsomething =>
      simp only [rank, if_pos hsomething, if_neg (Nat.not_le.2 hlt)]
      omega

/-- The steps taken and the rank of the moment are at most the rank of the beginning. -/
theorem Course.rank_le {n : Nat} (h : w.Course n m) : n + w.rank m ≤ 2 * w.timeout + 20 := by
  induction h with
  | begin => exact Nat.le_of_eq (Nat.zero_add _)
  | step _ hstep ih =>
      have := hstep.rank_lt
      omega

/-- A moment is the end, or the watch can go on. -/
theorem exists_step (w : Watched) (m : Moment) :
    (∃ outcome report, m.stage = .ended outcome report) ∨ ∃ m', w.Step m m' := by
  obtain ⟨time, stage⟩ := m
  cases stage with
  | starting =>
      by_cases hfits : w.clock + time + w.timeout < clockLimit
      · exact .inr ⟨_, .start hfits (Nat.le_refl time)⟩
      · exact .inr ⟨_, .crash (Nat.not_lt.1 hfits)⟩
  | looking deadline =>
      by_cases hended : ∀ x ∈ w.process.ending, time < x.1
      · exact .inr ⟨_, .miss hended (Nat.le_refl time)⟩
      · obtain ⟨⟨ended, ending⟩, hending, hle⟩ : ∃ x ∈ w.process.ending, ¬time < x.1 := by
          simpa using hended
        exact .inr ⟨_, .see hending (Nat.not_lt.1 hle) (Nat.le_refl time)⟩
  | comparing deadline =>
      rcases Nat.lt_or_ge time deadline with hlt | hle
      · exact .inr ⟨_, .rest hlt (Nat.le_refl _)⟩
      · exact .inr ⟨_, .overdue hle (Nat.le_refl time)⟩
  | expecting a deadline =>
      by_cases hhanded : w.Handed a time
      · exact .inr ⟨_, .take hhanded (Nat.le_refl time)⟩
      · exact .inr ⟨_, .lack hhanded (Nat.le_refl time)⟩
  | lacking a deadline =>
      rcases Nat.lt_or_ge time deadline with hlt | hle
      · exact .inr ⟨_, .wake hlt (Nat.le_of_lt hlt) (.inl (Nat.le_refl deadline))⟩
      · exact .inr ⟨_, .giveUp hle (Nat.le_refl time)⟩
  | ended outcome report => exact .inl ⟨outcome, report, rfl⟩

/-! ## What is known -/

/-- The output was taken whole, or it was given up although the process had ended: it was not
handed over when the watch had begun and the process had ended. -/
def Taken (w : Watched) (time : Nat) : Option (List UInt8) → Prop
  | some bytes => bytes = w.process.output.content ∧ w.outputAt.isSome
  | none => ∀ handed ∈ w.outputAt, max w.start time < handed

/-- The process ended so, and the output was taken or given up. -/
def Concluded (w : Watched) (ending : Ending) (output : Option (List UInt8)) : Prop :=
  ∃ time, w.process.ending = some (time, ending) ∧ w.Taken time output

/-- An account of an outcome and of what is known in the end. -/
inductive Accounted (w : Watched) :
    QueryOutcome → Option (Ending × Option (List UInt8)) → Prop where
  /-- The clock cannot count so far. -/
  | crash : ¬w.Fits → Accounted w .crash none
  /-- The end of the process was not seen, and the process was running when the watch began. -/
  | timeout : w.Fits → (∀ x ∈ w.process.ending, w.start < x.1) →
      Accounted w (.failure (.timeout (w.timeout / 1000))) none
  /-- A signal ended the process. -/
  | signal {output : Option (List UInt8)} : w.Fits → w.Concluded .signal output →
      Accounted w (.failure .terminated) (some (.signal, output))
  /-- The process ended with status 0.  What was taken of the output is counted. -/
  | tests {output : Option (List UInt8)} : w.Fits → w.Concluded (.status 0) output →
      Accounted w (.count (countNodeIds (decodeLossy (output.getD []))))
        (some (.status 0, output))
  /-- The process found no tests. -/
  | noTests {output : Option (List UInt8)} : w.Fits →
      w.Concluded (.status noTestsStatus) output →
      Accounted w (.count 0) (some (.status noTestsStatus, output))
  /-- The process ended with another status. -/
  | failed {code : Nat} {output : Option (List UInt8)} (shown : String) : w.Fits →
      code ≠ 0 → code ≠ noTestsStatus → w.Concluded (.status code) output →
      Accounted w (.failure (.exitStatus code shown)) (some (.status code, output))

/-- The watch has begun and the process has ended so. -/
def Seen (w : Watched) (now : Nat) (ending : Ending) : Prop :=
  w.start ≤ now ∧ ∃ time, time ≤ now ∧ w.process.ending = some (time, ending)

/-- What is known while the pipe for errors is waited for. -/
def Failing (w : Watched) (code : Nat) (output : Option (List UInt8)) : Prop :=
  w.Fits ∧ code ≠ 0 ∧ code ≠ noTestsStatus ∧ w.Concluded (.status code) output

/-- What is known at a moment. -/
def Known (w : Watched) (m : Moment) : Prop :=
  match m.stage with
  | .starting => m.time = w.start
  | .looking _ => w.Fits ∧ w.start ≤ m.time
  | .comparing _ => w.Fits ∧ w.start ≤ m.time ∧ ∀ x ∈ w.process.ending, w.start < x.1
  | .expecting (.output ending) _ => w.Fits ∧ w.Seen m.time ending
  | .lacking (.output ending) _ => w.Fits ∧ w.Seen m.time ending ∧ w.Concluded ending none
  | .expecting (.errors code output) _ => w.Failing code output
  | .lacking (.errors code output) _ => w.Failing code output
  | .ended outcome report => w.Accounted outcome report

theorem Seen.later {now later : Nat} {ending : Ending} (h : w.Seen now ending)
    (hle : now ≤ later) : w.Seen later ending := by
  obtain ⟨hstart, time, htime, hending⟩ := h
  exact ⟨Nat.le_trans hstart hle, time, Nat.le_trans htime hle, hending⟩

theorem Seen.concluded_some {now : Nat} {ending : Ending} (h : w.Seen now ending)
    (hhanded : w.Handed (.output ending) now) :
    w.Concluded ending (some w.process.output.content) := by
  obtain ⟨-, time, -, hending⟩ := h
  obtain ⟨handed, hsome, -⟩ := hhanded
  exact ⟨time, hending, rfl, Option.isSome_iff_exists.2 ⟨handed, hsome⟩⟩

theorem Seen.concluded_none {now : Nat} {ending : Ending} (h : w.Seen now ending)
    (hhanded : ¬w.Handed (.output ending) now) : w.Concluded ending none := by
  obtain ⟨hstart, time, htime, hending⟩ := h
  refine ⟨time, hending, fun handed hsome => Nat.lt_of_not_le fun hle => hhanded ?_⟩
  exact ⟨handed, hsome, Nat.le_trans hle (Nat.max_le.2 ⟨hstart, htime⟩)⟩

/-- When the output is settled, the end is accounted for or the errors are waited for. -/
theorem known_proceed_output (hfits : w.Fits) {ending : Ending} {output : Option (List UInt8)}
    (h : w.Concluded ending output) (now later : Nat) :
    w.Known ⟨later, proceed now (.output ending) output⟩ := by
  cases ending with
  | signal => exact .signal hfits h
  | status code =>
      simp only [proceed]
      split
      · rename_i hzero
        subst hzero
        exact .tests hfits h
      split
      · rename_i hnone
        subst hnone
        exact .noTests hfits h
      · exact ⟨hfits, ‹_›, ‹_›, h⟩

/-- Every step keeps what is known. -/
theorem Known.step (h : w.Known m) (hstep : w.Step m m') : w.Known m' := by
  cases hstep with
  | crash hlimit =>
      obtain rfl : _ = w.start := h
      exact .crash (Nat.not_lt.2 hlimit)
  | start hfits hle =>
      obtain rfl : _ = w.start := h
      exact ⟨hfits, hle⟩
  | see hending htime hle =>
      obtain ⟨hfits, hstart⟩ := h
      exact ⟨hfits, Seen.later ⟨hstart, _, htime, hending⟩ hle⟩
  | miss hrunning hle =>
      obtain ⟨hfits, hstart⟩ := h
      exact ⟨hfits, Nat.le_trans hstart hle, fun x hx => Nat.lt_of_le_of_lt hstart (hrunning x hx)⟩
  | overdue _ _ => exact .timeout h.1 h.2.2
  | rest _ hle => exact ⟨h.1, Nat.le_trans h.2.1 (Nat.le_trans (Nat.le_add_right _ _) hle)⟩
  | @take now later deadline a hhanded hle =>
      cases a with
      | output ending => exact known_proceed_output h.1 (h.2.concluded_some hhanded) later later
      | errors code output => exact .failed _ h.1 h.2.1 h.2.2.1 h.2.2.2
  | @lack now later deadline a hhanded hle =>
      cases a with
      | output ending => exact ⟨h.1, h.2.later hle, h.2.concluded_none hhanded⟩
      | errors code output => exact h
  | @giveUp now later deadline a _ hle =>
      cases a with
      | output ending => exact known_proceed_output h.1 h.2.2 later later
      | errors code output => exact .failed _ h.1 h.2.1 h.2.2.1 h.2.2.2
  | @wake now later deadline a _ hle _ =>
      cases a with
      | output ending => exact ⟨h.1, h.2.1.later hle⟩
      | errors code output => exact h

theorem Course.known {n : Nat} (h : w.Course n m) : w.Known m := by
  induction h with
  | begin => exact rfl
  | step _ hstep ih => exact ih.step hstep

/-- Every end of a watch can be accounted for. -/
theorem Ends.account {outcome : QueryOutcome}
    {report : Option (Ending × Option (List UInt8))} (h : w.Ends outcome report) :
    w.Accounted outcome report := by
  obtain ⟨n, time, hcourse⟩ := h
  exact hcourse.known

/-! ## Truth -/

/-- The outcome is truthful, given what is known in the end.  There was no crash; a count is
zero after the status for it, or it counts the tests in all of the output after status 0; and
if the output was not taken whole, there is a warning. -/
structure Truthful (b : Behaviour) (outcome : QueryOutcome)
    (report : Option (Ending × Option (List UInt8))) : Prop where
  /-- Nobody crashed. -/
  no_crash : outcome ≠ .crash
  /-- A count is true. -/
  count_true : ∀ n, outcome = .count n → ∃ time code, b.ending = some (time, .status code) ∧
    (code = noTestsStatus ∧ n = 0 ∨
      code = 0 ∧ n = countNodeIds (decodeLossy b.output.content))
  /-- What was not taken is warned of. -/
  warned : (∀ ending bytes, report ≠ some (ending, some bytes)) →
    ∀ asked, (outcome.warning? asked).isSome

/-- A count is truthful if the output was not given up. -/
theorem Concluded.truthful_count_iff {output : Option (List UInt8)} {code : Nat} {n : Count}
    (h : w.Concluded (.status code) output)
    (hn : code = noTestsStatus ∧ n = 0 ∨
      code = 0 ∧ n = countNodeIds (decodeLossy (output.getD []))) :
    Truthful w.process (.count n) (some (.status code, output)) ↔ output ≠ none := by
  constructor
  · rintro htruthful rfl
    exact Bool.false_ne_true (htruthful.warned nofun none)
  · intro houtput
    obtain ⟨time, hending, htaken⟩ := h
    obtain ⟨bytes, rfl⟩ := Option.ne_none_iff_exists'.1 houtput
    obtain rfl : bytes = _ := htaken.1
    refine ⟨nofun, ?_, fun hgiven => absurd rfl (hgiven _ _)⟩
    rintro _ ⟨⟩
    exact ⟨time, code, hending, hn⟩

/-- An outcome is truthful if the clock can count so far and no count was given after the output
was given up. -/
theorem Accounted.truthful_iff {outcome : QueryOutcome}
    {report : Option (Ending × Option (List UInt8))} (h : w.Accounted outcome report) :
    Truthful w.process outcome report ↔
      w.Fits ∧ ∀ code, report = some (.status code, none) → code ≠ 0 ∧ code ≠ noTestsStatus := by
  have hfailure : ∀ {f : CollectFailure} {report : Option (Ending × Option (List UInt8))},
      Truthful w.process (.failure f) report := ⟨nofun, nofun, fun _ _ => rfl⟩
  -- after one of the two statuses, what is asked for is that the output was not given up
  have hgiven : ∀ {code : Nat} {output : Option (List UInt8)}, code = 0 ∨ code = noTestsStatus →
      ((∀ c, some (Ending.status code, output) = some (.status c, none) →
        c ≠ 0 ∧ c ≠ noTestsStatus) ↔ output ≠ none) := by
    intro code output hcode
    constructor
    · rintro hother rfl
      exact hcode.elim (hother code rfl).1 (hother code rfl).2
    · intro houtput c hc
      exact absurd (congrArg Prod.snd (Option.some.inj hc)) houtput
  cases h with
  | crash hlimit => exact iff_of_false (fun h => h.no_crash rfl) fun h => hlimit h.1
  | timeout hfits _ => exact iff_of_true hfailure ⟨hfits, nofun⟩
  | signal hfits _ => exact iff_of_true hfailure ⟨hfits, nofun⟩
  | failed _ hfits hzero hnone _ =>
      refine iff_of_true hfailure ⟨hfits, fun code hcode => ?_⟩
      cases hcode
      exact ⟨hzero, hnone⟩
  | tests hfits hconcluded =>
      rw [hconcluded.truthful_count_iff (.inr ⟨rfl, rfl⟩), hgiven (.inl rfl)]
      exact (and_iff_right hfits).symm
  | noTests hfits hconcluded =>
      rw [hconcluded.truthful_count_iff (.inl ⟨rfl, rfl⟩), hgiven (.inr rfl)]
      exact (and_iff_right hfits).symm

/-- If the end of the process is known, the process ended so. -/
theorem Accounted.concluded {outcome : QueryOutcome} {ending : Ending}
    {output : Option (List UInt8)} (h : w.Accounted outcome (some (ending, output))) :
    w.Concluded ending output := by
  cases h with
  | signal _ h | tests _ h | noTests _ h | failed _ _ _ _ h => exact h

/-! ## Courses that are not truthful -/

theorem ends_crash (h : ¬w.Fits) : w.Ends .crash none :=
  ⟨_, _, .step .begin (.crash (Nat.not_lt.1 h))⟩

/-- A watch that is delayed enough gives up output that is not there when the process has
ended. -/
theorem exists_givenUp (hfits : w.Fits) {time code : Nat}
    (hending : w.process.ending = some (time, .status code))
    (hcode : code = 0 ∨ code = noTestsStatus)
    (hlate : ¬∃ handed ∈ w.outputAt, handed ≤ max w.start time) :
    ∃ outcome, w.Ends outcome (some (.status code, none)) := by
  have hcourse := (((Course.begin.step (.start hfits (Nat.le_max_left w.start time))).step
    (.see hending (Nat.le_max_right w.start time) (Nat.le_refl _))).step
    (.lack hlate (Nat.le_add_right _ w.timeout))).step (.giveUp (Nat.le_refl _) (Nat.le_refl _))
  rcases hcode with rfl | rfl
  · exact ⟨_, _, _, hcourse⟩
  · exact ⟨_, _, _, hcourse⟩

/-! ## Without delays -/

/-- Without delays the wait for a pipe is over when the pipe is closed, or the time is up. -/
theorem Course.waited {n now deadline : Nat} {a : Awaited}
    (h : w.Course n ⟨now, .expecting a deadline⟩) (hle : now ≤ deadline)
    (hhanded : w.handedAt a = (w.pipe a).closesAt) :
    ∃ n, w.Course n ⟨(w.pipe a).receivedAt now deadline,
      proceed ((w.pipe a).receivedAt now deadline) a ((w.pipe a).taken? deadline)⟩ := by
  unfold Pipe.receivedAt Pipe.taken?
  cases hclosed : (w.pipe a).closesAt with
  | none =>
      have hnever : ∀ time, ¬w.Handed a time := by
        rintro time ⟨handed, hsome, -⟩
        rw [hhanded, hclosed] at hsome
        cases hsome
      exact ⟨_, (h.step (.lack (hnever now) hle)).step (.giveUp (Nat.le_refl _) (Nat.le_refl _))⟩
  | some closed =>
      have hiff : ∀ time, w.Handed a time ↔ closed ≤ time := by
        intro time
        rw [Handed, hhanded, hclosed]
        simp
      dsimp only
      by_cases hnow : closed ≤ now
      · rw [if_pos (Nat.le_trans hnow hle), Nat.max_eq_left hnow, Nat.min_eq_left hle]
        exact ⟨_, h.step (.take ((hiff now).2 hnow) (Nat.le_refl now))⟩
      have hlack : ¬w.Handed a now := fun hthere => hnow ((hiff now).1 hthere)
      rw [Nat.max_eq_right (Nat.le_of_not_le hnow)]
      by_cases hdeadline : closed ≤ deadline
      · rw [if_pos hdeadline, Nat.min_eq_left hdeadline]
        have hnow' : now < closed := Nat.lt_of_not_le hnow
        have hthere := (hiff closed).2 (Nat.le_refl closed)
        exact ⟨_, ((h.step (.lack hlack (Nat.le_refl now))).step
          (.wake (Nat.lt_of_lt_of_le hnow' hdeadline) (Nat.le_of_lt hnow') (.inr hthere))).step
          (.take hthere (Nat.le_refl closed))⟩
      · rw [if_neg hdeadline, Nat.min_eq_right (Nat.le_of_not_le hdeadline)]
        exact ⟨_, (h.step (.lack hlack hle)).step (.giveUp (Nat.le_refl _) (Nat.le_refl _))⟩

theorem handedAt_punctual (timeout : Nat) (b : Behaviour) (a : Awaited) :
    (punctual timeout b).handedAt a = ((punctual timeout b).pipe a).closesAt := by
  cases a <;> rfl

theorem punctual_fits_iff (timeout : Nat) (b : Behaviour) :
    (punctual timeout b).Fits ↔ timeout < waitLimit := by
  show 1000 + 0 + timeout < clockLimit ↔ timeout < waitLimit
  unfold clockLimit waitLimit
  omega

theorem received_eq (p : Pipe) (time : Nat) : p.received time = (p.taken? time).getD [] := by
  unfold Pipe.received Pipe.taken?
  cases p.closesAt with
  | none => rfl
  | some closed =>
      dsimp only
      split <;> rfl

/-- Without delays the process is looked at every `pollInterval`, as long as it is running and
the time is not up. -/
theorem punctual_looks {timeout : Nat} {b : Behaviour} (hlimit : timeout < waitLimit) (k : Nat)
    (hlooks : ∀ i < k, i * pollInterval < timeout ∧ ∀ x ∈ b.ending, i * pollInterval < x.1) :
    ∃ n, (punctual timeout b).Course n ⟨k * pollInterval, .looking timeout⟩ := by
  induction k with
  | zero =>
      have hstart : (punctual timeout b).Step ⟨0, .starting⟩ ⟨0, .looking (0 + timeout)⟩ :=
        .start ((punctual_fits_iff timeout b).2 hlimit) (Nat.le_refl 0)
      rw [Nat.zero_add] at hstart
      rw [Nat.zero_mul]
      exact ⟨_, .step .begin hstart⟩
  | succ k ih =>
      obtain ⟨n, hcourse⟩ := ih fun i hi => hlooks i (Nat.lt_succ_of_lt hi)
      obtain ⟨htime, hrunning⟩ := hlooks k (Nat.lt_succ_self k)
      rw [Nat.succ_mul]
      exact ⟨_, (hcourse.step (.miss hrunning (Nat.le_refl _))).step (.rest htime (Nat.le_refl _))⟩

theorem le_firstLook (time : Nat) : time ≤ firstLook time := by
  unfold firstLook pollInterval
  omega

/-- Without delays a look before the first one that comes after a time comes before it. -/
theorem lt_of_lt_firstLook {i time : Nat} (h : i < (time + 19) / 20) : i * pollInterval < time := by
  unfold pollInterval
  omega

/-- From the end of the process on, the outcome is the one that `answerAt` gives. -/
theorem ends_answerAt {timeout seen n : Nat} {b : Behaviour} {ending : Ending}
    (h : (punctual timeout b).Course n ⟨seen, .expecting (.output ending) (seen + timeout)⟩) :
    (punctual timeout b).Ends (answerAt timeout seen b ending)
      (some (ending, b.output.taken? (seen + timeout))) := by
  obtain ⟨n, houtput⟩ := h.waited (Nat.le_add_right _ _) (handedAt_punctual _ _ _)
  cases ending with
  | signal => exact ⟨n, _, houtput⟩
  | status code =>
      simp only [proceed] at houtput
      unfold answerAt
      dsimp only
      split at houtput
      · rename_i hzero
        rw [if_pos hzero, received_eq]
        exact ⟨n, _, houtput⟩
      rename_i hzero
      rw [if_neg hzero]
      split at houtput
      · rename_i hnone
        rw [if_pos hnone]
        exact ⟨n, _, houtput⟩
      rename_i hnone
      rw [if_neg hnone]
      obtain ⟨n, herrors⟩ := houtput.waited (Nat.le_add_right _ _) (handedAt_punctual _ _ _)
      rw [received_eq]
      exact ⟨n, _, herrors⟩

/-- Without delays a process that is running at the last look is killed there. -/
theorem ends_overdue {timeout : Nat} {b : Behaviour} (hlimit : timeout < waitLimit)
    (hrunning : ∀ x ∈ b.ending, firstLook timeout < x.1) :
    (punctual timeout b).Ends (.failure (.timeout (timeout / 1000))) none := by
  have hlooks : ∀ i < (timeout + 19) / 20,
      i * pollInterval < timeout ∧ ∀ x ∈ b.ending, i * pollInterval < x.1 := fun i hi =>
    ⟨lt_of_lt_firstLook hi, fun x hx =>
      Nat.lt_of_le_of_lt (Nat.mul_le_mul_right _ (Nat.le_of_lt hi)) (hrunning x hx)⟩
  obtain ⟨n, hcourse⟩ := punctual_looks hlimit _ hlooks
  exact ⟨_, _, (hcourse.step (.miss hrunning (Nat.le_refl _))).step
    (.overdue (le_firstLook timeout) (Nat.le_refl _))⟩

/-- Without delays the end of a process is seen at the first look behind it. -/
theorem ends_seen {timeout time : Nat} {b : Behaviour} {ending : Ending}
    (hlimit : timeout < waitLimit) (hending : b.ending = some (time, ending))
    (hseen : firstLook time ≤ firstLook timeout) :
    (punctual timeout b).Ends (answerAt timeout (firstLook time) b ending)
      (some (ending, b.output.taken? (firstLook time + timeout))) := by
  have hlooks : ∀ i < (time + 19) / 20,
      i * pollInterval < timeout ∧ ∀ x ∈ b.ending, i * pollInterval < x.1 := by
    intro i hi
    refine ⟨lt_of_lt_firstLook (Nat.lt_of_lt_of_le hi ?_), fun x hx => ?_⟩
    · exact Nat.le_of_mul_le_mul_right hseen (by decide)
    · rw [hending] at hx
      cases hx
      exact lt_of_lt_firstLook hi
  obtain ⟨n, hcourse⟩ := punctual_looks hlimit _ hlooks
  exact ends_answerAt (hcourse.step (.see hending (le_firstLook time) (Nat.le_refl _)))

/-- `answer` and `report` are the end of a watch without delays. -/
theorem punctual_ends (timeout : Nat) (b : Behaviour) :
    (punctual timeout b).Ends (answer timeout b) (report timeout b) := by
  unfold answer report
  split
  · rename_i hlimit
    exact ends_crash fun hfits => Nat.not_le.2 ((punctual_fits_iff timeout b).1 hfits) hlimit
  rename_i hlimit
  have hlimit' := Nat.lt_of_not_le hlimit
  cases hending : b.ending with
  | none => exact ends_overdue hlimit' (by rw [hending]; exact nofun)
  | some x =>
      obtain ⟨time, ending⟩ := x
      dsimp only
      split
      · exact ends_seen hlimit' hending ‹_›
      · rename_i hlate
        refine ends_overdue hlimit' fun x hx => ?_
        rw [hending] at hx
        cases hx
        exact lt_of_lt_firstLook
          (Nat.lt_of_mul_lt_mul_right (a := pollInterval) (Nat.lt_of_not_le hlate))

theorem taken?_eq_none_iff {p : Pipe} {time : Nat} :
    p.taken? time = none ↔ ¬∃ closed ∈ p.closesAt, closed ≤ time := by
  unfold Pipe.taken?
  cases p.closesAt with
  | none => simp
  | some closed => simp

theorem report_givenUp_iff {timeout : Nat} {b : Behaviour} {ending : Ending} :
    report timeout b = some (ending, none) ↔ timeout < waitLimit ∧ ∃ time,
      b.ending = some (time, ending) ∧ firstLook time ≤ firstLook timeout ∧
      b.output.taken? (firstLook time + timeout) = none := by
  unfold report
  rcases Nat.lt_or_ge timeout waitLimit with hlimit | hlimit
  · rw [if_neg (Nat.not_le.2 hlimit)]
    cases b.ending with
    | none => simp
    | some x =>
        obtain ⟨time, how⟩ := x
        dsimp only
        constructor
        · intro h
          split at h
          · rename_i hseen
            obtain ⟨rfl, hgiven⟩ := Prod.mk.inj (Option.some.inj h)
            exact ⟨hlimit, time, rfl, hseen, hgiven⟩
          · cases h
        · rintro ⟨-, _, hending, hseen, hgiven⟩
          cases hending
          rw [if_pos hseen, hgiven]
  · rw [if_pos hlimit]
    exact iff_of_false nofun fun h => Nat.not_lt.2 hlimit h.1

/-! ## When counts are true -/

/-- Watching a process.  Every course of a watch ends, whatever the delays, after a number of
steps that the time bounds.  The outcome is truthful if the clock can count as far as the
query may take and the output was not given up after status 0 or 5.  All courses are truthful
if and only if the clock can count so far and, for a process that ends with status 0 or 5, the
output is there when the watch has begun and the process has ended.  Without delays the
outcome is that of `answer`: it is truthful if and only if the clock can count so far and the
output of such a process is closed before it was waited for as long as the query may take. -/
theorem courses_truthful_iff (w : Watched) :
    (∀ n m, w.Course n m → n ≤ 2 * w.timeout + 20 ∧
      ((∃ outcome report, m.stage = .ended outcome report) ∨ ∃ m', w.Step m m')) ∧
    (∀ outcome report, w.Ends outcome report →
      (Truthful w.process outcome report ↔ w.Fits ∧
        ∀ code, report = some (.status code, none) → code ≠ 0 ∧ code ≠ noTestsStatus)) ∧
    ((∀ outcome report, w.Ends outcome report → Truthful w.process outcome report) ↔
      w.Fits ∧ ∀ time code, w.process.ending = some (time, .status code) →
        code = 0 ∨ code = noTestsStatus →
        ∃ handed ∈ w.outputAt, handed ≤ max w.start time) ∧
    (punctual w.timeout w.process).Ends (answer w.timeout w.process)
      (report w.timeout w.process) ∧
    (Truthful w.process (answer w.timeout w.process) (report w.timeout w.process) ↔
      w.timeout < waitLimit ∧ ∀ time code, w.process.ending = some (time, .status code) →
        code = 0 ∨ code = noTestsStatus → firstLook time ≤ firstLook w.timeout →
        ∃ closed ∈ w.process.output.closesAt, closed ≤ firstLook time + w.timeout) := by
  refine ⟨fun n m h => ⟨Nat.le_trans (Nat.le_add_right _ _) h.rank_le, exists_step w m⟩,
    fun outcome report h => h.account.truthful_iff, ?_, punctual_ends _ _, ?_⟩
  · constructor
    · intro hall
      have hfits : w.Fits := Classical.byContradiction fun hlimit =>
        (hall _ _ (ends_crash hlimit)).no_crash rfl
      refine ⟨hfits, fun time code hending hcode => Classical.byContradiction fun hlate => ?_⟩
      obtain ⟨outcome, hends⟩ := exists_givenUp hfits hending hcode hlate
      have hother := (hends.account.truthful_iff.1 (hall _ _ hends)).2 code rfl
      exact hcode.elim hother.1 hother.2
    · rintro ⟨hfits, hthere⟩ outcome report hends
      refine hends.account.truthful_iff.2 ⟨hfits, ?_⟩
      rintro code rfl
      obtain ⟨time, hending, hlate⟩ := hends.account.concluded
      rw [← not_or]
      intro hcode
      obtain ⟨handed, hsome, hle⟩ := hthere time code hending hcode
      exact Nat.not_lt.2 hle (hlate handed hsome)
  · have hpunctual := (punctual_ends w.timeout w.process).account.truthful_iff
    rw [punctual_fits_iff] at hpunctual
    refine hpunctual.trans (and_congr_right fun hlimit => ?_)
    constructor
    · refine fun hother time code hending hcode hseen => Classical.byContradiction fun hopen => ?_
      have hgiven := hother code
        (report_givenUp_iff.2 ⟨hlimit, time, hending, hseen, taken?_eq_none_iff.2 hopen⟩)
      exact hcode.elim hgiven.1 hgiven.2
    · intro hthere code hreport
      obtain ⟨-, time, hending, hseen, hgiven⟩ := report_givenUp_iff.1 hreport
      rw [← not_or]
      exact fun hcode => taken?_eq_none_iff.1 hgiven (hthere time code hending hcode hseen)

/-- A process that lists one test and ends at once, while another process still holds its
output for a second. -/
def lingering : Behaviour :=
  ⟨some (0, .status 0), ⟨[97, 58, 58, 98, 10], some 1000⟩, ⟨[], some 1000⟩⟩

/-- Valid settings by which a query may take longer than the clock can count. -/
def patientSettings : Settings := { collect := { timeout := some 9223372036854775807 } }

/-- A query of 300 milliseconds answers zero to the test that was listed, without a warning, and
a query by valid settings crashes. -/
theorem lingering_untruthful :
    countNodeIds (decodeLossy lingering.output.content) = 1 ∧ answer 300 lingering = .count 0 ∧
      (QueryOutcome.count 0).warning? none = none ∧ patientSettings.problem? = none ∧
      answer (Inquiry.ofSettings patientSettings.collect ⟨"/"⟩).timeout lingering = .crash := by
  decide +kernel

end Watched

end TestCensus.Collect
