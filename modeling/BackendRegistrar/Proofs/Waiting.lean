import BackendRegistrar.Proofs.Synchronization
import BackendRegistrar.Simulation.Await

/-! How long work is waited for. Its status is asked for at regular times, until an answer decides, the questions are
used up, or waiting is cancelled; which of these comes first is a matter of counting questions. -/

namespace BackendRegistrar.Cloud
open Program Simulation

/-- What an answer decides: how the work has ended, or that it cannot be asked for. -/
def decision (id : String) : Except CloudError OperationStatus → Option (Except CloudError Unit)
  | .ok status => status.outcome? id
  | .error e => some (.error e)

/-- A status that is not known tells no more than that the work goes on. -/
def OperationStatus.plain : OperationStatus → OperationStatus
  | .unknown _ => .inProgress
  | status => status

theorem decision_plain {id : String} {answer : Except CloudError OperationStatus} :
    decision id (answer.map OperationStatus.plain) = decision id answer := by
  cases answer with
  | error e => rfl
  | ok status => cases status <;> rfl

/-- How long the pauses are. -/
def CompletionTracker.step (t : CompletionTracker) : Nat := pauseLength t.pollInterval

/-- The answers to come, and when waiting is cancelled, if it is. A pause may be over at that very time; then either
can be noticed first. -/
structure Timeline where
  answers : Nat → Except CloudError OperationStatus
  cancelAt : Option Nat
  sooner : Bool

/-- What was asked for so far, and the time. -/
structure Moment where
  asked : List String
  clock : Nat
deriving DecidableEq

def Moment.ask (s : Moment) (id : String) : Moment := { s with asked := s.asked ++ [id] }

namespace Timeline

/-- The cancellation that ends a pause between these times, if one does. -/
def interruption (w : Timeline) (start stop : Nat) : Option Nat :=
  w.cancelAt.filter fun c => c ≤ start ∨ c < stop ∨ w.sooner ∧ c = stop

def pause (w : Timeline) (milliseconds : Nat) (s : Moment) : Bool × Moment :=
  let stop := s.clock + pauseLength milliseconds
  match w.interruption s.clock stop with
  | some c => (true, { s with clock := max s.clock c })
  | none => (false, { s with clock := stop })

def answer (w : Timeline) : (op : Op) → Moment → op.Answer × Moment
  | .request (.workRequest id), s => (w.answers s.asked.length, s.ask id)
  | .request (.getSet _ _), s => (.error (.request "no backend sets"), s)
  | .request (.updateSet _ _ _), s => (.error (.request "no backend sets"), s)
  | .pause milliseconds, s => w.pause milliseconds s

/-- What comes of waiting, what was asked for, and how long it took. -/
def wait (w : Timeline) (t : CompletionTracker) (id : Option String) : Except CloudError Unit × Moment :=
  (t.awaitCompletion id).run.run w.answer ⟨[], 0⟩

variable {w : Timeline} {t : CompletionTracker} {id : String} {attempts : Nat} {s : Moment}

theorem run_poll : (t.poll id (attempts + 1)).run.run (I := service) w.answer s =
    match decision id (w.answers s.asked.length) with
    | some outcome => (outcome, s.ask id)
    | none =>
      if attempts = 0 then (.error (.operationTimedOut id t.maxAttempts), s.ask id)
      else
        let paused := w.pause t.pollInterval (s.ask id)
        if paused.1 then (.error (.cancelled id), paused.2)
        else (t.poll id attempts).run.run (I := service) w.answer paused.2 := by
  have asked : (ask (.workRequest id)).run.run (I := service) w.answer s =
      (w.answers s.asked.length, s.ask id) := rfl
  have paused : (Cloud.pause t.pollInterval).run.run (I := service) w.answer (s.ask id) =
      (.ok (w.pause t.pollInterval (s.ask id)).1, (w.pause t.pollInterval (s.ask id)).2) := rfl
  rw [CompletionTracker.poll, run_attempt, asked]
  cases w.answers s.asked.length with
  | error e => rfl
  | ok status =>
    dsimp only [decision]
    cases status.outcome? id with
    | some outcome => rfl
    | none =>
      dsimp only
      split
      · rfl
      · rw [run_attempt, paused]
        dsimp only
        split <;> rfl

/-- Where a wait has got to when so many questions were answered and the pauses after them are over. -/
def round (t : CompletionTracker) (id : String) (i : Nat) : Moment := ⟨List.replicate i id, i * t.step⟩

def Undecided (w : Timeline) (id : String) (n : Nat) : Prop := ∀ i < n, decision id (w.answers i) = none

/-- No pause after one of the first questions is interrupted. -/
def Unbroken (w : Timeline) (t : CompletionTracker) (n : Nat) : Prop :=
  ∀ i < n, w.interruption (i * t.step) (i * t.step + t.step) = none

variable {i n c : Nat} {outcome : Except CloudError Unit}

/-- A round asks once more, and only an undecided answer with a question left and a whole pause leads to the next. -/
theorem run_round : (t.poll id (attempts + 1)).run.run (I := service) w.answer (round t id i) =
    match decision id (w.answers i) with
    | some outcome => (outcome, ⟨List.replicate (i + 1) id, i * t.step⟩)
    | none =>
      if attempts = 0 then (.error (.operationTimedOut id t.maxAttempts), ⟨List.replicate (i + 1) id, i * t.step⟩)
      else
        match w.interruption (i * t.step) (i * t.step + t.step) with
        | some c => (.error (.cancelled id), ⟨List.replicate (i + 1) id, max (i * t.step) c⟩)
        | none => (t.poll id attempts).run.run (I := service) w.answer (round t id (i + 1)) := by
  have asked : (round t id i).ask id = ⟨List.replicate (i + 1) id, i * t.step⟩ := by
    simp [round, Moment.ask, List.replicate_succ']
  have count : (round t id i).asked.length = i := List.length_replicate
  rw [run_poll, asked, count, pause, ← CompletionTracker.step]
  dsimp only
  cases w.interruption (i * t.step) (i * t.step + t.step) with
  | some c => rfl
  | none => simp only [round, Nat.succ_mul, Bool.false_eq_true, ite_false]

/-- While nothing is decided and no pause is interrupted, a wait goes on from round to round. -/
theorem wait_rounds (more : n < t.maxAttempts) (undecided : w.Undecided id n) (unbroken : w.Unbroken t n) :
    w.wait t (some id) =
      (t.poll id (t.maxAttempts - n - 1 + 1)).run.run (I := service) w.answer (round t id n) := by
  -- on the rounds that are over: one more question and the pause after it lead to the next one
  induction n with
  | zero =>
    have all : t.maxAttempts - 0 - 1 + 1 = t.maxAttempts := by omega
    rw [all, wait, CompletionTracker.awaitCompletion, round, List.replicate_zero, Nat.zero_mul]
  | succ n ih =>
    have before := ih (by omega) (fun i earlier => undecided i (by omega)) (fun i earlier => unbroken i (by omega))
    have left : t.maxAttempts - n - 1 = t.maxAttempts - (n + 1) - 1 + 1 := by omega
    rw [before, run_round, undecided n (Nat.lt_succ_self n), unbroken n (Nat.lt_succ_self n), left]
    exact if_neg (Nat.succ_ne_zero _)

theorem wait_decided (more : i < t.maxAttempts) (undecided : w.Undecided id i) (unbroken : w.Unbroken t i)
    (decided : decision id (w.answers i) = some outcome) :
    w.wait t (some id) = (outcome, ⟨List.replicate (i + 1) id, i * t.step⟩) := by
  rw [wait_rounds more undecided unbroken, run_round, decided]

theorem wait_timedOut (undecided : w.Undecided id t.maxAttempts) (unbroken : w.Unbroken t (t.maxAttempts - 1)) :
    w.wait t (some id) = (.error (.operationTimedOut id t.maxAttempts),
      ⟨List.replicate t.maxAttempts id, (t.maxAttempts - 1) * t.step⟩) := by
  cases attempts : t.maxAttempts with
  | zero =>
    have none : t.poll id 0 = throw (.operationTimedOut id 0) := by rw [CompletionTracker.poll, attempts]
    rw [wait, CompletionTracker.awaitCompletion, attempts, none, List.replicate_zero, Nat.zero_sub, Nat.zero_mul]
    rfl
  | succ last =>
    rw [attempts] at unbroken
    have more : last < t.maxAttempts := by omega
    have nothing : t.maxAttempts - last - 1 = 0 := by omega
    rw [wait_rounds more (fun i earlier => undecided i (by omega)) unbroken, run_round, undecided last more, nothing,
      attempts]
    rfl

theorem wait_cancelled (more : i + 1 < t.maxAttempts) (undecided : w.Undecided id (i + 1)) (unbroken : w.Unbroken t i)
    (broken : w.interruption (i * t.step) (i * t.step + t.step) = some c) :
    w.wait t (some id) = (.error (.cancelled id), ⟨List.replicate (i + 1) id, max (i * t.step) c⟩) := by
  have left : t.maxAttempts - i - 1 ≠ 0 := by omega
  rw [wait_rounds (by omega) (fun j earlier => undecided j (by omega)) unbroken, run_round,
    undecided i (Nat.lt_succ_self i), broken]
  exact if_neg left

/-- How many questions are asked until a cancellation at this time is noticed. -/
def questions (w : Timeline) (t : CompletionTracker) (c : Nat) : Nat :=
  if w.sooner ∧ 0 < c ∧ t.step ∣ c then c / t.step else c / t.step + 1

theorem questions_le_iff (positive : 0 < t.step) :
    w.questions t c ≤ i + 1 ↔ c < (i + 1) * t.step ∨ w.sooner ∧ c = (i + 1) * t.step := by
  unfold questions
  split
  next tie =>
    obtain ⟨sooner, started, q, rfl⟩ := tie
    rw [Nat.mul_div_cancel_left q positive, Nat.mul_comm t.step q]
    simp only [sooner, true_and]
    rw [← Nat.le_iff_lt_or_eq]
    exact (Nat.mul_le_mul_right_iff positive).symm
  next other =>
    have untied : ¬ (w.sooner ∧ c = (i + 1) * t.step) := by
      rintro ⟨sooner, rfl⟩
      exact other ⟨sooner, Nat.mul_pos (Nat.succ_pos i) positive, Nat.dvd_mul_left _ _⟩
    rw [Nat.succ_le_succ_iff, or_iff_left untied, ← Nat.lt_succ_iff]
    exact Nat.div_lt_iff_lt_mul positive

theorem interruption_round (positive : 0 < t.step) (cancelled : w.cancelAt = some c) :
    w.interruption (i * t.step) (i * t.step + t.step) = if w.questions t c ≤ i + 1 then some c else none := by
  have noticed : (c ≤ i * t.step ∨ c < i * t.step + t.step ∨ w.sooner ∧ c = i * t.step + t.step) ↔
      w.questions t c ≤ i + 1 := by
    rw [questions_le_iff positive, Nat.succ_mul]
    constructor
    · rintro (before | inside | tie)
      · exact .inl (by omega)
      · exact .inl inside
      · exact .inr tie
    · exact .inr
  simp [interruption, cancelled, Option.filter, noticed]

theorem unbroken_of_cancelAt (positive : 0 < t.step) (cancelled : w.cancelAt = some c) (early : n < w.questions t c) :
    w.Unbroken t n := by
  intro i earlier
  rw [interruption_round positive cancelled, if_neg (by omega)]

theorem questions_pos (positive : 0 < t.step) : 0 < w.questions t c := by
  unfold questions
  split
  next tie => exact Nat.div_pos (Nat.le_of_dvd tie.2.1 tie.2.2) positive
  next => exact Nat.succ_pos _

theorem wait_noticed (positive : 0 < t.step) (cancelled : w.cancelAt = some c)
    (undecided : w.Undecided id (w.questions t c)) (more : w.questions t c < t.maxAttempts) :
    w.wait t (some id) = (.error (.cancelled id), ⟨List.replicate (w.questions t c) id, c⟩) := by
  obtain ⟨i, asked⟩ := Nat.exists_eq_succ_of_ne_zero (Nat.ne_of_gt (questions_pos (w := w) (c := c) positive))
  have started : i ≤ c / t.step := by
    unfold questions at asked
    split at asked <;> omega
  have broken : w.interruption (i * t.step) (i * t.step + t.step) = some c := by
    rw [interruption_round positive cancelled, if_pos (Nat.le_of_eq asked)]
  rw [asked] at undecided more
  rw [asked, wait_cancelled more undecided (unbroken_of_cancelAt positive cancelled (by omega)) broken,
    Nat.max_eq_right (Nat.mul_le_of_le_div _ _ _ started)]

def uncancelled (w : Timeline) : Timeline := { w with cancelAt := none }

theorem uncancelled_unbroken : w.uncancelled.Unbroken t n := fun _ _ => rfl

/-- Either an answer decides first or all of them leave it open. -/
theorem decided_or_undecided (w : Timeline) (id : String) (n : Nat) :
    (∃ i < n, ∃ outcome, w.Undecided id i ∧ decision id (w.answers i) = some outcome) ∨ w.Undecided id n := by
  induction n with
  | zero => exact .inr nofun
  | succ n ih =>
    rcases ih with ⟨i, earlier, found⟩ | undecided
    · exact .inl ⟨i, Nat.lt_succ_of_lt earlier, found⟩
    · cases last : decision id (w.answers n) with
      | some outcome => exact .inl ⟨n, Nat.lt_succ_self n, outcome, undecided, last⟩
      | none =>
        refine .inr fun i earlier => ?_
        rcases Nat.lt_succ_iff_lt_or_eq.mp earlier with earlier | rfl
        · exact undecided i earlier
        · exact last

/-- A cancellation that would be noticed only after the end changes nothing. -/
theorem wait_unnoticed (positive : 0 < t.step) (cancelled : w.cancelAt = some c)
    (late : ¬ (w.Undecided id (w.questions t c) ∧ w.questions t c < t.maxAttempts)) :
    w.wait t (some id) = w.uncancelled.wait t (some id) := by
  rcases w.decided_or_undecided id t.maxAttempts with ⟨i, more, outcome, undecided, decided⟩ | undecided
  · have early : i < w.questions t c :=
      Nat.lt_of_not_le fun later => late ⟨fun j earlier => undecided j (by omega), by omega⟩
    rw [wait_decided more undecided (unbroken_of_cancelAt positive cancelled early) decided,
      wait_decided (w := w.uncancelled) more undecided uncancelled_unbroken decided]
  · have early : t.maxAttempts - 1 < w.questions t c := by
      have asked : 0 < w.questions t c := questions_pos positive
      exact Nat.lt_of_not_le fun later => late ⟨fun j earlier => undecided j (by omega), by omega⟩
    rw [wait_timedOut undecided (unbroken_of_cancelAt positive cancelled early),
      wait_timedOut (w := w.uncancelled) undecided uncancelled_unbroken]

/-- A wait depends on no more of the answers than what they decide. -/
theorem run_poll_congr {answers : Nat → Except CloudError OperationStatus}
    (same : ∀ i, decision id (answers i) = decision id (w.answers i)) :
    (t.poll id attempts).run.run (I := service) ({ w with answers } : Timeline).answer s =
      (t.poll id attempts).run.run (I := service) w.answer s := by
  induction attempts generalizing s with
  | zero => rfl
  | succ attempts ih =>
    have paused (s : Moment) : ({ w with answers } : Timeline).pause t.pollInterval s = w.pause t.pollInterval s := rfl
    rw [run_poll, run_poll, same]
    simp only [paused, ih]

def plain (w : Timeline) : Timeline := { w with answers := fun i => (w.answers i).map OperationStatus.plain }

/-- Without a cancellation, work is asked for until the first answer that decides, or as often as is allowed, and
nothing follows the last question. A cancellation ends the wait at its time, after the questions up to then, unless
these decide or were all that is allowed; then it changes nothing. A status that is not known is like work in progress,
and without an identifier nothing is asked. -/
theorem wait_exact (t : CompletionTracker) (positive : 0 < t.pollInterval) (w : Timeline) (id : String) :
    (w.cancelAt = none →
      (∀ i < t.maxAttempts, ∀ outcome, w.Undecided id i → decision id (w.answers i) = some outcome →
        w.wait t (some id) = (outcome, ⟨List.replicate (i + 1) id, i * t.step⟩)) ∧
      (w.Undecided id t.maxAttempts →
        w.wait t (some id) = (.error (.operationTimedOut id t.maxAttempts),
          ⟨List.replicate t.maxAttempts id, (t.maxAttempts - 1) * t.step⟩))) ∧
    (∀ c, w.cancelAt = some c →
      (w.Undecided id (w.questions t c) → w.questions t c < t.maxAttempts →
        w.wait t (some id) = (.error (.cancelled id), ⟨List.replicate (w.questions t c) id, c⟩)) ∧
      (¬ (w.Undecided id (w.questions t c) ∧ w.questions t c < t.maxAttempts) →
        w.wait t (some id) = w.uncancelled.wait t (some id))) ∧
    w.plain.wait t (some id) = w.wait t (some id) ∧
    w.wait t none = (.ok (), ⟨[], 0⟩) := by
  have step : 0 < t.step := by
    simp only [CompletionTracker.step, pauseLength, longestPause]
    omega
  refine ⟨?_, ?_, run_poll_congr fun i => decision_plain, rfl⟩
  · intro never
    have unbroken (n : Nat) : w.Unbroken t n := by
      intro i _
      rw [interruption, never]
      rfl
    exact ⟨fun i more outcome undecided => wait_decided more undecided (unbroken i),
      fun undecided => wait_timedOut undecided (unbroken _)⟩
  · intro c cancelled
    exact ⟨wait_noticed step cancelled, wait_unnoticed step cancelled⟩

section Simulated

/-- The answers that are given by a list of which the last repeats; without any the work has succeeded. -/
def told : List (Except CloudError OperationStatus) → Nat → Except CloudError OperationStatus
  | [], _ => .ok .succeeded
  | [last], _ => last
  | first :: _ :: _, 0 => first
  | _ :: second :: rest, i + 1 => told (second :: rest) i

/-- Work that is simulated stands where a timeline does. -/
structure Simulates (w : Timeline) (u : Work) (s : Moment) : Prop where
  answers : ∀ i, told u.answers i = w.answers (s.asked.length + i)
  cancelAt : u.cancelAt = w.cancelAt
  clock : u.clock = s.clock
  asked : u.asked = s.asked.reverse

variable {u : Work}

theorem next_told (u : Work) (id : String) : (u.next id).1 = told u.answers 0 ∧
    (∀ i, told (u.next id).2.answers i = told u.answers (i + 1)) ∧ (u.next id).2.cancelAt = u.cancelAt ∧
    (u.next id).2.clock = u.clock ∧ (u.next id).2.asked = id :: u.asked := by
  obtain ⟨answers, cancelAt, clock, asked⟩ := u
  match answers with
  | [] | [_] | _ :: _ :: _ => exact ⟨rfl, fun _ => rfl, rfl, rfl, rfl⟩

theorem Simulates.ask (simulates : w.Simulates u s) (id : String) :
    (u.next id).1 = w.answers s.asked.length ∧ w.Simulates (u.next id).2 (s.ask id) := by
  obtain ⟨now, later, cancelAt, clock, asked⟩ := next_told u id
  refine ⟨now.trans (simulates.answers 0), ?_, cancelAt.trans simulates.cancelAt, clock.trans simulates.clock, ?_⟩
  · intro i
    rw [later, simulates.answers]
    simp [Moment.ask, Nat.add_assoc, Nat.add_comm 1]
  · rw [asked, simulates.asked]
    simp [Moment.ask]

/-- In a simulation the end of a pause is noticed before a cancellation at the same time. -/
theorem Simulates.pause (simulates : w.Simulates u s) (later : w.sooner = false) (milliseconds : Nat) :
    (u.pause milliseconds).1 = (w.pause milliseconds s).1 ∧
      w.Simulates (u.pause milliseconds).2 (w.pause milliseconds s).2 := by
  obtain ⟨answers, cancelAt, clock, asked⟩ := u
  obtain ⟨same, rfl, rfl, rfl⟩ := simulates
  unfold Work.pause Timeline.pause interruption
  cases cancelled : w.cancelAt with
  | none => exact ⟨rfl, same, cancelled.symm, rfl, rfl⟩
  | some c =>
    by_cases early : c ≤ s.clock ∨ c < s.clock + pauseLength milliseconds
    · simp only [Option.filter, later, early, Bool.false_eq_true, false_and, or_false, ite_true, decide_true]
      exact ⟨trivial, same, cancelled.symm, rfl, rfl⟩
    · simp only [Option.filter, later, early, Bool.false_eq_true, false_and, or_false, ite_false, decide_false]
      exact ⟨trivial, same, cancelled.symm, rfl, rfl⟩

theorem Simulates.answer (simulates : w.Simulates u s) (later : w.sooner = false) (op : Op) :
    (u.answer op).1 = (w.answer op s).1 ∧ w.Simulates (u.answer op).2 (w.answer op s).2 := by
  cases op with
  | request r =>
    cases r with
    | getSet | updateSet => exact ⟨rfl, simulates⟩
    | workRequest id => exact simulates.ask id
  | pause milliseconds => exact simulates.pause later milliseconds

theorem Simulates.run (simulates : w.Simulates u s) (later : w.sooner = false) (p : Program service α) :
    (p.run Work.answer u).1 = (p.run w.answer s).1 ∧ w.Simulates (p.run Work.answer u).2 (p.run w.answer s).2 := by
  induction p generalizing u s with
  | done value => exact ⟨rfl, simulates⟩
  | ask op next ih =>
    obtain ⟨same, after⟩ := simulates.answer later op
    simp only [Program.run]
    rw [same]
    exact ih _ after

theorem simulated_wait (answers : List (Except CloudError OperationStatus)) (cancelAt : Option Nat)
    (t : CompletionTracker) (id : Option String) :
    ((t.awaitCompletion id).run.run (I := service) Work.answer ⟨answers, cancelAt, 0, []⟩).1 =
        (wait ⟨told answers, cancelAt, false⟩ t id).1 ∧
      Simulates ⟨told answers, cancelAt, false⟩
        ((t.awaitCompletion id).run.run (I := service) Work.answer ⟨answers, cancelAt, 0, []⟩).2
        (wait ⟨told answers, cancelAt, false⟩ t id).2 := by
  have start : Simulates ⟨told answers, cancelAt, false⟩ ⟨answers, cancelAt, 0, []⟩ ⟨[], 0⟩ :=
    ⟨fun i => by rw [List.length_nil, Nat.zero_add], rfl, rfl, rfl⟩
  exact start.run rfl _

end Simulated

section Busy

/-! Work that goes on for ever, and a wait that is cancelled just when a pause is over. -/

def busy (cancelAt : Option Nat) (sooner : Bool) : Timeline := ⟨fun _ => .ok (.unknown "QUEUED"), cancelAt, sooner⟩

theorem busy_wait_exact :
    0 < (⟨5, 9⟩ : CompletionTracker).pollInterval ∧
    (busy none false).wait ⟨5, 9⟩ (some "w") =
      (.error (.operationTimedOut "w" 9), ⟨List.replicate 9 "w", 40⟩) ∧
    (busy (some 15) false).wait ⟨5, 9⟩ (some "w") = (.error (.cancelled "w"), ⟨["w", "w", "w", "w"], 15⟩) ∧
    (busy (some 15) true).wait ⟨5, 9⟩ (some "w") = (.error (.cancelled "w"), ⟨["w", "w", "w"], 15⟩) := by
  have positive : 0 < (⟨5, 9⟩ : CompletionTracker).pollInterval := by decide
  have waits (cancelAt : Option Nat) (sooner : Bool) := wait_exact ⟨5, 9⟩ positive (busy cancelAt sooner) "w"
  refine ⟨positive, ?_, ?_, ?_⟩
  · exact ((waits none false).1 rfl).2 fun _ _ => rfl
  · exact ((waits (some 15) false).2.1 15 rfl).1 (fun _ _ => rfl) (by decide)
  · exact ((waits (some 15) true).2.1 15 rfl).1 (fun _ _ => rfl) (by decide)

/-- A cancellation that comes just when a pause is over does not go unnoticed, and pauses do not get as long as any
interval. -/
theorem not_exact_in_intervals :
    (¬ ∀ (t : CompletionTracker) (w : Timeline) (id : String) (c : Nat), 0 < t.pollInterval → w.cancelAt = some c →
        ¬ (c = 0 ∨ ¬ t.pollInterval ∣ c) → w.wait t (some id) = w.uncancelled.wait t (some id)) ∧
    ¬ ∀ (t : CompletionTracker) (w : Timeline) (id : String), 0 < t.pollInterval → w.cancelAt = none →
        w.Undecided id t.maxAttempts → (w.wait t (some id)).2.clock = (t.maxAttempts - 1) * t.pollInterval := by
  constructor
  · intro claim
    have unnoticed := claim ⟨5, 9⟩ (busy (some 15) false) "w" 15 (by decide) rfl (by decide)
    have late : ((busy (some 15) false).wait ⟨5, 9⟩ (some "w")).2.clock = 15 := rfl
    have never : ((busy (some 15) false).uncancelled.wait ⟨5, 9⟩ (some "w")).2.clock = 40 := rfl
    rw [unnoticed, never] at late
    cases late
  · intro claim
    have long := claim ⟨946080000001, 2⟩ (busy none false) "w" (by decide) rfl fun _ _ => rfl
    have cut : ((busy none false).wait ⟨946080000001, 2⟩ (some "w")).2.clock = 946080000000 := rfl
    rw [cut] at long
    cases long

end Busy

end Timeline

end BackendRegistrar.Cloud
