import BackendRegistrar.Cloud.Sync
import BackendRegistrar.Proofs.Trace

/-! The course of a synchronization. The set is read first; if it is shown and may be given the
backends, it is updated once; and only the work of a network load balancer is asked for after that,
until it is over or the questions are used up. Nothing follows a failure. -/

namespace BackendRegistrar.Cloud
open Program

variable {trace : Trace service} {result : Except CloudError Unit}

theorem ask_completes {r : Request} {answer : Except CloudError r.Value} :
    (ask r).run.Completes trace answer ↔ trace = [⟨.request r, answer⟩] :=
  completes_perform (I := service)

theorem pause_completes {milliseconds : Nat} {answer : Except CloudError Bool} :
    (pause milliseconds).run.Completes trace answer ↔
      ∃ interrupted, trace = [⟨.pause milliseconds, interrupted⟩] ∧ answer = .ok interrupted := by
  change ((perform (I := service) (.pause milliseconds)).bind fun interrupted => .done (.ok interrupted)).Completes
    trace answer ↔ _
  rw [completes_bind]
  constructor
  · rintro ⟨first, second, interrupted, rfl, paused, later⟩
    obtain rfl := completes_perform.mp paused
    obtain ⟨rfl, rfl⟩ := completes_done.mp later
    exact ⟨interrupted, rfl, rfl⟩
  · rintro ⟨interrupted, rfl, rfl⟩
    exact ⟨_, [], interrupted, rfl, completes_perform.mpr rfl, .start _⟩

section Waiting

variable {t : CompletionTracker} {id : String} {attempts : Nat} {status : OperationStatus}

/-- The work will not change any more. -/
def OperationStatus.final : OperationStatus → Bool
  | .succeeded | .failed | .canceled => true
  | .accepted | .inProgress | .canceling | .unknown _ => false

theorem outcome?_eq_none : status.outcome? id = none ↔ status.final = false := by
  cases status <;> simp [OperationStatus.outcome?, OperationStatus.final]

theorem outcome?_eq_ok : status.outcome? id = some (.ok ()) ↔ status = .succeeded := by
  cases status <;> simp [OperationStatus.outcome?]

/-- The answer tells that the work goes on. -/
def Unfinished (answer : Except CloudError OperationStatus) : Prop :=
  ∃ status, answer = .ok status ∧ status.final = false

/-- A wait with so many questions left. -/
inductive Polls (t : CompletionTracker) (id : String) : Nat → Trace service → Except CloudError Unit → Prop
  | spent : Polls t id 0 [] (.error (.operationTimedOut id t.maxAttempts))
  | failed {attempts : Nat} (e : CloudError) :
      Polls t id (attempts + 1) [⟨.request (.workRequest id), .error e⟩] (.error e)
  | ended {attempts : Nat} {status : OperationStatus} {outcome : Except CloudError Unit}
      (final : status.outcome? id = some outcome) :
      Polls t id (attempts + 1) [⟨.request (.workRequest id), .ok status⟩] outcome
  | last {status : OperationStatus} (goesOn : status.outcome? id = none) :
      Polls t id 1 [⟨.request (.workRequest id), .ok status⟩] (.error (.operationTimedOut id t.maxAttempts))
  | interrupted {attempts : Nat} {status : OperationStatus} (goesOn : status.outcome? id = none) :
      Polls t id (attempts + 2) [⟨.request (.workRequest id), .ok status⟩, ⟨.pause t.pollInterval, true⟩]
        (.error (.cancelled id))
  | again {attempts : Nat} {status : OperationStatus} {rest : Trace service} {outcome : Except CloudError Unit}
      (goesOn : status.outcome? id = none) (later : Polls t id (attempts + 1) rest outcome) :
      Polls t id (attempts + 2)
        (⟨.request (.workRequest id), .ok status⟩ :: ⟨.pause t.pollInterval, false⟩ :: rest) outcome

theorem poll_completes : (t.poll id attempts).run.Completes trace result ↔ Polls t id attempts trace result := by
  induction attempts generalizing trace with
  | zero =>
    constructor
    · intro completes
      obtain ⟨rfl, rfl⟩ := completes_done.mp completes
      exact .spent
    · intro polls
      cases polls
      exact .start _
  | succ attempts ih =>
    rw [CompletionTracker.poll, completes_attempt_bind]
    constructor
    · rintro (⟨e, asked, rfl⟩ | ⟨first, second, status, rfl, asked, later⟩)
      · obtain rfl := ask_completes.mp asked
        exact .failed e
      · obtain rfl := ask_completes.mp asked
        split at later
        next outcome final =>
          obtain ⟨rfl, rfl⟩ := completes_done.mp later
          exact .ended final
        next goesOn =>
          split at later
          next none =>
            subst none
            obtain ⟨rfl, rfl⟩ := completes_done.mp later
            exact .last goesOn
          next some =>
            obtain ⟨left, rfl⟩ := Nat.exists_eq_succ_of_ne_zero some
            rcases completes_attempt_bind.mp later with ⟨e, paused, _⟩ | ⟨third, rest, interrupted, rfl, paused, after⟩
            · obtain ⟨_, _, impossible⟩ := pause_completes.mp paused
              cases impossible
            · obtain ⟨answer, rfl, same⟩ := pause_completes.mp paused
              cases same
              cases interrupted with
              | true =>
                obtain ⟨rfl, rfl⟩ := completes_done.mp after
                exact .interrupted goesOn
              | false => exact .again goesOn (ih.mp after)
    · intro polls
      cases polls with
      | failed e => exact .inl ⟨e, ask_completes.mpr rfl, rfl⟩
      | ended final =>
        refine .inr ⟨_, [], _, rfl, ask_completes.mpr rfl, ?_⟩
        simp only [final]
        exact .start _
      | last goesOn =>
        refine .inr ⟨_, [], _, rfl, ask_completes.mpr rfl, ?_⟩
        simp only [goesOn, ite_true]
        exact .start _
      | interrupted goesOn =>
        refine .inr ⟨[_], _, _, rfl, ask_completes.mpr rfl, ?_⟩
        simp only [goesOn, Nat.succ_ne_zero, ite_false]
        exact completes_attempt_bind.mpr
          (.inr ⟨_, [], true, rfl, pause_completes.mpr ⟨true, rfl, rfl⟩, .start _⟩)
      | again goesOn later =>
        refine .inr ⟨[_], _, _, rfl, ask_completes.mpr rfl, ?_⟩
        simp only [goesOn, Nat.succ_ne_zero, ite_false]
        exact completes_attempt_bind.mpr
          (.inr ⟨[_], _, false, rfl, pause_completes.mpr ⟨false, rfl, rfl⟩, ih.mpr later⟩)

/-- The answers to questions for a status. -/
def statuses : Trace service → List (Except CloudError OperationStatus)
  | [] => []
  | ⟨.request (.workRequest _), answer⟩ :: rest => answer :: statuses rest
  | _ :: rest => statuses rest

/-- What holds of every wait: only the status of this work is asked for, no more often than there are
questions left, and no more after the work is over or a question failed; and it is asked for as long
as there are questions left, unless a pause is interrupted. -/
structure Waited (t : CompletionTracker) (id : String) (attempts : Nat) (trace : Trace service)
    (result : Except CloudError Unit) : Prop where
  asks : ∀ x ∈ trace, (∃ answer, x = ⟨.request (.workRequest id), answer⟩) ∨
    ∃ interrupted, x = ⟨.pause t.pollInterval, interrupted⟩
  budget : (statuses trace).length ≤ attempts
  unfinished : ∀ answer ∈ (statuses trace).dropLast, Unfinished answer
  persistent : (statuses trace).length = attempts ∨
    (∃ answer, (statuses trace).getLast? = some answer ∧ ¬ Unfinished answer) ∨
    (⟨.pause t.pollInterval, true⟩ : Exchange service) ∈ trace
  succeeded : result = .ok () ↔ (statuses trace).getLast? = some (.ok .succeeded)

theorem Polls.statuses_ne_nil (polls : Polls t id (attempts + 1) trace result) : statuses trace ≠ [] := by
  cases polls <;> simp [statuses]

theorem Polls.waited (polls : Polls t id attempts trace result) : Waited t id attempts trace result := by
  induction polls with
  | spent => exact ⟨nofun, Nat.le_refl _, nofun, .inl rfl, by simp [statuses]⟩
  | failed e =>
    have failure : ¬ Unfinished (.error e) := by
      rintro ⟨_, impossible, _⟩
      cases impossible
    exact ⟨by simp, by simp [statuses], by simp [statuses], .inr (.inl ⟨_, rfl, failure⟩), by simp [statuses]⟩
  | @ended _ status outcome final =>
    have ended : ¬ Unfinished (.ok status) := by
      rintro ⟨_, same, goesOn⟩
      cases same
      rw [outcome?_eq_none.mpr goesOn] at final
      cases final
    refine ⟨by simp, by simp [statuses], by simp [statuses], .inr (.inl ⟨_, rfl, ended⟩), ?_⟩
    rw [← Option.some_inj, ← final, outcome?_eq_ok]
    simp [statuses]
  | @last status goesOn =>
    refine ⟨by simp, by simp [statuses], by simp [statuses], .inl rfl, ?_⟩
    simp only [statuses, List.getLast?_singleton, Option.some.injEq, Except.ok.injEq, reduceCtorEq, false_iff]
    rintro rfl
    cases goesOn
  | @interrupted _ status goesOn =>
    refine ⟨by simp, by simp [statuses], by simp [statuses], .inr (.inr (by simp)), ?_⟩
    simp only [statuses, List.getLast?_singleton, Option.some.injEq, Except.ok.injEq, reduceCtorEq, false_iff]
    rintro rfl
    cases goesOn
  | @again attempts status rest outcome goesOn later ih =>
    obtain ⟨answer, others, asked⟩ := List.exists_cons_of_ne_nil later.statuses_ne_nil
    refine ⟨?_, ?_, ?_, ?_, ?_⟩
    · intro x member
      rcases List.mem_cons.mp member with rfl | member
      · exact .inl ⟨_, rfl⟩
      · rcases List.mem_cons.mp member with rfl | member
        · exact .inr ⟨_, rfl⟩
        · exact ih.asks x member
    · simpa [statuses] using ih.budget
    · intro answer member
      simp only [statuses, asked, List.dropLast_cons_cons, List.mem_cons] at member
      rcases member with rfl | member
      · exact ⟨status, rfl, outcome?_eq_none.mp goesOn⟩
      · exact ih.unfinished answer (by rw [asked]; exact member)
    · rcases ih.persistent with all | ⟨last, found, ended⟩ | interrupted
      · exact .inl (by simp [statuses, all])
      · refine .inr (.inl ⟨last, ?_, ended⟩)
        simpa [statuses, asked] using found
      · exact .inr (.inr (by simp [interrupted]))
    · rw [ih.succeeded]
      simp [statuses, asked]

end Waiting

section Course

variable {kind : Kind} {tracker : CompletionTracker} {id name : String} {targets : List Target}

/-- The work of a network load balancer is waited for. -/
def awaited (kind : Kind) (tracker : CompletionTracker) (work : Option String) :
    ExceptT CloudError (Program service) Unit :=
  match kind with
  | .classic => pure ()
  | .network => tracker.awaitCompletion work

/-- How a synchronization goes. -/
inductive Course (kind : Kind) (tracker : CompletionTracker) (id name : String) (targets : List Target) :
    Trace service → Except CloudError Unit → Prop
  | unread (e : CloudError) :
      Course kind tracker id name targets [⟨.request (.getSet id name), .error e⟩] (.error e)
  | bare {s : BackendSet} (network : kind = .network) (none : targets = []) :
      Course kind tracker id name targets [⟨.request (.getSet id name), .ok s⟩] (.error (.noBackends name))
  | unwritten {s : BackendSet} (some : kind = .network → targets ≠ []) (e : CloudError) :
      Course kind tracker id name targets
        [⟨.request (.getSet id name), .ok s⟩, ⟨.request (.updateSet id name (s.replacing targets)), .error e⟩]
        (.error e)
  | written {s : BackendSet} (some : kind = .network → targets ≠ []) {work : Option String} {rest : Trace service}
      {outcome : Except CloudError Unit} (later : (awaited kind tracker work).run.Completes rest outcome) :
      Course kind tracker id name targets
        (⟨.request (.getSet id name), .ok s⟩ :: ⟨.request (.updateSet id name (s.replacing targets)), .ok work⟩ :: rest)
        outcome

/-- The part of a synchronization after the set was read. -/
private def writing (kind : Kind) (tracker : CompletionTracker) (id name : String) (targets : List Target)
    (s : BackendSet) : ExceptT CloudError (Program service) Unit := do
  let work : Option String ← ask (.updateSet id name (s.replacing targets))
  awaited kind tracker work

private theorem syncBackends_eq :
    syncBackends kind tracker id name targets = (do
      let s : BackendSet ← ask (.getSet id name)
      if kind = .network ∧ targets = [] then throw (.noBackends name)
      else writing kind tracker id name targets s) := by
  unfold syncBackends writing
  congr 1
  funext s
  cases kind with
  | classic => rfl
  | network => simp only [List.isEmpty_iff, true_and, awaited]

theorem syncBackends_completes :
    (syncBackends kind tracker id name targets).run.Completes trace result ↔
      Course kind tracker id name targets trace result := by
  rw [syncBackends_eq, completes_attempt_bind]
  constructor
  · rintro (⟨e, asked, rfl⟩ | ⟨first, second, s, rfl, asked, later⟩)
    · obtain rfl := ask_completes.mp asked
      exact .unread e
    · obtain rfl := ask_completes.mp asked
      split at later
      next refused =>
        obtain ⟨rfl, rfl⟩ := completes_done.mp later
        exact .bare refused.1 refused.2
      next allowed =>
        have some : kind = .network → targets ≠ [] := fun network none => allowed ⟨network, none⟩
        rcases completes_attempt_bind.mp later with ⟨e, asked, rfl⟩ | ⟨middle, rest, work, rfl, asked, after⟩
        · obtain rfl := ask_completes.mp asked
          exact .unwritten some e
        · obtain rfl := ask_completes.mp asked
          exact .written some after
  · intro course
    cases course with
    | unread e => exact .inl ⟨e, ask_completes.mpr rfl, rfl⟩
    | bare network none =>
      refine .inr ⟨_, [], _, rfl, ask_completes.mpr rfl, ?_⟩
      rw [if_pos ⟨network, none⟩]
      exact .start _
    | unwritten some e =>
      refine .inr ⟨[_], _, _, rfl, ask_completes.mpr rfl, ?_⟩
      rw [if_neg fun refused => some refused.1 refused.2]
      exact completes_attempt_bind.mpr (.inl ⟨e, ask_completes.mpr rfl, rfl⟩)
    | written some later =>
      refine .inr ⟨[_], _, _, rfl, ask_completes.mpr rfl, ?_⟩
      rw [if_neg fun refused => some refused.1 refused.2]
      exact completes_attempt_bind.mpr (.inr ⟨[_], _, _, rfl, ask_completes.mpr rfl, later⟩)

/-- Nothing but the work that the update named is waited for. -/
theorem awaited_completes {work : Option String} :
    (awaited kind tracker work).run.Completes trace result ↔
      (kind = .network → work = none) ∧ trace = [] ∧ result = .ok () ∨
        kind = .network ∧ ∃ id, work = some id ∧ Polls tracker id tracker.maxAttempts trace result := by
  cases kind with
  | classic =>
    simp only [reduceCtorEq, false_implies, true_and, false_and, or_false]
    exact completes_done
  | network =>
    cases work with
    | none =>
      simp only [implies_true, true_and, reduceCtorEq, false_and, exists_false, or_false]
      exact completes_done
    | some id =>
      simp only [reduceCtorEq, true_imp_iff, false_and, true_and, Option.some.injEq, exists_eq_left', false_or]
      exact poll_completes

end Course

end BackendRegistrar.Cloud
