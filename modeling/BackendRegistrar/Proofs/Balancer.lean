import BackendRegistrar.Proofs.BackendSets
import BackendRegistrar.Proofs.Synchronization

/-! A load balancer that keeps a document of each of its backend sets: it shows what is read from the
document, and it stores what an update says. It may fail any request, and of an update that failed it
is open whether it was stored. A synchronization then replaces the backends of one set, or nothing. -/

namespace BackendRegistrar.Cloud
open Program

variable {kind : Kind} {s : BackendSet} {name other : String} {targets : List Target}

/-- The documents of the backend sets, by their names. -/
abbrev Balancer := String → Option Json

namespace Balancer

/-- The set as it is read from its document. -/
def shown? (b : Balancer) (kind : Kind) (name : String) : Option BackendSet :=
  (b name).bind fun j => (BackendSet.decode kind j).toOption

def store (b : Balancer) (name : String) (j : Json) : Balancer :=
  fun other => if other = name then some j else b other

/-- The load balancer after a set was given other backends. -/
def give (b : Balancer) (kind : Kind) (name : String) (targets : List Target) : Balancer :=
  match b.shown? kind name with
  | some s => b.store name (s.replacing targets).encode
  | none => b

variable {b c : Balancer}

@[simp] theorem store_apply {j : Json} : b.store name j other = if other = name then some j else b other := rfl

@[simp] theorem store_store {i j : Json} : (b.store name i).store name j = b.store name j := by
  funext other
  by_cases same : other = name <;> simp [same]

theorem shown?_congr (same : b name = c name) : b.shown? kind name = c.shown? kind name := by
  rw [shown?, shown?, same]

theorem shown?_eq_some : b.shown? kind name = some s ↔ ∃ j, b name = some j ∧ BackendSet.decode kind j = .ok s := by
  unfold shown?
  cases b name with
  | none => simp
  | some j => cases read : BackendSet.decode kind j <;> simp [Except.toOption, read]

theorem give_of_shown (shown : b.shown? kind name = some s) :
    b.give kind name targets = b.store name (s.replacing targets).encode := by
  rw [give, shown]

theorem give_other (differs : other ≠ name) : b.give kind name targets other = b other := by
  cases shown : b.shown? kind name with
  | none => rw [give, shown]
  | some s => simp [give_of_shown shown, differs]

theorem give_congr (same : b name = c name) : b.give kind name targets name = c.give kind name targets name := by
  cases shown : c.shown? kind name with
  | none => simp [give, shown?_congr same, shown, same]
  | some s => simp [give_of_shown shown, give_of_shown ((shown?_congr same).trans shown)]

/-- A set that was given other backends shows these, and all else as before. -/
theorem shown?_give (shown : b.shown? kind name = some s) :
    (b.give kind name targets).shown? kind name = some (s.replacing targets).described := by
  obtain ⟨j, _, read⟩ := shown?_eq_some.mp shown
  rw [give_of_shown shown]
  exact shown?_eq_some.mpr ⟨_, by simp, BackendSet.decode_replacing read targets⟩

/-- To give a set other backends makes no other set readable. -/
theorem shown?_of_give (later : ∃ t, (b.give kind name targets).shown? kind other = some t) :
    ∃ t, b.shown? kind other = some t := by
  cases shown : b.shown? kind name with
  | none =>
    rw [give, shown] at later
    exact later
  | some s =>
    by_cases same : other = name
    · exact ⟨s, same ▸ shown⟩
    · rw [shown?_congr (give_other same)] at later
      exact later

/-- Of two lists that a set is given, only the second counts. -/
theorem give_give {first second : List Target} :
    (b.give kind name first).give kind name second = b.give kind name second := by
  cases shown : b.shown? kind name with
  | none =>
    have unchanged (targets : List Target) : b.give kind name targets = b := by rw [give, shown]
    rw [unchanged first]
  | some s =>
    rw [give_of_shown (shown?_give shown), give_of_shown shown, store_store, give_of_shown shown]
    rfl

/-- The load balancer after several sets were given backends, one after another. -/
def giveAll (b : Balancer) (kind : Kind) (pushes : List (String × List Target)) : Balancer :=
  pushes.foldl (fun b push => b.give kind push.1 push.2) b

/-- The last list that is for a set. -/
def lastFor (name : String) (pushes : List (String × List Target)) : Option (List Target) :=
  (pushes.filterMap fun push => if push.1 = name then some push.2 else none).getLast?

theorem lastFor_cons {push : String × List Target} {rest : List (String × List Target)} :
    lastFor name (push :: rest) =
      if push.1 = name then some ((lastFor name rest).getD push.2) else lastFor name rest := by
  by_cases same : push.1 = name <;> simp [lastFor, same, List.getLast?_cons]

theorem lastFor_eq_none {pushes : List (String × List Target)} (others : ∀ push ∈ pushes, push.1 ≠ name) :
    lastFor name pushes = none := by
  have none : (pushes.filterMap fun push => if push.1 = name then some push.2 else none) = [] := by
    apply List.filterMap_eq_nil_iff.mpr
    intro push member
    exact if_neg (others push member)
  rw [lastFor, none]
  rfl

/-- Of all lists that are pushed, a set keeps the last one that is for it. -/
theorem giveAll_apply (b : Balancer) (pushes : List (String × List Target)) (name : String) :
    b.giveAll kind pushes name =
      match lastFor name pushes with
      | some targets => b.give kind name targets name
      | none => b name := by
  induction pushes generalizing b with
  | nil => rfl
  | cons push rest ih =>
    change (b.give kind push.1 push.2).giveAll kind rest name = _
    rw [ih, lastFor_cons]
    by_cases same : push.1 = name
    · subst same
      rw [if_pos rfl]
      cases lastFor push.1 rest with
      | none => rfl
      | some targets => exact congrFun give_give _
    · rw [if_neg same]
      have untouched : b.give kind push.1 push.2 name = b name := give_other (Ne.symm same)
      cases lastFor name rest with
      | none => exact untouched
      | some targets => exact give_congr untouched

/-- After any pushes a set shows its last list, and all else as it was first shown. -/
theorem shown?_giveAll (shown : b.shown? kind name = some s) (pushes : List (String × List Target)) :
    (b.giveAll kind pushes).shown? kind name =
      some (match lastFor name pushes with
        | some targets => (s.replacing targets).described
        | none => s) := by
  have same : b.giveAll kind pushes name = _ := giveAll_apply b pushes name
  cases last : lastFor name pushes with
  | none =>
    simp only [last] at same
    rw [shown?_congr same, shown]
  | some targets =>
    simp only [last] at same
    rw [shown?_congr same, shown?_give shown]

/-- To push the same lists again changes nothing. -/
theorem giveAll_again (b : Balancer) (pushes : List (String × List Target)) :
    (b.giveAll kind pushes).giveAll kind pushes = b.giveAll kind pushes := by
  funext name
  rw [giveAll_apply, giveAll_apply]
  cases last : lastFor name pushes with
  | none => rfl
  | some targets =>
    have same : b.giveAll kind pushes name = _ := giveAll_apply b pushes name
    simp only [last] at same
    exact (give_congr same).trans (congrFun give_give _)

end Balancer

section Service

variable {id : String} {b t : Balancer} {trace : Trace service} {result : Except CloudError Unit}

/-- The load balancer that a request is for. -/
def Request.loadBalancer? : Request → Option String
  | .getSet id _ => some id
  | .updateSet id _ _ => some id
  | .workRequest _ => none

/-- What an exchange with the service does to a load balancer. -/
inductive Serves (kind : Kind) (id : String) : Balancer → Exchange service → Balancer → Prop
  | shown {b : Balancer} {name : String} {s : BackendSet} (found : b.shown? kind name = some s) :
      Serves kind id b ⟨.request (.getSet id name), .ok s⟩ b
  | unread (b : Balancer) (name : String) (e : CloudError) :
      Serves kind id b ⟨.request (.getSet id name), .error e⟩ b
  | stored (b : Balancer) (name : String) (update : BackendSetUpdate) (answer : Except CloudError (Option String)) :
      Serves kind id b ⟨.request (.updateSet id name update), answer⟩ (b.store name update.encode)
  | unstored (b : Balancer) (name : String) (update : BackendSetUpdate) (e : CloudError) :
      Serves kind id b ⟨.request (.updateSet id name update), .error e⟩ b
  | elsewhere (b : Balancer) {r : Request} (answer : Except CloudError r.Value)
      (other : r.loadBalancer? ≠ some id) : Serves kind id b ⟨.request r, answer⟩ b
  | paused (b : Balancer) (milliseconds : Nat) (interrupted : Bool) :
      Serves kind id b ⟨.pause milliseconds, interrupted⟩ b

/-- What a service answers from a load balancer. It refuses the updates of some sets, and does what else it
is asked. -/
def serve (kind : Kind) (id : String) (refused : String → Bool) :
    (r : Request) → Balancer → Except CloudError r.Value × Balancer
  | .getSet lb name, b =>
    (if lb = id then (b.shown? kind name).elim (.error (.request "no such set")) .ok
      else .error (.request "no such load balancer"), b)
  | .updateSet lb name update, b =>
    if lb ≠ id then (.error (.request "no such load balancer"), b)
    else if refused name then (.error (.request "no update of this set"), b)
    else (.ok none, b.store name update.encode)
  | .workRequest _, b => (.ok .succeeded, b)

theorem serve_serves {refused : String → Bool} {r : Request} {answer : Except CloudError r.Value}
    (served : serve kind id refused r b = (answer, t)) : Serves kind id b ⟨.request r, answer⟩ t := by
  cases r with
  | getSet lb name =>
    cases served
    by_cases mine : lb = id
    · subst mine
      simp only [ite_true]
      cases shown : b.shown? kind name with
      | none => exact .unread b name _
      | some s => exact .shown shown
    · exact .elsewhere b _ fun same => mine (Option.some.inj same)
  | updateSet lb name update =>
    rw [serve] at served
    split at served
    next other =>
      cases served
      exact .elsewhere b _ fun same => other (Option.some.inj same)
    next mine =>
      obtain rfl := Decidable.not_not.mp mine
      split at served
      next refuses =>
        cases served
        exact .unstored b name update _
      next accepts =>
        cases served
        exact .stored b name update _
  | workRequest work =>
    cases served
    exact .elsewhere b _ nofun

theorem Serves.getSet {answer : Except CloudError BackendSet}
    (serves : Serves kind id b ⟨.request (.getSet id name), answer⟩ t) :
    t = b ∧ ∀ s, answer = .ok s → b.shown? kind name = some s := by
  cases serves with
  | shown found => exact ⟨rfl, fun _ same => by cases same; exact found⟩
  | unread e => exact ⟨rfl, nofun⟩
  | elsewhere answer other => exact absurd rfl other

theorem Serves.updateSet {update : BackendSetUpdate} {answer : Except CloudError (Option String)}
    (serves : Serves kind id b ⟨.request (.updateSet id name update), answer⟩ t) :
    t = b.store name update.encode ∨ t = b ∧ ∃ e, answer = .error e := by
  cases serves with
  | stored => exact .inl rfl
  | unstored _ _ e => exact .inr ⟨rfl, e, rfl⟩
  | elsewhere answer other => exact absurd rfl other

theorem Serves.workRequest {work : String} {answer : Except CloudError OperationStatus}
    (serves : Serves kind id b ⟨.request (.workRequest work), answer⟩ t) : t = b := by
  cases serves
  rfl

theorem Serves.pause {milliseconds : Nat} {interrupted : Bool}
    (serves : Serves kind id b ⟨.pause milliseconds, interrupted⟩ t) : t = b := by
  cases serves
  rfl

theorem Waited.unchanged {tracker : CompletionTracker} {work : String} {attempts : Nat}
    (waited : Waited tracker work attempts trace result) (carries : Carries (Serves kind id) b trace t) : t = b := by
  have asks := waited.asks
  clear waited
  induction carries with
  | nil => rfl
  | cons one later ih =>
    obtain rfl := ih fun x member => asks x (List.mem_cons_of_mem _ member)
    rcases asks _ List.mem_cons_self with ⟨answer, rfl⟩ | ⟨interrupted, rfl⟩
    · exact one.workRequest
    · exact one.pause

/-- What a synchronization does to a load balancer. It has given the set the backends if it succeeds,
and has done this or nothing if it fails. -/
inductive Pushed (kind : Kind) (name : String) (targets : List Target) (b : Balancer) :
    Except CloudError Unit → Balancer → Prop
  | given {s : BackendSet} (shown : b.shown? kind name = some s) (result : Except CloudError Unit) :
      Pushed kind name targets b result (b.give kind name targets)
  | left (e : CloudError) : Pushed kind name targets b (.error e) b

theorem Course.pushed {tracker : CompletionTracker} (course : Course kind tracker id name targets trace result)
    (carries : Carries (Serves kind id) b trace t) : Pushed kind name targets b result t := by
  cases course with
  | unread e =>
    obtain ⟨rfl, _⟩ := (carries_single.mp carries).getSet
    exact .left e
  | bare network none =>
    obtain ⟨rfl, _⟩ := (carries_single.mp carries).getSet
    exact .left _
  | @unwritten s some e =>
    obtain ⟨middle, read, later⟩ := carries_cons.mp carries
    obtain ⟨rfl, found⟩ := read.getSet
    have shown := found s rfl
    rcases (carries_single.mp later).updateSet with rfl | ⟨rfl, _⟩
    · rw [← Balancer.give_of_shown shown]
      exact .given shown _
    · exact .left e
  | @written s some work rest outcome later =>
    obtain ⟨middle, read, others⟩ := carries_cons.mp carries
    obtain ⟨rfl, found⟩ := read.getSet
    have shown := found s rfl
    obtain ⟨last, update, ending⟩ := carries_cons.mp others
    have same : t = last := by
      rcases awaited_completes.mp later with ⟨_, rfl, _⟩ | ⟨_, work, _, polls⟩
      · exact carries_nil.mp ending
      · exact polls.waited.unchanged ending
    subst same
    rcases update.updateSet with rfl | ⟨_, e, impossible⟩
    · rw [← Balancer.give_of_shown shown]
      exact .given shown _
    · cases impossible

/-- Pushes one list after another, whatever comes of each. -/
def syncEach (kind : Kind) (tracker : CompletionTracker) (id : String) :
    List (String × List Target) → Program service (List (Except CloudError Unit))
  | [] => .done []
  | (name, targets) :: rest =>
    (syncBackends kind tracker id name targets).run.bind fun result =>
      (syncEach kind tracker id rest).bind fun results => .done (result :: results)

/-- Of some pushes, those with a success among the results. -/
def succeeded (pushes : List (String × List Target)) (results : List (Except CloudError Unit)) :
    List (String × List Target) :=
  (pushes.zip results).filterMap fun
    | (push, .ok ()) => some push
    | (_, .error _) => none

theorem syncEach_given {tracker : CompletionTracker} {pushes : List (String × List Target)}
    {results : List (Except CloudError Unit)}
    (completes : (syncEach kind tracker id pushes).Completes trace results)
    (carries : Carries (Serves kind id) b trace t) :
    ∃ stored : List (String × List Target), t = b.giveAll kind stored ∧ stored.Sublist pushes ∧
      (succeeded pushes results).Sublist stored := by
  induction pushes generalizing b trace results with
  | nil =>
    obtain ⟨rfl, rfl⟩ := completes_done.mp completes
    exact ⟨[], carries_nil.mp carries, .slnil, .slnil⟩
  | cons push rest ih =>
    obtain ⟨name, targets⟩ := push
    obtain ⟨first, second, result, rfl, pushing, later⟩ := completes_bind.mp completes
    obtain ⟨others, last, answers, rfl, inside, ending⟩ := completes_bind.mp later
    obtain ⟨rfl, rfl⟩ := completes_done.mp ending
    obtain ⟨middle, one, more⟩ := carries_append.mp carries
    obtain ⟨stored, rfl, among, successes⟩ := ih inside (by simpa using more)
    cases (syncBackends_completes.mp pushing).pushed one with
    | given shown =>
      refine ⟨(name, targets) :: stored, rfl, among.cons_cons _, ?_⟩
      cases result with
      | ok _ => exact successes.cons_cons _
      | error e => exact successes.cons _
    | left e => exact ⟨stored, rfl, among.cons _, successes⟩

end Service

end BackendRegistrar.Cloud
