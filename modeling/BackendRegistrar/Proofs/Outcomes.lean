import BackendRegistrar.Proofs.Failures
import BackendRegistrar.Proofs.Measurements
import BackendRegistrar.Proofs.Pass
import BackendRegistrar.Simulation.Scenario

/-! What becomes of a pass. Its handler alone decides: when to look again, whether a phase is written,
what is told and what is counted all follow from the outcome of the handler, whatever is answered
afterwards. -/

namespace BackendRegistrar
open Program

namespace Pass

variable {config : Config} {r : Registrar} {outcome : Outcome} {trace : Trace environment}

section Handlers

/-- What may come of handling a phase. Only a pending or a registering registrar can fail. -/
inductive Arises : Phase → Outcome → Prop
  | sound {phase : Phase} {outcome : Outcome} (well : outcome.error = none) : Arises phase outcome
  | unverified {context : String} {e : Error} : Arises .pending (.failed .providerFailed context e)
  | misconfigured {context : String} {e : Error} (configuration : e.errorClass = .configuration) :
      Arises .registering (.failed .providerFailed context e)
  | unregistered {context : String} {e : Error} (registration : e.errorClass = .registration) :
      Arises .registering (.failed .syncFailed context e)

/-- A connection is not made for a specification with a fault, and it can fail for want of a key. -/
theorem withConnection_ends {good : Outcome → Prop} {next : Connection → Operation Outcome}
    (unsound : ∀ fault, r.spec.fault? = some fault →
      good (.failed .providerFailed "invalid registrar spec" (.validation fault.message)))
    (keyless : ∀ context e, Keyless e → good (.failed .providerFailed context e))
    (later : r.spec.fault? = none → ∀ connection, (next connection).Ends good) :
    (withConnection config r next).Ends good := by
  unfold withConnection
  split
  next fault faulty => exact ends_done (unsound fault faulty)
  next sound =>
    intro trace outcome completes
    obtain ⟨_, _, answer, rfl, connected, rest⟩ := completes_bind.mp completes
    cases answer with
    | error e => exact ends_done (keyless _ e (connect_fails config r _ _ connected)) _ _ rest
    | ok connection => exact later sound connection _ _ rest

theorem handle_ends (config : Config) (r : Registrar) (phase : Phase) : (handle config phase r).Ends (Arises phase) := by
  cases phase with
  | new => exact ends_done (.sound rfl)
  | ready =>
    refine ends_done (.sound ?_)
    unfold handleReady
    split <;> rfl
  | pending =>
    refine withConnection_ends (fun _ _ => .unverified) (fun _ _ _ => .unverified) fun _ connection => ?_
    refine (ends_any (probe r connection)).bind fun answer _ => ?_
    cases answer with
    | error e => exact ends_done .unverified
    | ok backends => exact ends_done (.sound rfl)
  | registering =>
    refine withConnection_ends (fun _ _ => .misconfigured rfl) (fun _ _ keyless => .misconfigured keyless.errorClass)
      fun sound connection trace outcome completes => ?_
    obtain ⟨_, _, answer, rfl, registering, rest⟩ := completes_bind.mp completes
    cases answer with
    | error e =>
      have reported := registerAt_fails sound _ _ registering
      exact ends_done (.unregistered reported.errorClass) _ _ rest
    | ok reports => exact ends_done (.sound rfl) _ _ rest

theorem handle_gathers {pick : Environment.Op → Option γ} (reads : ∀ r, pick (.read r) = none)
    (builds : pick .buildClient = none)
    (clouds : ∀ connection op, pick (.cloud connection op) = none) (phase : Phase) :
    Gathers (I := environment) pick [] (handle config phase r) := by
  apply Times.gathers
  exact handle_times config r (by simp [reads]) (by simp [builds]) (by simp [clouds]) phase

end Handlers

section Conclusions

/-- When to look again, by the error of the handler; an error of the configuration is handed on. -/
def verdict (config : Config) : Option Error → Except (Error × Action) Action
  | none => .ok (.requeue config.resyncInterval)
  | some e => match e.errorClass with
    | .registration => .ok (.requeue config.registrationRetry)
    | .configuration => .error (e, .requeue config.configurationRetry)

/-- What follows the result of a pass: its error is counted and answered. -/
def policy (config : Config) (r : Registrar) : Except Error Action → Operation (Except (Error × Action) Action)
  | .ok action => .done (.ok action)
  | .error e => (onError config r e).bind fun action => .done (.error (e, action))

/-- What users are told of an outcome, and how its error is answered. -/
def answered (config : Config) (r : Registrar) (outcome : Outcome) (became : Bool) :
    Operation (Except (Error × Action) Action) :=
  (say config r outcome became).bind (policy config r)

/-- All that follows the handler. -/
def settle (config : Config) (r : Registrar) (start : Nat) (outcome : Outcome) :
    Operation (Except (Error × Action) Action) :=
  (conclude config r start outcome).bind (policy config r)

theorem passAndPolicy_eq :
    Simulation.passAndPolicy config r =
      Operation.clock.bind fun start => (handle config r.phase r).bind (settle config r start) := by
  have policed : Simulation.passAndPolicy config r = (reconcile config r).bind (policy config r) := rfl
  rw [policed, reconcile, Program.bind_assoc]
  congr 1
  funext start
  exact Program.bind_assoc _ _ _

/-- What follows the write of the next phase, or that there is none. -/
def report (config : Config) (r : Registrar) (start : Nat) (outcome : Outcome) (persisted : Bool) :
    Operation (Except (Error × Action) Action) :=
  (observeAll (observations r r.phase outcome)).bind fun _ =>
    Operation.clock.bind fun stop =>
      (Operation.observe (.reconciled r.name (secondsBetween start stop))).bind fun _ =>
        answered config r outcome
          (decide (nextPhase r.phase outcome.occurrence = .ready ∧ r.phase ≠ .ready) && persisted)

theorem settle_eq {start : Nat} :
    settle config r start outcome =
      (if nextPhase r.phase outcome.occurrence ≠ r.phase then
          persist r (nextPhase r.phase outcome.occurrence)
        else .done false).bind (report config r start outcome) := by
  simp only [settle, conclude_eq, Program.bind_assoc]
  congr 1
  funext persisted
  simp only [tell, Program.bind_assoc, report, answered]

/-- An error of the configuration is not that something is gone. -/
theorem errorAction_of_configuration {e : Error} (classed : e.errorClass = .configuration) :
    errorAction config e = .requeue config.configurationRetry := by
  have present : e.isNotFound = false := by
    cases e with
    | cluster => cases classed
    | _ => rfl
  simp [errorAction, present, classed, Config.retryDelay]

theorem answered_ends {became : Bool} :
    (answered config r outcome became).Ends (I := environment) (· = verdict config outcome.error) := by
  unfold answered say
  cases outcome.error with
  | none =>
    rw [afterSuccess, Program.bind_assoc]
    exact (ends_any _).bind fun _ _ => ends_done rfl
  | some e =>
    dsimp only
    rw [afterError, Program.bind_assoc]
    refine (ends_any _).bind fun _ _ => ?_
    cases classed : e.errorClass with
    | registration => exact (ends_any (Operation.observe _)).bind fun _ _ => ends_done (by simp [verdict, classed])
    | configuration =>
      refine (ends_any (Operation.observe _)).bind fun _ _ => ends_done ?_
      simp [verdict, classed, errorAction_of_configuration classed]

theorem settle_ends {start : Nat} :
    (settle config r start outcome).Ends (I := environment) (· = verdict config outcome.error) := by
  rw [settle_eq]
  refine (ends_any _).bind fun persisted _ => (ends_any _).bind fun _ _ => (ends_any _).bind fun _ _ => ?_
  exact (ends_any _).bind fun _ _ => answered_ends

/-- After the write of the next phase a pass only looks at the clock, measures and tells. -/
theorem report_times {chosen : Environment.Op → Bool} (observes : ∀ o, chosen (.observe o) = false)
    (timeless : chosen .clock = false) (publishes : ∀ registrar event, chosen (.publish registrar event) = false)
    {start : Nat} {persisted : Bool} : (report config r start outcome persisted).Times (I := environment) chosen 0 := by
  refine (observeAll_times observes _).bind_never fun _ => ?_
  refine Times.bind_never (.passed timeless fun _ => .done _) fun stop => ?_
  refine Times.bind_never (.passed (observes _) fun _ => .done _) fun _ => ?_
  refine Times.bind_never ?_ fun result => ?_
  · unfold say
    split
    · refine .passed (publishes _ _) fun _ => ?_
      dsimp only
      split
      · exact .passed (observes _) fun _ => .done _
      · exact .done _
    · unfold afterSuccess
      split
      · exact .passed (publishes _ _) fun _ => .done _
      · exact .done _
  · cases result with
    | ok action => exact .done _
    | error e => exact .passed (observes _) fun _ => .done _

end Conclusions

section Effects

variable {pick : Environment.Op → Option γ} {start : Nat}

/-- The event that tells users of a failure. -/
def warning (r : Registrar) (outcome : Outcome) : Event := ⟨.warning, "Failed", activity r.phase, outcome.message⟩

/-- An error is told and counted once, by the pass itself or by what follows its result. -/
theorem answered_gathers {became : Bool}
    (unheard : ∀ note, pick (.publish r.ownName ⟨.normal, "Registered", "Registering", note⟩) = none) :
    Gathers (I := environment) pick
      (if outcome.error.isSome then
          (pick (.publish r.ownName (warning r outcome))).toList ++ (pick (.observe (.failed r.name))).toList
        else [])
      (answered config r outcome became) := by
  unfold answered say
  cases outcome.error with
  | none =>
    cases became with
    | false => exact gathers_done _
    | true => exact gathers_passed (I := environment) (unheard _) fun _ => gathers_done _
  | some e =>
    simp only [Option.isSome_some, ite_true]
    refine gathers_ask (I := environment) (.publish r.ownName (warning r outcome)) fun _ => ?_
    rw [← List.append_nil (pick _).toList]
    cases e.errorClass with
    | registration | configuration =>
      exact gathers_ask (I := environment) (.observe (.failed r.name)) fun _ => gathers_done _

theorem observeAll_gathers_picked (os : List Observation) :
    Gathers (I := environment) pick (os.filterMap fun o => pick (.observe o)) (observeAll os) := by
  induction os with
  | nil => exact gathers_done _
  | cons o rest ih =>
    have first : (o :: rest).filterMap (fun o => pick (.observe o)) =
        (pick (.observe o)).toList ++ rest.filterMap fun o => pick (.observe o) := by
      cases picked : pick (.observe o) <;> simp [picked]
    rw [first]
    exact gathers_ask (I := environment) (.observe o) fun _ => ih

theorem observeAll_gathers {os : List Observation} (quiet : ∀ o ∈ os, pick (.observe o) = none) :
    Gathers (I := environment) pick [] (observeAll os) := by
  have silent : os.filterMap (fun o => pick (.observe o)) = [] := List.filterMap_eq_nil_iff.mpr quiet
  exact silent ▸ observeAll_gathers_picked os

/-- What is picked after the handler comes from the write of the next phase, the count of the pass, and the
error, in this order. -/
theorem settle_gathers (pick : Environment.Op → Option γ) (counted : List γ)
    (quiet : ∀ o ∈ observations r r.phase outcome, pick (.observe o) = none)
    (timeless : pick .clock = none)
    (counts : ∀ seconds, (pick (.observe (.reconciled r.name seconds))).toList = counted)
    (unheard : ∀ note, pick (.publish r.ownName ⟨.normal, "Registered", "Registering", note⟩) = none) :
    Gathers (I := environment) pick
      ((if nextPhase r.phase outcome.occurrence ≠ r.phase then
          (pick (.writeStatus r.name (.observed (nextPhase r.phase outcome.occurrence) r))).toList
        else []) ++
        (counted ++
          if outcome.error.isSome then
            (pick (.publish r.ownName (warning r outcome))).toList ++ (pick (.observe (.failed r.name))).toList
          else []))
      (settle config r start outcome) := by
  rw [settle_eq]
  refine Gathers.bind ?_ fun persisted => ?_
  · split
    · rw [← List.append_nil (pick _).toList]
      exact gathers_ask (I := environment) _ fun answer => gathers_done _
    · exact gathers_done _
  · rw [← List.nil_append (counted ++ _)]
    refine (observeAll_gathers quiet).bind fun _ => ?_
    refine gathers_passed (I := environment) timeless fun stop => ?_
    rw [← counts (secondsBetween start stop)]
    exact gathers_ask (I := environment) (.observe (.reconciled r.name (secondsBetween start stop)))
      fun _ => answered_gathers unheard

theorem observations_apart {o : Observation} (member : o ∈ observations r r.phase outcome) :
    Environment.Op.failed? (.observe o) = none ∧ Environment.Op.reconciled? (.observe o) = none := by
  unfold observations at member
  dsimp only at member
  split at member
  · split at member
    · obtain ⟨report, _, among⟩ := List.mem_flatMap.mp member
      rcases List.mem_cons.mp among with rfl | among
      · exact ⟨rfl, rfl⟩
      · obtain rfl := List.mem_singleton.mp among
        exact ⟨rfl, rfl⟩
    · obtain rfl := List.mem_singleton.mp member
      exact ⟨rfl, rfl⟩
    · cases member
  · cases member

/-- What is picked from a whole pass is picked from what follows its handler. -/
theorem gathered_pass {handled later : Trace environment} (reads : ∀ r, pick (.read r) = none)
    (builds : pick .buildClient = none) (clouds : ∀ connection op, pick (.cloud connection op) = none)
    (timeless : pick .clock = none)
    (handles : (handle config r.phase r).Completes handled outcome) :
    gathered (I := environment) pick (⟨.clock, start⟩ :: (handled ++ later)) = gathered pick later := by
  have silent : gathered pick handled = [] := handle_gathers reads builds clouds r.phase _ _ handles
  rw [gathered_cons, timeless, gathered_append, silent]
  rfl

end Effects

section Law

/-- The writes of a pass whose handler had such an outcome. -/
structure Writes (r : Registrar) (outcome : Outcome) (written : List (String × PhaseUpdate)) : Prop where
  moved : nextPhase r.phase outcome.occurrence ≠ r.phase →
    written = [(r.name, .observed (nextPhase r.phase outcome.occurrence) r)]
  stayed : nextPhase r.phase outcome.occurrence = r.phase → written = []
  registering : ∀ e, r.phase = .registering → outcome.error = some e →
    written = if e.errorClass = .configuration then [(r.name, .observed .pending r)] else []
  pending : ∀ e, r.phase = .pending → outcome.error = some e → written = []

/-- All that becomes of a pass, by the outcome of its handler: its result, what it writes, what users are
warned of, and how the counters move. -/
structure Settled (config : Config) (r : Registrar) (outcome : Outcome) (trace : Trace environment)
    (result : Except (Error × Action) Action) : Prop where
  result : result = verdict config outcome.error
  writes : Writes r outcome (gathered Environment.Op.written? trace)
  warned : gathered Environment.Op.warned? trace = if outcome.error.isSome then [(r.ownName, warning r outcome)] else []
  errors : ∀ (m : Health.Metrics) name, (m.after trace).errorsOf name =
    m.errorsOf name + if outcome.error.isSome ∧ name = r.name then 1 else 0
  reconciliations : ∀ (m : Health.Metrics) name, (m.after trace).reconciliationsOf name =
    m.reconciliationsOf name + if name = r.name then 1 else 0

theorem writes_of_arises (arises : Arises r.phase outcome) :
    Writes r outcome
      (if nextPhase r.phase outcome.occurrence ≠ r.phase then
          [(r.name, .observed (nextPhase r.phase outcome.occurrence) r)]
        else []) := by
  refine ⟨fun moved => if_pos moved, fun stayed => if_neg (not_not_intro stayed), ?_, ?_⟩
  · intro e phase failed
    rw [phase] at arises ⊢
    cases arises with
    | sound well =>
      rw [well] at failed
      cases failed
    | misconfigured configuration =>
      cases failed
      simp [nextPhase, Outcome.failed, Lifecycle.next, Lifecycle.move?, Lifecycle.moves, configuration]
    | unregistered registration =>
      cases failed
      simp [nextPhase, Outcome.failed, Lifecycle.next, Lifecycle.move?, Lifecycle.moves, registration]
  · intro e phase failed
    rw [phase] at arises ⊢
    cases arises with
    | sound well =>
      rw [well] at failed
      cases failed
    | unverified => rfl

theorem settled_of_completes {start : Nat} {handled later : Trace environment}
    {result : Except (Error × Action) Action} (handles : (handle config r.phase r).Completes handled outcome)
    (settles : (settle config r start outcome).Completes later result) :
    Settled config r outcome (⟨.clock, start⟩ :: (handled ++ later)) result where
  result := settle_ends _ _ settles
  writes := by
    rw [gathered_pass (fun _ => rfl) rfl (fun _ _ => rfl) rfl handles]
    have found := settle_gathers Environment.Op.written? [] (fun _ _ => rfl) rfl (fun _ => rfl)
      (fun _ => rfl) _ _ settles
    rw [found]
    simpa [Environment.Op.written?] using writes_of_arises (handle_ends config r r.phase _ _ handles)
  warned := by
    rw [gathered_pass (fun _ => rfl) rfl (fun _ _ => rfl) rfl handles]
    have found := settle_gathers Environment.Op.warned? [] (fun _ _ => rfl) rfl (fun _ => rfl)
      (fun _ => rfl) _ _ settles
    rw [found]
    cases outcome.error <;> simp [Environment.Op.warned?, warning]
  errors m name := by
    have found := settle_gathers Environment.Op.failed? []
      (fun _ member => (observations_apart member).1) rfl (fun _ => rfl) (fun _ => rfl) _ _ settles
    rw [Health.Metrics.errorsOf_after, gathered_pass (fun _ => rfl) rfl (fun _ _ => rfl) rfl handles, found]
    by_cases same : name = r.name
    · cases outcome.error <;> simp [Environment.Op.failed?, same]
    · cases outcome.error <;> simp [Environment.Op.failed?, same, Ne.symm same]
  reconciliations m name := by
    have found := settle_gathers Environment.Op.reconciled? [r.name]
      (fun _ member => (observations_apart member).2) rfl (fun _ => rfl) (fun _ => rfl) _ _ settles
    rw [Health.Metrics.reconciliationsOf_after, gathered_pass (fun _ => rfl) rfl (fun _ _ => rfl) rfl handles, found]
    by_cases same : name = r.name
    · simp [Environment.Op.reconciled?, same]
    · simp [Environment.Op.reconciled?, same, Ne.symm same]

theorem passAndPolicy_completes {result : Except (Error × Action) Action} :
    (Simulation.passAndPolicy config r).Completes trace result ↔
      ∃ start handled outcome later, trace = ⟨.clock, start⟩ :: (handled ++ later) ∧
        (handle config r.phase r).Completes handled outcome ∧ (settle config r start outcome).Completes later result := by
  rw [passAndPolicy_eq]
  constructor
  · intro completes
    obtain ⟨start, rest, rfl, inside⟩ := completes_ask.mp completes
    rw [done_bind] at inside
    obtain ⟨handled, later, outcome, rfl, handles, settles⟩ := completes_bind.mp inside
    exact ⟨start, handled, outcome, later, rfl, handles, settles⟩
  · rintro ⟨start, handled, outcome, later, rfl, handles, settles⟩
    refine completes_ask.mpr ⟨start, _, rfl, ?_⟩
    rw [done_bind]
    exact completes_bind.mpr ⟨handled, later, outcome, rfl, handles, settles⟩

/-- In any surroundings a pass ends, and all that becomes of it follows from the outcome of its handler. What is
answered after the handler, the write of a status included, cannot change its result. -/
theorem pass_settles {σ : Type} (config : Config) (r : Registrar)
    (surroundings : (op : Environment.Op) → σ → op.Answer × σ) (s : σ) :
    ∃ result t start handled outcome later,
      (Simulation.passAndPolicy config r).run (I := environment) surroundings s = (result, t) ∧
      Carries (I := environment) (fun s x t => surroundings x.op s = (x.answer, t)) s
        (⟨.clock, start⟩ :: (handled ++ later)) t ∧
      (handle config r.phase r).Completes handled outcome ∧
      Settled config r outcome (⟨.clock, start⟩ :: (handled ++ later)) result ∧
      ∀ others other, (Simulation.passAndPolicy config r).Completes (⟨.clock, start⟩ :: (handled ++ others)) other →
        other = result := by
  obtain ⟨trace, completes, carries⟩ := run_carries (I := environment) surroundings (Simulation.passAndPolicy config r) s
  obtain ⟨start, handled, outcome, later, rfl, handles, settles⟩ := passAndPolicy_completes.mp completes
  have settled := settled_of_completes handles settles
  refine ⟨_, _, start, handled, outcome, later, rfl, carries, handles, settled, ?_⟩
  intro others other again
  obtain ⟨_, prefixed, ended, rest, same, ends, finishes⟩ := passAndPolicy_completes.mp again
  obtain ⟨_, tails⟩ := List.cons.inj same
  obtain ⟨_, rfl⟩ := handles.unique ends tails
  exact (settle_ends _ _ finishes).trans settled.result.symm

end Law

end Pass

end BackendRegistrar
