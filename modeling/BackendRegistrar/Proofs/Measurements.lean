import BackendRegistrar.Health.Metrics
import BackendRegistrar.Proofs.Trace

/-! What a trace leaves behind: the writes and warnings that it asked for, and how the counters have moved
after all that was observed in it. -/

namespace BackendRegistrar
open Program

namespace Environment.Op

def written? : Op → Option (String × PhaseUpdate)
  | writeStatus name update => some (name, update)
  | _ => none

/-- What users are warned of: warnings, and what says that something failed. -/
def warned? : Op → Option (String × Event)
  | publish registrar event => if event.type = .warning ∨ event.reason = "Failed" then some (registrar, event) else none
  | _ => none

def failed? : Op → Option String
  | observe (.failed name) => some name
  | _ => none

def reconciled? : Op → Option String
  | observe (.reconciled name _) => some name
  | _ => none

/-- Synchronizations that are counted, by provider and success. -/
def synced? : Op → Option (String × Bool)
  | observe (.synced provider success) => some (provider, success)
  | _ => none

/-- Numbers of backends that are shown, for a registrar and a set. -/
def registered? : Op → Option ((String × String) × Int)
  | observe (.registered name backendSet count) => some ((name, backendSet), count)
  | _ => none

/-- The updates of backend sets, with the service that is asked for them. -/
def updated? : Op → Option (Connection × Cloud.Request)
  | cloud connection (.request (.updateSet id backendSet update)) => some (connection, .updateSet id backendSet update)
  | _ => none

/-- Nothing is read, written, told or asked of a service. -/
def silent : Op → Bool
  | observe _ | clock => true
  | _ => false

/-- What a question leaves in the measurements. -/
def measure (m : Health.Metrics) : Op → Health.Metrics
  | observe o => m.record o
  | _ => m

end Environment.Op

namespace Health.Metrics

/-- The measurements after all that was observed in a trace. -/
def after (m : Metrics) (trace : Trace environment) : Metrics := trace.foldl (fun m x => x.op.measure m) m

def errorsOf (m : Metrics) (name : String) : UInt64 := (m.errors.get? (named name)).getD 0

def reconciliationsOf (m : Metrics) (name : String) : UInt64 := (m.reconciliations.get? (named name)).getD 0

def synchronized (provider : String) (success : Bool) : Labels :=
  [("provider", provider), ("result", if success then "success" else "failure")]

def syncsOf (m : Metrics) (provider : String) (success : Bool) : UInt64 :=
  (m.syncs.get? (synchronized provider success)).getD 0

def gaugeOf (m : Metrics) (name backendSet : String) : Option Int :=
  m.registered.get? [("name", name), ("backend_set", backendSet)]

theorem named_inj {name other : String} : named name = named other ↔ name = other := by
  simp [named]

theorem synchronized_inj {provider other : String} {success failure : Bool} :
    synchronized provider success = synchronized other failure ↔ (provider, success) = (other, failure) := by
  cases success <;> cases failure <;> simp [synchronized]

theorem count_get? (family : Family UInt64) (labels other : Labels) :
    ((count other family).get? labels).getD 0 = (family.get? labels).getD 0 + if other = labels then 1 else 0 := by
  rw [count, Family.get?_update]
  by_cases same : other = labels
  · subst same
    simp
  · simp [same]

theorem count_get (family : Family UInt64) (name other : String) :
    ((count (named other) family).get? (named name)).getD 0 =
      (family.get? (named name)).getD 0 + UInt64.ofNat ([other].count name) := by
  rw [count_get?]
  simp only [named_inj]
  by_cases same : other = name
  · subst same
    simp
  · simp [same]

theorem errorsOf_measure (m : Metrics) (op : Environment.Op) (name : String) :
    (op.measure m).errorsOf name = m.errorsOf name + UInt64.ofNat (op.failed?.toList.count name) := by
  cases op with
  | observe o =>
    cases o with
    | failed other => exact count_get m.errors name other
    | _ => simp [Environment.Op.measure, Environment.Op.failed?, record, errorsOf]
  | _ => simp [Environment.Op.measure, Environment.Op.failed?]

theorem reconciliationsOf_measure (m : Metrics) (op : Environment.Op) (name : String) :
    (op.measure m).reconciliationsOf name =
      m.reconciliationsOf name + UInt64.ofNat (op.reconciled?.toList.count name) := by
  cases op with
  | observe o =>
    cases o with
    | reconciled other => exact count_get m.reconciliations name other
    | _ => simp [Environment.Op.measure, Environment.Op.reconciled?, record, reconciliationsOf]
  | _ => simp [Environment.Op.measure, Environment.Op.reconciled?]

theorem syncsOf_measure (m : Metrics) (op : Environment.Op) (provider : String) (success : Bool) :
    (op.measure m).syncsOf provider success =
      m.syncsOf provider success + UInt64.ofNat (op.synced?.toList.count (provider, success)) := by
  cases op with
  | observe o =>
    cases o with
    | synced other outcome =>
      change ((count (synchronized other outcome) m.syncs).get? (synchronized provider success)).getD 0 = _
      rw [count_get?]
      simp only [synchronized_inj]
      by_cases same : (other, outcome) = (provider, success)
      · simp [same, Environment.Op.synced?, syncsOf]
      · simp [same, Environment.Op.synced?, syncsOf]
    | _ => simp [Environment.Op.measure, Environment.Op.synced?, record, syncsOf]
  | _ => simp [Environment.Op.measure, Environment.Op.synced?]

/-- A counter that each question moves by what it says has moved by all that was said. -/
private theorem counted_after {κ : Type} [BEq κ] {pick : Environment.Op → Option κ} (counter : Metrics → UInt64)
    {name : κ} (each : ∀ m op, counter (op.measure m) = counter m + UInt64.ofNat ((pick op).toList.count name)) (m : Metrics)
    (trace : Trace environment) :
    counter (m.after trace) = counter m + UInt64.ofNat ((gathered pick trace).count name) := by
  induction trace generalizing m with
  | nil => simp [after, gathered]
  | cons x rest ih =>
    have step : m.after (x :: rest) = (x.op.measure m).after rest := rfl
    rw [step, ih, each, gathered_cons, List.count_append, UInt64.ofNat_add, UInt64.add_assoc]

theorem errorsOf_after (m : Metrics) (trace : Trace environment) (name : String) :
    (m.after trace).errorsOf name =
      m.errorsOf name + UInt64.ofNat ((gathered Environment.Op.failed? trace).count name) :=
  counted_after (errorsOf · name) (fun m op => m.errorsOf_measure op name) m trace

theorem reconciliationsOf_after (m : Metrics) (trace : Trace environment) (name : String) :
    (m.after trace).reconciliationsOf name =
      m.reconciliationsOf name + UInt64.ofNat ((gathered Environment.Op.reconciled? trace).count name) :=
  counted_after (reconciliationsOf · name) (fun m op => m.reconciliationsOf_measure op name) m trace

theorem syncsOf_after (m : Metrics) (trace : Trace environment) (provider : String) (success : Bool) :
    (m.after trace).syncsOf provider success =
      m.syncsOf provider success + UInt64.ofNat ((gathered Environment.Op.synced? trace).count (provider, success)) :=
  counted_after (syncsOf · provider success) (fun m op => m.syncsOf_measure op provider success) m trace

/-- The last number that was shown for a registrar and a set. -/
def lastShown (name backendSet : String) (shown : List ((String × String) × Int)) : Option Int :=
  ((shown.filter fun g => g.1 = (name, backendSet)).getLast?).map Prod.snd

theorem gaugeOf_measure (m : Metrics) (op : Environment.Op) (name backendSet : String) :
    (op.measure m).gaugeOf name backendSet =
      (lastShown name backendSet op.registered?.toList).or (m.gaugeOf name backendSet) := by
  cases op with
  | observe o =>
    cases o with
    | registered other another n =>
      change (m.registered.update [("name", other), ("backend_set", another)] 0 fun _ => n).get? _ = _
      rw [Family.get?_update]
      by_cases same : other = name ∧ another = backendSet
      · obtain ⟨rfl, rfl⟩ := same
        simp [lastShown, Environment.Op.registered?]
      · simp [lastShown, Environment.Op.registered?, same, gaugeOf]
    | _ => simp [lastShown, Environment.Op.measure, Environment.Op.registered?, record, gaugeOf]
  | _ => simp [lastShown, Environment.Op.measure, Environment.Op.registered?]

theorem lastShown_append {name backendSet : String} {first second : List ((String × String) × Int)} :
    lastShown name backendSet (first ++ second) =
      (lastShown name backendSet second).or (lastShown name backendSet first) := by
  unfold lastShown
  rw [List.filter_append, List.getLast?_append, Option.map_or]

/-- A gauge shows what was told last. -/
theorem gaugeOf_after (m : Metrics) (trace : Trace environment) (name backendSet : String) :
    (m.after trace).gaugeOf name backendSet =
      (lastShown name backendSet (gathered Environment.Op.registered? trace)).or (m.gaugeOf name backendSet) := by
  induction trace generalizing m with
  | nil => rfl
  | cons x rest ih =>
    have step : m.after (x :: rest) = (x.op.measure m).after rest := rfl
    rw [step, ih, gaugeOf_measure, gathered_cons, lastShown_append, Option.or_assoc]

end Health.Metrics

end BackendRegistrar
