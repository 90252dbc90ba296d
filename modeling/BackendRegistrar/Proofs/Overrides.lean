import BackendRegistrar.Proofs.Effects

/-! What a reference may say for itself: the set that it is pushed to and the weight of its backends.
A reference of the list is heard. The single service is not; its set and its weight are always those
of the whole specification. -/

namespace BackendRegistrar.Registration
open Program Cluster

variable {s : Spec} {kind : Cloud.Kind} {r : ServiceReference} {trace : Trace interface}
variable {backendSet : String} {targets : List Target}

/-- A push follows what a reference says, and where this says nothing, the specification. A weight that
is not positive and an empty name say nothing. -/
structure Honours (s : Spec) (r : ServiceReference) (backendSet : String) (targets : List Target) : Prop where
  ownWeight : ∀ w, r.weight = some w → 0 < w → ∀ t ∈ targets, t.weight = w
  standardWeight : (∀ w, r.weight = some w → ¬ 0 < w) → ∀ t ∈ targets, t.weight = s.weight
  ownSet : ∀ name, r.backendSetName = some name → name ≠ "" → backendSet = name
  standardSet : (∀ name, r.backendSetName = some name → name = "") → backendSet = s.backendSetName

/-- All that the reference says, the specification says as well. -/
structure Repeats (s : Spec) (r : ServiceReference) : Prop where
  weight : ∀ w, r.weight = some w → 0 < w → w = s.weight
  backendSet : ∀ name, r.backendSetName = some name → name ≠ "" → name = s.backendSetName

section Rules

theorem weightFor_said {w : Int32} (said : r.weight = some w) (positive : 0 < w) : s.weightFor r = w := by
  simp [Spec.weightFor, said, Option.filter, positive]

theorem weightFor_unsaid (unsaid : ∀ w, r.weight = some w → ¬ 0 < w) : s.weightFor r = s.weight := by
  unfold Spec.weightFor
  cases said : r.weight with
  | none => rfl
  | some w => simp [Option.filter, unsaid w said]

theorem backendSetFor_said {name : String} (said : r.backendSetName = some name) (given : name ≠ "") :
    s.backendSetFor r = name := by
  simp [Spec.backendSetFor, said, Option.filter, given]

theorem backendSetFor_unsaid (unsaid : ∀ name, r.backendSetName = some name → name = "") :
    s.backendSetFor r = s.backendSetName := by
  unfold Spec.backendSetFor
  cases said : r.backendSetName with
  | none => rfl
  | some name => simp [Option.filter, unsaid name said]

theorem honours_of_rules (weight : ∀ t ∈ targets, t.weight = s.weightFor r) :
    Honours s r (s.backendSetFor r) targets where
  ownWeight _ said positive t member := (weight t member).trans (weightFor_said said positive)
  standardWeight unsaid t member := (weight t member).trans (weightFor_unsaid unsaid)
  ownSet _ said given := backendSetFor_said said given
  standardSet unsaid := backendSetFor_unsaid unsaid

/-- A push with the weight and to the set of the specification follows a reference just if this says
nothing else. -/
theorem honours_iff_repeats (filled : targets ≠ []) (weight : ∀ t ∈ targets, t.weight = s.weight) :
    Honours s r s.backendSetName targets ↔ Repeats s r := by
  obtain ⟨t, member⟩ := List.exists_mem_of_ne_nil targets filled
  constructor
  · intro honours
    refine ⟨?_, ?_⟩
    · intro w said positive
      rw [← honours.ownWeight w said positive t member, weight t member]
    · intro name said given
      exact (honours.ownSet name said given).symm
  · intro repeats
    refine ⟨?_, fun _ => weight, ?_, fun _ => rfl⟩
    · intro w said positive t member
      rw [weight t member, repeats.weight w said positive]
    · intro name said given
      exact (repeats.backendSet name said given).symm

end Rules

section Weights

theorem targetsFor_weight (completes : (targetsFor s kind r).run.Completes trace (.ok targets)) :
    ∀ t ∈ targets, t.weight = s.weightFor r := by
  obtain ⟨_, _, _, _, _, _, _, rfl⟩ := targetsFor_succeeds.mp completes
  exact fun t member => (Node.mem_targets member).2

theorem singleTargets_weight (completes : (singleTargets s).run.Completes trace (.ok targets)) :
    ∀ t ∈ targets, t.weight = s.weight := by
  obtain ⟨_, _, _, _, _, _, _, _, rfl, _⟩ := singleTargets_succeeds.mp completes
  exact fun t member => (Node.mem_targets member).2

end Weights

section Numbers

theorem targetsFor_asked (completes : (targetsFor s kind r).run.Completes trace (.ok targets)) :
    asked Op.pushes trace = 0 := by
  have never : (targetsFor s kind r).run.Times (I := interface) Op.pushes 0 := targetsFor_times fun _ _ => rfl
  exact never.completes completes

/-- References that are all registered are pushed once each. -/
theorem registerAll_asked {rs : List ServiceReference} {reports : List Report}
    (completes : (registerAll s kind rs).run.Completes trace (.ok reports)) :
    asked Op.pushes trace = rs.length := by
  induction rs generalizing trace reports with
  | nil =>
    obtain ⟨rfl, _⟩ := completes_done.mp completes
    rfl
  | cons first rest ih =>
    obtain ⟨one, others, report, rfl, registered, remaining⟩ := succeeds_bind.mp completes
    obtain ⟨middle, last, more, rfl, inside, ending⟩ := succeeds_bind.mp remaining
    obtain ⟨rfl, _⟩ := completes_done.mp ending
    obtain ⟨readings, targets, rfl, reading, _⟩ := registerReference_succeeds.mp registered
    have pushed : asked Op.pushes [(⟨.push (s.backendSetFor first) targets, .ok ()⟩ : Exchange interface)] = 1 := rfl
    rw [List.append_nil, asked_append, asked_append, targetsFor_asked reading, pushed, ih inside, List.length_cons]
    omega

end Numbers

/-- The push that follows so many others is for the reference at this place of the list, and follows
what the reference says. Without a list the push follows the specification alone, and so what the
single service says only if the specification says it as well. -/
theorem push_honours_iff (asks : (register s kind).run.Asks trace (.push backendSet targets)) :
    (∃ before r after, s.services = before ++ r :: after ∧ asked Op.pushes trace = before.length ∧
        Honours s r backendSet targets) ∨
      s.services = [] ∧ backendSet = s.backendSetName ∧ (∀ t ∈ targets, t.weight = s.weight) ∧
        ∀ r, s.service = some r → (Honours s r backendSet targets ↔ Repeats s r) := by
  unfold register at asks
  split at asks
  next =>
    obtain ⟨before, r, after, earlier, now, reports, same, rfl, registered, asking⟩ := registerAll_asks.mp asks
    obtain ⟨reading, rfl, _⟩ := registerReference_asks_push.mp asking
    refine .inl ⟨before, r, after, same, ?_, honours_of_rules (targetsFor_weight reading)⟩
    rw [asked_append, registerAll_asked registered, targetsFor_asked reading, Nat.add_zero]
  next single =>
    rcases asks_attempt_bind.mp asks with asks | ⟨_, _, _, _, _, impossible⟩
    · obtain ⟨reading, rfl⟩ := registerSingle_asks_push.mp asks
      have weight := singleTargets_weight reading
      exact .inr ⟨by simpa [Spec.usesServiceList] using single, rfl, weight,
        fun r _ => honours_iff_repeats (singleTargets_ne_nil reading) weight⟩
    · exact absurd impossible asks_done

section Clusters

/-- What is found in a cluster for the first of the list is pushed. -/
theorem listed_pushed (content : Content) {rest : List ServiceReference} (listed : s.services = r :: rest)
    (found : (targetsFor s kind r).run.outcome (answers content) = .ok targets) (filled : targets ≠ []) :
    ∃ trace, (register s kind).run.Asks trace (.push (s.backendSetFor r) targets) := by
  have reading := completes_transcript (answers content) (targetsFor s kind r).run
  rw [found] at reading
  have asks := registerReference_asks_push.mpr ⟨reading, rfl, fun empty => absurd empty filled⟩
  rw [register, if_pos (by simp [Spec.usesServiceList, listed]), listed]
  exact ⟨_, registerAll_asks.mpr ⟨[], r, rest, [], _, [], rfl, rfl, .start _, asks⟩⟩

/-- What is found in a cluster without a list is pushed. -/
theorem alone_pushed (content : Content) (unlisted : s.services = [])
    (found : (singleTargets s).run.outcome (answers content) = .ok targets) :
    ∃ trace, (register s kind).run.Asks trace (.push s.backendSetName targets) := by
  have reading := completes_transcript (answers content) (singleTargets s).run
  rw [found] at reading
  rw [register, if_neg (by simp [Spec.usesServiceList, unlisted])]
  exact ⟨_, asks_attempt_bind.mpr (.inl (registerSingle_asks_push.mpr ⟨reading, rfl⟩))⟩

end Clusters

section Unheard

/-! A service that asks for a weight and a set of its own, on its own and in a list. -/

def demanding : ServiceReference := ⟨"shop", "web", .number 80, false, some 7, some "tls"⟩

def singleSpec : Spec := { Operator.trialSpec with nodePort := 0, service := some demanding }

def listSpec : Spec := { Operator.trialSpec with nodePort := 0, services := [demanding] }

private theorem single_pushed :
    ∃ trace, (register singleSpec .classic).run.Asks trace (.push "bs" [⟨"10.0.0.1", 30080, 1⟩]) :=
  alone_pushed (s := singleSpec) shopCluster rfl rfl

private theorem list_pushed :
    ∃ trace, (register listSpec .classic).run.Asks trace (.push "tls" [⟨"10.0.0.1", 30080, 7⟩]) :=
  listed_pushed (s := listSpec) shopCluster rfl rfl (List.cons_ne_nil _ _)

theorem demanding_honours_iff :
    (∃ trace, (register listSpec .classic).run.Asks trace (.push "tls" [⟨"10.0.0.1", 30080, 7⟩]) ∧
      ((∃ before r after, listSpec.services = before ++ r :: after ∧ asked Op.pushes trace = before.length ∧
          Honours listSpec r "tls" [⟨"10.0.0.1", 30080, 7⟩]) ∨
        listSpec.services = [] ∧ "tls" = listSpec.backendSetName ∧
          (∀ t ∈ [(⟨"10.0.0.1", 30080, 7⟩ : Target)], t.weight = listSpec.weight) ∧
          ∀ r, listSpec.service = some r →
            (Honours listSpec r "tls" [⟨"10.0.0.1", 30080, 7⟩] ↔ Repeats listSpec r))) ∧
    ∃ trace, (register singleSpec .classic).run.Asks trace (.push "bs" [⟨"10.0.0.1", 30080, 1⟩]) ∧
      ((∃ before r after, singleSpec.services = before ++ r :: after ∧ asked Op.pushes trace = before.length ∧
          Honours singleSpec r "bs" [⟨"10.0.0.1", 30080, 1⟩]) ∨
        singleSpec.services = [] ∧ "bs" = singleSpec.backendSetName ∧
          (∀ t ∈ [(⟨"10.0.0.1", 30080, 1⟩ : Target)], t.weight = singleSpec.weight) ∧
          ∀ r, singleSpec.service = some r →
            (Honours singleSpec r "bs" [⟨"10.0.0.1", 30080, 1⟩] ↔ Repeats singleSpec r)) := by
  obtain ⟨listed, inList⟩ := list_pushed
  obtain ⟨trace, alone⟩ := single_pushed
  exact ⟨⟨listed, inList, push_honours_iff inList⟩, trace, alone, push_honours_iff alone⟩

/-- A push for the single service need not follow what the service says. -/
theorem not_honours_of_push :
    ¬ ∀ (s : Spec) (kind : Cloud.Kind) (trace : Trace interface) (backendSet : String) (targets : List Target),
      (register s kind).run.Asks trace (.push backendSet targets) →
        (∃ r ∈ s.services, Honours s r backendSet targets) ∨
          s.services = [] ∧ ∀ r, s.service = some r → Honours s r backendSet targets := by
  intro claim
  obtain ⟨trace, pushed⟩ := single_pushed
  rcases claim _ _ _ _ _ pushed with ⟨r, impossible, _⟩ | ⟨_, honours⟩
  · cases impossible
  · have renamed : "bs" = "tls" := (honours demanding rfl).ownSet "tls" rfl (by decide)
    exact absurd renamed (by decide)

end Unheard

end BackendRegistrar.Registration
