import BackendRegistrar.Proofs.Pass
import BackendRegistrar.Trigger.Reset

/-! The course of a reset. Each registrar that was seen registering or ready is written once, in
the version that was seen; no other is, and a registration is never told of. -/

namespace BackendRegistrar.Trigger
open Program

variable {o : Occurrence} {event : Event} {rs : List Registrar} {r : Registrar} {trigger : String}
variable {trace : Trace environment}

def resetWrite (o : Occurrence) (r : Registrar) : Environment.Op :=
  .writeStatus r.name (.reset (Lifecycle.next r.phase o) r)

theorem next_of_needsReset (seen : r.phase.needsReset = true)
    (change : o = .nodeTopologyChanged ∨ o = .endpointsChanged) : Lifecycle.next r.phase o = .pending := by
  cases phase : r.phase with
  | new | pending =>
    rw [phase] at seen
    cases seen
  | registering | ready => rcases change with rfl | rfl <;> rfl

theorem resetOne_asks {op : Environment.Op} :
    (resetOne r o).Asks trace op ↔ r.phase.needsReset = true ∧ trace = [] ∧ op = resetWrite o r := by
  unfold resetOne
  split
  next seen =>
    constructor
    · intro asks
      rcases asks_bind.mp asks with inside | ⟨_, _, _, _, _, impossible⟩
      · exact ⟨seen, asks_perform.mp inside⟩
      · exact absurd impossible asks_done
    · rintro ⟨_, rfl, rfl⟩
      exact ⟨_, .start _⟩
  next unseen => exact ⟨fun impossible => absurd impossible asks_done, fun asks => absurd asks.1 unseen⟩

theorem resetOne_completes {reset : Bool} (seen : r.phase.needsReset = true)
    (completes : (resetOne r o).Completes trace reset) : ∃ x ∈ trace, x.op = resetWrite o r := by
  rw [resetOne, if_pos seen] at completes
  obtain ⟨first, second, answer, rfl, written, _⟩ := completes_bind.mp completes
  obtain rfl := completes_perform.mp written
  exact ⟨_, List.mem_cons_self, rfl⟩

theorem resetAll_asks_write {name : String} {update : PhaseUpdate}
    (asks : (resetAll o event rs).Asks trace (.writeStatus name update)) :
    ∃ r ∈ rs, r.phase.needsReset = true ∧ .writeStatus name update = resetWrite o r := by
  induction rs generalizing trace with
  | nil => exact absurd asks asks_done
  | cons first rest ih =>
    rcases asks_bind.mp asks with now | ⟨_, _, reset, rfl, _, later⟩
    · obtain ⟨seen, _, same⟩ := resetOne_asks.mp now
      exact ⟨first, List.mem_cons_self, seen, same⟩
    · rcases asks_bind.mp later with told | ⟨_, _, _, rfl, _, later⟩
      · split at told
        · cases (asks_perform.mp told).2
        · exact absurd told asks_done
      · rcases asks_bind.mp later with others | ⟨_, _, _, _, _, impossible⟩
        · obtain ⟨r, member, found⟩ := ih others
          exact ⟨r, List.mem_cons_of_mem _ member, found⟩
        · exact absurd impossible asks_done

/-- When all is done, every registrar that was seen registering or ready was written. -/
theorem resetAll_completes {count : Nat} (completes : (resetAll o event rs).Completes trace count)
    (member : r ∈ rs) (seen : r.phase.needsReset = true) : ∃ x ∈ trace, x.op = resetWrite o r := by
  induction rs generalizing trace count with
  | nil => cases member
  | cons first rest ih =>
    obtain ⟨now, _, reset, rfl, done, later⟩ := completes_bind.mp completes
    obtain ⟨told, _, _, rfl, _, later⟩ := completes_bind.mp later
    obtain ⟨others, last, _, rfl, remaining, _⟩ := completes_bind.mp later
    rcases List.mem_cons.mp member with rfl | member
    · obtain ⟨x, inside, same⟩ := resetOne_completes seen done
      exact ⟨x, by simp [inside], same⟩
    · obtain ⟨x, inside, same⟩ := ih remaining member
      exact ⟨x, by simp [inside], same⟩

theorem resetAll_times {chosen : Environment.Op → Bool}
    (writes : ∀ name update, chosen (.writeStatus name update) = false)
    (publishes : ∀ name, chosen (.publish name event) = false) (rs : List Registrar) :
    (resetAll o event rs).Times (I := environment) chosen 0 := by
  induction rs with
  | nil => exact .done _
  | cons first rest ih =>
    apply Times.bind_never
    · unfold resetOne
      split
      · exact .passed (writes _ _) fun _ => .done _
      · exact .done _
    · intro reset
      apply Times.bind_never
      · split
        · exact .passed (publishes _) fun _ => .done _
        · exact .done _
      · intro told
        exact ih.bind_never fun count => .done _

section Counted

theorem resetCounted_writes {rest : Operation Nat} {x : Exchange environment}
    (reached : (resetCounted trigger o event rs).Reaches trace rest) (member : x ∈ trace)
    (writes : x.op.writes = true) : ∃ r ∈ rs, r.phase.needsReset = true ∧ x.op = resetWrite o r := by
  obtain ⟨before, after, rfl⟩ := List.append_of_mem member
  cases op : x.op with
  | writeStatus name update =>
    have asks := reached.asks
    rw [op] at asks
    rcases asks_bind.mp asks with inside | ⟨_, _, _, _, _, later⟩
    · exact resetAll_asks_write inside
    · rcases asks_bind.mp later with observed | ⟨_, _, _, _, _, impossible⟩
      · cases (asks_perform.mp observed).2
      · exact absurd impossible asks_done
  | read | buildClient | cloud | publish | observe | clock =>
    rw [op] at writes
    cases writes

theorem resetCounted_completes {count : Nat}
    (completes : (resetCounted trigger o event rs).Completes trace count) (member : r ∈ rs)
    (seen : r.phase.needsReset = true) : ∃ x ∈ trace, x.op = resetWrite o r := by
  obtain ⟨first, second, _, rfl, all, _⟩ := completes_bind.mp completes
  obtain ⟨x, inside, same⟩ := resetAll_completes all member seen
  exact ⟨x, List.mem_append_left _ inside, same⟩

theorem resetCounted_never_announces (other : (event.reason == "Registered") = false) :
    (resetCounted trigger o event rs).Times (I := environment) Environment.Op.announces 0 := by
  apply Times.bind_never (resetAll_times (fun _ _ => rfl) (fun _ => other) rs)
  intro count
  exact .passed rfl fun _ => .done _

end Counted

end BackendRegistrar.Trigger
