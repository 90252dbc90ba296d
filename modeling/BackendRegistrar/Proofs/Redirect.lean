import BackendRegistrar.Http.Redirect
import BackendRegistrar.Proofs.Trace

/-! What a client sends that goes where responses point. Each of its requests but the last was answered by
a response without success, and it takes what answered the last for its response, unless it gives up. -/

namespace BackendRegistrar.Http
open Program

structure Sending where
  request : Request
  reply : Except String Response

namespace Sending

def exchange (s : Sending) : Exchange network := ⟨.send s.request, s.reply⟩

def Succeeds (s : Sending) : Prop := ∃ response, s.reply = .ok response ∧ response.succeeded = true

end Sending

/-- The requests that were sent, with the replies to them. -/
def sendings : Trace network → List Sending
  | [] => []
  | ⟨.send request, reply⟩ :: rest => ⟨request, reply⟩ :: sendings rest
  | _ :: rest => sendings rest

@[simp] theorem sendings_exchanges (ss : List Sending) : sendings (ss.map Sending.exchange) = ss := by
  induction ss with
  | nil => rfl
  | cons s ss ih => exact congrArg (s :: ·) ih

namespace Redirects

variable {redirects : Redirects} {hops : Nat} {request : Request} {ss : List Sending} {reply : Except String Response}

/-- The reply makes the client go on to another request. -/
def Follows (redirects : Redirects) (s : Sending) : Prop :=
  ∃ response next, s.reply = .ok response ∧ redirects.turn s.request response = .onward next

theorem not_succeeds_of_turn {response : Response} (elsewhere : redirects.turn request response ≠ .taken) :
    ¬ (⟨request, .ok response⟩ : Sending).Succeeds := by
  intro ⟨_, same, succeeded⟩
  cases same
  exact elsewhere (redirects.succeeded succeeded)

/-- The requests of a client that goes on so many times at most, and what it takes for the response. -/
inductive Chain (redirects : Redirects) : Nat → Request → List Sending → Except String Response → Prop
  | broken {hops : Nat} {request : Request} (detail : String) :
      Chain redirects hops request [⟨request, .error detail⟩] (.error detail)
  | taken {hops : Nat} {request : Request} {response : Response} (turn : redirects.turn request response = .taken) :
      Chain redirects hops request [⟨request, .ok response⟩] (.ok response)
  | refused {hops : Nat} {request : Request} {response : Response} {detail : String}
      (turn : redirects.turn request response = .refused detail) :
      Chain redirects hops request [⟨request, .ok response⟩] (.error detail)
  | spent {request next : Request} {response : Response} (turn : redirects.turn request response = .onward next) :
      Chain redirects 0 request [⟨request, .ok response⟩] (.error "too many redirects")
  | onward {hops : Nat} {request next : Request} {response : Response} {ss : List Sending} {reply : Except String Response}
      (turn : redirects.turn request response = .onward next) (rest : Chain redirects hops next ss reply) :
      Chain redirects (hops + 1) request (⟨request, .ok response⟩ :: ss) reply

theorem Chain.of_completes {trace : Trace network} (completes : (redirects.fetch hops request).Completes trace reply) :
    ∃ ss, trace = ss.map Sending.exchange ∧ redirects.Chain hops request ss reply := by
  -- The reply is looked at before the hops that are left, so it is split first, and the hops only where it leads on.
  induction hops using Nat.strongRecOn generalizing request trace with
  | _ hops ih =>
    unfold fetch at completes
    obtain ⟨detail | response, later, rfl, rest⟩ := completes_ask.mp completes
    · obtain ⟨rfl, rfl⟩ := completes_done.mp rest
      exact ⟨[⟨request, .error detail⟩], rfl, .broken detail⟩
    · dsimp only at rest
      split at rest
      next turn =>
        obtain ⟨rfl, rfl⟩ := completes_done.mp rest
        exact ⟨[⟨request, .ok response⟩], rfl, .taken turn⟩
      next detail turn =>
        obtain ⟨rfl, rfl⟩ := completes_done.mp rest
        exact ⟨[⟨request, .ok response⟩], rfl, .refused turn⟩
      next next turn =>
        cases hops with
        | zero =>
          obtain ⟨rfl, rfl⟩ := completes_done.mp rest
          exact ⟨[⟨request, .ok response⟩], rfl, .spent turn⟩
        | succ hops =>
          obtain ⟨ss, rfl, chain⟩ := ih hops (Nat.lt_succ_self hops) rest
          exact ⟨⟨request, .ok response⟩ :: ss, rfl, .onward turn chain⟩

theorem Chain.completes (chain : redirects.Chain hops request ss reply) :
    (redirects.fetch hops request).Completes (ss.map Sending.exchange) reply := by
  induction chain with
  | broken detail =>
    unfold fetch
    exact completes_ask.mpr ⟨.error detail, [], rfl, .start _⟩
  | taken turn | refused turn | spent turn =>
    unfold fetch
    refine completes_ask.mpr ⟨.ok _, [], rfl, ?_⟩
    simp only [turn]
    exact .start _
  | onward turn _ ih =>
    unfold fetch
    refine completes_ask.mpr ⟨.ok _, _, rfl, ?_⟩
    simpa only [turn] using ih

end Redirects

end BackendRegistrar.Http
