import BackendRegistrar.Health.Metrics

/-! The health of the registrar, and the answers to those who ask for it. -/

namespace BackendRegistrar.Health

/-- Whether the registrar is ready, whether it has completed a pass, and its measurements. -/
structure State where
  ready : Bool
  reconciled : Bool
  metrics : Metrics

namespace State

def initial : State := ⟨false, false, .empty⟩

def record (s : State) (o : Observation) : State :=
  let s := { s with metrics := s.metrics.record o }
  match o with
  | .reconciled _ _ => { s with reconciled := true }
  | _ => s

end State

structure Answer where
  status : Nat
  contentType : Option String
  allow : Option String
  body : String
deriving DecidableEq, Repr

namespace Answer

def plain (status : Nat) (body : String) : Answer :=
  ⟨status, some "text/plain; charset=utf-8", none, body⟩

end Answer

def page? (s : State) (path : String) : Option Answer :=
  match path with
  | "/healthz" => some (.plain 200 "ok")
  | "/readyz" => some (if s.ready then .plain 200 "ready" else .plain 503 "not ready")
  | "/metrics" =>
    some ⟨200, some "text/plain; version=0.0.4; charset=utf-8", none, s.metrics.text⟩
  | _ => none

/-- The answer to a request: pages are read, and their heads without the body. -/
def respond (s : State) (method path : String) : Answer :=
  match page? s path with
  | none => ⟨404, none, none, ""⟩
  | some answer =>
    if method = "GET" then answer
    else if method = "HEAD" then { answer with body := "" }
    else ⟨405, none, some "GET,HEAD", ""⟩

end BackendRegistrar.Health
