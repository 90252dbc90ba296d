import BackendRegistrar.Lifecycle
import BackendRegistrar.Pass.Connect

/-! What each phase does with a registrar, and what comes of it. -/

namespace BackendRegistrar

/-- What came of handling a phase: an occurrence, an error with the message for users, and what
was registered. -/
structure Outcome where
  occurrence : Option Occurrence
  message : Option String
  error : Option Error
  reports : List Registration.Report

namespace Outcome

def idle : Outcome := ⟨none, none, none, []⟩

def advance (o : Occurrence) (reports : List Registration.Report) : Outcome :=
  ⟨some o, none, none, reports⟩

def failed (o : Occurrence) (context : String) (error : Error) : Outcome :=
  ⟨some o, some (context ++ ": " ++ error.message), some error, []⟩

end Outcome

namespace Pass

/-- Checks the specification and connects; a failure of either is one of the provider. -/
def withConnection (config : Config) (r : Registrar)
    (next : Connection → Operation Outcome) : Operation Outcome :=
  match r.spec.fault? with
  | some fault =>
    .done (.failed .providerFailed "invalid registrar spec" (.validation fault.message))
  | none =>
    (connect config r).run.bind fun
      | .error e => .done (.failed .providerFailed "unable to create configuration provider" e)
      | .ok connection => next connection

/-- A pending registrar shows that its backend set can be reached. -/
def handlePending (config : Config) (r : Registrar) : Operation Outcome :=
  withConnection config r fun connection =>
    (probe r connection).bind fun
      | .error e => .done (.failed .providerFailed "unable to get backend set" (.cloud e))
      | .ok _ => .done (.advance .providerVerified [])

def handleRegistering (config : Config) (r : Registrar) : Operation Outcome :=
  withConnection config r fun connection =>
    (registerAt config r connection).run.bind fun
      | .error e => .done (.failed .syncFailed "unable to register backends" e)
      | .ok reports => .done (.advance .backendsSynced reports)

/-- A ready registrar only looks whether its specification has changed. -/
def handleReady (r : Registrar) : Outcome :=
  if r.specChanged then .advance .specChanged [] else .idle

def handle (config : Config) (phase : Phase) (r : Registrar) : Operation Outcome :=
  match phase with
  | .new => .done (.advance .accepted [])
  | .pending => handlePending config r
  | .registering => handleRegistering config r
  | .ready => .done (handleReady r)

end Pass

end BackendRegistrar
