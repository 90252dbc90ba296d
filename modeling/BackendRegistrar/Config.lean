import BackendRegistrar.Cloud.Sync
import BackendRegistrar.Error
import BackendRegistrar.Text.Characters

/-! How the registrar is set up: named variables, each with a value for when it is absent or
not a numeral in range. Times are in seconds. -/

namespace BackendRegistrar

structure Config where
  ns : String
  registrationRetry : Nat
  configurationRetry : Nat
  pollInterval : Nat
  maxAttempts : Nat
  resyncInterval : Nat
  healthPort : Nat
deriving DecidableEq, Repr

namespace Config

def standard : Config := ⟨"default", 90, 10, 5, 60, 600, 8080⟩

/-- The value of a variable that holds a numeral not above a bound. -/
def numeral (lookup : String → Option String) (name : String) (bound standard : Nat) : Nat :=
  ((lookup name).bind fun raw => Text.natUpTo? bound (Text.trimBlank raw)).getD standard

def ofLookup (lookup : String → Option String) : Config :=
  let seconds (name : String) (standard : Nat) := numeral lookup name (UInt64.size - 1) standard
  { ns := ((lookup "POD_NAMESPACE").filter (· ≠ "")).getD standard.ns
    registrationRetry := seconds "REGISTRATION_RETRY_SECS" standard.registrationRetry
    configurationRetry := seconds "CONFIGURATION_RETRY_SECS" standard.configurationRetry
    pollInterval := seconds "WORK_REQUEST_POLL_SECS" standard.pollInterval
    maxAttempts := numeral lookup "WORK_REQUEST_MAX_ATTEMPTS" (UInt32.size - 1) standard.maxAttempts
    resyncInterval := seconds "RESYNC_INTERVAL_SECS" standard.resyncInterval
    healthPort := numeral lookup "HEALTH_PORT" (UInt16.size - 1) standard.healthPort }

def retryDelay (c : Config) : ErrorClass → Nat
  | .configuration => c.configurationRetry
  | .registration => c.registrationRetry

def tracker (c : Config) : Cloud.CompletionTracker := ⟨1000 * c.pollInterval, c.maxAttempts⟩

end Config

end BackendRegistrar
