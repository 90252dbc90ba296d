import BackendRegistrar.Cloud.Sync
import BackendRegistrar.Http.Message

/-! Waiting for work whose statuses are given, and a network in which nothing can be reached. -/

namespace BackendRegistrar.Simulation

/-- The longest that anything sleeps, in milliseconds: thirty years of 365 days. -/
def longestPause : Nat := 946080000000

def pauseLength (milliseconds : Nat) : Nat := min milliseconds longestPause

/-- The answers to come, of which the last repeats; without any the work has succeeded. Waiting
may be cancelled at a time. What was asked for is kept, the latest first. -/
structure Work where
  answers : List (Except CloudError Cloud.OperationStatus)
  cancelAt : Option Nat
  clock : Nat
  asked : List String

namespace Work

def next (w : Work) (id : String) : Except CloudError Cloud.OperationStatus × Work :=
  let w := { w with asked := id :: w.asked }
  match w.answers with
  | [] => (.ok .succeeded, w)
  | [last] => (last, w)
  | first :: rest => (first, { w with answers := rest })

/-- A pause ends when its time is over, or when waiting is cancelled before that. -/
def pause (w : Work) (milliseconds : Nat) : Bool × Work :=
  let stop := w.clock + pauseLength milliseconds
  match w.cancelAt with
  | some c =>
    if c ≤ w.clock ∨ c < stop then (true, { w with clock := max w.clock c })
    else (false, { w with clock := stop })
  | none => (false, { w with clock := stop })

def answer : (op : Cloud.Op) → Work → op.Answer × Work
  | .request (.getSet _ _), w => (.error (.request "no backend sets"), w)
  | .request (.updateSet _ _ _), w => (.error (.request "no backend sets"), w)
  | .request (.workRequest id), w => w.next id
  | .pause milliseconds, w => w.pause milliseconds

end Work

/-- Answers requests over a network that reaches nothing. Pauses are over at once. -/
def offline : (op : Http.Op) → Unit → op.Answer × Unit
  | .send _, s => (.error "connection refused", s)
  | .now, s => ((0 : Int), s)
  | .pause _, s => (false, s)

end BackendRegistrar.Simulation
