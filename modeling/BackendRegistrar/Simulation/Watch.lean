import BackendRegistrar.Cluster.Decode
import BackendRegistrar.Simulation.World
import BackendRegistrar.Trigger.Watch

/-! Watching a cluster that answers from a script: lists, and streams of changes. A stream that
ends is opened again; after a break the objects are listed again. The last stream of the script
stays open. -/

namespace BackendRegistrar.Simulation

/-- A change that a stream tells, some milliseconds after the one before. -/
structure StreamEvent where
  type : String
  object : Json
  after : Nat

/-- The answers to requests for a list, of which the last repeats, and to requests for a stream. -/
structure WatchScript where
  lists : List (List Json)
  streams : List (List StreamEvent)

inductive Happening (α : Type)
  | list
  | stream
  | notice (n : Trigger.Notice α)

/-- What a change means: a notice, nothing, or a break. -/
inductive Meaning (α : Type)
  | notice (n : Trigger.Notice α)
  | nothing
  | break

def failureCode : Record Int32 :=
  Record.start (fun _ _ _ code => code)
    |>.take (.required "status" .string)
    |>.take (.withDefault "message" .string "")
    |>.take (.withDefault "reason" .string "")
    |>.take (.required "code" .int32)

/-- Whether a failed stream is too old to go on with. -/
def isExpired (object : Json) : Bool :=
  match failureCode.decode object with
  | .ok code => code == 410
  | .error _ => false

def hasVersion (object : Json) : Bool :=
  match (object.get? "metadata").bind (·.get? "resourceVersion") with
  | some (.string version) => version ≠ ""
  | _ => false

/-- The meaning of a change. An object without version breaks the stream. -/
def StreamEvent.meaning (decode : Decoder α) (e : StreamEvent) : Meaning α :=
  let told (make : α → Trigger.Notice α) : Meaning α :=
    match decode e.object with
    | .ok object => if hasVersion e.object then .notice (make object) else .break
    | .error _ => .nothing
  match e.type with
  | "ADDED" | "MODIFIED" => told .applied
  | "DELETED" => told .deleted
  | "ERROR" => if isExpired e.object then .break else .nothing
  | _ => .nothing

namespace WatchScript

/-- Listing: each object is told between start and end. A list that cannot be read is asked for
again. Answers the lists that are left, if one was read. -/
def listing (decode : Decoder α) (time : Nat) :
    List (List Json) → List (Nat × Happening α) × Option (List (List Json))
  | [] => (read [], some [])
  | objects :: rest =>
    match Decoder.items decode objects with
    | .ok told => (read told, some (if rest.isEmpty then [objects] else rest))
    | .error _ =>
      if rest.isEmpty then (asked, none)
      else
        let (more, left) := listing decode time rest
        (asked ++ more, left)
where
  asked : List (Nat × Happening α) := [(time, .list), (time, .notice .listing)]
  read (objects : List α) : List (Nat × Happening α) :=
    asked ++ (objects.map fun o => (time, .notice (.listed o))) ++ [(time, .notice .listingDone)]

/-- The changes of a stream up to a break, when the last one was told, and whether there was a
break. -/
def streaming (decode : Decoder α) (time : Nat) :
    List StreamEvent → List (Nat × Happening α) × Nat × Bool
  | [] => ([], time, false)
  | e :: rest =>
    let now := time + e.after
    match e.meaning decode with
    | .break => ([], now, true)
    | .nothing => streaming decode now rest
    | .notice n =>
      let (told, last, broken) := streaming decode now rest
      ((now, .notice n) :: told, last, broken)

def watching (decode : Decoder α) (lists : List (List Json)) (time : Nat) :
    List (List StreamEvent) → List (Nat × Happening α)
  | [] => [(time, .stream)]
  | events :: streams =>
    let (told, last, broken) := streaming decode time events
    let later :=
      if broken then
        let (listed, left) := listing decode last lists
        match left with
        | some lists => listed ++ watching decode lists last streams
        | none => listed
      else if streams.isEmpty then []
      else watching decode lists last streams
    (time, .stream) :: told ++ later

def happenings (script : WatchScript) (decode : Decoder α) : List (Nat × Happening α) :=
  let (listed, left) := listing decode 0 script.lists
  match left with
  | some lists => listed ++ watching decode lists 0 script.streams
  | none => listed

end WatchScript

def triggerTime : Nat := 3600000

def inTime (all : List (Nat × Happening α)) : List (Happening α) :=
  (all.filter fun h => h.1 < triggerTime).map Prod.snd

def requestsOf (all : List (Happening α)) : List Bool :=
  all.filterMap fun
    | .list => some true
    | .stream => some false
    | .notice _ => none

def noticesOf (all : List (Happening α)) : List (Trigger.Notice α) :=
  all.filterMap fun
    | .notice n => some n
    | _ => none

/-- Runs a trigger at each notice in turn, with what it keeps in mind. -/
def runNotices (w : World) (onNotice : σ → Trigger.Notice α → Operation σ) (s : σ) :
    List (Trigger.Notice α) → World
  | [] => w
  | n :: rest =>
    let (s, w) := w.run "" (onNotice s n)
    runNotices w onNotice s rest

def runNodeTrigger (w : World) (seen : List Registrar) (script : WatchScript) : List Bool × World :=
  let all := inTime (script.happenings Cluster.Node.decode)
  (requestsOf all, runNotices w (Trigger.onNodeNotice seen) .start (noticesOf all))

def runEndpointsTrigger (w : World) (seen : List Registrar) (script : WatchScript) :
    List Bool × World :=
  let all := inTime (script.happenings Cluster.Endpoints.decode)
  (requestsOf all,
    runNotices w (fun _ n => Trigger.onEndpointsNotice seen n) () (noticesOf all))

end BackendRegistrar.Simulation
