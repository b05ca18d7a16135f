import Backlog.Engine.Sweeper
import Backlog.Engine.Worker
import Backlog.Gate.Gate
import Backlog.Service.Cancel
import Backlog.Service.Lookup
import Backlog.Service.Submit
import Backlog.Simulation.Labels
import Backlog.Simulation.Script
import Backlog.Store.Faults
/-!
# The simulated world

A store behind a layer of faults, the service and one engine that use it, the gate, and a clock
that moves only when everyone waits. Time is counted in whole milliseconds; a deadline between two
of them is met at the later one. The wall clock is the time the simulation began with, the shifts
made since, and the time that has passed.

`World` holds all of it, and this module what single operations do to it. Who acts when is the
matter of `Backlog.Simulation.Scheduler`.
-/

namespace Backlog.Simulation

/-- Who can act, or can be waiting for a moment. -/
inductive Actor where
  /-- Whoever performs the current step from outside. -/
  | visitor
  | worker
  | sweeper
  /-- A running handler or an attempt that waits for a slot. -/
  | process (n : Nat)
  deriving DecidableEq, Repr

/-- An attempt at the queue together with the process that runs its handler. -/
structure AttemptRun where
  attempt : Attempt Plan
  handler : Option Nat

/-- A running handler. -/
structure HandlerRun where
  /-- What is still to be done. -/
  script : Script
  /-- Permits taken, the last one first. -/
  held : List Permit
  /-- The slot it waits for. -/
  slot : Option Waiting
  /-- Who waits for it to end. -/
  owner : Actor

/-- Something that runs beside the loops. -/
inductive Process where
  | handler (run : HandlerRun)
  /-- A handler that has ended. -/
  | ended (outcome : HandlerOutcome)
  /-- An attempt to pass the gate that has not begun. -/
  | knocking (name : String) (resource : ResourceClass) (timeout : Duration)
  /-- An attempt to pass the gate that waits. -/
  | waiting (name : String) (wait : Waiting)

/-- How an attempt to pass the gate ended. -/
structure GateReport where
  name : String
  atMs : Nat
  result : Except ResourceClass Permit

/-- What was observed during one step, in each list the last thing first. -/
structure Record where
  /-- Moments of polls for queued tasks. -/
  polls : List Nat
  /-- Moments of sweeps. -/
  sweeps : List Nat
  /-- Handlers that began, with their targets. -/
  calls : List (TaskKind × String)
  gate : List GateReport
  events : List Event

/-- The record of nothing. -/
def Record.empty : Record := ⟨[], [], [], [], []⟩

/-- What the visitor's step came to. -/
inductive Answer where
  | nothing
  /-- The step asked for something that does not exist. -/
  | refused
  | task (r : Except TaskError Task)
  | accepted (r : Except TaskError Unit)
  | tasks (r : Except TaskError (List Task))
  | flag (value : Bool)
  | processed (r : Except StoreError (Option Processed))
  | drained (ps : List Processed) (failure : Option StoreError)
  | swept (r : Except StoreError Nat)
  | stats (s : Stats)
  | config (c : EngineConfig)
  | elapsed (ms : Nat)
  | wall (t : Instant)
  | reply (c : StoreCall) (r : c.Reply)
  | size (n : Nat)
  | permit (r : Except ResourceClass Permit)
  | available (n : Option Nat)
  | limit (l : ClassLimit)

/-- What the visitor is waiting for. -/
inductive Errand where
  /-- One attempt at the queue. -/
  | attempt (run : AttemptRun)
  /-- Attempts until one finds nothing, with those that found something. -/
  | drain (run : AttemptRun) (ps : List Processed)
  /-- A moment. -/
  | sleep (due : Nat)
  /-- The end of both loops. -/
  | join
  | finished (answer : Answer)

/-- The whole simulated world. -/
structure World where
  /-- Milliseconds since the simulation began. -/
  now : Nat
  /-- The wall clock when it began. -/
  begun : Instant
  /-- Milliseconds by which the wall clock was shifted since. -/
  shift : Int
  memory : Memory
  faults : Faults
  /-- Generated identifiers, the last one first. -/
  issued : List TaskId
  labels : Labels
  /-- Tasks that became known, the last one first. -/
  known : List TaskId
  /-- The engine's wake signal. -/
  engineWake : Bool
  /-- The service's own wake signal, if it has one. -/
  ownWake : Option Bool
  gate : Gate
  /-- Permits kept under names. -/
  permits : List (String × Permit)
  /-- The process that last knocked under a name. -/
  knockers : List (String × Nat)
  config : EngineConfig
  registry : Registry Plan
  stats : Stats
  worker : Option (Worker Plan)
  /-- The process that runs the worker's handler. -/
  workerHandler : Option Nat
  sweeper : Option Sweeper
  /-- Whether the loops were told to stop. -/
  stopping : Bool
  processes : List (Nat × Process)
  nextProcess : Nat
  /-- Who can act at this instant, in the order of their turns. -/
  ready : List Actor
  visitorReady : Bool
  /-- Moments that are waited for, in the order in which the waits began. -/
  timers : List (Nat × Actor)
  errand : Errand
  record : Record

namespace World

/-- The world before the first step. -/
def initial (begun : Instant) (config : EngineConfig) (handlers : List (TaskKind × Plan))
    (gate : GateConfig) (ownWake : Bool) : World where
  now := 0
  begun := begun
  shift := 0
  memory := Memory.empty
  faults := []
  issued := []
  labels := []
  known := []
  engineWake := false
  ownWake := if ownWake then some false else none
  gate := Gate.ofConfig gate
  permits := []
  knockers := []
  config := config.normalized
  registry := Registry.ofList handlers
  stats := Stats.zero
  worker := none
  workerHandler := none
  sweeper := none
  stopping := false
  processes := []
  nextProcess := 0
  ready := []
  visitorReady := false
  timers := []
  errand := .finished .nothing
  record := Record.empty

/-! ## Time -/

/-- What the wall clock reads. -/
def wall (w : World) : Instant := w.begun.plusMillis (w.shift + w.now)

/-- The time that has passed, in nanoseconds. -/
def nowNanos (w : World) : Nat := w.now * 1000000

/-- The millisecond at which a moment in nanoseconds has come. -/
def tick (nanos : Nat) : Nat := (nanos + 999999) / 1000000

/-- A wait for a moment begins. -/
def await (w : World) (a : Actor) (due : Nat) : World :=
  { w with timers := w.timers ++ [(due, a)] }

/-- Whether an actor waits for a moment. -/
def isAwaiting (w : World) (a : Actor) : Bool := w.timers.any fun t => t.2 == a

/-- The waits of an actor end. -/
def unawait (w : World) (a : Actor) : World :=
  { w with timers := w.timers.filter fun t => t.2 != a }

/-! ## Turns -/

/-- An actor gets a turn after those that have one, unless it has one itself. -/
def rouse (w : World) (a : Actor) : World :=
  match a with
  | .visitor => { w with visitorReady := true }
  | a => if w.ready.contains a then w else { w with ready := w.ready ++ [a] }

/-- An actor keeps its turn. -/
def goOn (w : World) (a : Actor) : World :=
  match a with
  | .visitor => { w with visitorReady := true }
  | a => { w with ready := a :: w.ready }

/-- Everyone whose ticket was granted a slot gets a turn. -/
def rouseGranted (w : World) : World :=
  (w.gate.ocr.granted ++ w.gate.bulkExport.granted ++ w.gate.emailDownload.granted).foldl
    (fun w n => w.rouse (.process n)) w

/-! ## Observation -/

/-- Log lines are noted. -/
def log (w : World) (es : List Event) : World :=
  { w with record := { w.record with events := es.reverse ++ w.record.events } }

/-- A task became known; a generated identifier gets its label. -/
def learn (w : World) (id : TaskId) : World :=
  let w := if w.known.contains id then w else { w with known := id :: w.known }
  if w.issued.contains id && !w.labels.contains id then { w with labels := w.labels ++ [id] } else w

/-! ## Store, signals, gate -/

/-- The fault for a call, taken off its queue. -/
def takeFault (w : World) (m : StoreMethod) : Fault × World :=
  match w.faults.take? m with
  | some (f, rest) => (f, { w with faults := rest })
  | none => (.pass, w)

/-- A poll or a sweep is noted with its moment. -/
def noteCall (w : World) (m : StoreMethod) : World :=
  match m with
  | .oldestQueued => { w with record := { w.record with polls := w.now :: w.record.polls } }
  | .failStale => { w with record := { w.record with sweeps := w.now :: w.record.sweeps } }
  | _ => w

/-- A store call by the service or the engine, which see the faults. -/
def ask (w : World) (c : StoreCall) : World × c.Reply :=
  let (fault, w) := (w.noteCall c.method).takeFault c.method
  let (memory, reply) := fault.exec w.memory w.wall c
  ({ w with memory := memory }, reply)

/-- A store call that goes round the faults. -/
def askDirectly (w : World) (c : StoreCall) : World × c.Reply :=
  let (memory, reply) := w.memory.exec w.wall c
  ({ w with memory := memory }, reply)

/-- The engine's wake signal is given. -/
def signalEngine (w : World) : World := { w with engineWake := true }.rouse .worker

/-- The service's wake signal is given. -/
def signalService (w : World) : World :=
  match w.ownWake with
  | some _ => { w with ownWake := some true }
  | none => w.signalEngine

/-- A permit is given back. -/
def giveBack (w : World) (p : Permit) : World := { w with gate := w.gate.release p }.rouseGranted

/-- A permit is kept under a name; one that was kept under it before is given back. -/
def keep (w : World) (name : String) (p : Permit) : World :=
  let old := w.permits.find? fun e => e.1 == name
  let w := { w with permits := (name, p) :: w.permits.filter fun e => e.1 != name }
  match old with
  | some (_, q) => w.giveBack q
  | none => w

/-! ## Activities -/

/-- More moves than any activity makes before it rests. -/
def activityMoves : Nat := 8

/-- An activity acts until it rests. -/
def drive {σ : Type} (move : World → σ → Move σ) (signal : World → World) :
    Nat → World → σ → World × σ
  | 0, w, s => (w, s)
  | n + 1, w, s =>
    match move w s with
    | .rest => (w, s)
    | .signal s => drive move signal n (signal w) s
    | .call c next =>
      let (w, reply) := w.ask c
      let (s, es) := next reply
      drive move signal n (w.log es) s

/-- The milliseconds that generated identifiers carry. -/
def idMillis : Nat := 1704067200000

/-- The next generated identifier. -/
def issue (w : World) : TaskId × World :=
  let id := TaskId.v7 idMillis w.issued.length
  (id, { w with issued := id :: w.issued })

/-- A submission through the service, with this wake signal. -/
def submit (w : World) (form : SubmissionForm) (signal : World → World) :
    World × Except TaskError Task :=
  let (fresh, w) := w.issue
  let (w, s) := drive (fun w s => s.move w.wall fresh) signal activityMoves w (Submit.start form)
  match s.answer? with
  | some (.ok t) => (w.learn t.id, .ok t)
  | some (.error e) => (w, .error e)
  | none => (w, .error .notFound)

/-- A cancellation through the service. -/
def cancel (w : World) (idText owner : String) : World × Except TaskError Unit :=
  let start := Cancel.start (w.labels.expand idText) owner
  let (w, s) := drive (fun _ s => s.move) id activityMoves w start
  (w, s.answer?.getD (.error .notFound))

/-- A lookup through the service. -/
def lookUp (w : World) (owner idText : String) : World × Except TaskError Task :=
  let start := Lookup.start owner (w.labels.expand idText)
  let (w, s) := drive (fun _ s => s.move) id activityMoves w start
  (w, s.answer?.getD (.error .notFound))

/-- A listing through the service. -/
def listTasks (w : World) (owner : String) (status : Option Status) (limit : Nat) :
    World × Except TaskError (List Task) :=
  let (w, s) := drive (fun _ s => s.move) id activityMoves w (Listing.start owner status limit)
  (w, s.answer?.getD (.ok []))

/-- A sweep acts until it ends, and its result is counted. -/
def sweep (w : World) (byLoop : Bool) (s : Sweep) : World × Except StoreError Nat :=
  let (w, s) := drive (fun _ s => s.move) id activityMoves w s
  let r := s.result?.getD (.ok 0)
  ({ w with stats := w.stats.swept byLoop r }, r)

/-! ## Processes -/

/-- The process of a number. -/
def process? (w : World) (n : Nat) : Option Process :=
  (w.processes.find? fun p => p.1 == n).map (·.2)

/-- A process changes. -/
def setProcess (w : World) (n : Nat) (p : Process) : World :=
  { w with processes := w.processes.map fun q => if q.1 = n then (n, p) else q }

/-- A process is over. -/
def dropProcess (w : World) (n : Nat) : World :=
  ({ w with processes := w.processes.filter fun q => q.1 != n }).unawait (.process n)

/-- A process begins and gets a turn. -/
def spawn (w : World) (p : Process) : Nat × World :=
  let n := w.nextProcess
  (n, { w with processes := w.processes ++ [(n, p)], nextProcess := n + 1 }.rouse (.process n))

end World

end Backlog.Simulation
