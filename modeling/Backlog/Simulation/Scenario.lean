import Backlog.Simulation.Scheduler
/-!
# Steps

What can be done to a simulated world from outside, one step after the other: requests to the
service, single attempts and sweeps, starting and stopping the loops, letting time pass, calls that
go to the store directly, and passing the gate. A step is answered as soon as it is done; then
whoever can still act at that instant does, and the next step finds everyone waiting.
-/

namespace Backlog.Simulation

/-- One step from outside. -/
inductive Step where
  /-- Submit work, through the engine's own service or through the one under test. -/
  | submit (form : SubmissionForm) (viaEngine : Bool)
  | getTask (owner idText : String)
  | cancel (idText owner : String)
  | listTasks (owner : String) (status : Option Status) (limit : Nat)
  /-- Take the signal that the service gave, if it did. -/
  | takeWake
  | runOnce
  /-- Attempt tasks until there is none. -/
  | drain
  /-- Sweep, by the wall clock or by another reading. -/
  | sweep (reading : Option Instant)
  | stats
  | config
  /-- Start the worker and the sweeper. -/
  | spawn
  /-- Stop both and wait for them. -/
  | shutdown
  | advance (ms : Nat)
  /-- Shift the wall clock. -/
  | jump (ms : Int)
  /-- Ask the store directly. -/
  | call (c : StoreCall)
  | size
  | offline (value : Bool)
  /-- Let a call of this sort misbehave. -/
  | fault (m : StoreMethod) (f : Fault)
  | tryGate (resource : ResourceClass) (name : String)
  | enterGate (resource : ResourceClass) (name : String) (timeout : Option Duration)
  | releasePermit (name : String)
  | abandonGate (name : String)
  | available (resource : ResourceClass)
  | limit (resource : ResourceClass)

namespace World

/-- The answer is known. -/
def answer (w : World) (a : Answer) : World := { w with errand := .finished a }

/-- The visitor sets out on an errand. -/
def setOut (w : World) (e : Errand) : World := { w with errand := e }.visitorTurn

/-- The loops start. -/
def startLoops (w : World) : World :=
  let w := { w with
    worker := some (Worker.start w.config), sweeper := some (Sweeper.start w.config w.nowNanos) }
  let w := w.log [Worker.opening w.config w.registry.kinds, Sweeper.opening w.config]
  (w.rouse .worker).rouse .sweeper

/-- The permit kept under a name is given back; the answer says whether there was one. -/
def releaseKept (w : World) (name : String) : World × Bool :=
  match w.permits.find? fun e => e.1 == name with
  | none => (w, false)
  | some (_, p) =>
    ({ w with permits := w.permits.filter fun e => e.1 != name }.giveBack p, true)

/-- The last attempt under a name to pass the gate is abandoned, if it still waits. -/
def abandonKnocker (w : World) (name : String) : World :=
  match w.knockers.find? fun e => e.1 == name with
  | none => w
  | some (_, n) =>
    match w.process? n with
    | some (.waiting _ wait) => ({ w with gate := w.gate.abandon wait }.dropProcess n).rouseGranted
    | _ => w

/-- A step begins: it is answered, or the visitor sets out on its errand. -/
def begin (w : World) : Step → World
  | .submit form viaEngine =>
    let signal := if viaEngine && w.worker.isSome then signalEngine else signalService
    let (w, r) := w.submit form signal
    w.answer (.task r)
  | .getTask owner idText =>
    let (w, r) := w.lookUp owner idText
    w.answer (.task r)
  | .cancel idText owner =>
    let (w, r) := w.cancel idText owner
    w.answer (.accepted r)
  | .listTasks owner status limit =>
    let (w, r) := w.listTasks owner status limit
    w.answer (.tasks r)
  | .takeWake =>
    match w.ownWake with
    | some b => { w with ownWake := some false }.answer (.flag b)
    | none => w.answer .refused
  | .runOnce => w.setOut (.attempt ⟨.poll, none⟩)
  | .drain => w.setOut (.drain ⟨.poll, none⟩ [])
  | .sweep reading =>
    let (w, r) := w.sweep false (Sweep.start (reading.getD w.wall) w.config.processingLimit)
    w.answer (.swept r)
  | .stats => w.answer (.stats w.stats)
  | .config => w.answer (.config w.config)
  | .spawn => if w.worker.isSome then w.answer .refused else w.startLoops.answer .nothing
  | .shutdown =>
    if w.worker.isSome && !w.stopping then
      (({ w with stopping := true }.rouse .worker).rouse .sweeper).setOut .join
    else w.answer .refused
  | .advance ms => (w.await .visitor (w.now + ms)).setOut (.sleep (w.now + ms))
  | .jump ms =>
    let w := { w with shift := w.shift + ms }
    w.answer (.wall w.wall)
  | .call c =>
    let (w, r) := w.askDirectly c
    let w := match c, r with
      | .insert t, .ok _ => w.learn t.id
      | _, _ => w
    w.answer (.reply c r)
  | .size => w.answer (.size w.memory.tasks.length)
  | .offline value => { w with memory := { w.memory with online := !value } }.answer .nothing
  | .fault m f => { w with faults := w.faults ++ [(m, f)] }.answer .nothing
  | .tryGate resource name =>
    match w.gate.passAtOnce? resource with
    | some (p, g) => ({ w with gate := g }.keep name p).answer (.permit (.ok p))
    | none => w.answer (.permit (.error resource))
  | .enterGate resource name timeout =>
    let timeout := timeout.getD (w.gate.limit resource).acquireTimeout
    let (n, w) := w.spawn (.knocking name resource timeout)
    { w with knockers := (name, n) :: w.knockers }.answer .nothing
  | .releasePermit name =>
    let (w, held) := w.releaseKept name
    w.answer (.flag held)
  | .abandonGate name => (w.abandonKnocker name).answer .nothing
  | .available resource => w.answer (.available (w.gate.available? resource))
  | .limit resource => w.answer (.limit (w.gate.limit resource))

/-- A step, with at most `turns` turns for it and as many for what it sets going. The answer and
the world it leaves, with the record of what happened. -/
def step (turns : Nat) (w : World) (s : Step) : World × Answer :=
  let w := runErrand turns ({ w with record := Record.empty, visitorReady := false }.begin s)
  let a := match w.errand with
    | .finished a => a
    | _ => .refused
  (settle turns w, a)

/-- What can be read of the tasks that became known and are stored, in the order in which they
became known. -/
def knownTasks (w : World) : List Task := w.known.reverse.filterMap w.memory.find?

end World

namespace Record

/-- A record in the order in which things happened. -/
def inOrder (r : Record) : Record :=
  ⟨r.polls.reverse, r.sweeps.reverse, r.calls.reverse, r.gate.reverse, r.events.reverse⟩

/-- The lines of a record by their messages; lines of one message keep their order. -/
def eventsByMessage (r : Record) : List Event :=
  r.events.mergeSort fun a b => a.message ≤ b.message

/-- The ends of attempts to pass the gate, by moment and name. -/
def gateByMoment (r : Record) : List GateReport :=
  r.gate.mergeSort fun a b => a.atMs < b.atMs || (a.atMs == b.atMs && a.name ≤ b.name)

end Record

end Backlog.Simulation
