import Backlog.Simulation.World
/-!
# Who acts when

Everyone who can act at an instant has a place in one line. Who is in front takes a turn: acts,
alone, until it has to wait. What it does may put others at the end of the line. The visitor, who
performs the steps from outside, acts only when the line is empty. When nobody can act, time passes
to the earliest moment somebody waits for, and those who wait for it get turns in the order in
which they began to wait.

A turn here is one move of the actor, which keeps its place in front as long as it need not wait;
so whatever happens between two waits of one actor is not interleaved with anything.

The number of turns is bounded by an explicit count, since handlers may keep the world busy without
end.
-/

namespace Backlog.Simulation

namespace World

/-! ## Attempts at the queue -/

/-- An attempt acts until it ends or its handler runs. A handler begins as a process of its own,
and the attempt goes on when that has ended. -/
def advance (w : World) (owner : Actor) (run : AttemptRun) : World × AttemptRun :=
  let (w, attempt) := drive (fun w a => a.move w.registry) id activityMoves w run.attempt
  match attempt, run.handler with
  | .handle t plan, none =>
    let calls := (t.kind, t.target) :: w.record.calls
    let w := { w with record := { w.record with calls := calls } }
    let (n, w) := w.spawn (.handler ⟨plan.script t.target, [], none, owner⟩)
    (w, ⟨attempt, some n⟩)
  | .handle _ _, some n =>
    match w.process? n with
    | some (.ended outcome) =>
      let w := w.dropProcess n
      let (w, attempt) :=
        drive (fun w a => a.move w.registry) id activityMoves w (attempt.handled outcome)
      (w, ⟨attempt, none⟩)
    | _ => (w, ⟨attempt, some n⟩)
  | _, _ => (w, ⟨attempt, none⟩)

/-- The result of an attempt is counted. -/
def countAttempt (w : World) (byLoop : Bool) (r : Except StoreError (Option Processed)) : World :=
  { w with stats := w.stats.concluded byLoop r }

/-! ## The loops -/

/-- The worker loop moves. -/
def workerTurn (w : World) : World :=
  match w.worker with
  | none => w
  | some k =>
    match k.point with
    | .ready =>
      let (k, es) := k.begin w.stopping
      ({ w with worker := some k }.log es).goOn (if k.isStopped then .visitor else .worker)
    | .attempting a =>
      let (w, run) := w.advance .worker ⟨a, w.workerHandler⟩
      match run.attempt.result? with
      | some r =>
        let (k, es) := k.conclude r
        let w := w.countAttempt true r
        ({ w with worker := some k, workerHandler := none }.log es).goOn .worker
      | none =>
        { w with
          worker := some { k with point := .attempting run.attempt }, workerHandler := run.handler }
    | .tired _ =>
      let k := k.lieDown w.nowNanos
      let w := match k.point with
        | .resting due => w.await .worker (tick due)
        | _ => w
      { w with worker := some k }.goOn .worker
    | .resting due =>
      if w.stopping then
        let (k, es) := k.stop
        (({ w with worker := some k }.log es).unawait .worker).rouse .visitor
      else if w.engineWake then
        ({ w with worker := some k.wake, engineWake := false }.unawait .worker).goOn .worker
      else if due ≤ w.nowNanos then
        ({ w with worker := some k.riseAtTime }.unawait .worker).goOn .worker
      else w
    | .stopped => w

/-- The sweep loop moves. -/
def sweeperTurn (w : World) : World :=
  match w.sweeper with
  | some (.waiting due) =>
    if w.stopping then
      let (s, es) := Sweeper.stop
      (({ w with sweeper := some s }.log es).unawait .sweeper).rouse .visitor
    else if due ≤ w.nowNanos then
      { w with sweeper := some (Sweeper.begin w.config w.wall due w.nowNanos) }.goOn .sweeper
    else if w.isAwaiting .sweeper then w
    else w.await .sweeper (tick due)
  | some (.sweeping s next) =>
    let (w, r) := w.sweep true s
    let (s, es) := Sweeper.conclude next r
    ({ w with sweeper := some s }.log es).goOn .sweeper
  | _ => w

/-! ## Handlers -/

/-- A handler ends: its permits go back, the last one first, and who waits for it gets a turn. -/
def endHandler (w : World) (n : Nat) (run : HandlerRun) (outcome : HandlerOutcome) : World :=
  let w := run.held.foldl giveBack w
  (w.setProcess n (.ended outcome)).rouse run.owner

/-- A handler goes on at once, with this state. -/
def keepRunning (w : World) (n : Nat) (run : HandlerRun) : World :=
  (w.setProcess n (.handler run)).goOn (.process n)

/-- A handler does its next action and has `run` left to do. -/
def perform (w : World) (n : Nat) (run : HandlerRun) : Action → World
  | .sleep ms =>
    if ms = 0 then w.keepRunning n run
    else (w.setProcess n (.handler run)).await (.process n) (w.now + ms)
  | .jump ms => { w with shift := w.shift + ms }.keepRunning n run
  | .offline value => { w with memory := { w.memory with online := !value } }.keepRunning n run
  | .cancel idText owner =>
    match w.cancel idText owner with
    | (w, .ok ()) => w.keepRunning n run
    | (w, .error e) => w.endHandler n run (.failed [e.message])
  | .submit form =>
    match w.submit form signalService with
    | (w, .ok _) => w.keepRunning n run
    | (w, .error e) => w.endHandler n run (.failed [e.message])
  | .pass resource false =>
    match w.gate.passAtOnce? resource with
    | some (p, g) => { w with gate := g }.keepRunning n { run with held := p :: run.held }
    | none => w.endHandler n run (.failed [resource.busy.message])
  | .pass resource true =>
    match w.gate.enter resource (w.gate.limit resource).acquireTimeout n w.nowNanos with
    | (.inl p, g) =>
      ({ w with gate := g }.log (Gate.passedEvents p)).keepRunning n
        { run with held := p :: run.held }
    | (.inr wait, g) =>
      let w := { w with gate := g }.setProcess n (.handler { run with slot := some wait })
      match wait.deadline with
      | some d => w.await (.process n) (tick d)
      | none => w

/-- A handler moves. -/
def handlerTurn (w : World) (n : Nat) (run : HandlerRun) : World :=
  match run.slot with
  | some wait =>
    match w.gate.check wait w.nowNanos with
    | (.passed p, g) =>
      (({ w with gate := g }.log (Gate.passedEvents p)).unawait (.process n)).keepRunning n
        { run with held := p :: run.held, slot := none }
    | (.busy, g) =>
      (({ w with gate := g }.log [Gate.busyEvent wait]).unawait (.process n)).endHandler n run
        (.failed [wait.resource.busy.message])
    | (.pending, _) => w
  | none =>
    match run.script.actions with
    | [] => w.endHandler n run run.script.ending
    | a :: rest => w.perform n { run with script := { run.script with actions := rest } } a

/-! ## Attempts to pass the gate -/

/-- An attempt to pass the gate has ended; a permit is kept under its name. -/
def report (w : World) (n : Nat) (name : String) (r : Except ResourceClass Permit) : World :=
  let reports := ⟨name, w.now, r⟩ :: w.record.gate
  let w := { w with record := { w.record with gate := reports } }.dropProcess n
  match r with
  | .ok p => w.keep name p
  | .error _ => w

/-- A process moves. -/
def processTurn (w : World) (n : Nat) : World :=
  match w.process? n with
  | some (.handler run) => w.handlerTurn n run
  | some (.knocking name resource timeout) =>
    match w.gate.enter resource timeout n w.nowNanos with
    | (.inl p, g) => ({ w with gate := g }.log (Gate.passedEvents p)).report n name (.ok p)
    | (.inr wait, g) =>
      let w := { w with gate := g }.setProcess n (.waiting name wait)
      match wait.deadline with
      | some d => w.await (.process n) (tick d)
      | none => w
  | some (.waiting name wait) =>
    match w.gate.check wait w.nowNanos with
    | (.passed p, g) => ({ w with gate := g }.log (Gate.passedEvents p)).report n name (.ok p)
    | (.busy, g) =>
      ({ w with gate := g }.log [Gate.busyEvent wait]).report n name (.error wait.resource)
    | (.pending, _) => w
  | _ => w

/-! ## The visitor -/

/-- The visitor's errand moves. -/
def visitorTurn (w : World) : World :=
  match w.errand with
  | .attempt run =>
    let (w, run) := w.advance .visitor run
    match run.attempt.result? with
    | some r => { w.countAttempt false r with errand := .finished (.processed r) }
    | none => { w with errand := .attempt run }
  | .drain run ps =>
    let (w, run) := w.advance .visitor run
    match run.attempt.result? with
    | some (.ok (some p)) =>
      { w.countAttempt false (.ok (some p)) with
        errand := .drain ⟨.poll, none⟩ (p :: ps) }.goOn .visitor
    | some (.ok none) => { w with errand := .finished (.drained ps.reverse none) }
    | some (.error e) => { w with errand := .finished (.drained ps.reverse (some e)) }
    | none => { w with errand := .drain run ps }
  | .sleep due =>
    if due ≤ w.now then { w.unawait .visitor with errand := .finished (.elapsed w.now) } else w
  | .join =>
    if (w.worker.all Worker.isStopped) && (w.sweeper.all Sweeper.isStopped) then
      { w.log [.engineStopped] with errand := .finished (.elapsed w.now) }
    else w
  | .finished _ => w

/-! ## Turns and time -/

/-- An actor takes its turn. -/
def turn (w : World) : Actor → World
  | .visitor => w.visitorTurn
  | .worker => w.workerTurn
  | .sweeper => w.sweeperTurn
  | .process n => w.processTurn n

/-- The earliest moment somebody waits for. -/
def nextMoment? (w : World) : Option Nat := (w.timers.map (·.1)).min?

/-- A moment has come: who waited for it gets a turn. -/
def passTo (w : World) (t : Nat) : World :=
  let due := w.timers.filter fun e => e.1 ≤ t
  let w := { w with now := max w.now t, timers := w.timers.filter fun e => t < e.1 }
  due.foldl (fun w e => w.rouse e.2) w

/-- Everyone acts, and time passes, until the visitor's errand is finished. -/
def runErrand : Nat → World → World
  | 0, w => w
  | n + 1, w =>
    match w.errand with
    | .finished _ => w
    | _ =>
      match w.ready with
      | a :: rest => runErrand n ({ w with ready := rest }.turn a)
      | [] =>
        if w.visitorReady then runErrand n { w with visitorReady := false }.visitorTurn
        else
          match w.nextMoment? with
          | some t => runErrand n (w.passTo t)
          | none => w

/-- Everyone but the visitor acts until all have to wait. -/
def settle : Nat → World → World
  | 0, w => w
  | n + 1, w =>
    match w.ready with
    | a :: rest => settle n ({ w with ready := rest }.turn a)
    | [] =>
      match w.nextMoment? with
      | some t => if t ≤ w.now then settle n (w.passTo t) else w
      | none => w

end World

end Backlog.Simulation
