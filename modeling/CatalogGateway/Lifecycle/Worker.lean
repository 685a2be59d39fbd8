import CatalogGateway.Lifecycle.Manager

/-!
# The background worker

The worker runs passes of its own: one right after its start, one for each trigger,
and one for each reload interval.  Triggers that come while one is pending are one
with it.  The worker and its callers take turns: it moves on only while a caller
waits, and a pass of which it has come to the start runs before any later one.  A pass
of the worker stays under way while something is built, and a caller who waits for a
state may see it then.
-/

namespace CatalogGateway

/-- What the background worker is about to do. -/
structure Worker where
  started : Bool := false
  /-- A worker that was stopped never starts again. -/
  stopped : Bool := false
  /-- Whether the pass after the start is pending. -/
  tick : Bool := false
  /-- Whether a triggered pass is pending. -/
  triggered : Bool := false
  /-- Whether a pass waits for its turn. -/
  queued : Bool := false
deriving DecidableEq, Inhabited, Repr

/-- A lifecycle manager with its background worker. -/
structure Supervised where
  manager : Manager := {}
  worker : Worker := {}

namespace Worker

def isRunning (worker : Worker) : Bool :=
  worker.started && !worker.stopped

/-- Start the worker.  It needs a metadata service and a runtime to run in. -/
def start (worker : Worker) (hasService hasRuntime : Bool) : Except Fault Unit × Worker :=
  if !hasService then
    (.error (.internal "cannot start the lifecycle manager without a metadata service" none),
      worker)
  else if worker.stopped then
    (.error (.internal "the lifecycle manager was shut down" none), worker)
  else if !hasRuntime then
    (.error (.internal ("the lifecycle manager needs a tokio runtime: there is no reactor " ++
      "running, must be called from the context of a Tokio 1.x runtime") none), worker)
  else if worker.started then (.ok (), worker)
  else (.ok (), { worker with started := true, tick := true })

/-- Let a pending pass wait for its turn, unless one does already. -/
def advance (worker : Worker) : Worker :=
  if !worker.isRunning || worker.queued then worker
  else if worker.tick then { worker with tick := false, queued := true }
  else if worker.triggered then { worker with triggered := false, queued := true }
  else worker

/-- An interval passes. -/
def elapse (worker : Worker) : Worker :=
  { worker with tick := worker.tick || worker.isRunning }

end Worker

namespace Supervised

def shown (state : Supervised) (key : String) : String :=
  (state.manager.ledger.stateOf key).display

/-- Let the worker move on. -/
def advance (state : Supervised) : Supervised :=
  { state with worker := state.worker.advance }

/-- The time between two passes of the worker, at least a millisecond. -/
def interval (state : Supervised) : Nat :=
  max state.manager.config.reloadInterval.nanoseconds (Duration.ofMilliseconds 1).nanoseconds

/-- End the pass that is under way.  When one of its constructions has used up its time,
an interval may have passed too. -/
def endPass (state : Supervised) : ReconcileReport × Supervised :=
  let hasElapsed := state.manager.isStuck &&
    decide (state.interval ≤ state.manager.config.constructionTimeout.nanoseconds)
  let (report, manager) := state.manager.endPass
  (report, { manager, worker := if hasElapsed then state.worker.elapse else state.worker })

/-- Begin the pass of the worker that waits for its turn. -/
def beginQueued (state : Supervised) (service : Option MetadataService) : Supervised :=
  let manager := match state.manager.survey service with
    | .error _ => state.manager
    | .ok survey => state.manager.beginPass survey
  { manager, worker := { state.worker with queued := false } }

/-- End the pass of the worker, which moves on then. -/
def settle (state : Supervised) : Supervised :=
  state.endPass.2.advance

/-- Let the worker end the pass that it is at, before a caller gets its turn. -/
def takeTurn (state : Supervised) (service : Option MetadataService) : Supervised :=
  if state.manager.underWay.isSome then state.settle
  else if state.worker.queued then (state.beginQueued service).settle
  else state

/-- Run a pass of a caller.  The worker moves on while the caller's constructions take
their time. -/
def runPass (state : Supervised) (survey : Survey) : ReconcileReport × Supervised :=
  let begun := { state with manager := state.manager.beginPass survey }
  let (report, ended) := begun.endPass
  (report, if begun.manager.builds.isEmpty then ended else ended.advance)

/-- Bring the published catalogs in line with a list of desired ones. -/
def reconcileWith (state : Supervised) (service : Option MetadataService)
    (catalogs : List CatalogDefinition) : ReconcileReport × Supervised :=
  (state.takeTurn service).runPass { catalogs }

/-- Bring the published catalogs in line with those of the metadata service. -/
def reconcile (state : Supervised) (service : Option MetadataService) :
    Except Fault ReconcileReport × Supervised :=
  let ready := if service.isSome then state.takeTurn service else state
  match ready.manager.survey service with
  | .error fault => (.error fault, ready)
  | .ok survey =>
    let (report, after) := ready.runPass survey
    (.ok report, after)

/-- Run passes for several lists of desired catalogs that ask for their turns
together; passes of the worker come after all of them. -/
def reconcileAll (state : Supervised) (service : Option MetadataService) :
    List (List CatalogDefinition) → List ReconcileReport × Supervised
  | [] => ([], state)
  | first :: rest =>
    let (report, after) := state.reconcileWith service first
    rest.foldl (fun (reports, state) catalogs =>
      let (report, after) := state.runPass { catalogs }
      (reports ++ [report], after)) ([report], after)

/-- Let the worker run the passes that are pending until one of them has something to
build.  Three can be pending at most. -/
def proceed (state : Supervised) (service : Option MetadataService) : Supervised :=
  go state 3
where
  /-- Run at most so many passes. -/
  go (state : Supervised) : Nat → Supervised
    | 0 => state
    | count + 1 =>
      let ready := state.advance
      if ready.worker.queued then
        let begun := ready.beginQueued service
        if begun.manager.builds.isEmpty then go begun.endPass.2 count else begun
      else ready

/-- The longest interval that a caller who waits for a state waits for. -/
def patience : Duration := .ofMilliseconds 5000

/-- Let the worker do the next thing that a caller can notice: end a pass, begin one, or
wait for an interval to pass. -/
def next (state : Supervised) (service : Option MetadataService) : Supervised :=
  if state.manager.underWay.isSome then state.endPass.2.proceed service
  else
    let proceeded := state.proceed service
    if state.interval ≤ patience.nanoseconds then
      { proceeded with worker := proceeded.worker.elapse }
    else proceeded

def waitFor (state : Supervised) (service : Option MetadataService) (key text : String) :
    String × Supervised :=
  let after := go state 8
  (after.shown key, after)
where
  /-- Wait for at most so many things to happen. -/
  go (state : Supervised) : Nat → Supervised
    | 0 => state
    | count + 1 => if state.shown key = text then state else go (state.next service) count

/-- Ask the worker for a pass. -/
def trigger (state : Supervised) : Supervised :=
  { state with worker := { state.worker with triggered := true } }

/-- Stop the worker for good; a pass that it is at still ends. -/
def shutdown (state : Supervised) (service : Option MetadataService) : Supervised :=
  let after := state.takeTurn service
  { after with worker := { after.worker with stopped := true, queued := false } }

end Supervised

end CatalogGateway
