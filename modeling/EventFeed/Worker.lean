import EventFeed.Engine.Operations

/-! A worker that boots and runs an engine in turn until it is stopped. -/

namespace EventFeed

variable {σ : Type}

/-- Settings of a worker. -/
structure WorkerConfig where
  criteria : FeedCriteria := {}
  runLimit : Option Nat := none
  /-- How long to wait when there is nothing to do. -/
  idleWait : Duration := ⟨nanosPerSecond, by decide⟩
  maxIterations : Option Nat := none
  /-- Whether each iteration boots before it runs. -/
  boot : Bool := true

/-- What a worker has done. -/
structure WorkerStats where
  iterations : Nat := 0
  processed : Nat := 0
  failures : Nat := 0
deriving DecidableEq

/-- Counts the messages and failures of a report. -/
def WorkerStats.record (stats : WorkerStats) (report : FeedReport) : WorkerStats :=
  { stats with
    processed := stats.processed + report.processed
    failures := stats.failures + report.errors.length }

/-- A worker on an engine. -/
structure Worker (σ : Type) where
  engine : Engine σ
  config : WorkerConfig
  /-- Whether somebody has asked it to stop. -/
  isStopped : σ → Bool

namespace Worker

/-- Whether a report gives no reason to go on at once. -/
def isIdle (report : FeedReport) : Bool := report.finished && report.processed == 0

/-- Whether to stop before the next iteration. -/
def shouldStop (worker : Worker σ) (stats : WorkerStats) (system : σ) : Bool :=
  worker.isStopped system ||
    worker.config.maxIterations.any fun most => decide (most ≤ stats.iterations)

/-- The booting half of an iteration, and whether it leaves nothing to do. -/
def bootHalf (worker : Worker σ) (stats : WorkerStats) : Action σ (WorkerStats × Bool) := do
  if worker.config.boot then
    let report ← worker.engine.boot worker.config.criteria worker.config.runLimit
    if 0 < report.processed ∨ report.hasErrors then
      worker.engine.note (.workerBooted report.processed report.errors.length)
    return (stats.record report, isIdle report)
  else return (stats, true)

/-- One iteration, and whether it leaves nothing to do. -/
def iterate (worker : Worker σ) (stats : WorkerStats) : Action σ (WorkerStats × Bool) := do
  let (stats, idle) ← worker.bootHalf stats
  let report ← worker.engine.run worker.config.criteria worker.config.runLimit
  let stats := { stats with iterations := stats.iterations + 1 }
  return (stats.record report, idle && isIdle report)

/-- Waits for messages after an idle iteration, unless it was the last one. -/
def rest (worker : Worker σ) (stats : WorkerStats) (idle : Bool) : Action σ Unit := do
  if idle && !worker.shouldStop stats (← get) then
    worker.engine.note (.workerIdle worker.config.idleWait)
    Action.ofStep (worker.engine.source.wait worker.config.idleWait)

/-- Goes on from some point for at most so many iterations; none means that it would still go on. -/
def runFrom (worker : Worker σ) : (rounds : Nat) → WorkerStats → Action σ (Option WorkerStats)
  | rounds, stats => do
    if worker.shouldStop stats (← get) then
      worker.engine.note (.workerStopped stats.iterations stats.processed stats.failures)
      return some stats
    match rounds with
    | 0 => return none
    | rounds + 1 =>
      let (stats, idle) ← worker.iterate stats
      worker.rest stats idle
      worker.runFrom rounds stats

/-- Works until it is stopped, for at most so many iterations. -/
def run (worker : Worker σ) (rounds : Nat) : Action σ (Option WorkerStats) := worker.runFrom rounds {}

end Worker

end EventFeed
