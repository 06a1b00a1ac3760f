import EventFeed.Proofs.World
import EventFeed.Worker
import Mathlib.Data.ENat.Lattice

/-! Shifts of a worker: how many iterations it makes, and that they are the boots and runs one would make by hand. -/

namespace EventFeed

variable {σ : Type}

/-- What so many iterations with these reports come to. -/
def WorkerStats.ofReports (iterations : Nat) (reports : List FeedReport) : WorkerStats where
  iterations := iterations
  processed := (reports.map FeedReport.processed).sum
  failures := (reports.map fun report => report.errors.length).sum

namespace Worker

/-- The calls of one iteration: a boot, where the worker boots, and a run; the boot is told of if it did something. -/
def iteration (worker : Worker σ) : Action σ (List FeedReport) := do
  if worker.config.boot then
    let booted ← worker.engine.boot worker.config.criteria worker.config.runLimit
    if 0 < booted.processed ∨ booted.hasErrors then
      worker.engine.note (.workerBooted booted.processed booted.errors.length)
    let report ← worker.engine.run worker.config.criteria worker.config.runLimit
    return [booted, report]
  else return [← worker.engine.run worker.config.criteria worker.config.runLimit]

/-- So many iterations made by hand, whoever asks to stop, with the waits for messages between them, and what is
reported. -/
def byHand (worker : Worker σ) : Nat → Action σ (List FeedReport)
  | 0 => return []
  | number + 1 => do
    let earlier ← worker.byHand number
    let reports ← worker.iteration
    worker.rest { iterations := number + 1 } (reports.all isIdle)
    return earlier ++ reports

/-- The boots and runs of so many iterations, and nothing else. -/
def callsAlone (worker : Worker σ) : Nat → Action σ (List FeedReport)
  | 0 => return []
  | number + 1 => do
    let earlier ← worker.callsAlone number
    if worker.config.boot then
      let booted ← worker.engine.boot worker.config.criteria worker.config.runLimit
      let report ← worker.engine.run worker.config.criteria worker.config.runLimit
      return earlier ++ [booted, report]
    else return earlier ++ [← worker.engine.run worker.config.criteria worker.config.runLimit]

/-- Somebody has asked to stop by the end of so many iterations. -/
def StoppedBy (worker : Worker σ) (system : σ) (number : Nat) : Prop :=
  ∃ reports last, worker.byHand number system = .ok reports last ∧ worker.isStopped last = true

/-- Whether somebody has asked to stop can be tried out. -/
instance (worker : Worker σ) (system : σ) (number : Nat) : Decidable (worker.StoppedBy system number) :=
  match reached : worker.byHand number system with
  | .ok reports last =>
    if stopped : worker.isStopped last = true then isTrue ⟨reports, last, reached, stopped⟩
    else isFalse fun ⟨_, _, run, asked⟩ => stopped (by cases reached.symm.trans run; exact asked)
  | .error _ _ => isFalse fun ⟨_, _, run, _⟩ => nomatch reached.symm.trans run

/-- The greatest number of iterations. -/
def most (worker : Worker σ) : ℕ∞ := worker.config.maxIterations.elim ⊤ Nat.cast

/-- The number of the iteration in which somebody first asks to stop; it is 0 for a request before the first one. -/
noncomputable def stoppedIn (worker : Worker σ) (system : σ) : ℕ∞ :=
  sInf (Nat.cast '' {number | worker.StoppedBy system number})

/-- Nobody hears what a worker itself reports, and its waits leave the system alone. -/
structure Unnoticed (worker : Worker σ) : Prop where
  booted : ∀ processed failures system, worker.engine.observe (.workerBooted processed failures) system = system
  idle : ∀ span system, worker.engine.observe (.workerIdle span) system = system
  stopped : ∀ iterations processed failures system,
    worker.engine.observe (.workerStopped iterations processed failures) system = system
  waits : ∀ system, worker.engine.source.wait worker.config.idleWait system = (.ok (), system)

variable {worker : Worker σ} {system last : σ} {number rounds : Nat} {reports : List FeedReport}

/-- The stats and the idleness that a worker keeps are those of the reports. -/
theorem iterate_eq (worker : Worker σ) (number : Nat) (earlier : List FeedReport) :
    worker.iterate (.ofReports number earlier) = do
      let reports ← worker.iteration
      return (.ofReports (number + 1) (earlier ++ reports), reports.all isIdle) := by
  -- With boots or without, the reports are recorded in the order in which they come.
  unfold iterate bootHalf iteration
  split
  · simp only [bind_assoc]
    refine bind_congr fun booted => ?_
    split <;> simp [WorkerStats.ofReports, WorkerStats.record, Nat.add_assoc]
  · simp [WorkerStats.ofReports, WorkerStats.record]

/-- A rest depends on the number of iterations alone. -/
theorem rest_ofReports (worker : Worker σ) (number : Nat) (reports : List FeedReport) (idle : Bool) :
    worker.rest (.ofReports number reports) idle = worker.rest { iterations := number } idle := rfl

/-- A computation that looks at the system goes on with it. -/
theorem get_bind_run {α : Type} (next : σ → Action σ α) (system : σ) :
    ((get : Action σ σ) >>= next) system = next system system := rfl

/-- A worker that has no reason to stop makes one more iteration. -/
theorem runFrom_succ {stats : WorkerStats} (going : worker.shouldStop stats system = false) :
    worker.runFrom (rounds + 1) stats system = (do
      let (stats, idle) ← worker.iterate stats
      worker.rest stats idle
      worker.runFrom rounds stats : Action σ (Option WorkerStats)) system := by
  rw [runFrom, get_bind_run, if_neg (by simp [going])]

/-- A worker that has a reason to stop says so and returns. -/
theorem runFrom_stop {stats : WorkerStats} (stop : worker.shouldStop stats system = true) (rounds : Nat) :
    worker.runFrom rounds stats system = .ok (some stats)
      (worker.engine.observe (.workerStopped stats.iterations stats.processed stats.failures) system) := by
  -- The reason is looked for before the rounds are counted.
  cases rounds <;>
  · rw [runFrom, get_bind_run, if_pos stop]
    rfl

/-- A worker goes on as long as it may, and nobody has asked it to stop. -/
theorem going_on (before : (number : ℕ∞) < min worker.most (worker.stoppedIn system))
    (reached : worker.byHand number system = .ok reports last) :
    worker.shouldStop (.ofReports number reports) last = false := by
  obtain ⟨more, later⟩ := lt_min_iff.mp before
  -- A request by the end of this iteration would be one before the first.
  have asked : worker.isStopped last = false := by
    by_contra stopped
    exact later.not_ge (sInf_le ⟨number, ⟨reports, last, reached, by simpa using stopped⟩, rfl⟩)
  rw [Worker.most] at more
  cases limit : worker.config.maxIterations with
  | none => simp [shouldStop, asked, limit]
  | some most =>
    have left : number < most := by simpa [limit] using more
    simp only [shouldStop, asked, limit, WorkerStats.ofReports, Bool.false_or, Option.any_some]
    exact decide_eq_false (Nat.not_le.mpr left)

/-- In the iteration in which somebody first asks to stop somebody does. -/
theorem stoppedBy_of_stoppedIn (asked : worker.stoppedIn system = number) : worker.StoppedBy system number := by
  -- The least number of a set is in the set, unless there is none.
  have some : (Nat.cast '' {number | worker.StoppedBy system number} : Set ℕ∞).Nonempty := by
    by_contra none
    rw [stoppedIn, Set.not_nonempty_iff_eq_empty.mp none, sInf_empty] at asked
    exact ENat.natCast_ne_top number asked.symm
  obtain ⟨first, stopped, same⟩ := csInf_mem some
  obtain rfl : first = number := Nat.cast_injective (same.trans asked)
  exact stopped

/-- A worker stops after as many iterations as it may make, and after the one in which somebody asks it to. -/
theorem stop_due (due : (number : ℕ∞) = min worker.most (worker.stoppedIn system))
    (reached : worker.byHand number system = .ok reports last) :
    worker.shouldStop (.ofReports number reports) last = true := by
  -- The lesser one of the two has been reached, so either of them may be the reason.
  rcases min_choice worker.most (worker.stoppedIn system) with limit | asked
  · rw [limit, most] at due
    cases limited : worker.config.maxIterations with
    | none => simp [limited] at due
    | some most =>
      obtain rfl : number = most := by simpa [limited] using due
      simp [shouldStop, limited, WorkerStats.ofReports]
  · -- The iterations lead to one end only, so the request is still there at this one.
    obtain ⟨again, stop, run, stopped⟩ := stoppedBy_of_stoppedIn (asked.symm.trans due.symm)
    obtain ⟨rfl, rfl⟩ : again = reports ∧ stop = last := by simpa [reached] using run.symm
    simp [shouldStop, stopped]

/-- The iteration in which somebody first asks to stop is the one before whose end nobody has. -/
theorem stoppedIn_eq (stopped : worker.StoppedBy system number)
    (earlier : ∀ before < number, ¬ worker.StoppedBy system before) : worker.stoppedIn system = number := by
  -- It is the least of its kind, as a bound from both sides.
  refine le_antisymm (sInf_le ⟨number, stopped, rfl⟩) (le_sInf ?_)
  rintro _ ⟨other, stopped, rfl⟩
  exact Nat.cast_le.mpr (Nat.le_of_not_lt fun before => earlier other before stopped)

/-- A worker that may go on so far makes its iterations as one would by hand, and goes on from there. -/
theorem run_eq_byHand (number : Nat) : (number : ℕ∞) ≤ min worker.most (worker.stoppedIn system) →
    ∀ rounds, number ≤ rounds → worker.run rounds system = (do
      let reports ← worker.byHand number
      worker.runFrom (rounds - number) (.ofReports number reports) : Action σ (Option WorkerStats)) system := by
  -- The invariant is that the worker stands where the calls made by hand lead, with their sums.
  induction number with
  | zero => exact fun _ rounds _ => rfl
  | succ number ih =>
    intro within rounds room
    have before : (number : ℕ∞) < min worker.most (worker.stoppedIn system) :=
      lt_of_lt_of_le (Nat.cast_lt.mpr (Nat.lt_succ_self number)) within
    rw [ih before.le rounds (by omega), byHand, bind_assoc]
    show EStateM.bind _ _ _ = EStateM.bind _ _ _
    unfold EStateM.bind
    cases reached : worker.byHand number system with
    | error abort last => rfl
    | ok earlier last =>
      -- Of the rounds that are left the iteration takes one.
      obtain ⟨more, rfl⟩ : ∃ more, rounds = number + 1 + more := Nat.exists_eq_add_of_le room
      have left : number + 1 + more - number = more + 1 := by omega
      have after : number + 1 + more - (number + 1) = more := by omega
      simp only [left, after]
      rw [runFrom_succ (going_on before reached), iterate_eq]
      simp only [bind_assoc, pure_bind, rest_ofReports]

/-- A report that nobody hears is no step at all. -/
theorem note_unheard {notice : Notice} (unheard : ∀ system, worker.engine.observe notice system = system) :
    worker.engine.note notice = pure () :=
  funext fun system => congrArg (EStateM.Result.ok ()) (unheard system)

/-- An unnoticed rest is no step at all. -/
theorem Unnoticed.rest (unnoticed : worker.Unnoticed) (stats : WorkerStats) (idle : Bool) :
    worker.rest stats idle = pure () := by
  -- The wait and the report before it do nothing.
  have waits : Action.ofStep (worker.engine.source.wait worker.config.idleWait) = pure () := by
    funext system
    simp only [Action.ofStep, unnoticed.waits]
    rfl
  funext system
  rw [Worker.rest, get_bind_run, note_unheard (unnoticed.idle _), waits]
  split <;> rfl

/-- Where nobody notices the worker itself, its iterations are boots and runs alone. -/
theorem byHand_eq_callsAlone (unnoticed : worker.Unnoticed) : worker.byHand = worker.callsAlone := by
  -- The induction is on the number of iterations.
  funext number
  induction number with
  | zero => rfl
  | succ number ih =>
    -- What an iteration does besides its calls goes away.
    rw [byHand, callsAlone, ih]
    refine bind_congr fun earlier => ?_
    simp only [iteration, note_unheard (unnoticed.booted _ _), unnoticed.rest]
    split <;> simp

/-- A worker makes exactly as many iterations as it may, or until the one in which somebody first asks it to stop: it
ends as the boots and runs made by hand do, with their number and their sums; the first of them that ends early ends it
at once; and where nobody notices the worker itself, it leaves what the boots and runs alone leave. -/
theorem run_exact (worker : Worker σ) (system : σ) :
    (∀ number : ℕ, (number : ℕ∞) = min worker.most (worker.stoppedIn system) → ∀ rounds, number ≤ rounds →
      ∀ reports last, worker.byHand number system = .ok reports last →
        let stats := WorkerStats.ofReports number reports
        worker.run rounds system = .ok (some stats)
          (worker.engine.observe (.workerStopped stats.iterations stats.processed stats.failures) last)) ∧
    (∀ number : ℕ, (number : ℕ∞) ≤ min worker.most (worker.stoppedIn system) → ∀ rounds, number ≤ rounds →
      ∀ abort last, worker.byHand number system = .error abort last → worker.run rounds system = .error abort last) ∧
    (worker.Unnoticed → worker.byHand = worker.callsAlone ∧
      ∀ stats : WorkerStats, ∀ last,
        worker.engine.observe (.workerStopped stats.iterations stats.processed stats.failures) last = last) := by
  -- The iterations of the worker are those made by hand, and what is left is how it ends after them.
  refine ⟨fun number due rounds room reports last reached => ?returned,
    fun number within rounds room abort last early => ?failed,
    fun unnoticed => ⟨byHand_eq_callsAlone unnoticed, fun _ _ => unnoticed.stopped _ _ _ _⟩⟩
  case returned =>
    rw [run_eq_byHand number due.le rounds room]
    show EStateM.bind _ _ _ = _
    simp only [EStateM.bind, reached]
    exact runFrom_stop (stop_due due reached) _
  case failed =>
    rw [run_eq_byHand number within rounds room]
    show EStateM.bind _ _ _ = _
    simp only [EStateM.bind, early]

end Worker

namespace World

/-- A subscriber whose handler asks the worker to stop when it gets a certain message. -/
def halting (id data : String) : Subscriber World where
  id := id
  group := "default"
  runMode := .fromBeginning
  setup := none
  teardown := none
  handlers := [⟨none, fun message world =>
    (.done, { world with stopped := world.stopped || decide (message.event.data = data) })⟩]

/-- A worker of at most five iterations, unnoticed but for its calls, that reads one message at a time. -/
def clerk : Worker World where
  engine :=
    { feeder [halting "new" "b", halting "old" "d"] .never with
      source := { (feeder [] .never).source with wait := fun _ world => (.ok (), world) }
      observe := fun _ world => world }
  config := { maxIterations := some 5, runLimit := some 1, idleWait := .zero }
  isStopped := World.stopped

/-- Three messages, and a subscription that has been caught up before. -/
def inbox : World := { telling ["a", "b", "c"] with rows := [{ id := "old", status := .active }] }

/-- The new subscriber asks to stop in the boot of the second iteration, whose run still feeds the old one; so the
worker makes two of its five iterations, as two boots and runs alone do. -/
theorem clerk_run_exact :
    clerk.stoppedIn inbox = 2 ∧ ∀ rounds, 2 ≤ rounds → ∃ reports last,
      clerk.callsAlone 2 inbox = .ok reports last ∧ last.rows.map Subscription.position = [2, 2] ∧
        clerk.run rounds inbox = .ok (some { iterations := 2, processed := 4, failures := 0 }) last := by
  -- What the general theorem asks for is known: when to stop, and what two iterations by hand come to.
  have stopped : clerk.stoppedIn inbox = 2 := Worker.stoppedIn_eq (by decide +kernel) (by decide +kernel)
  have unnoticed : clerk.Unnoticed := ⟨fun _ _ _ => rfl, fun _ _ => rfl, fun _ _ _ _ => rfl, fun _ => rfl⟩
  have due : ((2 : ℕ) : ℕ∞) = min clerk.most (clerk.stoppedIn inbox) := by
    rw [stopped]
    exact (min_eq_right (Nat.cast_le.mpr (show 2 ≤ 5 by decide))).symm
  have sums : ((clerk.byHand 2).outcome inbox).1.map (WorkerStats.ofReports 2) =
      .ok { iterations := 2, processed := 4, failures := 0 } := by decide +kernel
  have fed : ((clerk.byHand 2).outcome inbox).2.rows.map Subscription.position = [2, 2] := by decide +kernel
  obtain ⟨returned, -, alone⟩ := Worker.run_exact clerk inbox
  refine ⟨stopped, fun rounds room => ?_⟩
  cases reached : clerk.byHand 2 inbox with
  | error abort last => simp [Action.outcome, reached, Except.map] at sums
  | ok reports last =>
    have same : WorkerStats.ofReports 2 reports = { iterations := 2, processed := 4, failures := 0 } := by
      simpa [Action.outcome, reached, Except.map] using sums
    have run := returned 2 due rounds room reports last reached
    refine ⟨reports, last, (alone unnoticed).1 ▸ reached, by simpa [Action.outcome, reached] using fed, ?_⟩
    rw [run, same, (alone unnoticed).2]

end World
end EventFeed
