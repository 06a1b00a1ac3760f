import EventFeed.Proofs.Chronicles
import EventFeed.Proofs.Pace
import EventFeed.Proofs.World

/-! Headway: how far a flawless subscriber gets in limited runs, while
others fail and are tried again. -/

namespace EventFeed

open EventFeed.Action
open Subscription (unstamped)

variable {σ : Type}

namespace Engine

/-- What comes before the feeding of a run. -/
def muster (engine : Engine σ) (criteria : FeedCriteria) : Action σ WorkUnit := do
  let unit ← engine.discover criteria {}
  let unit ← engine.retry criteria [.new, .booting, .active] unit
  engine.markDetached criteria [.active, .paused, .error] unit

theorem run_eq (engine : Engine σ) (criteria : FeedCriteria) (limit : Option Nat) :
    engine.run criteria limit = engine.store.guarded (do
      let unit ← engine.muster criteria
      let (targets, unit) ← engine.targets criteria .active unit
      engine.feed .active limit .nothingActive engine.keptUp [] targets unit) := by
  -- Both run the same phases, grouped in another way.
  simp only [run, muster, bind_assoc]

/-- Runs under the same limit, one after another. -/
def runMany (engine : Engine σ) (limit : Nat) : Nat → Action σ (List FeedReport)
  | 0 => return []
  | count + 1 => do
    let report ← engine.run {} (some limit)
    let reports ← engine.runMany limit count
    return report :: reports

end Engine

/-- What the retry phase makes of one row: it stays, or it is active again. -/
structure Resumes (never : Prop) (row next : Subscription) : Prop where
  id : next.id = row.id
  mode : next.runMode = row.runMode
  position : next.position = row.position
  working : Working next
  active : row.status = .active → next.status = .active
  unretried : never → next.status = row.status

namespace Stage

variable {stage : Stage σ} {engine : Engine σ}

/-- The retry phase puts working rows back to work, or leaves them alone. -/
theorem Revised.resumes {criteria : FeedCriteria} {failedIn : List Status} {first : Ledger} {before after : σ}
    {unit : WorkUnit} (revised : stage.Revised (criteria.withStatuses [.error]).admits
      (Retried engine failedIn) first before unit after)
    (working : ∀ row ∈ stage.rows.read before, Working row) :
    ∀ next ∈ stage.rows.read after, ∃ row ∈ stage.rows.read before,
      Resumes (Unforgiving engine) row next := by
  -- Whoever fails at work keeps that it was active, which is what a retry goes back to.
  intro next member
  obtain ⟨change, edited, fields, -⟩ := revised.rows
  -- Each row is the stored form of the edit of some old one.
  obtain ⟨_, place, same⟩ := Rows.source fields member
  obtain ⟨row, present, rfl⟩ := List.mem_map.mp place
  have resumes : Resumes (Unforgiving engine) row (change row) := by
    have works := working row present
    -- A row that is left alone resumes what it did.
    have stays : Resumes (Unforgiving engine) row row :=
      ⟨rfl, rfl, rfl, works, fun active => active, fun _ => rfl⟩
    have edit := (edited row present).2
    split at edit
    · rename_i chosen
      rw [FeedCriteria.admits_withStatuses, Bool.and_eq_true, decide_eq_true_eq, List.mem_singleton] at chosen
      rcases edit with left | ⟨⟨system, approved⟩, -, retried⟩
      · exact left.symm ▸ stays
      · -- A row that failed while it was active is active again.
        obtain ⟨error, failed, shape⟩ := Subscription.retry_ok retried
        rcases works with active | ⟨-, other, kept, previous⟩
        · -- An active row is not meant by the retry.
          rw [active] at chosen
          cases chosen.2
        · obtain rfl : error = other := Option.some.inj (failed.symm.trans kept)
          rw [shape]
          refine ⟨rfl, rfl, rfl, Or.inl previous, fun _ => previous, fun never => ?_⟩
          rw [never] at approved
          cases approved
    · exact edit.symm ▸ stays
  refine ⟨row, present, ?_⟩
  -- Stamps are not looked at.
  rw [Subscription.eq_of_unstamped same.symm]
  obtain ⟨id, mode, position, works, active, unretried⟩ := resumes
  exact ⟨id, mode, position, works, active, unretried⟩

/-- Rows that belong to the subscribers of an engine, work from the beginning, and stand at some
place or after it. -/
structure Crew (engine : Engine σ) (base : Nat) (rows : List Subscription) : Prop where
  distinct : (Rows.ids rows).Nodup
  registered : ∀ subscriber ∈ engine.registry.subscribers, subscriber.id ∈ Rows.ids rows
  known : ∀ row ∈ rows, engine.registry.knows row.id = true
  mode : ∀ row ∈ rows, row.runMode = .fromBeginning
  working : ∀ row ∈ rows, Working row
  onward : ∀ row ∈ rows, base ≤ row.position

/-- What a run makes of one row. -/
structure Carries (engine : Engine σ) (read : List Nat) (row next : Subscription) : Prop where
  id : next.id = row.id
  mode : next.runMode = row.runMode
  onward : row.position ≤ next.position
  working : Working next
  abreast : next.status = .active → Abreast row.position read next.position
  unfailed : ∀ subscriber, engine.registry.get? row.id = some subscriber → subscriber.Flawless →
    row.status = .active → next.status = .active
  unretried : Unforgiving engine → next.status = .active → row.status = .active

/-- Rows stay a crew while each of them is carried on. -/
theorem Crew.carry {base : Nat} {read : List Nat} {rows next : List Subscription}
    (crew : Crew engine base rows) (ids : Rows.ids next = Rows.ids rows)
    (carries : ∀ row ∈ next, ∃ old ∈ rows, Carries engine read old row) : Crew engine base next := by
  -- What the crew keeps is kept by each row: its subscriber, its mode, its work and its place.
  refine ⟨ids ▸ crew.distinct, ids ▸ crew.registered, ?_, ?_, ?_, ?_⟩
  · intro row member
    obtain ⟨old, present, carried⟩ := carries row member
    rw [carried.id]
    exact crew.known old present
  · intro row member
    obtain ⟨old, present, carried⟩ := carries row member
    exact carried.mode.trans (crew.mode old present)
  · intro row member
    obtain ⟨old, present, carried⟩ := carries row member
    exact carried.working
  · intro row member
    obtain ⟨old, present, carried⟩ := carries row member
    exact Nat.le_trans (crew.onward old present) carried.onward

/-- Whether a position is the lowest that an active row has. -/
def Lowest (stage : Stage σ) (system : σ) (position : Nat) : Prop :=
  IsLeast {place | ∃ row ∈ stage.rows.read system, row.status = .active ∧ row.position = place} position

/-- What a run leaves: a window from the lowest position of a row that is active once failed ones have been put
back, and rows that are carried on by it. -/
structure Ran (stage : Stage σ) (engine : Engine σ) (id : String) (base : Nat) (limit : Option Nat) (before : σ)
    (start : Nat) (after : σ) : Prop where
  loads : stage.Loads id [start] before after
  crew : Crew engine base (stage.rows.read after)
  onward : base ≤ start
  behind : ∀ row ∈ stage.rows.read before, row.status = .active → start ≤ row.position
  lowest : ∃ unit mustered, engine.muster {} before = .ok unit mustered ∧ stage.Lowest mustered start
  attained : ∃ row ∈ stage.rows.read before, (Unforgiving engine → row.status = .active) ∧ row.position = start
  ids : Rows.ids (stage.rows.read after) = Rows.ids (stage.rows.read before)
  carries : ∀ next ∈ stage.rows.read after, ∃ row ∈ stage.rows.read before,
    Carries engine ((readUnder limit (stage.above start before)).map Prod.fst) row next

/-- Discovery loads no window, and starts no subscription anew that is stored. -/
theorem Discovered.loads {id : String} {criteria : FeedCriteria} {first : Ledger} {before after : σ}
    {unit : WorkUnit} (discovered : stage.Discovered engine criteria first before unit after)
    (stored : id ∈ Rows.ids (stage.rows.read before)) : stage.Loads id [] before after := by
  -- Both parts look at the reports, which are discoveries of ids that were not stored.
  obtain ⟨notices, journal, reports⟩ := discovered.journal
  refine ⟨discovered.log, notices, journal, ?_, ?_⟩
  · -- Discovery reports what it has found, and nothing is loaded.
    apply List.filterMap_eq_nil_iff.mpr
    intro notice member
    obtain ⟨other, group, rfl, -⟩ := reports notice member
    rfl
  · -- Whoever was found was not stored before.
    intro tally
    rw [Tally.noteAll_of_others]
    intro notice member
    obtain ⟨other, group, shape, absent⟩ := reports notice member
    exact ⟨other, group, shape, fun same => absent (same ▸ stored)⟩

/-- What a retry and then a window make of one row. -/
theorem carries_of_paced {read : List Nat} {row middle next : Subscription}
    (resumes : Resumes (Unforgiving engine) row middle) (id : next.id = middle.id)
    (paced : middle.status ≠ .active ∧ next.unstamped = middle.unstamped ∨
      middle.status = .active ∧ ∃ subscriber, engine.registry.get? middle.id = some subscriber ∧
        Paces read subscriber.Flawless middle next) : Carries engine read row next := by
  rcases paced with ⟨idle, same⟩ | ⟨current, subscriber, known, paces⟩
  · -- A row that is not active is no target, and stays.
    have shape := Subscription.eq_of_unstamped same
    rw [shape]
    refine ⟨resumes.id, resumes.mode, Nat.le_of_eq resumes.position.symm, ?_, ?_, ?_, ?_⟩
    · exact resumes.working
    · exact fun active => absurd active idle
    · exact fun _ _ _ active => absurd (resumes.active active) idle
    · exact fun _ active => absurd active idle
  · -- An active row was a target, and kept pace from where it was put back.
    refine ⟨id.trans resumes.id, paces.mode.trans resumes.mode, ?_, paces.working, ?_, ?_, ?_⟩
    · exact resumes.position ▸ paces.onward
    · intro active
      rw [← resumes.position]
      exact paces.abreast active
    · -- Its subscriber is the one that is registered for it.
      intro other registered flawless _
      rw [resumes.id, registered] at known
      obtain rfl := Option.some.inj known
      exact paces.unfailed flawless
    · -- Without retries it was active before the run.
      intro never _
      exact (resumes.unretried never).symm.trans current

/-- What a crew has become when its feeding starts: failed rows may be active again. -/
structure Mustered (stage : Stage σ) (engine : Engine σ) (id : String) (before : σ) (unit : WorkUnit)
    (after : σ) : Prop where
  unit : unit = .clean (stage.rows.read after)
  loads : stage.Loads id [] before after
  ids : Rows.ids (stage.rows.read after) = Rows.ids (stage.rows.read before)
  resumes : ∀ next ∈ stage.rows.read after, ∃ row ∈ stage.rows.read before,
    Resumes (Unforgiving engine) row next

/-- Before the feeding of a run nothing happens to a crew but retries. -/
theorem Hosts.muster_ends (hosted : stage.Hosts engine) {id : String} {base : Nat} {system : σ}
    (crew : Crew engine base (stage.rows.read system)) (stored : id ∈ Rows.ids (stage.rows.read system)) :
    Ends (engine.muster {}) system (stage.Mustered engine id system) := by
  -- Discovery finds the subscriber of every row among the rows.
  apply Meets.bind (hosted.discover_ends crew.distinct (.refl _))
  intro unit one discovered
  obtain rfl := discovered.clean
  have oneRows := discovered.rows_eq fun subscriber present _ => crew.registered subscriber present
  apply Meets.bind (hosted.retry_ends discovered.distinct discovered.follows)
  intro unit two retried
  obtain rfl := retried.unit
  have resumes := retried.resumes (oneRows ▸ crew.working)
  have twoIds : Rows.ids (stage.rows.read two) = Rows.ids (stage.rows.read one) := by
    obtain ⟨change, edited, fields, -⟩ := retried.rows
    exact edited_ids edited fields
  rw [oneRows] at resumes twoIds
  apply Meets.mono (hosted.markDetached_ends (by simp) retried.distinct retried.follows)
  intro unit three marked
  -- Every row has a subscriber, and so none is marked.
  have threeRows : stage.rows.read three = stage.rows.read two := by
    apply marked.undetached
    intro row member _
    obtain ⟨old, present, resumed⟩ := resumes row member
    rw [resumed.id]
    exact crew.known old present
  have quiet : stage.Loads id [] system three :=
    ((discovered.loads stored).trans retried.quietly.loads).trans marked.quietly.loads
  exact ⟨marked.unit, quiet, threeRows.symm ▸ twoIds, threeRows.symm ▸ resumes⟩

/-- Every row of a crew is there when its feeding starts. -/
theorem Mustered.forward {id : String} {base : Nat} {before after : σ} {unit : WorkUnit}
    (mustered : stage.Mustered engine id before unit after) (crew : Crew engine base (stage.rows.read before)) :
    ∀ row ∈ stage.rows.read before, ∃ next ∈ stage.rows.read after, Resumes (Unforgiving engine) row next := by
  -- Ids are neither lost nor added, so every old row has one that comes from it.
  intro row member
  obtain ⟨next, present, same⟩ := List.mem_map.mp (mustered.ids.symm ▸ Rows.id_mem_ids member)
  obtain ⟨old, stored, resumed⟩ := mustered.resumes next present
  -- The row that the other one comes from has the same id, and so it is the same row.
  obtain rfl := Rows.eq_of_id crew.distinct stored member (resumed.id.symm.trans same)
  exact ⟨next, present, resumed⟩

/-- A run puts failed rows back, and feeds the active ones from the lowest of their positions on. -/
theorem Hosts.run_ran (hosted : stage.Hosts engine) (caught : engine.config.catchPanics = true)
    (behaves : ∀ subscriber ∈ engine.registry.subscribers, stage.Behaves subscriber)
    (sparing : ∀ subscriber ∈ engine.registry.subscribers, stage.Sparing subscriber) {limit : Option Nat}
    {id : String} {base : Nat} {system : σ} (crew : Crew engine base (stage.rows.read system))
    (stored : id ∈ Rows.ids (stage.rows.read system))
    (somebody : ∃ row ∈ stage.rows.read system, row.status = .active) :
    Ends (engine.run {} limit) system fun _ after =>
      ∃ start, stage.Ran engine id base limit system start after := by
  -- A run is what comes before the feeding, and the feeding.
  rw [Engine.run_eq]
  apply hosted.guarded_meets
  -- What the phases before the feeding leave is where the window finds its start.
  obtain ⟨unit, middle, readied, mustered⟩ := (hosted.muster_ends crew stored).run
  apply Meets.run_bind readied
  obtain rfl := mustered.unit
  have distinct : (Rows.ids (stage.rows.read middle)).Nodup := mustered.ids.symm ▸ crew.distinct
  have known : ∀ row ∈ stage.rows.read middle, engine.registry.knows row.id = true := by
    intro row member
    obtain ⟨old, present, resumed⟩ := mustered.resumes row member
    exact resumed.id ▸ crew.known old present
  have modes : ∀ row ∈ stage.rows.read middle, row.runMode = .fromBeginning := by
    intro row member
    obtain ⟨old, present, resumed⟩ := mustered.resumes row member
    exact resumed.mode.trans (crew.mode old present)
  -- Whoever was active is a target, and stands where it stood.
  have targeted : ∀ {row}, row ∈ stage.rows.read system → row.status = .active →
      ∃ target ∈ targetsIn engine {} .active (stage.rows.read middle),
        target.subscription.position = row.position := by
    intro row member active
    obtain ⟨next, present, resumed⟩ := mustered.forward crew row member
    obtain ⟨subscriber, registered⟩ := Option.isSome_iff_exists.mp (known next present)
    exact ⟨⟨next, subscriber⟩, mem_targetsIn.mpr ⟨present, rfl, resumed.active active, registered⟩,
      resumed.position⟩
  have nonempty : targetsIn engine {} .active (stage.rows.read middle) ≠ [] := by
    intro nobody
    obtain ⟨row, member, active⟩ := somebody
    obtain ⟨target, present, -⟩ := targeted member active
    rw [nobody] at present
    cases present
  -- The window is fed, and each row comes to what a retry and the window make of it.
  apply Meets.run_bind (hosted.targets_run distinct)
  apply Meets.mono (hosted.feed_paced caught behaves sparing distinct known modes nonempty)
  intro report after fed
  obtain ⟨-, loads, ids, paced⟩ := fed
  -- The window starts at the lowest target, which stands where an old row stood.
  obtain ⟨lowest, isTarget, attained⟩ := lowestPosition_mem nonempty
  obtain ⟨inRows, -, active, -⟩ := mem_targetsIn.mp isTarget
  obtain ⟨first, present, resumed⟩ := mustered.resumes _ inRows
  have carries : ∀ next ∈ stage.rows.read after, ∃ row ∈ stage.rows.read system, Carries engine
      ((readUnder limit (stage.above (Engine.lowestPosition (targetsIn engine {} .active
        (stage.rows.read middle))) system)).map Prod.fst) row next := by
    intro next member
    obtain ⟨between, inMiddle, id, pace⟩ := paced next member
    obtain ⟨row, inRows, resumedRow⟩ := mustered.resumes between inMiddle
    rw [above, mustered.loads.log] at pace
    exact ⟨row, inRows, carries_of_paced resumedRow id pace⟩
  have sameIds := ids.trans mustered.ids
  refine ⟨_, mustered.loads.trans loads, crew.carry sameIds carries, ?_, ?_, ⟨_, middle, readied, ?_, ?_⟩, ?_, sameIds,
    carries⟩
  · -- No row stands before the place where all have started.
    rw [← attained, resumed.position]
    exact crew.onward first present
  · -- The start is the lowest position of all targets.
    intro row member current
    obtain ⟨target, inTargets, position⟩ := targeted member current
    exact position ▸ lowestPosition_le inTargets
  · exact ⟨lowest.subscription, inRows, active, attained⟩
  · -- Every row that is active by then has a subscriber, and so it is a target.
    rintro position ⟨row, member, current, rfl⟩
    obtain ⟨subscriber, registered⟩ := Option.isSome_iff_exists.mp (known row member)
    have target : (⟨row, subscriber⟩ : Target σ) ∈ targetsIn engine {} .active (stage.rows.read middle) :=
      mem_targetsIn.mpr ⟨member, rfl, current, registered⟩
    exact lowestPosition_le target
  · -- Without retries the lowest target was active before the run.
    exact ⟨first, present, fun never => (resumed.unretried never).symm.trans active,
      resumed.position.symm.trans attained⟩

/-- How many of some indices are up to a position. -/
def upTo (indices : List Nat) (position : Nat) : Nat :=
  (indices.filter fun index => decide (index ≤ position)).length

/-- How many of some indices are behind after windows from some places on: each window reaches so
many beyond its start. -/
def headway (indices : List Nat) (limit : Nat) (places : List Nat) (count : Nat) : Nat :=
  places.foldl (fun count start => max count (upTo indices start + limit)) count

/-- The indices of the log above a position. -/
def indicesAbove (stage : Stage σ) (base : Nat) (system : σ) : List Nat :=
  (stage.above base system).map Prod.fst

/-- What a subscription that stood at a position has completed since then, according to some reports. -/
def completedSince (base : Nat) (id : String) (notices : List Notice) : List Nat :=
  (({ start := base } : Tally).noteAll id notices).completed

/-- Runs under a limit, one after another, and where their windows start: each at the lowest position of a row that is
active when its run has put failed rows back. -/
inductive RunsFrom (stage : Stage σ) (engine : Engine σ) (limit : Nat) : List Nat → σ → σ → Prop where
  | nil (system : σ) : RunsFrom stage engine limit [] system system
  | cons {start : Nat} {rest : List Nat} {unit : WorkUnit} {report : FeedReport} {before mustered middle after : σ}
    (readied : engine.muster {} before = .ok unit mustered) (lowest : stage.Lowest mustered start)
    (run : engine.run {} (some limit) before = .ok report middle)
    (later : RunsFrom stage engine limit rest middle after) : RunsFrom stage engine limit (start :: rest) before after

/-- Whether nobody stays behind and is fed again: no failed subscription is tried again, or no subscriber fails. -/
def Unhindered (engine : Engine σ) : Prop :=
  Unforgiving engine ∨ ∀ subscriber ∈ engine.registry.subscribers, subscriber.Flawless

/-- Where a crew stands: how many indices one active row has behind it, and every active row if none
stays behind. -/
structure Heading (stage : Stage σ) (engine : Engine σ) (base : Nat) (id : String) (indices : List Nat)
    (count even : Nat) (system : σ) : Prop where
  crew : Crew engine base (stage.rows.read system)
  logged : stage.indicesAbove base system = indices
  own : ∃ row ∈ stage.rows.read system, row.id = id ∧ row.status = .active ∧
    Through indices count row.position
  healthy : (∀ subscriber ∈ engine.registry.subscribers, subscriber.Flawless) →
    ∀ row ∈ stage.rows.read system, row.status = .active
  even : Unhindered engine → ∀ row ∈ stage.rows.read system, row.status = .active →
    Through indices even row.position

theorem above_ascending (base : Nat) (system : σ) :
    (stage.indicesAbove base system).Pairwise (· < ·) :=
  (stage.ascending system).sublist (List.filter_sublist.map Prod.fst)

theorem between_eq_filter (base last : Nat) (system : σ) : between (stage.log system) base last =
    (stage.indicesAbove base system).filter fun index => decide (index ≤ last) := by
  -- Both keep the indices that are above the one and up to the other.
  simp only [between, indicesAbove, above, List.filter_map, List.filter_filter]
  congr 1
  apply List.filter_congr
  intro entry _
  simp only [Function.comp_apply, Bool.decide_and, Bool.and_comm]

/-- What is read from a start on are the indices after those that are up to it. -/
theorem read_eq_drop {base start held limit : Nat} {indices : List Nat} {system : σ}
    (logged : stage.indicesAbove base system = indices) (onward : base ≤ start)
    (through : Through indices held start) (positive : 1 ≤ limit) :
    (readUnder (some limit) (stage.above start system)).map Prod.fst = (indices.drop held).take limit := by
  have ascending : indices.Pairwise (· < ·) := logged ▸ above_ascending base system
  -- What is above the start is above the base too.
  have later : stage.above start system =
      (stage.above base system).filter fun entry => decide (start < entry.1) := by
    simp only [above, List.filter_filter]
    apply List.filter_congr
    intro entry _
    rw [Bool.eq_iff_iff, Bool.and_eq_true, decide_eq_true_eq, decide_eq_true_eq]
    omega
  rw [readUnder, Nat.max_eq_right positive, List.map_take, ← through.filter_gt ascending, ← logged, later,
    indicesAbove, List.filter_map]
  rfl

/-- After one more run, the window from its start on counts. -/
theorem Heading.next {base limit count even start : Nat} {id : String} {indices : List Nat} {system after : σ}
    {subscriber : Subscriber σ} (heading : stage.Heading engine base id indices count even system)
    (positive : 1 ≤ limit) (known : engine.registry.get? id = some subscriber)
    (flawless : subscriber.Flawless) (ran : stage.Ran engine id base (some limit) system start after) :
    stage.Heading engine base id indices (max count (upTo indices start + limit)) (even + limit) after ∧
      upTo indices start ≤ count := by
  -- Three things go on: the row of the subscriber, the health of all if nobody fails, and the level of all.
  obtain ⟨crew, logged, ⟨row, member, named, active, through⟩, healthy, level⟩ := heading
  have ascending : indices.Pairwise (· < ·) := logged ▸ above_ascending base system
  -- The start of the window has some of the indices behind it, as many as are up to it.
  have held : Through indices (upTo indices start) start := through_length ascending start
  have behind := ran.behind row member active
  refine ⟨⟨ran.crew, ?_, ?_, ?_, ?_⟩, ?_⟩
  · rw [indicesAbove, above, ran.loads.log]
    exact logged
  · -- The row is still there, and still active.
    obtain ⟨next, present, same⟩ := List.mem_map.mp (ran.ids.symm ▸ Rows.id_mem_ids member)
    obtain ⟨old, stored, carries⟩ := ran.carries next present
    obtain rfl := Rows.eq_of_id crew.distinct stored member (carries.id.symm.trans same)
    have current := carries.unfailed subscriber (named.symm ▸ known) flawless active
    have abreast := carries.abreast current
    rw [read_eq_drop logged ran.onward held positive] at abreast
    exact ⟨next, present, same.trans named, current, through.window ascending held behind abreast⟩
  · -- A row whose subscriber is flawless stays active.
    intro all next present
    obtain ⟨old, stored, carries⟩ := ran.carries next present
    obtain ⟨own, registered⟩ := Option.isSome_iff_exists.mp (crew.known old stored)
    exact carries.unfailed own registered (all own (List.mem_of_find?_eq_some registered)) (healthy all old stored)
  · -- If nobody is put back, whoever is active was active before, and so was the row where the window starts.
    intro unhindered next present current
    obtain ⟨old, stored, carries⟩ := ran.carries next present
    obtain ⟨lowest, isLowest, unretried, rfl⟩ := ran.attained
    have was : old.status = .active :=
      unhindered.elim (fun never => carries.unretried never current) fun all => healthy all old stored
    have lowestActive : lowest.status = .active := unhindered.elim unretried fun all => healthy all lowest isLowest
    -- The start of the window is level with every active row.
    have even := level unhindered lowest isLowest lowestActive
    have abreast := carries.abreast current
    rw [read_eq_drop logged ran.onward even positive] at abreast
    have further := (level unhindered old stored was).window ascending even (ran.behind old stored was) abreast
    rwa [Nat.max_eq_right (Nat.le_add_right _ limit)] at further
  · -- What is up to the start is up to the position of the row, which is not behind it.
    have fewer : (indices.filter fun index => decide (index ≤ start)).Sublist
        (indices.filter fun index => decide (index ≤ row.position)) := by
      apply List.monotone_filter_right
      intro index
      simp only [decide_eq_true_eq]
      omega
    rw [through.filter_le ascending] at fewer
    exact Nat.le_trans fewer.length_le (List.length_take_le _ _)

/-- Runs one after another count as their windows say. -/
theorem Hosts.runMany_heading (hosted : stage.Hosts engine) (caught : engine.config.catchPanics = true)
    (behaves : ∀ subscriber ∈ engine.registry.subscribers, stage.Behaves subscriber)
    (sparing : ∀ subscriber ∈ engine.registry.subscribers, stage.Sparing subscriber) {base limit : Nat}
    {id : String} {indices : List Nat} {subscriber : Subscriber σ} (positive : 1 ≤ limit)
    (known : engine.registry.get? id = some subscriber) (flawless : subscriber.Flawless) (times : Nat) :
    ∀ (count even : Nat) (system : σ), stage.Heading engine base id indices count even system →
      Ends (engine.runMany limit times) system fun _ after => ∃ places, stage.Loads id places system after ∧
        stage.RunsFrom engine limit places system after ∧ places.length = times ∧
        headway indices limit places count ≤ count + times * limit ∧
        stage.Heading engine base id indices (headway indices limit places count) (even + times * limit)
          after := by
  -- Each run moves the heading on, and the later runs start from there.
  induction times with
  | zero =>
    intro count even system heading
    exact Meets.pure ⟨[], .refl id system, .nil system, rfl, by simp [headway], by simpa [headway] using heading⟩
  | succ times ih =>
    intro count even system heading
    -- The row of the flawless subscriber is active, so there is somebody to feed.
    obtain ⟨row, member, named, active, -⟩ := heading.own
    have stored : id ∈ Rows.ids (stage.rows.read system) := named ▸ Rows.id_mem_ids member
    obtain ⟨report, middle, run, start, ran⟩ :=
      (hosted.run_ran caught behaves sparing heading.crew stored ⟨row, member, active⟩).run
    apply Meets.run_bind run
    obtain ⟨next, bounded⟩ := heading.next positive known flawless ran
    obtain ⟨unit, mustered, readied, lowest⟩ := ran.lowest
    apply Meets.bind (ih _ _ middle next)
    intro reports after later
    obtain ⟨places, loads, runs, length, most, further⟩ := later
    refine Meets.pure ⟨start :: places, ran.loads.trans loads, .cons readied lowest run runs, by simp [length], ?_, ?_⟩
    · -- A window adds its limit at most.
      have shape : headway indices limit (start :: places) count =
          headway indices limit places (max count (upTo indices start + limit)) := rfl
      rw [shape, Nat.succ_mul]
      omega
    · rw [Nat.succ_mul, Nat.add_comm (times * limit), ← Nat.add_assoc]
      exact further

/-- Runs one after another are a sequence of small steps. -/
theorem Hosts.runMany_traced (hosted : stage.Hosts engine)
    (behaves : ∀ subscriber ∈ engine.registry.subscribers, stage.Behaves subscriber) {limit : Nat}
    {first : Ledger} (times : Nat) : ∀ system, stage.Traced first system →
      Meets (engine.runMany limit times) system (fun _ after => stage.Traced first after)
        (stage.Broken engine first) := by
  -- A trace of one run is extended by the next one.
  induction times with
  | zero => exact fun system traced => Meets.pure traced
  | succ times ih =>
    intro system traced
    apply Meets.bind (hosted.run_traced behaves traced)
    intro report middle traced
    apply Meets.bind (ih middle traced)
    exact fun reports after traced => Meets.pure traced

/-- Active rows at one position, and a registry of exactly their subscribers. -/
structure Lineup (engine : Engine σ) (base : Nat) (rows : List Subscription) : Prop where
  distinct : (Rows.ids rows).Nodup
  registered : ∀ subscriber ∈ engine.registry.subscribers, subscriber.id ∈ Rows.ids rows
  known : ∀ row ∈ rows, engine.registry.knows row.id = true
  active : ∀ row ∈ rows, row.status = .active
  mode : ∀ row ∈ rows, row.runMode = .fromBeginning
  position : ∀ row ∈ rows, row.position = base

/-- A lineup is a crew that has nothing behind it yet. -/
theorem Lineup.heading {base : Nat} {system : σ} {subscriber : Subscriber σ}
    (lineup : Lineup engine base (stage.rows.read system))
    (known : engine.registry.get? subscriber.id = some subscriber) :
    stage.Heading engine base subscriber.id (stage.indicesAbove base system) 0 0 system := by
  -- Everybody stands at the base, and all indices are above it.
  have nothing : ∀ row ∈ stage.rows.read system,
      Through (stage.indicesAbove base system) 0 row.position := by
    intro row member index present
    obtain ⟨entry, logged, rfl⟩ := List.mem_map.mp present
    have beyond : base < entry.1 := by simpa using (List.mem_filter.mp logged).2
    rw [lineup.position row member]
    simpa using beyond
  obtain ⟨row, member, named⟩ :=
    List.mem_map.mp (lineup.registered subscriber (List.mem_of_find?_eq_some known))
  refine ⟨⟨lineup.distinct, lineup.registered, lineup.known, lineup.mode, ?_, ?_⟩, rfl,
    ⟨row, member, named, lineup.active row member, nothing row member⟩, fun _ => lineup.active,
    fun _ row member _ => nothing row member⟩
  · exact fun row member => Or.inl (lineup.active row member)
  · exact fun row member => Nat.le_of_eq (lineup.position row member).symm

/-- Rows at one position fit tallies that start there. -/
theorem Lineup.progressing {base : Nat} {system : σ} (lineup : Lineup engine base (stage.rows.read system)) :
    Progressing (fun _ => { start := base }) (stage.journal system)
      (stage.ledger (stage.rows.read system) system) := by
  -- Nothing has been completed yet, and nothing lies between the start and itself.
  refine ⟨stage.ascending system, [], by simp [ledger], ?_⟩
  intro row member
  have position := lineup.position row member
  refine ⟨Nat.le_of_eq position.symm, Or.inl position, ?_, by simp, ?_⟩
  · rw [position]
    simp
  · intro early
    rw [lineup.active row member] at early
    simp at early

/-- A flawless subscriber completes the first messages that the windows reach. Each window starts at the lowest position
of a row that is active once its run has put failed rows back, and reaches no further than its limit beyond that; where
no failed subscription is tried again, or nobody fails, every window reaches as far as it can. -/
theorem Hosts.runMany_completed (hosted : stage.Hosts engine) (caught : engine.config.catchPanics = true)
    (behaves : ∀ subscriber ∈ engine.registry.subscribers, stage.Behaves subscriber)
    (sparing : ∀ subscriber ∈ engine.registry.subscribers, stage.Sparing subscriber) {base limit : Nat}
    {system : σ} (lineup : Lineup engine base (stage.rows.read system)) (positive : 1 ≤ limit)
    {subscriber : Subscriber σ} (known : engine.registry.get? subscriber.id = some subscriber)
    (flawless : subscriber.Flawless) (times : Nat) :
    ∃ reports after notices, engine.runMany limit times system = .ok reports after ∧
      stage.journal after = stage.journal system ++ notices ∧ (starts notices).length = times ∧
      stage.RunsFrom engine limit (starts notices) system after ∧
      completedSince base subscriber.id notices = (stage.indicesAbove base system).take
        (headway (stage.indicesAbove base system) limit (starts notices) 0) ∧
      headway (stage.indicesAbove base system) limit (starts notices) 0 ≤ times * limit ∧
      (Unhindered engine → completedSince base subscriber.id notices =
        (stage.indicesAbove base system).take (times * limit)) := by
  -- What the runs come to is counted, and what was reported of the subscriber fits it.
  have counted := hosted.runMany_heading caught behaves sparing positive known flawless times 0 0 system
    (lineup.heading known)
  have traced := @Hosts.runMany_traced _ _ _ hosted behaves limit _ times system ⟨lineup.distinct, .refl _⟩
  obtain ⟨reports, after, run, ⟨places, loads, runs, length, most, heading⟩, trace⟩ :=
    Ends.run ((counted.both traced).weaken (fun _ _ ends => ends) fun _ _ early => early.1)
  obtain ⟨notices, journal, rfl, start⟩ := loads.journal
  obtain ⟨row, member, named, active, through⟩ := heading.own
  obtain ⟨-, reported, sameJournal, fits⟩ := lineup.progressing.follows trace.follows
  obtain rfl : reported = notices := List.append_cancel_left (sameJournal.symm.trans journal)
  have ordered : (stage.indicesAbove base system).Pairwise (· < ·) := above_ascending base system
  -- What lies between the start and a position are the indices that the position is through.
  have completed : ∀ {count : Nat}, Through (stage.indicesAbove base system) count row.position →
      completedSince base subscriber.id reported = (stage.indicesAbove base system).take count := by
    intro count behind
    have own := (fits row member).completed
    have logged : (stage.ledger (stage.rows.read after) after).log = stage.log system := loads.log
    rw [named, start, logged] at own
    rw [completedSince, own, ← behind.filter_le ordered, between_eq_filter]
  refine ⟨reports, after, reported, run, journal, length, runs, completed through, by simpa using most, ?_⟩
  -- If nobody is put back, no window is held back by anybody.
  intro unhindered
  have level := heading.even unhindered row member active
  rw [Nat.zero_add] at level
  exact completed level

end Stage

namespace World

/-- Such a subscriber is flawless when all its calls end well. -/
theorem reacting_flawless {id : String} {judge : List CallNote → HandlerOutcome} {runMode : RunMode}
    (well : ∀ calls, judge calls = .done) : (reacting id judge runMode).Flawless := by
  -- Its only handler answers with the judgement of its calls.
  intro entry member message world
  obtain rfl := List.mem_singleton.mp member
  exact well _

/-- Three messages, and two active subscriptions that have none of them behind them. -/
def lined : World :=
  { telling ["a", "b", "c"] with
    rows := [{ id := "steady", status := .active }, { id := "shaky", status := .active }] }

/-- In three runs of one message each, the steady subscriber completes two: the shaky one holds the
last window back. -/
theorem lined_runMany_completed : ∃ reports after notices,
    (feeder pair .always).runMany 1 3 lined = .ok reports after ∧ stage.journal after = notices ∧
      starts notices = [0, 1, 1] ∧ stage.RunsFrom (feeder pair .always) 1 [0, 1, 1] lined after ∧
      Stage.completedSince 0 "steady" notices = [1, 2] := by
  -- The assumptions hold of the two subscribers and of their rows.
  have behaves : ∀ subscriber ∈ pair, stage.Behaves subscriber :=
    fun subscriber member => (pair_contained subscriber member).behaves
  have sparing : ∀ subscriber ∈ pair, stage.Sparing subscriber :=
    fun subscriber member => (pair_resting subscriber member).handlers
  have lineup : Stage.Lineup (feeder pair .always) 0 (stage.rows.read lined) := by
    refine ⟨?_, ?_, ?_, ?_, ?_, ?_⟩ <;> decide +kernel
  have flawless : (reacting "steady" (verdict "steady")).Flawless :=
    reacting_flawless fun calls => by simp [verdict]
  have known : (feeder pair .always).registry.get? (reacting "steady" (verdict "steady")).id =
      some (reacting "steady" (verdict "steady")) := by
    simp [feeder, pair, Registry.get?, reacting]
  obtain ⟨reports, after, notices, run, journal, -, windowed, completed, -⟩ :=
    Stage.Hosts.runMany_completed (hosts pair .always {}) rfl behaves sparing lineup (Nat.le_refl 1) known
      flawless 3
  -- The run is evaluated once, for the windows that it reports.
  have reached : (((feeder pair .always).runMany 1 3).outcome lined).2 = after := by
    simp [Action.outcome, run]
  have silent : stage.journal lined = [] := rfl
  rw [silent, List.nil_append] at journal
  have windows : starts (stage.journal (((feeder pair .always).runMany 1 3).outcome lined).2) = [0, 1, 1] := by
    decide +kernel
  rw [reached, journal] at windows
  -- The last window starts after the first message, and so it reaches the second one only.
  have two : (stage.indicesAbove 0 lined).take
      (Stage.headway (stage.indicesAbove 0 lined) 1 [0, 1, 1] 0) = [1, 2] := by decide +kernel
  rw [windows, two] at completed
  rw [windows] at windowed
  exact ⟨reports, after, notices, run, journal, windows, windowed, completed⟩

/-- A subscriber that fails with every message. -/
def stuck : Subscriber World := reacting "stuck" fun _ => .panicked .other

/-- A subscriber that never fails. -/
def well : Subscriber World := reacting "well" fun _ => .done

/-- Two messages, and both of these subscribers at the beginning. -/
def stalled : World :=
  { telling ["a", "b"] with
    rows := [{ id := "stuck", status := .active }, { id := "well", status := .active }] }

/-- Two runs of one message each are not enough for two messages, when another subscriber fails with
the first one again and again. -/
theorem stalled_runMany_behind :
    stage.Hosts (feeder [stuck, well] .always) ∧ (feeder [stuck, well] .always).config.catchPanics = true ∧
    (∀ subscriber ∈ [stuck, well], stage.Behaves subscriber ∧ stage.Resting subscriber) ∧
    Stage.Lineup (feeder [stuck, well] .always) 0 (stage.rows.read stalled) ∧ well.Flawless ∧
    stage.journal stalled = [] ∧ ∃ reports after,
      (feeder [stuck, well] .always).runMany 1 2 stalled = .ok reports after ∧
      Stage.completedSince 0 "well" (stage.journal after) ≠
        (stage.indicesAbove 0 stalled).take (min (2 * 1) (stage.indicesAbove 0 stalled).length) := by
  -- Both subscribers do nothing but answer.
  have behaves : ∀ subscriber ∈ [stuck, well], stage.Behaves subscriber := by
    intro subscriber member
    rcases List.mem_pair.mp member with rfl | rfl <;> exact (reacting_contained ..).behaves
  have resting : ∀ subscriber ∈ [stuck, well], stage.Resting subscriber := by
    intro subscriber member
    rcases List.mem_pair.mp member with rfl | rfl <;> exact reacting_resting ..
  have lineup : Stage.Lineup (feeder [stuck, well] .always) 0 (stage.rows.read stalled) := by
    refine ⟨?_, ?_, ?_, ?_, ?_, ?_⟩ <;> decide +kernel
  -- The run is evaluated for what the well subscriber completes in it.
  have stayed : Stage.completedSince 0 "well"
      (stage.journal (((feeder [stuck, well] .always).runMany 1 2).outcome stalled).2) = [1] := by
    decide +kernel
  have returned : (((feeder [stuck, well] .always).runMany 1 2).outcome stalled).1.isOk = true := by
    decide +kernel
  refine ⟨hosts .., rfl, fun subscriber member => ⟨behaves subscriber member, resting subscriber member⟩,
    lineup, reacting_flawless fun _ => rfl, rfl, ?_⟩
  unfold Action.outcome at stayed returned
  cases run : (feeder [stuck, well] .always).runMany 1 2 stalled with
  | error abort after => simp [run, Except.isOk, Except.toBool] at returned
  | ok reports after =>
    rw [run] at stayed
    refine ⟨reports, after, rfl, ?_⟩
    -- The well subscriber would have completed both messages if it had been alone.
    rw [stayed]
    decide +kernel

end World

end EventFeed
