import EventFeed.Proofs.Causes
import EventFeed.Proofs.Ideal
import EventFeed.Proofs.Setbacks

/-! Faithful files: as long as the format has room for every subscription, an engine with a file does the same as one
with an ideal file, and the file keeps to the format. Each function of the engine is followed on both sides. -/

namespace EventFeed

open EventFeed.Action

variable {σ : Type}

namespace Action

variable {α β γ : Type} {one two : Action σ α} {system : σ}

/-- Two computations do the same from a system, and where they return, what is asked of value and system holds. -/
def Matches (one two : Action σ α) (system : σ) (ok : α → σ → Prop) : Prop :=
  one system = two system ∧ Meets two system ok fun _ _ => True

/-- A computation matches itself. -/
theorem Matches.self {ok : α → σ → Prop} (meets : Meets one system ok fun _ _ => True) : Matches one one system ok :=
  ⟨rfl, meets⟩

/-- Returning a value changes nothing. -/
theorem Matches.pure {ok : α → σ → Prop} {value : α} (holds : ok value system) :
    Matches (Pure.pure value) (Pure.pure value) system ok := ⟨rfl, holds⟩

/-- Computations that go on from what they return. -/
theorem Matches.bind {next other : α → Action σ β} {mid : α → σ → Prop} {ok : β → σ → Prop}
    (matched : Matches one two system mid)
    (rest : ∀ value after, mid value after → Matches (next value) (other value) after ok) :
    Matches (one >>= next) (two >>= other) system ok := by
  -- The first halves are the same, so the second ones start with the same value on the same system.
  obtain ⟨same, meets⟩ := matched
  refine ⟨?_, meets.bind fun value after holds => (rest value after holds).2⟩
  show EStateM.bind one next system = EStateM.bind two other system
  unfold Meets at meets
  simp only [EStateM.bind, same]
  cases ends : two system with
  | ok value after =>
    rw [ends] at meets
    exact (rest value after meets).1
  | error abort after => rfl

/-- Computations that look at the system go on with it. -/
theorem Matches.get_bind {next other : σ → Action σ α} {ok : α → σ → Prop}
    (rest : Matches (next system) (other system) system ok) : Matches (get >>= next) (get >>= other) system ok := rest

/-- Folds of steps that match. -/
theorem Matches.foldlM {step move : β → α → Action σ β} {keeps : β → σ → Prop} {items : List α}
    (steps : ∀ item ∈ items, ∀ state system, keeps state system →
      Matches (step state item) (move state item) system keeps) {state : β} (holds : keeps state system) :
    Matches (items.foldlM step state) (items.foldlM move state) system keeps := by
  -- The state is carried through the list, so the induction is over all states that are kept.
  induction items generalizing state system with
  | nil => exact .pure holds
  | cons item rest ih =>
    rw [List.foldlM_cons, List.foldlM_cons]
    exact (steps item (by simp) state system holds).bind fun next after kept =>
      ih (fun other member => steps other (by simp [member])) kept

/-- Maps of steps that match. -/
theorem Matches.mapM {step move : α → Action σ γ} {good : γ → Prop} {keeps : σ → Prop} {items : List α}
    (steps : ∀ item ∈ items, ∀ system, keeps system →
      Matches (step item) (move item) system fun result after => good result ∧ keeps after) (holds : keeps system) :
    Matches (items.mapM step) (items.mapM move) system fun results after =>
      (∀ result ∈ results, good result) ∧ keeps after := by
  -- What is good of a result is collected along with the results, one step at a time.
  induction items generalizing system with
  | nil =>
    rw [List.mapM_nil, List.mapM_nil]
    exact .pure ⟨by simp, holds⟩
  | cons item rest ih =>
    rw [List.mapM_cons, List.mapM_cons]
    refine (steps item (by simp) system holds).bind fun result after ends => ?_
    refine (ih (fun other member => steps other (by simp [member])) ends.2).bind fun results last others => ?_
    exact .pure ⟨by simpa using ⟨ends.1, others.1⟩, others.2⟩

end Action

namespace Rows

variable {rows next : List Subscription} {row : Subscription}

/-- What is added comes to rows with distinct ids, and all others were there. -/
theorem of_add (distinct : (ids rows).Nodup) (added : add rows row = .ok next) :
    (ids next).Nodup ∧ ∀ other ∈ next, other = row ∨ other ∈ rows := by
  -- A row is added only where its id is free.
  unfold add at added
  split at added
  · cases added
  · rename_i absent
    cases added
    have new : row.id ∉ ids rows := fun member => absent (holds_iff.mpr member)
    refine ⟨?_, fun other member => ?_⟩
    · simpa [List.nodup_append] using ⟨distinct, fun id stored same => new (same ▸ stored)⟩
    · rcases List.mem_append.mp member with old | last
      · exact .inr old
      · exact .inl (List.mem_singleton.mp last)

/-- So it does where a row is replaced. -/
theorem of_update (distinct : (ids rows).Nodup) (updated : update rows row = .ok next) :
    (ids next).Nodup ∧ ∀ other ∈ next, other = row ∨ other ∈ rows := by
  -- A row is replaced only where its id is taken.
  unfold update at updated
  split at updated
  · cases updated
    rw [replace_eq_put distinct]
    exact ⟨by rwa [ids_put], fun other member => (mem_put member).imp_right And.left⟩
  · cases updated

end Rows

/-- A captured error that can be written is one that a subscription can keep. -/
theorem CapturedError.Writable.kept {error : CapturedError} (writable : error.Writable) (previous : Status) :
    (SubscriptionError.ofCaptured previous error).Writable := by
  -- The message that is kept is the one of the outermost level.
  refine ⟨(writable.levels _ error.level_mem_chain).message, fun context own => ?_⟩
  obtain rfl := Option.some.inj own
  exact writable

/-- The errors of the chain that is captured of a handler's error can be written when its texts can. -/
theorem CapturedError.levels_ofHandler {error : HandlerError} (message : Sizable error.text)
    (code : ∀ text, error.code = some text → Sizable text)
    (location : ∀ text, error.location = some text → Sizable text)
    (trace : ∀ text, error.trace = some text → Sizable text)
    (sources : ∀ source ∈ error.error.sources, Sizable source) :
    ∀ level ∈ (ofHandler error).chain, level.Writable := by
  -- The first level has what the error has, and each other one has a text alone.
  rw [chain_ofHandler, List.forall_mem_cons]
  refine ⟨⟨message, code, location, trace⟩, fun level member => ?_⟩
  obtain ⟨source, listed, rfl⟩ := List.mem_map.mp member
  exact ⟨sources source listed, by simp, by simp, by simp⟩

/-- What a file may have to hold: subscriptions with some ids, the names of which take so many bytes at most, and the
failures of which take as many. -/
structure Quota where
  ids : List String
  weight : Nat

namespace Quota

variable {quota : Quota} {error : CapturedError}

/-- A file has room for one subscription of each id. -/
structure Roomy (quota : Quota) : Prop where
  count : quota.ids.length < UInt32.size
  bytes : quota.ids.length * (2 * quota.weight + 100) + 5 < UInt64.size

/-- A captured error that a subscription can keep in the file. -/
structure Bears (quota : Quota) (error : CapturedError) : Prop where
  writable : error.Writable
  weight : ∀ previous,
    (MessagePack.encode ((SubscriptionError.ofCaptured previous error).toDocument .compact)).length ≤ quota.weight

/-- A great weight bears every error that can be written. -/
theorem bears_of_writable (great : MessagePack.nestingLimit * MessagePack.levelRoom ≤ quota.weight)
    (writable : error.Writable) : quota.Bears error := by
  -- A failure takes so many bytes for each level, and there are no more levels than a reader follows.
  refine ⟨writable, fun previous => ?_⟩
  have most := SubscriptionError.length_encode (writable.kept previous).message fun captured own => by
    obtain rfl := Option.some.inj own
    exact ⟨writable.levels, Nat.le_refl _⟩
  have links : error.chain.length + 1 ≤ MessagePack.nestingLimit := by
    have := writable.nesting
    omega
  exact Nat.le_trans most (Nat.le_trans (Nat.mul_le_mul_right _ links) great)

end Quota

namespace Subscription

/-- A subscription within a quota that can be written, also after so many retries more. -/
structure Fits (quota : Quota) (spare : Nat) (row : Subscription) : Prop where
  known : row.id ∈ quota.ids
  writable : row.Writable
  names : row.id.utf8ByteSize + row.group.utf8ByteSize ≤ quota.weight
  failure : ∀ error, row.error = some error → (MessagePack.encode (error.toDocument .compact)).length ≤ quota.weight
  spare : row.retryAttempt + spare < UInt32.size

namespace Fits

variable {quota : Quota} {spare : Nat} {row next : Subscription}

/-- A subscription that was told of no other failure fits as before, when its position does. -/
theorem of_same (fits : row.Fits quota spare) (id : next.id = row.id) (group : next.group = row.group)
    (position : next.position < UInt64.size) (error : next.error = none ∨ next.error = row.error)
    (retries : next.retryAttempt ≤ row.retryAttempt) : next.Fits quota spare := by
  obtain ⟨known, writable, names, failure, spare⟩ := fits
  -- A failure that is kept was there before.
  have kept : ∀ kept, next.error = some kept → row.error = some kept := by
    intro kept own
    rcases error with none | same
    · cases none.symm.trans own
    · exact same.symm.trans own
  exact ⟨id ▸ known, ⟨id ▸ writable.id, group ▸ writable.group, position,
    Nat.lt_of_le_of_lt retries writable.retryAttempt, fun error own => writable.error error (kept error own)⟩,
    id ▸ group ▸ names, fun error own => failure error (kept error own), by omega⟩

theorem settle (fits : row.Fits quota spare) (status : Status) : (row.settle status).Fits quota spare :=
  fits.of_same rfl rfl fits.writable.position (.inl rfl) (Nat.zero_le _)

theorem changePosition (fits : row.Fits quota spare) {index : Nat} (bounded : index < UInt64.size) :
    (row.changePosition index).Fits quota spare :=
  fits.of_same rfl rfl (Nat.max_lt.mpr ⟨fits.writable.position, bounded⟩) (.inr rfl) (Nat.le_refl _)

theorem resetRetryAttempt (fits : row.Fits quota spare) : row.resetRetryAttempt.Fits quota spare :=
  fits.of_same rfl rfl fits.writable.position (.inr rfl) (Nat.zero_le _)

/-- The stamp makes no difference. -/
theorem stamped (fits : row.Fits quota spare) (stamp : Option Timestamp) :
    ({ row with lastSavedAt := stamp } : Subscription).Fits quota spare :=
  fits.of_same rfl rfl fits.writable.position (.inr rfl) (Nat.le_refl _)

/-- A failure within the quota is kept. -/
theorem fail (fits : row.Fits quota spare) {error : CapturedError} (bears : quota.Bears error) :
    (row.fail error).Fits quota spare := by
  -- Only the failure is new, and it is one that the quota bears.
  obtain ⟨known, writable, names, -, spare⟩ := fits
  refine ⟨known, ⟨writable.id, writable.group, writable.position, writable.retryAttempt, fun kept own => ?_⟩, names,
    fun kept own => ?_, spare⟩
  · obtain rfl := Option.some.inj own
    exact bears.writable.kept _
  · obtain rfl := Option.some.inj own
    exact bears.weight _

/-- A retry uses up one of those to spare. -/
theorem retry (fits : row.Fits quota (spare + 1)) (retried : row.retry = .ok next) : next.Fits quota spare := by
  -- Only the count goes up, and there was one to spare.
  obtain ⟨_, -, rfl⟩ := Subscription.retry_ok retried
  obtain ⟨known, writable, names, -, room⟩ := fits
  have counted : row.retryAttempt + 1 < UInt32.size := by omega
  have further : row.retryAttempt + 1 + spare < UInt32.size := by omega
  exact ⟨known, ⟨writable.id, writable.group, writable.position, counted, fun _ own => by cases own⟩, names,
    fun _ own => (by cases own), further⟩

/-- Where one more retry is to spare, one less is as well. -/
theorem less (fits : row.Fits quota (spare + 1)) : row.Fits quota spare :=
  ⟨fits.known, fits.writable, fits.names, fits.failure, by have := fits.spare; omega⟩

/-- The bytes of a subscription are within the quota. -/
theorem length_encode (fits : row.Fits quota spare) :
    (MessagePack.encode (row.toDocument .compact)).length ≤ 2 * quota.weight + 100 := by
  -- The names and the failure each have their share of the quota.
  have most := Subscription.length_encode fits.failure
  have names := fits.names
  omega

end Fits

end Subscription

/-- A file has room for subscriptions that fit, when their ids are distinct. -/
theorem Quota.Roomy.writable {quota : Quota} {spare : Nat} (roomy : quota.Roomy) {rows : List Subscription}
    (distinct : (Rows.ids rows).Nodup) (each : ∀ row ∈ rows, row.Fits quota spare) : FileFormat.Writable rows := by
  -- Distinct ids out of the quota are at most as many as the quota has.
  have listed : Rows.ids rows ⊆ quota.ids := by
    intro id member
    obtain ⟨row, stored, rfl⟩ := List.mem_map.mp member
    exact (each row stored).known
  have few : rows.length ≤ quota.ids.length := by
    simpa [Rows.ids] using (List.subperm_of_subset distinct listed).length_le
  have bytes := FileFormat.length_payload fun row member => (each row member).length_encode
  have most := Nat.mul_le_mul_right (2 * quota.weight + 100) few
  exact ⟨fun row member => (each row member).writable, Nat.lt_of_le_of_lt few roomy.count,
    Nat.lt_of_le_of_lt (Nat.le_trans bytes (Nat.add_le_add_right most 5)) roomy.bytes⟩

namespace WorkUnit

/-- Every subscription fits that a unit keeps track of. -/
def Fits (quota : Quota) (spare : Nat) (unit : WorkUnit) : Prop :=
  ∀ tracked ∈ unit.rows, tracked.current.Fits quota spare

variable {quota : Quota} {spare : Nat} {unit : WorkUnit} {row : Subscription}

/-- A unit that keeps track of nothing. -/
theorem fits_empty : Fits quota spare {} := by simp [Fits]

theorem Fits.less (fits : unit.Fits quota (spare + 1)) : unit.Fits quota spare :=
  fun tracked member => (fits tracked member).less

theorem Fits.update (fits : unit.Fits quota spare) (own : row.Fits quota spare) : (unit.update row).Fits quota spare :=
  Each.update fits own.stamped

theorem Fits.add (fits : unit.Fits quota spare) (own : row.Fits quota spare) : (unit.add row).Fits quota spare :=
  Each.add fits own

/-- Stored subscriptions are known as they are, or as the unit has them. -/
theorem Fits.trackAll (rows : List Subscription) (fits : unit.Fits quota spare)
    (each : ∀ row ∈ rows, row.Fits quota spare) :
    (∀ row ∈ (unit.trackAll rows).1, row.Fits quota spare) ∧ (unit.trackAll rows).2.Fits quota spare :=
  Each.trackAll rows fits each

end WorkUnit

namespace Site

/-- Limits that an engine, its subscribers and its log keep to on some systems, out of which nothing leads that they do:
the subscriptions of registered subscribers are within a quota for which there is room, indices have 64 bits, and what
setup hooks and handlers fail with is within the quota. -/
structure Limits (site : Site σ) (engine : Engine σ) (quota : Quota) (within : σ → Prop) : Prop where
  roomy : quota.Roomy
  registered : ∀ subscriber ∈ engine.registry.subscribers, (Engine.freshSubscription subscriber).Fits quota 0
  index : ∀ {system}, within system → ∀ entry ∈ site.log system, entry.1 < UInt64.size
  observe : ∀ notice {system}, within system → within (site.observe notice system)
  write : ∀ written {system}, within system → within (site.disk.write written system)
  setup : ∀ subscriber ∈ engine.registry.subscribers, ∀ hook, subscriber.setup = some hook →
    ∀ {system}, within system → within (hook system).2 ∧
      ∀ error, (hook system).1.error? = some error → quota.Bears (.ofHandler error)
  handlers : ∀ subscriber ∈ engine.registry.subscribers, ∀ entry ∈ subscriber.handlers, ∀ message,
    ∀ {system}, within system → within (entry.handle message system).2 ∧
      ∀ error, (entry.handle message system).1.error? = some error → quota.Bears (.ofHandler error)

/-- A system within limits, the file of which holds subscriptions that fit. -/
structure Sound (site : Site σ) (quota : Quota) (spare : Nat) (within : σ → Prop) (system : σ) : Prop where
  within : within system
  stored : ∃ rows, (site.disk.read system).Mirrors rows ∧ (Rows.ids rows).Nodup ∧ ∀ row ∈ rows, row.Fits quota spare

variable {site : Site σ} {engine : Engine σ} {quota : Quota} {spare : Nat} {within : σ → Prop} {system : σ}
  {unit : WorkUnit}

theorem Sound.less (sound : site.Sound quota (spare + 1) within system) : site.Sound quota spare within system := by
  -- Each row has one more to spare than it needs.
  obtain ⟨inside, rows, mirrors, distinct, each⟩ := sound
  exact ⟨inside, rows, mirrors, distinct, fun row member => (each row member).less⟩

/-- What leaves the disk alone leaves what is stored. -/
theorem Sound.of_disk (sound : site.Sound quota spare within system) {after : σ}
    (same : site.disk.read after = site.disk.read system) (inside : within after) :
    site.Sound quota spare within after := by
  -- All that is asked of the store is asked of the disk.
  obtain ⟨-, rows, mirrors, rest⟩ := sound
  exact ⟨inside, rows, same ▸ mirrors, rest⟩

/-- A report leaves a system sound. -/
theorem Sound.observe (sound : site.Sound quota spare within system) (limits : site.Limits engine quota within)
    (notice : Notice) : site.Sound quota spare within (site.observe notice system) :=
  sound.of_disk (site.read_observe _ _) (limits.observe notice sound.within)

section Stores

variable (serves : site.Serves engine) (limits : site.Limits engine quota within)

include serves limits

/-- What is stored is found on both sides. -/
theorem Sound.find (sound : site.Sound quota spare within system) (fits : unit.Fits quota spare)
    (criteria : SubscriptionCriteria) :
    Matches (unit.find engine.store criteria) (unit.find (site.idealize engine).store criteria) system
      fun result after => site.Sound quota spare within after ∧ (∀ row ∈ result.1, row.Fits quota spare) ∧
        result.2.Fits quota spare := by
  -- Both stores find the same rows of the file.
  obtain ⟨rows, mirrors, distinct, each⟩ := sound.stored
  obtain ⟨real, ideal⟩ := serves.find_same mirrors (limits.roomy.writable distinct each) criteria
  have tracked := WorkUnit.Fits.trackAll (Rows.find rows criteria) fits
    fun row member => each row (List.mem_filter.mp member).1
  -- What the unit makes of the rows does not depend on the store that found them.
  have runs : ∀ store : SubscriptionStore σ, store.find criteria system = (.ok (Rows.find rows criteria), system) →
      unit.find store criteria system = .ok (unit.trackAll (Rows.find rows criteria)) system := by
    intro store found
    show EStateM.bind (Action.ofStep (store.find criteria)) _ system = _
    simp only [EStateM.bind, Action.ofStep, found]
    rfl
  exact ⟨(runs _ real).trans (runs _ ideal).symm, Meets.of_run (runs _ ideal) ⟨sound, tracked.1, tracked.2⟩⟩

omit serves in
/-- A subscription that fits is written on both sides, when the rows fit that it is written to. -/
theorem Sound.written (sound : site.Sound quota spare within system) {row : Subscription} (fits : row.Fits quota spare)
    {write : List Subscription → Subscription → Except EngineError (List Subscription)}
    (writes : ∀ rows next, (Rows.ids rows).Nodup → (∀ other ∈ rows, other.Fits quota spare) →
      write rows (row.markSaved (site.now system)) = .ok next →
        (Rows.ids next).Nodup ∧ ∀ other ∈ next, other.Fits quota spare) :
    Matches (SubscriptionStore.written (SubscriptionStore.writeDisk site.disk site.now write row))
      (SubscriptionStore.written (SubscriptionStore.writeRows site.ideal.rows site.now write row)) system
      fun saved after => saved.Fits quota spare ∧ site.Sound quota spare within after := by
  obtain ⟨rows, mirrors, distinct, each⟩ := sound.stored
  -- There is room for the rows before the write and after it, so both sides write the same.
  have room := limits.roomy.writable distinct each
  have after : ∀ next, write rows (row.markSaved (site.now system)) = .ok next → FileFormat.Writable next :=
    fun next changed => (writes rows next distinct each changed).elim (limits.roomy.writable · ·)
  have same := written_same mirrors room after
  refine ⟨same, ?_⟩
  unfold Meets SubscriptionStore.written Action.ofStep SubscriptionStore.writeRows
  simp only [ideal_read mirrors room]
  cases changed : write rows (row.markSaved (site.now system)) with
  | error error => trivial
  | ok next =>
    obtain ⟨apart, others⟩ := writes rows next distinct each changed
    refine ⟨fits.stamped _, limits.write _ sound.within, next, ⟨?_, ?_⟩, apart, others⟩
    · simp [ideal, idealRows]
    · simp [ideal, idealRows, FileFormat.image_of_writable (after next changed)]

/-- A tracked subscription is written on both sides, if it has to be. -/
theorem Sound.flushRow (sound : site.Sound quota spare within system) {tracked : TrackedRow}
    (fits : tracked.current.Fits quota spare) :
    Matches (WorkUnit.flushRow engine.store tracked) (WorkUnit.flushRow (site.idealize engine).store tracked) system
      fun saved after => saved.current.Fits quota spare ∧ site.Sound quota spare within after := by
  -- Both stores are asked for the same write, and each of them is given the row with the same stamp.
  have real : engine.store = .file site.disk site.now := serves.store
  have ideal : (site.idealize engine).store = .memory site.ideal.rows site.now := rfl
  unfold WorkUnit.flushRow
  split
  · rw [real, ideal]
    -- The row is added or put in its place, and the other rows stay.
    cases tracked.persisted with
    | none =>
      refine Matches.bind (sound.written limits fits fun rows next distinct each added => ?_)
        fun saved after ends => .pure ends
      obtain ⟨apart, others⟩ := Rows.of_add distinct added
      exact ⟨apart, fun other member => (others other member).elim (fun same => same ▸ fits.stamped _) (each other)⟩
    | some persisted =>
      refine Matches.bind (sound.written limits fits fun rows next distinct each updated => ?_)
        fun saved after ends => .pure ends
      obtain ⟨apart, others⟩ := Rows.of_update distinct updated
      exact ⟨apart, fun other member => (others other member).elim (fun same => same ▸ fits.stamped _) (each other)⟩
  · exact .pure ⟨fits, sound⟩

/-- What differs is written on both sides. -/
theorem Sound.flush (sound : site.Sound quota spare within system) (fits : unit.Fits quota spare) :
    Matches (unit.flush engine.store) (unit.flush (site.idealize engine).store) system fun result after =>
      result.2.Fits quota spare ∧ site.Sound quota spare within after := by
  -- The subscriptions are written one after another, and each of them leaves the store sound.
  have each : ∀ tracked ∈ unit.rows, ∀ between, site.Sound quota spare within between →
      Matches (WorkUnit.flushRow engine.store tracked) (WorkUnit.flushRow (site.idealize engine).store tracked) between
        fun saved after => saved.current.Fits quota spare ∧ site.Sound quota spare within after :=
    fun tracked member between sound => sound.flushRow serves limits (fits tracked member)
  exact (Matches.mapM each sound).bind fun rows after ends => .pure ends

end Stores

end Site

end EventFeed
