import EventFeed.Proofs.Cadence
import EventFeed.Proofs.Failures
import EventFeed.Proofs.Likeness

/-! Engines with files: whatever fails in subscriber code, a boot and a run return, and leave a file that every handle
can read and that holds the failures as they were reported. That takes failures within the depth that files are read to:
a longer chain of causes makes the file unreadable. -/

namespace EventFeed

open EventFeed.Action

variable {σ : Type}

namespace Site

variable {site : Site σ} {engine : Engine σ} {quota : Quota} {spare : Nat} {within : σ → Prop} {system : σ}
  {rows : List Subscription}

/-- A file that holds subscriptions that fit, and the lock of which nobody holds. -/
structure Healthy (site : Site σ) (quota : Quota) (spare : Nat) (rows : List Subscription) (system : σ) : Prop where
  mirrors : (site.disk.read system).Mirrors rows
  unheld : (site.disk.read system).held = false
  distinct : (Rows.ids rows).Nodup
  fits : ∀ row ∈ rows, row.Fits quota spare

/-- The system with the lock taken. -/
def locked (site : Site σ) (system : σ) : σ :=
  site.disk.write { site.disk.read system with lockFile := true, held := true } system

/-- The system with the lock given back. -/
def unlocked (site : Site σ) (system : σ) : σ := site.disk.modify Disk.release system

/-- The lock does not matter for what the file holds, -/
theorem mirrors_locked (mirrors : (site.disk.read system).Mirrors rows) :
    (site.disk.read (site.locked system)).Mirrors rows := by
  -- Only the lock is taken, and the contents stay.
  rw [locked, site.read_write]
  exact ⟨mirrors.folder, mirrors.contents⟩

/-- and a file with subscriptions that fit is healthy once the lock is given back. -/
theorem healthy_unlocked (mirrors : (site.disk.read system).Mirrors rows) (distinct : (Rows.ids rows).Nodup)
    (fits : ∀ row ∈ rows, row.Fits quota spare) : site.Healthy quota spare rows (site.unlocked system) := by
  -- Only the lock is given back, and the contents stay.
  have read : site.disk.read (site.unlocked system) = (site.disk.read system).release := site.read_write _ _
  refine ⟨?_, ?_, distinct, fits⟩
  · rw [read]
    exact ⟨mirrors.folder, mirrors.contents⟩
  · rw [read]
    rfl

/-- Rows as they are found in a file, from some time on and while nobody writes to it. -/
structure Offers (site : Site σ) (engine : Engine σ) (rows : List Subscription) (system : σ) : Prop where
  /-- The engine finds them with its own handle, -/
  found : ∀ later, site.disk.read later = site.disk.read system → ∀ criteria,
    engine.store.find criteria later = (.ok (Rows.find rows criteria), later)
  /-- and a new handle can be opened -/
  opened : (site.disk.read system).openFile = (.ok (), site.disk.read system)
  /-- and finds them as well. -/
  reopened : ∀ now criteria, (Access.file.store now).find criteria (site.disk.read system) =
    (.ok (Rows.find rows criteria), site.disk.read system)

/-- A file that nobody can read, through no handle. -/
structure Refuses (site : Site σ) (engine : Engine σ) (system : σ) : Prop where
  found : ∀ later, site.disk.read later = site.disk.read system → ∀ criteria,
    engine.store.find criteria later = (.error .deserialization, later)
  opened : (site.disk.read system).openFile = (.error .deserialization, site.disk.read system)
  reopened : ∀ now criteria, (Access.file.store now).find criteria (site.disk.read system) =
    (.error .deserialization, site.disk.read system)

/-- What a boot or a run that returns leaves: failures have been reported, the file is in order, and what it holds of
those who have failed is what was reported. -/
structure Survives (site : Site σ) (engine : Engine σ) (quota : Quota) (spare : Nat) (within : σ → Prop) (before : σ)
    (report : FeedReport) (after : σ) : Prop where
  within : within after
  complete : ∀ faults, site.Reckons engine faults → faults after = faults before ++ report.errors
  stored : ∃ rows, site.Healthy quota spare rows after ∧ site.Offers engine rows after ∧
    ∀ failure ∈ report.errors, ∃ row ∈ rows, row.id = failure.id ∧ row.status = .error ∧
      ∃ fed, row.error = some (.ofCaptured fed failure.error)

section Operations

variable (serves : site.Serves engine) (limits : site.Limits engine quota within)

include serves

/-- What is done in the lock of the store is done with the lock taken, which is given back however it ends. -/
theorem Serves.guarded_meets {α : Type} {body : Action σ α} {ok : α → σ → Prop} {early : Abort → σ → Prop}
    (present : (site.disk.read system).folder = .present) (unheld : (site.disk.read system).held = false)
    (meets : Meets body (site.locked system) ok early) :
    Meets (engine.store.guarded body) system (fun value after => ∃ last, ok value last ∧ after = site.unlocked last)
      fun abort after => ∃ last, early abort last ∧ after = site.unlocked last := by
  -- Nobody holds the lock, so it is taken, and the computation starts once.
  have taken : (site.disk.read system).acquire =
      (.ok (), { site.disk.read system with lockFile := true, held := true }) := by
    simp [Disk.acquire, present, unheld]
  rw [serves.store]
  unfold Meets locked at *
  simp only [SubscriptionStore.guarded, SubscriptionStore.file, Lock.hold, SubscriptionStore.diskLock, Part.run, taken,
    Lock.inside]
  cases run : body (site.disk.write { site.disk.read system with lockFile := true, held := true } system) with
  | ok value last =>
    rw [run] at meets
    exact ⟨last, meets, rfl⟩
  | error abort last =>
    rw [run] at meets
    -- A panic leaves the lock in the same way.
    cases abort with
    | failed error => exact ⟨last, meets, rfl⟩
    | panicked payload => exact ⟨last, meets, rfl⟩

/-- What cannot be read from a file is read through no handle. -/
theorem Serves.refuses (mirrors : (site.disk.read system).Mirrors rows)
    (lost : FileFormat.decode (FileFormat.encode rows) = .error .deserialization) : site.Refuses engine system := by
  -- All three ways to read lead to the same bytes.
  have unread : (site.disk.read system).read = .error .deserialization := by
    simp only [Disk.read, mirrors.folder, mirrors.contents, lost]
  refine ⟨fun later same criteria => ?_, ?_, fun now criteria => ?_⟩
  · rw [serves.store]
    simp only [SubscriptionStore.file, same, unread, Except.map]
  · obtain ⟨folder, contents⟩ := mirrors
    generalize site.disk.read system = disk at folder contents unread
    obtain ⟨_, _, lockFile, held⟩ := disk
    subst folder contents
    simp only [Disk.openFile, unread, Except.map]
  · show ((site.disk.read system).read.map fun rows => Rows.find rows criteria, site.disk.read system) = _
    rw [unread]
    rfl

omit serves in
/-- Nothing is found in such a file. -/
theorem Refuses.find (refuses : site.Refuses engine system) (unit : WorkUnit) (criteria : SubscriptionCriteria) :
    unit.find engine.store criteria system = .error (.failed .deserialization) system := by
  -- The error of the store is the error of the unit.
  show EStateM.bind (Action.ofStep (engine.store.find criteria)) _ system = _
  simp only [EStateM.bind, Action.ofStep, refuses.found system rfl]

include limits

/-- What is healthy is found. -/
theorem Healthy.offers (healthy : site.Healthy quota spare rows system) : site.Offers engine rows system := by
  -- The contents are those of the rows, which can be written and so be read.
  obtain ⟨mirrors, -, distinct, fits⟩ := healthy
  have writable := limits.roomy.writable distinct fits
  refine ⟨fun later same criteria => ?_, mirrors.openFile writable, fun now criteria => ?_⟩
  · exact (serves.find_same (same ▸ mirrors) writable criteria).1
  · show ((site.disk.read system).read.map fun rows => Rows.find rows criteria, site.disk.read system) = _
    rw [mirrors.read writable]
    rfl

/-- What does the same as with an ideal file, and accounts for its failures there, leaves the real file in order. -/
theorem Serves.survives {operation : Operation} {body ideal : Action σ FeedReport}
    (matched : ∀ system, site.Sound quota (spare + 1) within system →
      Matches body ideal system fun _ after => site.Sound quota spare within after)
    (accounts : ∀ system, (Rows.ids (site.ideal.rows.read system)).Nodup →
      Ends ideal system (site.ideal.Accounts (site.idealize engine) operation system))
    (inside : within system) (healthy : site.Healthy quota (spare + 1) rows system) :
    Ends (engine.store.guarded body) system (site.Survives engine quota spare within system) := by
  obtain ⟨mirrors, unheld, distinct, fits⟩ := healthy
  -- With the lock taken, the ideal file holds the same rows, and both computations do the same.
  have sound : site.Sound quota (spare + 1) within (site.locked system) :=
    ⟨limits.write _ inside, rows, mirrors_locked mirrors, distinct, fits⟩
  have accounted := accounts (site.locked system)
    (by rwa [ideal_read (mirrors_locked mirrors) (limits.roomy.writable distinct fits)])
  obtain ⟨same, kept⟩ := matched (site.locked system) sound
  have ends : Ends body (site.locked system) fun report last => site.Sound quota spare within last ∧
      site.ideal.Accounts (site.idealize engine) operation (site.locked system) report last := by
    have both := (accounted.also kept).mono fun _ _ ends => ends.symm
    unfold Ends Meets at both ⊢
    rwa [same]
  refine Meets.weaken (serves.guarded_meets mirrors.folder unheld ends) (fun report after ends => ?_)
    fun _ _ absurd => absurd.elim fun _ absurd => absurd.1
  obtain ⟨last, ⟨⟨insideLast, next, mirrorsLast, apart, fitsLast⟩, account⟩, rfl⟩ := ends
  have released : site.Healthy quota spare next (site.unlocked last) := healthy_unlocked mirrorsLast apart fitsLast
  refine ⟨limits.write _ insideLast, fun faults reckons => ?_, next, released, released.offers serves limits,
    fun failure member => ?_⟩
  · -- The lock is no failure.
    have before : faults (site.locked system) = faults system := reckons.write _ _
    have after : faults (site.unlocked last) = faults last := reckons.write _ _
    rw [after, account.complete faults reckons.ideal, before]
  · -- What is stored in the ideal file is stored in the real one.
    obtain ⟨notices, -, -, stored⟩ := account.stored
    obtain ⟨row, present, named, -, stopped⟩ := stored failure member
    rw [ideal_read mirrorsLast (limits.roomy.writable apart fitsLast)] at present
    refine ⟨row, present, named, stopped.status, ?_⟩
    cases stopped with
    | setup _ error => exact ⟨_, error⟩
    | handler _ error => exact ⟨_, error⟩

variable (caught : engine.config.catchPanics = true)
  (quiet : ∀ subscriber ∈ engine.registry.subscribers, site.Quiet subscriber)

include caught quiet

/-- A call that feeds messages leaves the file in order. -/
theorem Serves.feedOnce_survives (call : FeedCall) (counts : spare + 1 < UInt32.size) (inside : within system)
    (healthy : site.Healthy quota (spare + 1) rows system) :
    Ends (engine.feedOnce call) system (site.Survives engine quota spare within system) := by
  -- A call is a boot or a run, and each of them accounts for its failures over the ideal file.
  have behaves : ∀ subscriber ∈ engine.registry.subscribers, site.ideal.Behaves subscriber :=
    fun subscriber registered => (quiet subscriber registered).behaves
  cases call with
  | boot criteria limit =>
    obtain ⟨body, shape, matched⟩ := serves.boot_inside limits quiet counts criteria limit
    show Ends (engine.boot criteria limit) system _
    rw [shape]
    exact serves.survives limits matched
      (fun _ distinct => serves.hosts.boot_accounts caught behaves distinct criteria limit) inside healthy
  | run criteria limit =>
    obtain ⟨body, shape, matched⟩ := serves.run_inside limits quiet counts criteria limit
    show Ends (engine.run criteria limit) system _
    rw [shape]
    exact serves.survives limits matched
      (fun _ distinct => serves.hosts.run_accounts caught behaves distinct criteria limit) inside healthy

/-- Calls that feed messages, one after another, leave the file in order, and report whatever has failed. -/
theorem Serves.feedEach_survives (calls : List FeedCall) (counts : spare + calls.length < UInt32.size)
    (inside : within system) (healthy : site.Healthy quota (spare + calls.length) rows system) :
    Ends (engine.feedEach calls) system fun reports after => within after ∧
      (∃ rows, site.Healthy quota spare rows after) ∧
      ∀ faults, site.Reckons engine faults → faults after = faults system ++ reports.flatMap FeedReport.errors := by
  -- Each call leaves a file that is in order for the next one.
  unfold Engine.feedEach
  induction calls generalizing system rows with
  | nil =>
    rw [List.mapM_nil]
    exact Meets.pure ⟨inside, ⟨rows, healthy⟩, by simp⟩
  | cons call rest ih =>
    -- One retry less is to spare with each call.
    rw [List.length_cons] at counts healthy
    rw [List.mapM_cons]
    have once := serves.feedOnce_survives limits caught quiet call counts inside healthy
    refine Meets.bind once fun report between first => ?_
    obtain ⟨next, well, -, -⟩ := first.stored
    refine Meets.bind (ih (by omega) first.within well) fun reports after others => ?_
    obtain ⟨within, stored, complete⟩ := others
    refine Meets.pure ⟨within, stored, fun faults reckons => ?_⟩
    rw [complete faults reckons, first.complete faults reckons, List.flatMap_cons, List.append_assoc]

/-- Whatever the failures of setup hooks and handlers are that keep to the limits, and however many boots and runs came
before: a boot or a run returns, the file can be read afterwards through the engine's handle and through new ones, and
each failure is stored there as it was reported. -/
theorem Serves.failures_survive (calls : List FeedCall) (counts : calls.length + 1 < UInt32.size)
    (inside : within system) (healthy : site.Healthy quota (calls.length + 1) rows system) (criteria : FeedCriteria)
    (limit : Option Nat) :
    Ends (engine.feedEach calls) system fun _ between =>
      Ends (engine.boot criteria limit) between (site.Survives engine quota 0 within between) ∧
        Ends (engine.run criteria limit) between (site.Survives engine quota 0 within between) := by
  -- The calls before are survived, and so is the one more.
  rw [Nat.add_comm] at counts healthy
  refine Meets.mono (serves.feedEach_survives limits caught quiet calls counts inside healthy) fun _ between ends => ?_
  obtain ⟨inside, ⟨rows, healthy⟩, -⟩ := ends
  exact ⟨serves.feedOnce_survives limits caught quiet (.boot criteria limit) (by decide) inside healthy,
    serves.feedOnce_survives limits caught quiet (.run criteria limit) (by decide) inside healthy⟩

end Operations

end Site

namespace World

/-- A world as a system with a disk: its log, its file and its reports. -/
def site : Site World where
  disk := diskPart
  log := fun world => world.log.entries
  now := now
  journal := notices
  observe := observe
  read_write := fun _ _ => rfl
  write_read := fun _ => rfl
  log_write := fun _ _ => rfl
  journal_write := fun _ _ => rfl
  read_observe := fun _ _ => rfl
  log_observe := stage.log_observe
  journal_observe := stage.journal_observe
  ascending := stage.ascending

/-- An engine that works on the log in memory and on the file. -/
def filer (subscribers : List (Subscriber World)) (retry : RetryStrategy) (config : EngineConfig := {}) :
    Engine World :=
  { feeder subscribers retry config with store := .file diskPart now }

/-- Such an engine works on the world. -/
theorem filer_serves (subscribers : List (Subscriber World)) (retry : RetryStrategy) (config : EngineConfig) :
    site.Serves (filer subscribers retry config) := ⟨fun _ _ _ => rfl, rfl, rfl⟩

/-- A log whose indices have 64 bits. -/
def Counted (world : World) : Prop := world.log.messages.length < UInt64.size

/-- An index in such a log. -/
theorem Counted.index {world : World} (counted : world.Counted) :
    ∀ entry ∈ world.log.entries, entry.1 < UInt64.size := by
  -- An index is a place in a list that is not too long.
  intro entry member
  obtain ⟨⟨message, place⟩, listed, rfl⟩ := List.mem_map.mp member
  have last := List.snd_lt_of_mem_zipIdx listed
  unfold Counted at counted
  simp only at last ⊢
  omega

/-- A subscriber whose code notes calls only, and whose failures can be written. -/
structure Moderate (subscriber : Subscriber World) : Prop where
  code : ∀ hook, subscriber.Code hook → ∃ judge note, hook = react judge note ∧
    ∀ calls error, (judge calls).error? = some error → (CapturedError.ofHandler error).Writable
  id : Sizable subscriber.id
  group : Sizable subscriber.group

/-- Subscribers that react to their calls are moderate, when what they fail with can be written. -/
theorem reacting_moderate {id : String} (sizable : Sizable id) {judge : List CallNote → HandlerOutcome}
    (writable : ∀ calls error, (judge calls).error? = some error → (CapturedError.ofHandler error).Writable)
    (runMode : RunMode) : Moderate (reacting id judge runMode) := by
  -- All code of theirs is of the one kind.
  refine ⟨fun hook code => ?_, sizable, by show Sizable "default"; decide⟩
  cases code with
  | setup declared => exact ⟨judge, _, (Option.some.inj declared).symm, writable⟩
  | teardown declared => cases declared
  | handler member message =>
    obtain rfl := List.mem_singleton.mp member
    exact ⟨judge, _, rfl, writable⟩

/-- Moderate subscribers leave the disk, the reports and the log alone. -/
theorem Moderate.quiet {subscriber : Subscriber World} (moderate : Moderate subscriber) : site.Quiet subscriber := by
  -- Such code notes its call, and does nothing else.
  intro hook code world
  obtain ⟨judge, note, rfl, -⟩ := moderate.code hook code
  exact ⟨rfl, rfl, List.prefix_refl _⟩

/-- A quota for subscriptions with some ids and with every failure that can be written. -/
def ample (ids : List String) : Quota := ⟨ids, MessagePack.nestingLimit * MessagePack.levelRoom⟩

/-- There is room for a thousand of them. -/
theorem ample_roomy {ids : List String} (few : ids.length ≤ 1000) : (ample ids).Roomy := by
  -- What a thousand subscriptions take is a number far below the limit.
  have most := Nat.mul_le_mul_right (2 * (ample ids).weight + 100) few
  have bounded : 1000 * (2 * (ample ids).weight + 100) + 5 < UInt64.size := by
    simp only [ample, MessagePack.nestingLimit, MessagePack.levelRoom, UInt64.size]
    omega
  exact ⟨Nat.lt_of_le_of_lt few (by decide), Nat.lt_of_le_of_lt (Nat.add_le_add_right most 5) bounded⟩

/-- A new subscription of a moderate subscriber is within the quota. -/
theorem Moderate.fits {subscriber : Subscriber World} (moderate : Moderate subscriber) {ids : List String}
    (listed : subscriber.id ∈ ids) : (Engine.freshSubscription subscriber).Fits (ample ids) 0 := by
  -- The names of the subscription are those of its subscriber, and it has not failed.
  obtain ⟨-, id, group⟩ := moderate
  have zero : 0 < UInt32.size := by decide
  refine ⟨listed, ⟨id, group, Nat.lt_trans zero (by decide), zero, fun _ own => by cases own⟩, ?_,
    fun _ own => (by cases own), zero⟩
  show subscriber.id.utf8ByteSize + subscriber.group.utf8ByteSize ≤ (ample ids).weight
  simp only [Sizable, UInt32.size, ample, MessagePack.nestingLimit, MessagePack.levelRoom] at id group ⊢
  omega

/-- Moderate subscribers keep to such a quota. -/
theorem filer_limits {subscribers : List (Subscriber World)}
    (moderate : ∀ subscriber ∈ subscribers, Moderate subscriber) (few : subscribers.length ≤ 1000)
    (retry : RetryStrategy) (config : EngineConfig) :
    site.Limits (filer subscribers retry config) (ample (subscribers.map Subscriber.id)) Counted := by
  -- What moderate code fails with can be written, and the quota bears whatever can.
  have calls : ∀ subscriber ∈ subscribers, ∀ hook, subscriber.Code hook → ∀ {world : World}, world.Counted →
      (hook world).2.Counted ∧ ∀ error, (hook world).1.error? = some error →
        (ample (subscribers.map Subscriber.id)).Bears (.ofHandler error) := by
    intro subscriber registered hook code world counted
    obtain ⟨judge, note, rfl, writable⟩ := (moderate subscriber registered).code hook code
    exact ⟨counted, fun error failed => Quota.bears_of_writable (Nat.le_refl _) (writable _ error failed)⟩
  refine ⟨ample_roomy (by simpa using few), fun subscriber registered => ?_, Counted.index, fun _ _ counted => counted,
    fun _ _ counted => counted,
    fun subscriber registered hook declared => calls subscriber registered hook (.setup declared),
    fun subscriber registered entry member message => calls subscriber registered _ (.handler member message)⟩
  exact (moderate subscriber registered).fits (List.mem_map_of_mem registered)

/-- A world whose file holds some subscriptions, and whose log is empty. -/
def filed (rows : List Subscription) : World :=
  { disk := { folder := .present, contents := .file (FileFormat.encode rows), lockFile := true } }

/-- An error with so many causes. -/
def deepError (causes : Nat) : HandlerError := .raise { message := "no", sources := List.replicate causes "c" }

/-- Its chain has one error for each of them, and one more. -/
theorem deepError_length (causes : Nat) : (CapturedError.ofHandler (deepError causes)).chain.length = causes + 1 := by
  simp [CapturedError.chain_ofHandler, deepError, HandlerError.raise]

/-- Its texts can be written. -/
theorem deepError_levels (causes : Nat) :
    ∀ level ∈ (CapturedError.ofHandler (deepError causes)).chain, level.Writable := by
  -- There are only two texts in it, and both of them are short.
  refine CapturedError.levels_ofHandler (show Sizable "no" by decide) ?_ ?_ ?_ fun source listed => ?_
  · rintro text ⟨⟩
  · rintro text ⟨⟩
    decide
  · rintro text ⟨⟩
  · rw [List.eq_of_mem_replicate listed]
    decide

/-- A subscriber that fails in its setup hook with the longest chain of causes that a file has room for, and one that
does not fail. -/
def laden : List (Subscriber World) :=
  [reacting "deep" fun _ => .failed (deepError 1019), reacting "calm" fun _ => .done]

/-- Both of them are moderate. -/
theorem laden_moderate : ∀ subscriber ∈ laden, Moderate subscriber := by
  -- One of them fails with a chain that can still be written, and the other one with nothing.
  intro subscriber member
  rcases List.mem_pair.mp member with rfl | rfl
  · refine reacting_moderate (by decide) (fun _ error failed => ?_) _
    obtain rfl := Option.some.inj failed
    exact ⟨deepError_levels 1019, by rw [deepError_length]; decide⟩
  · refine reacting_moderate (by decide) (fun _ error failed => ?_) _
    cases failed

/-- Over any boots and runs of them, their file stays in order. -/
theorem filed_failures_survive :
    site.Healthy (ample ["deep", "calm"]) 2 [] (filed []) ∧
      Ends ((filer laden .always).feedEach [.boot {} none]) (filed []) fun _ between =>
        Ends ((filer laden .always).boot {} none) between
            (site.Survives (filer laden .always) (ample ["deep", "calm"]) 0 Counted between) ∧
          Ends ((filer laden .always).run {} none) between
            (site.Survives (filer laden .always) (ample ["deep", "calm"]) 0 Counted between) := by
  -- All that is asked of the engine is known, so the general theorem applies.
  have serves : site.Serves (filer laden .always) := filer_serves ..
  have limits : site.Limits (filer laden .always) (ample ["deep", "calm"]) Counted :=
    filer_limits laden_moderate (by decide) .always {}
  have quiet : ∀ subscriber ∈ (filer laden .always).registry.subscribers, site.Quiet subscriber :=
    fun subscriber member => (laden_moderate subscriber member).quiet
  have caught : (filer laden .always).config.catchPanics = true := rfl
  have counted : Counted (filed []) := by show 0 < UInt64.size; decide
  have healthy : site.Healthy (ample ["deep", "calm"]) 2 [] (filed []) := ⟨⟨rfl, rfl⟩, rfl, List.nodup_nil, by simp⟩
  -- The engine is not evaluated.
  generalize filer laden .always = engine at serves limits quiet caught ⊢
  exact ⟨healthy, serves.failures_survive limits caught quiet [.boot {} none] (by decide) counted healthy {} none⟩

/-- A new subscription. -/
def newcomer : Subscription := { id := "deep" }

/-- It can be written. -/
theorem newcomer_writable : FileFormat.Writable [newcomer] := by
  -- Its names are short, and it has not failed.
  refine FileFormat.writable_singleton ⟨by decide, by decide, by decide, by decide, ?_⟩ (by decide +kernel)
  rintro error ⟨⟩

/-- A unit of work that has found it. -/
def newcomers : WorkUnit := ⟨[⟨newcomer, some newcomer⟩]⟩

/-- An engine with its subscriber, the setup hook of which fails. -/
def foundering (error : HandlerError) : Engine World := filer [reacting "deep" fun _ => .failed error] .never

/-- The subscription after that, as it is stored at some time. -/
def foundered (error : HandlerError) (now : Timestamp) : Subscription :=
  (newcomer.fail (.ofHandler error)).markSaved now

section Foundering

variable {error : HandlerError} {world : World}

/-- A chain of causes that is too long makes its file unreadable. -/
theorem foundered_lost (levels : ∀ level ∈ (CapturedError.ofHandler error).chain, level.Writable)
    (deep : MessagePack.nestingLimit < (CapturedError.ofHandler error).chain.length + 3)
    (bytes : ((CapturedError.ofHandler error).chain.length + 2) * MessagePack.levelRoom < UInt64.size)
    (now : Timestamp) :
    FileFormat.decode (FileFormat.encode [foundered error now]) = .error .deserialization := by
  -- The document is short enough to be written, but nested too deep to be read.
  have sized : (foundered error now).Sized (CapturedError.ofHandler error).chain.length := by
    refine ⟨show Sizable "deep" by decide, show Sizable "default" by decide, show 0 < UInt64.size by decide,
      show 0 < UInt32.size by decide, fun kept own => ?_, fun kept own captured context => ?_⟩
    · obtain rfl := Option.some.inj own
      exact (levels _ (CapturedError.level_mem_chain _)).message
    · obtain rfl := Option.some.inj own
      obtain rfl := Option.some.inj context
      exact ⟨levels, Nat.le_refl _⟩
  have sum : ∀ weight, (foundered error now).id.utf8ByteSize + (foundered error now).group.utf8ByteSize + weight + 100 =
      weight + 111 := by
    intro weight
    show 4 + 7 + weight + 100 = weight + 111
    omega
  have each : ∀ row ∈ [foundered error now], (MessagePack.encode (row.toDocument .compact)).length ≤
      ((CapturedError.ofHandler error).chain.length + 1) * MessagePack.levelRoom + 111 := by
    intro row member
    obtain rfl := List.mem_singleton.mp member
    rw [← sum]
    exact Subscription.length_encode fun kept own =>
      SubscriptionError.length_encode (sized.message kept own) (sized.chain kept own)
  have payload := FileFormat.length_payload each
  refine FileFormat.decode_deep (fun row member => List.mem_singleton.mp member ▸ sized)
    (show 1 < UInt32.size by decide) ?_ (List.mem_singleton_self _) rfl rfl deep
  -- Everything but the chain takes less than one more error of it would.
  rw [List.length_singleton, Nat.one_mul, Nat.add_assoc] at payload
  rw [Nat.succ_mul] at bytes
  have little : 111 + 5 ≤ MessagePack.levelRoom := by decide
  exact Nat.lt_of_le_of_lt (Nat.le_trans payload (Nat.add_le_add_left little _)) bytes

section Phases

variable (mirrors : world.disk.Mirrors [newcomer])

/-- Whatever is asked for is found in the file. -/
theorem foundering_find {rows : List Subscription} (read : world.disk.read = .ok rows) (unit : WorkUnit)
    (criteria : SubscriptionCriteria) :
    unit.find (foundering error).store criteria world = .ok (unit.trackAll (Rows.find rows criteria)) world := by
  -- The handle reads the file, and fails with nothing while that can be read.
  simp only [foundering, filer, SubscriptionStore.file, diskPart, read, WorkUnit.find, SubscriptionStore.fetch,
    bind, EStateM.bind, Action.ofStep, Except.map, pure, EStateM.pure]

include mirrors

/-- There is nothing to discover, -/
theorem foundering_discover : (foundering error).discover {} {} world = .ok newcomers world := by
  -- The only subscriber has its row.
  simp only [Engine.discover, bind, EStateM.bind, foundering_find (mirrors.read newcomer_writable)]
  rfl

/-- nothing to retry, -/
theorem foundering_retry : (foundering error).retry {} [.new, .booting] newcomers world = .ok newcomers world := by
  -- Nobody has failed yet.
  simp only [Engine.retry, bind, EStateM.bind, foundering_find (mirrors.read newcomer_writable)]
  rfl

/-- and nobody is gone. -/
theorem foundering_markDetached :
    (foundering error).markDetached {} [.new, .booting] newcomers world = .ok newcomers world := by
  -- The only row has its subscriber.
  simp only [Engine.markDetached, bind, EStateM.bind, foundering_find (mirrors.read newcomer_writable)]
  rfl

/-- The failure is written, however long its chain is. -/
theorem foundering_flush :
    Ends (WorkUnit.flush ⟨[⟨newcomer.fail (.ofHandler error), some newcomer⟩]⟩ (foundering error).store) world
      fun _ after => after.disk.Mirrors [foundered error world.now] := by
  -- The failure makes the subscription differ from its row, so it is written; a write does not look at nesting.
  have dirty : TrackedRow.isDirty ⟨newcomer.fail (.ofHandler error), some newcomer⟩ = true := by
    simp [TrackedRow.isDirty, newcomer, Subscription.fail]
  have changed : world.disk.modify (fun rows => Rows.update rows (foundered error world.now)) =
      (.ok (), { world.disk with contents := .file (FileFormat.encode [foundered error world.now]) }) := by
    simp only [Disk.modify, mirrors.read newcomer_writable]
    show Disk.write [foundered error world.now] world.disk = _
    simp only [Disk.write, mirrors.folder, mirrors.contents]
  have written : ∃ after, after.disk.Mirrors [foundered error world.now] ∧
      SubscriptionStore.written ((foundering error).store.update (newcomer.fail (.ofHandler error))) world =
        .ok (foundered error world.now) after := by
    refine ⟨diskPart.write { world.disk with contents := .file (FileFormat.encode [foundered error world.now]) } world,
      ⟨mirrors.folder, rfl⟩, ?_⟩
    unfold foundered at *
    simp only [SubscriptionStore.written, Action.ofStep, foundering, filer, SubscriptionStore.file,
      SubscriptionStore.writeDisk, Part.run, diskPart, changed]
    rfl
  obtain ⟨after, kept, run⟩ := written
  simp only [WorkUnit.flush, List.mapM_cons, List.mapM_nil, WorkUnit.flushRow, if_pos dirty, bind_assoc]
  exact Meets.run_bind run (Meets.pure kept)

/-- So the setup ends, and leaves the failure in the file. -/
theorem foundering_setupNew :
    Ends ((foundering error).setupNew {} newcomers) world fun _ after =>
      after.disk.Mirrors [foundered error world.now] := by
  -- The hook is called and fails, and then the unit is flushed.
  have failed : [newcomer].foldlM (foundering error).setupOne { unit := newcomers } world =
      .ok { unit := ⟨[⟨newcomer.fail (.ofHandler error), some newcomer⟩]⟩, errors := [⟨"deep", .ofHandler error⟩] }
        (observe (.failed "deep" .new 0 (.ofHandler error)) (world.noteCall { name := "deep", hook := .setup })) := rfl
  refine Meets.run_bind (foundering_find (mirrors.read newcomer_writable) _ _) ?_
  refine Meets.run_bind failed ?_
  exact Meets.bind (foundering_flush mirrors) fun _ after kept => Meets.pure kept

/-- After that, nothing is found any more. -/
theorem foundering_inside
    (lost : FileFormat.decode (FileFormat.encode [foundered error world.now]) = .error .deserialization) :
    ∃ body, (foundering error).boot {} none = (foundering error).store.guarded body ∧
      Meets body world (fun _ _ => False) fun abort after =>
        abort = .failed .deserialization ∧ after.disk.Mirrors [foundered error world.now] := by
  -- The phases before the setup change nothing, and the one after it has to read the file.
  refine ⟨_, rfl, ?_⟩
  refine Meets.run_bind (foundering_discover mirrors) ?_
  refine Meets.run_bind (foundering_retry mirrors) ?_
  refine Meets.run_bind (foundering_markDetached mirrors) ?_
  refine Meets.bind (foundering_setupNew mirrors).meets fun result between kept => ?_
  obtain ⟨errors, unit⟩ := result
  have refuses : site.Refuses (foundering error) between := (filer_serves ..).refuses kept lost
  have stopped : Meets ((foundering error).targets {} .booting unit) between (fun _ _ => False) fun abort after =>
      abort = .failed .deserialization ∧ after.disk.Mirrors [foundered error world.now] := by
    have nothing : Meets (unit.find (foundering error).store (FeedCriteria.withStatuses {} [.booting])) between
        (fun _ _ => False) fun abort after =>
          abort = .failed .deserialization ∧ after.disk.Mirrors [foundered error world.now] := by
      unfold Meets
      rw [refuses.find]
      exact ⟨rfl, kept⟩
    exact nothing.bind fun _ _ absurd => False.elim absurd
  exact stopped.bind fun _ _ absurd => False.elim absurd

end Phases

/-- A boot in which a setup hook fails with such a chain does not return, and leaves a file that nobody can read. -/
theorem foundering_boot (mirrors : world.disk.Mirrors [newcomer]) (unheld : world.disk.held = false)
    (lost : FileFormat.decode (FileFormat.encode [foundered error world.now]) = .error .deserialization) :
    Meets ((foundering error).boot {} none) world (fun _ _ => False) fun abort after =>
      abort = .failed .deserialization ∧ site.Refuses (foundering error) after := by
  -- The lock is given back, but that does not help whoever reads the file next.
  have serves : site.Serves (foundering error) := filer_serves ..
  have locked : (site.disk.read (site.locked world)).Mirrors [newcomer] := Site.mirrors_locked mirrors
  obtain ⟨body, shape, meets⟩ := foundering_inside locked lost
  rw [shape]
  refine Meets.weaken (serves.guarded_meets mirrors.folder unheld meets)
    (fun _ _ absurd => absurd.elim fun _ absurd => absurd.1) ?_
  rintro abort after ⟨last, ⟨same, kept⟩, rfl⟩
  have released : (site.disk.read (site.unlocked last)).Mirrors [foundered error world.now] :=
    ⟨kept.folder, kept.contents⟩
  exact ⟨same, serves.refuses released lost⟩

end Foundering

/-- With eleven hundred causes, a setup hook makes a boot fail over a healthy file, and nobody can read the file any
more. -/
theorem sunk_boot_unreadable :
    site.Healthy (ample ["deep"]) 1 [newcomer] (filed [newcomer]) ∧
      Meets ((foundering (deepError 1100)).boot {} none) (filed [newcomer]) (fun _ _ => False) fun abort after =>
        abort = .failed .deserialization ∧ site.Refuses (foundering (deepError 1100)) after := by
  -- The chain is short enough to be written, and too deep to be read.
  have mirrors : (filed [newcomer]).disk.Mirrors [newcomer] := ⟨rfl, rfl⟩
  have unheld : (filed [newcomer]).disk.held = false := rfl
  have fits : newcomer.Fits (ample ["deep"]) 1 :=
    ⟨by decide, newcomer_writable.rows _ (List.mem_singleton_self _), by decide, fun _ own => (by cases own), by decide⟩
  have lost := foundered_lost (deepError_levels 1100) (by rw [deepError_length]; decide)
    (by rw [deepError_length]; decide) (filed [newcomer]).now
  refine ⟨⟨mirrors, unheld, by decide, fun row member => List.mem_singleton.mp member ▸ fits⟩, ?_⟩
  -- Neither the boot nor the file is evaluated.
  generalize deepError 1100 = error at lost ⊢
  generalize filed [newcomer] = world at mirrors unheld lost ⊢
  exact foundering_boot mirrors unheld lost

end World

end EventFeed
