import EventFeed.Proofs.Faithful

/-! Likeness: a boot and a run with a file do the same as with an ideal file, phase by phase, while everything fits. -/

namespace EventFeed

open EventFeed.Action

variable {σ : Type}

namespace Site

variable {site : Site σ} {engine : Engine σ} {quota : Quota} {spare : Nat} {within : σ → Prop} {system : σ}
  {unit : WorkUnit} {criteria : FeedCriteria} {status : Status} {limit : Option Nat}

/-- Subscriber code that stays within limits: it leaves the disk alone, and what it fails with is within the quota. -/
def Tame (site : Site σ) (quota : Quota) (within : σ → Prop) (hook : Hook σ) : Prop :=
  ∀ system, within system → within (hook system).2 ∧ site.disk.read (hook system).2 = site.disk.read system ∧
    ∀ error, (hook system).1.error? = some error → quota.Bears (.ofHandler error)

/-- A unit of work and a system on both sides: all subscriptions fit. -/
def Laden (site : Site σ) (quota : Quota) (spare : Nat) (within : σ → Prop) (unit : WorkUnit) (system : σ) :
    Prop :=
  unit.Fits quota spare ∧ site.Sound quota spare within system

/-- A target that fits, and is registered. -/
def Aimed (engine : Engine σ) (quota : Quota) (spare : Nat) (target : Target σ) : Prop :=
  target.subscription.Fits quota spare ∧ target.subscriber ∈ engine.registry.subscribers

/-- What a call of subscriber code came to is within the quota, and the system is sound. -/
def Called (site : Site σ) (quota : Quota) (spare : Nat) (within : σ → Prop) (result : Except HandlerError Unit)
    (system : σ) : Prop :=
  (∀ error, result = .error error → quota.Bears (.ofHandler error)) ∧ site.Sound quota spare within system

/-- A call that ended well has failed with nothing. -/
theorem called_ok (sound : site.Sound quota spare within system) : site.Called quota spare within (.ok ()) system :=
  ⟨fun _ absurd => (by cases absurd), sound⟩

section Calls

variable (quiet : ∀ subscriber ∈ engine.registry.subscribers, site.Quiet subscriber)
  (limits : site.Limits engine quota within)

include quiet limits

/-- Setup hooks are tame, -/
theorem Limits.tame_setup {subscriber : Subscriber σ} (registered : subscriber ∈ engine.registry.subscribers)
    {hook : Hook σ} (declared : subscriber.setup = some hook) : site.Tame quota within hook := fun system inside =>
  ⟨(limits.setup subscriber registered hook declared inside).1,
    (quiet subscriber registered _ (.setup declared) system).disk,
    (limits.setup subscriber registered hook declared inside).2⟩

/-- and so are handlers. -/
theorem Limits.tame_handler {subscriber : Subscriber σ} (registered : subscriber ∈ engine.registry.subscribers)
    {entry : BoundHandler σ} (member : entry ∈ subscriber.handlers) (message : Message) :
    site.Tame quota within (entry.handle message) := fun system inside =>
  ⟨(limits.handlers subscriber registered entry member message inside).1,
    (quiet subscriber registered _ (.handler member message) system).disk,
    (limits.handlers subscriber registered entry member message inside).2⟩

omit quiet limits in
/-- A call of tame code. -/
theorem Sound.call (sound : site.Sound quota spare within system) {hook : Hook σ} (tame : site.Tame quota within hook) :
    Matches (engine.call hook) ((site.idealize engine).call hook) system (site.Called quota spare within) := by
  -- The code itself is the same on both sides, since only the engine's store was changed.
  obtain ⟨inside, disk, writable⟩ := tame system sound.within
  refine Matches.self ?_
  unfold Meets Engine.call
  rcases ends : hook system with ⟨outcome, next⟩
  rw [ends] at inside disk writable
  have after := sound.of_disk disk inside
  cases outcome with
  | done => exact called_ok after
  | failed error => exact ⟨fun other same => Except.error.inj same ▸ writable error rfl, after⟩
  | panicked payload =>
    cases caught : engine.config.catchPanics with
    | true => exact ⟨fun other same => Except.error.inj same ▸ writable _ rfl, after⟩
    | false => trivial

omit quiet limits in
/-- Tame handlers are called in order. -/
theorem Sound.callAll {message : Message} {handlers : List (Handler σ)}
    (tame : ∀ handler ∈ handlers, site.Tame quota within (handler message))
    (sound : site.Sound quota spare within system) :
    Matches (engine.callAll message handlers) ((site.idealize engine).callAll message handlers) system
      (site.Called quota spare within) := by
  -- The handlers are called one after another, up to the first that fails.
  induction handlers generalizing system with
  | nil => exact .pure (called_ok sound)
  | cons handler rest ih =>
    unfold Engine.callAll
    refine (sound.call (tame handler (by simp))).bind fun result after called => ?_
    cases result with
    | error error => exact .pure called
    | ok _ => exact ih (fun other member => tame other (by simp [member])) called.2

/-- A message is handed to a registered subscriber. -/
theorem Sound.handle (sound : site.Sound quota spare within system) {subscriber : Subscriber σ}
    (registered : subscriber ∈ engine.registry.subscribers) (message : Message) :
    Matches (engine.handle subscriber message) ((site.idealize engine).handle subscriber message) system
      (site.Called quota spare within) := by
  -- The handlers that are selected are code of a registered subscriber.
  refine Sound.callAll (fun handler member => ?_) sound
  obtain ⟨entry, selected, rfl⟩ := List.mem_map.mp member
  exact limits.tame_handler quiet registered (List.mem_filter.mp selected).1 message

end Calls

section Phases

variable (serves : site.Serves engine) (limits : site.Limits engine quota within)

include serves

/-- A report on both sides. -/
theorem Serves.note_matches {α : Type} {notice : Notice} {next other : Unit → Action σ α} {ok : α → σ → Prop}
    (rest : Matches (next ()) (other ()) (site.observe notice system) ok) :
    Matches (engine.note notice >>= next) ((site.idealize engine).note notice >>= other) system ok := by
  -- A report is the same on both sides, whatever the store.
  have run : (site.idealize engine).note notice system = .ok () (site.observe notice system) :=
    serves.hosts.note_run notice system
  have reported : Matches (engine.note notice) ((site.idealize engine).note notice) system
      fun _ after => after = site.observe notice system := .self (Meets.of_run run rfl)
  exact reported.bind fun _ after same => same ▸ rest

/-- A failure on both sides. -/
theorem Serves.fail_matches {α : Type} {row : Subscription} {error : HandlerError}
    {next other : Subscription × SubscriptionFailure → Action σ α} {ok : α → σ → Prop}
    (rest : Matches (next (row.fail (.ofHandler error), ⟨row.id, .ofHandler error⟩))
      (other (row.fail (.ofHandler error), ⟨row.id, .ofHandler error⟩))
      (site.observe (.failed row.id row.status row.position (.ofHandler error)) system) ok) :
    Matches (engine.fail row error >>= next) ((site.idealize engine).fail row error >>= other) system ok := by
  -- A failure is a report with a change of the row.
  unfold Engine.fail
  simp only [bind_assoc, pure_bind]
  exact serves.note_matches rest

include limits

/-- A pass over some subscriptions: what is done to each of them fits, and is written in the end. -/
theorem Sound.pass {found : Nat} {wanted : SubscriptionCriteria}
    {step move : WorkUnit → Subscription → Action σ WorkUnit} (sound : site.Sound quota found within system)
    (fits : unit.Fits quota found) (less : found = spare ∨ found = spare + 1)
    (steps : ∀ row : Subscription, row.Fits quota found → ∀ unit between, site.Laden quota spare within unit between →
      Matches (step unit row) (move unit row) between (site.Laden quota spare within)) :
    Matches (do
      let (rows, unit) ← unit.find engine.store wanted
      let unit ← rows.foldlM step unit
      let (_, unit) ← unit.flush engine.store
      return unit) (do
      let (rows, unit) ← unit.find (site.idealize engine).store wanted
      let unit ← rows.foldlM move unit
      let (_, unit) ← unit.flush (site.idealize engine).store
      return unit) system (site.Laden quota spare within) := by
  -- A pass finds, goes through what it has found, and writes; each of these matches.
  refine (sound.find serves limits fits wanted).bind fun result between ends => ?_
  obtain ⟨rows, unit⟩ := result
  obtain ⟨sound, each, fits⟩ := ends
  -- What is found may have one retry more to spare than what is written.
  have laden : site.Laden quota spare within unit between := by
    rcases less with rfl | rfl
    · exact ⟨fits, sound⟩
    · exact ⟨fits.less, sound.less⟩
  refine (Matches.foldlM (fun row member unit between laden => steps row (each row member) unit between laden)
    laden).bind fun unit middle laden => ?_
  exact (laden.2.flush serves limits laden.1).bind fun _ _ ends => .pure ends

/-- Discovery adds the same subscriptions. -/
theorem Sound.discover (sound : site.Sound quota spare within system) (counts : spare < UInt32.size) :
    Matches (engine.discover criteria {}) ((site.idealize engine).discover criteria {}) system
      (site.Laden quota spare within) := by
  -- Both sides find the same ids, and so the same newcomers.
  refine (sound.find serves limits WorkUnit.fits_empty {}).bind fun result between ends => ?_
  obtain ⟨rows, unit⟩ := result
  obtain ⟨sound, -, fits⟩ := ends
  have steps : ∀ subscriber ∈ engine.registry.subscribers, ∀ unit between, site.Laden quota spare within unit between →
      Matches (engine.discoverOne criteria (rows.map Subscription.id) unit subscriber)
        ((site.idealize engine).discoverOne criteria (rows.map Subscription.id) unit subscriber) between
        (site.Laden quota spare within) := by
    intro subscriber registered unit between laden
    obtain ⟨listed, writable, names, failure, -⟩ := limits.registered subscriber registered
    -- A new subscription has all its retries to spare.
    have fresh : (Engine.freshSubscription subscriber).Fits quota spare :=
      ⟨listed, writable, names, failure, by simpa [Engine.freshSubscription] using counts⟩
    unfold Engine.discoverOne
    split
    · exact serves.note_matches (.pure ⟨laden.1.add fresh, laden.2.observe limits _⟩)
    · exact .pure laden
  refine (Matches.foldlM steps (⟨fits, sound⟩ : site.Laden quota spare within unit between)).bind
    fun unit middle laden => ?_
  exact (laden.2.flush serves limits laden.1).bind fun _ _ ends => .pure ends

/-- Retries use up one of those to spare. -/
theorem Laden.retry (laden : site.Laden quota (spare + 1) within unit system) (failedIn : List Status) :
    Matches (engine.retry criteria failedIn unit) ((site.idealize engine).retry criteria failedIn unit) system
      (site.Laden quota spare within) := by
  -- Whether a row is retried is decided by the row, the clock and the strategy, which are the same on both sides.
  refine laden.2.pass serves limits laden.1 (.inr rfl) fun row fits unit between laden => ?_
  unfold Engine.retryOne
  split
  · exact .pure laden
  refine .get_bind ?_
  show Matches (if !engine.retries between row then _ else _) (if !engine.retries between row then _ else _) _ _
  split
  · exact serves.note_matches (.pure ⟨laden.1, laden.2.observe limits _⟩)
  -- Only a retry that is possible changes the row.
  cases retried : row.retry with
  | error error => exact serves.note_matches (.pure ⟨laden.1, laden.2.observe limits _⟩)
  | ok next => exact serves.note_matches (.pure ⟨laden.1.update (fits.retry retried), laden.2.observe limits _⟩)

/-- Subscriptions without a subscriber are detached. -/
theorem Laden.markDetached (laden : site.Laden quota spare within unit system) (statuses : List Status) :
    Matches (engine.markDetached criteria statuses unit) ((site.idealize engine).markDetached criteria statuses unit)
      system (site.Laden quota spare within) := by
  -- Whether a row is detached is decided by the registry alone.
  refine laden.2.pass serves limits laden.1 (.inl rfl) fun row fits unit between laden => ?_
  unfold Engine.detachOne
  show Matches (if engine.registry.knows row.id then _ else _) (if engine.registry.knows row.id then _ else _) _ _
  split
  · exact .pure laden
  · exact serves.note_matches (.pure ⟨laden.1.update (fits.settle _), laden.2.observe limits _⟩)

/-- Targets are those subscriptions that have a registered subscriber. -/
theorem Laden.targets (laden : site.Laden quota spare within unit system) :
    Matches (engine.targets criteria status unit) ((site.idealize engine).targets criteria status unit) system
      fun result after => (∀ target ∈ result.1, Aimed engine quota spare target) ∧
        site.Laden quota spare within result.2 after := by
  -- The same rows are found on both sides, and the registry is one.
  refine (laden.2.find serves limits laden.1 _).bind fun result after ends => ?_
  obtain ⟨rows, unit⟩ := result
  obtain ⟨sound, each, fits⟩ := ends
  refine .pure ⟨fun target member => ?_, fits, sound⟩
  obtain ⟨row, found, made⟩ := List.mem_filterMap.mp member
  obtain ⟨subscriber, registered, rfl⟩ := Option.map_eq_some_iff.mp made
  exact ⟨each row found, List.mem_of_find?_eq_some registered⟩

/-- The end of the log has an index within the limits. -/
theorem Sound.latestOnce (sound : site.Sound quota spare within system) {latest : Option Nat}
    (bounded : ∀ index, latest = some index → index < UInt64.size) :
    Matches (engine.latestOnce latest) ((site.idealize engine).latestOnce latest) system fun index after =>
      index < UInt64.size ∧ after = system := by
  -- The index is looked up in the log only if it is not known yet.
  cases latest with
  | some index => exact .pure ⟨bounded index rfl, rfl⟩
  | none =>
    have looked : Ends (site.idealize engine).latestIndex system fun index after =>
        index < UInt64.size ∧ after = system := by
      refine Meets.mono (serves.hosts.latestIndex_ends system) fun index after ends => ?_
      -- The log is empty, or its last message has the index.
      obtain ⟨same, rfl | listed⟩ := ends
      · exact ⟨by decide, same⟩
      · obtain ⟨entry, member, rfl⟩ := List.mem_map.mp listed
        exact ⟨limits.index sound.within entry member, same⟩
    exact .self looked.meets

/-- How far a setup has come: all subscriptions fit, and so does the index that was looked up. -/
def SetUpTo (site : Site σ) (quota : Quota) (spare : Nat) (within : σ → Prop) (state : Engine.SetupState)
    (system : σ) : Prop :=
  site.Laden quota spare within state.unit system ∧ ∀ index, state.latest = some index → index < UInt64.size

/-- A subscription that has been set up starts. -/
theorem SetUpTo.start {state : Engine.SetupState} (far : site.SetUpTo quota spare within state system)
    {row : Subscription} (fits : row.Fits quota spare) :
    Matches (engine.start state row) ((site.idealize engine).start state row) system
      (site.SetUpTo quota spare within) := by
  -- A row that starts now needs the end of the log, and any other one starts at once.
  obtain ⟨laden, latest⟩ := far
  unfold Engine.start
  split
  · refine (laden.2.latestOnce serves limits latest).bind fun index after ends => ?_
    obtain ⟨bounded, rfl⟩ := ends
    refine serves.note_matches (.pure ⟨⟨laden.1.update ((fits.changePosition bounded).settle _),
      laden.2.observe limits _⟩, fun other same => ?_⟩)
    obtain rfl := Option.some.inj same
    exact bounded
  · exact serves.note_matches (.pure ⟨⟨laden.1.update (fits.settle _), laden.2.observe limits _⟩, latest⟩)

section Feeding

variable (quiet : ∀ subscriber ∈ engine.registry.subscribers, site.Quiet subscriber)

include quiet

/-- A subscription is set up, or fails in its hook. -/
theorem SetUpTo.setupOne {state : Engine.SetupState} (far : site.SetUpTo quota spare within state system)
    {row : Subscription} (fits : row.Fits quota spare) :
    Matches (engine.setupOne state row) ((site.idealize engine).setupOne state row) system
      (site.SetUpTo quota spare within) := by
  -- A row without a subscriber is passed by, and one without a hook starts at once.
  have registry : (site.idealize engine).registry = engine.registry := rfl
  unfold Engine.setupOne
  rw [registry]
  split
  · exact .pure far
  rename_i subscriber found
  have registered : subscriber ∈ engine.registry.subscribers := List.mem_of_find?_eq_some found
  split
  · exact far.start serves limits fits
  rename_i hook declared
  refine (far.1.2.call (limits.tame_setup quiet registered declared)).bind fun result after called => ?_
  cases result with
  | ok _ => exact serves.note_matches (SetUpTo.start serves limits ⟨⟨far.1.1, called.2.observe limits _⟩, far.2⟩ fits)
  | error error =>
    refine serves.fail_matches (.pure ⟨⟨?_, called.2.observe limits _⟩, far.2⟩)
    exact far.1.1.update (fits.fail (called.1 error rfl))

/-- New subscriptions are set up. -/
theorem Laden.setupNew (laden : site.Laden quota spare within unit system) :
    Matches (engine.setupNew criteria unit) ((site.idealize engine).setupNew criteria unit) system fun result after =>
      site.Laden quota spare within result.2 after := by
  -- The rows come from the unit, each is set up on its own, and one write ends it.
  refine (laden.2.find serves limits laden.1 _).bind fun result between ends => ?_
  obtain ⟨rows, unit⟩ := result
  obtain ⟨sound, each, fits⟩ := ends
  have start : site.SetUpTo quota spare within { unit } between := ⟨⟨fits, sound⟩, by simp⟩
  refine (Matches.foldlM (fun row member state between far => far.setupOne serves limits quiet (each row member))
    start).bind fun state middle far => ?_
  exact (far.1.2.flush serves limits far.1.1).bind fun _ _ ends => .pure ends

/-- A message is offered to a target. -/
theorem Aimed.offer {target : Target σ} (aimed : Aimed engine quota spare target)
    (sound : site.Sound quota spare within system) {index : Nat} (bounded : index < UInt64.size) (message : Message) :
    Matches (engine.offer status index message target) ((site.idealize engine).offer status index message target) system
      fun offered after => Aimed engine quota spare offered.1 ∧ site.Sound quota spare within after := by
  -- A message that is passed by leaves the row as it is, and one that is handed over moves it or fails it.
  obtain ⟨fits, registered⟩ := aimed
  unfold Engine.offer
  dsimp only
  split
  · exact .pure ⟨⟨fits, registered⟩, sound⟩
  split
  · exact serves.note_matches (.pure ⟨⟨fits, registered⟩, sound.observe limits _⟩)
  refine serves.note_matches (((sound.observe limits _).handle quiet limits registered message).bind
    fun result after called => ?_)
  cases result with
  | ok _ => exact serves.note_matches (.pure ⟨⟨fits.changePosition bounded, registered⟩, called.2.observe limits _⟩)
  | error error =>
    exact serves.fail_matches (.pure ⟨⟨fits.fail (called.1 error rfl), registered⟩, called.2.observe limits _⟩)

/-- A window all subscriptions of which fit, on a sound system. -/
def Framed (site : Site σ) (engine : Engine σ) (quota : Quota) (spare : Nat) (within : σ → Prop)
    (window : Window σ) (system : σ) : Prop :=
  (∀ target ∈ window.targets, Aimed engine quota spare target) ∧ site.Laden quota spare within window.unit system

/-- A message is offered to all targets. -/
theorem Framed.offerAll {window : Window σ} (framed : site.Framed engine quota spare within window system) {index : Nat}
    (bounded : index < UInt64.size) (message : Message) :
    Matches (engine.offerAll status index message window) ((site.idealize engine).offerAll status index message window)
      system (site.Framed engine quota spare within) := by
  -- The targets are offered the message one by one, and each stays within the bounds.
  have each : ∀ target ∈ window.targets, ∀ between, site.Sound quota spare within between →
      Matches (engine.offer status index message target)
        ((site.idealize engine).offer status index message target) between fun offered after =>
          Aimed engine quota spare offered.1 ∧ site.Sound quota spare within after :=
    fun target member between sound => (framed.1 target member).offer serves limits quiet sound bounded message
  refine (Matches.mapM each framed.2.2).bind fun offered after ends =>
    .pure ⟨fun target member => ?_, framed.2.1, ends.2⟩
  obtain ⟨pair, present, rfl⟩ := List.mem_map.mp member
  exact ends.1 pair present

omit quiet in
/-- Targets are written. -/
theorem Laden.persist (laden : site.Laden quota spare within unit system) {targets : List (Target σ)}
    (aimed : ∀ target ∈ targets, Aimed engine quota spare target) :
    Matches (engine.persist unit targets) ((site.idealize engine).persist unit targets) system
      (site.Laden quota spare within) := by
  -- Each target is taken into the unit before anything is written.
  have updated : ∀ (rest : List (Target σ)) (unit : WorkUnit), (∀ target ∈ rest, Aimed engine quota spare target) →
      unit.Fits quota spare → (Engine.updateAll rest unit).Fits quota spare := by
    intro rest
    induction rest with
    | nil => exact fun _ _ fits => fits
    | cons target others ih =>
      intro unit aimed fits
      exact ih _ (fun other member => aimed other (by simp [member])) (fits.update (aimed target (by simp)).1)
  exact (laden.2.flush serves limits (updated targets unit aimed laden.1)).bind fun _ _ ends => .pure ends

omit quiet in
/-- A window is written. -/
theorem Framed.persistWindow {window : Window σ} (framed : site.Framed engine quota spare within window system) :
    Matches (engine.persistWindow window) ((site.idealize engine).persistWindow window) system
      (site.Framed engine quota spare within) :=
  (framed.2.persist serves limits framed.1).bind fun _ _ laden => .pure ⟨framed.1, laden⟩

/-- Messages within the limits are delivered. -/
theorem Framed.deliver {entries : List (Nat × Message)} (bounded : ∀ entry ∈ entries, entry.1 < UInt64.size)
    {window : Window σ} (framed : site.Framed engine quota spare within window system) :
    Matches (engine.deliver status limit window (entries.map .ok))
      ((site.idealize engine).deliver status limit window (entries.map .ok)) system
      (site.Framed engine quota spare within) := by
  -- The induction is on the messages that are left.
  induction entries generalizing window system with
  | nil => exact .pure framed
  | cons entry rest ih =>
    -- One turn for the message, then the limit may end the window.
    simp only [List.forall_mem_cons] at bounded
    rw [List.map_cons, Engine.deliver_cons, Engine.deliver_cons]
    have turned : Matches (engine.turn status window entry) ((site.idealize engine).turn status window entry) system
        (site.Framed engine quota spare within) := by
      refine (framed.offerAll serves limits quiet bounded.1 entry.2).bind fun window after framed => ?_
      unfold Engine.flushWhenDue
      show Matches (if engine.config.flushInterval.any _ then _ else _)
        (if engine.config.flushInterval.any _ then _ else _) _ _
      split
      · exact (framed.persistWindow serves limits).bind fun _ _ framed => .pure framed
      · exact .pure framed
    refine turned.bind fun window after framed => ?_
    split
    · exact framed.persistWindow serves limits
    · exact ih bounded.2 framed

/-- The messages that are ahead are loaded and delivered. -/
theorem Framed.process {window : Window σ} (framed : site.Framed engine quota spare within window system) :
    Matches (engine.process status limit window) ((site.idealize engine).process status limit window) system
      (site.Framed engine quota spare within) := by
  -- The report of the window comes first, and it does not touch the file.
  unfold Engine.process
  refine serves.note_matches ?_
  have observed : site.Framed engine quota spare within window (site.observe
      (.loading (Engine.lowestPosition window.targets) window.targets.length) system) :=
    ⟨framed.1, framed.2.1, framed.2.2.observe limits _⟩
  generalize site.observe (.loading (Engine.lowestPosition window.targets) window.targets.length) system = between
    at observed
  have loaded := serves.load (LogCriteria.after (Engine.lowestPosition window.targets)) {} between
  -- The engine asks for no page, so it gets all messages that are ahead, each of which is in the log.
  have page : ∀ items : List (Nat × Message), LoadOptions.page {} items = items := by simp [LoadOptions.page]
  rw [page] at loaded
  have read : Matches (Action.ofStep (engine.source.load (LogCriteria.after (Engine.lowestPosition window.targets)) {}))
      (Action.ofStep ((site.idealize engine).source.load (LogCriteria.after (Engine.lowestPosition window.targets)) {}))
      between fun items after => after = between ∧ items = ((site.log between).filter fun entry =>
        (LogCriteria.after (Engine.lowestPosition window.targets)).admits entry.1 entry.2).map .ok := by
    refine .self ?_
    simp only [Meets, Action.ofStep, loaded, and_self]
  refine read.bind fun items after ends => ?_
  obtain ⟨rfl, rfl⟩ := ends
  refine observed.deliver serves limits quiet fun entry member => ?_
  exact limits.index observed.2.2.within entry (List.mem_filter.mp member).1

omit serves limits quiet in
/-- Targets are changed one after another. -/
theorem Sound.settleTargets (sound : site.Sound quota spare within system)
    {change other : Subscription → Action σ Subscription}
    (changes : ∀ row : Subscription, row.Fits quota spare → ∀ between, site.Sound quota spare within between →
      Matches (change row) (other row) between fun next after =>
        next.Fits quota spare ∧ site.Sound quota spare within after)
    {targets : List (Target σ)} (aimed : ∀ target ∈ targets, Aimed engine quota spare target) :
    Matches (Engine.settleTargets status change targets) (Engine.settleTargets status other targets) system
      fun settled after => (∀ target ∈ settled, Aimed engine quota spare target) ∧
        site.Sound quota spare within after := by
  -- The change is made to the targets of the status only.
  refine Matches.mapM (fun target member between sound => ?_) sound
  obtain ⟨fits, registered⟩ := aimed target member
  split
  · exact (changes _ fits between sound).bind fun next after ends => .pure ⟨⟨ends.1, registered⟩, ends.2⟩
  · exact .pure ⟨⟨fits, registered⟩, sound⟩

/-- Targets are fed. -/
theorem Laden.feed (laden : site.Laden quota spare within unit system) {idle : Notice}
    {change other : Subscription → Action σ Subscription}
    (changes : ∀ row : Subscription, row.Fits quota spare → ∀ between, site.Sound quota spare within between →
      Matches (change row) (other row) between fun next after =>
        next.Fits quota spare ∧ site.Sound quota spare within after)
    (errors : List SubscriptionFailure) {targets : List (Target σ)}
    (aimed : ∀ target ∈ targets, Aimed engine quota spare target) :
    Matches (engine.feed status limit idle change errors targets unit)
      ((site.idealize engine).feed status limit idle other errors targets unit) system
      fun _ after => site.Sound quota spare within after := by
  -- Without a target nothing is written; else the window is processed, and its targets are settled at the end.
  unfold Engine.feed
  split
  · exact serves.note_matches (.pure (laden.2.observe limits _))
  have framed : site.Framed engine quota spare within { unit, targets, errors } system := ⟨aimed, laden⟩
  refine (framed.process serves limits quiet).bind fun window between framed => ?_
  split
  · refine (framed.2.2.settleTargets changes framed.1).bind fun settled middle ends => ?_
    exact (Laden.persist serves limits ⟨framed.2.1, ends.2⟩ ends.1).bind fun _ after laden => .pure laden.2
  · exact .pure framed.2.2

omit quiet in
/-- A subscription that is done with the log. -/
theorem Sound.finish (sound : site.Sound quota spare within system) {row : Subscription} (fits : row.Fits quota spare) :
    Matches (engine.finish row) ((site.idealize engine).finish row) system fun next after =>
      next.Fits quota spare ∧ site.Sound quota spare within after := by
  -- Only the status changes, which takes no room.
  unfold Engine.finish
  exact serves.note_matches (.pure ⟨fits.settle _, sound.observe limits _⟩)

/-- What a boot does in the lock of the store is the same with an ideal file. -/
theorem Serves.boot_inside (counts : spare + 1 < UInt32.size) (criteria : FeedCriteria) (limit : Option Nat) :
    ∃ body, engine.boot criteria limit = engine.store.guarded body ∧
      ∀ system, site.Sound quota (spare + 1) within system →
        Matches body ((site.idealize engine).boot criteria limit) system fun _ after =>
          site.Sound quota spare within after := by
  -- The ideal store has no lock, and the phases match one after another.
  refine ⟨_, rfl, fun system sound => ?_⟩
  unfold Engine.boot
  rw [serves.hosts.guarded_eq]
  refine (sound.discover serves limits counts).bind fun unit one laden => ?_
  refine (laden.retry serves limits _).bind fun unit two laden => ?_
  refine (laden.markDetached serves limits _).bind fun unit three laden => ?_
  refine (laden.setupNew serves limits quiet).bind fun result four laden => ?_
  refine (laden.targets serves limits).bind fun aim five ends => ?_
  refine ends.2.feed serves limits quiet (fun row fits between sound => ?_) _ ends.1
  unfold Engine.caughtUp
  split
  · exact sound.finish serves limits fits
  · exact serves.note_matches (.pure ⟨fits.settle _, sound.observe limits _⟩)

/-- What a run does in the lock of the store is the same with an ideal file. -/
theorem Serves.run_inside (counts : spare + 1 < UInt32.size) (criteria : FeedCriteria) (limit : Option Nat) :
    ∃ body, engine.run criteria limit = engine.store.guarded body ∧
      ∀ system, site.Sound quota (spare + 1) within system →
        Matches body ((site.idealize engine).run criteria limit) system fun _ after =>
          site.Sound quota spare within after := by
  -- The phases follow one another, and each leaves room for the next one.
  refine ⟨_, rfl, fun system sound => ?_⟩
  unfold Engine.run
  rw [serves.hosts.guarded_eq]
  refine (sound.discover serves limits counts).bind fun unit one laden => ?_
  refine (laden.retry serves limits _).bind fun unit two laden => ?_
  refine (laden.markDetached serves limits _).bind fun unit three laden => ?_
  refine (laden.targets serves limits).bind fun aim four ends => ?_
  refine ends.2.feed serves limits quiet (fun row fits between sound => ?_) _ ends.1
  unfold Engine.keptUp
  split
  · exact sound.finish serves limits fits
  · exact .pure ⟨fits.resetRetryAttempt, sound⟩

end Feeding

end Phases

end Site

end EventFeed
