import EventFeed.Proofs.Alongside
import EventFeed.Proofs.Operations

/-! Bonds: relations between systems under which an operation does the same on both. They concern the subscriptions
that the operation may be meant for, and whatever its code can see, and leave the other subscriptions open. The phases
that precede the feeding keep them. -/

namespace EventFeed

open EventFeed.Action
open WorkUnit (Even)

variable {σ : Type}

/-- The code of a subscriber: its hooks, and its handlers with any message. -/
inductive Subscriber.Code (subscriber : Subscriber σ) : Hook σ → Prop
  | setup {hook : Hook σ} (declared : subscriber.setup = some hook) : Code subscriber hook
  | teardown {hook : Hook σ} (declared : subscriber.teardown = some hook) : Code subscriber hook
  | handler {entry : BoundHandler σ} (member : entry ∈ subscriber.handlers) (message : Message) :
    Code subscriber (entry.handle message)

namespace Stage

variable {stage : Stage σ} {engine : Engine σ} {criteria : FeedCriteria} {meant : String → Bool} {bond : σ → σ → Prop}

/-- Ids that cover what criteria mean: the rows that are meant, and the subscribers that are and have no row. -/
structure Covers (engine : Engine σ) (criteria : FeedCriteria) (meant : String → Bool) (rows : List Subscription) :
    Prop where
  stored : ∀ row ∈ rows, criteria.admits row.id row.group = true → meant row.id = true
  absent : ∀ subscriber ∈ engine.registry.subscribers, criteria.admits subscriber.id subscriber.group = true →
    subscriber.id ∉ Rows.ids rows → meant subscriber.id = true

/-- Code of a subscriber that behaves does only what is allowed. -/
theorem Behaves.code {subscriber : Subscriber σ} (behaves : stage.Behaves subscriber) {hook : Hook σ}
    (code : subscriber.Code hook) : stage.Discreet hook := by
  -- Subscriber code is one of three kinds, and each is spoken of on its own.
  cases code with
  | setup declared => exact behaves.setup hook declared
  | teardown declared => exact behaves.teardown hook declared
  | handler member message => exact behaves.handlers _ member message

/-- Subscriber code that does the same on systems that are related. -/
def Bonded (bond : σ → σ → Prop) (hook : Hook σ) : Prop :=
  ∀ left right, bond left right → (hook left).1 = (hook right).1 ∧ bond (hook left).2 (hook right).2

/-- A relation between systems on which the subscriptions with some ids are the same, and remain so: whatever is done
for those is done on both. -/
structure Bond (stage : Stage σ) (engine : Engine σ) (criteria : FeedCriteria) (meant : String → Bool)
    (bond : σ → σ → Prop) : Prop where
  rows : ∀ {left right}, bond left right →
    Rows.within meant (stage.rows.read left) = Rows.within meant (stage.rows.read right)
  covers : ∀ {left right}, bond left right → Covers engine criteria meant (stage.rows.read left) ∧
    Covers engine criteria meant (stage.rows.read right)
  log : ∀ {left right}, bond left right → stage.log left = stage.log right
  now : ∀ {left right}, bond left right → stage.now left = stage.now right
  retries : ∀ {left right}, bond left right → ∀ row, engine.retries left row = engine.retries right row
  observe : ∀ {left right} notice, bond left right → bond (stage.observe notice left) (stage.observe notice right)
  write : ∀ {left right next other}, bond left right →
    Rows.Beside meant (stage.rows.read left) (stage.rows.read right) next other →
    bond (stage.rows.write next left) (stage.rows.write other right)
  code : ∀ subscriber ∈ engine.registry.subscribers, meant subscriber.id = true →
    ∀ {hook}, subscriber.Code hook → Bonded bond hook

/-- A subscriber that is found for a meant id is registered, and meant. -/
theorem found_meant {id : String} {subscriber : Subscriber σ} (found : engine.registry.get? id = some subscriber)
    (own : meant id = true) : subscriber ∈ engine.registry.subscribers ∧ meant subscriber.id = true := by
  -- A lookup gives a registered subscriber under the id that was asked for.
  have named : subscriber.id = id := by simpa using List.find?_some found
  exact ⟨List.mem_of_find?_eq_some found, by rw [named]; exact own⟩

/-- Criteria on stored subscriptions that mean no others. -/
def Narrows (criteria : FeedCriteria) (wanted : SubscriptionCriteria) : Prop :=
  ∀ row, wanted.admits row = true → criteria.admits row.id row.group = true

theorem narrows_withStatuses (statuses : List Status) : Narrows criteria (criteria.withStatuses statuses) := by
  -- Statuses are asked for in addition to what the criteria ask for.
  intro row admitted
  rw [FeedCriteria.admits_withStatuses, Bool.and_eq_true] at admitted
  exact admitted.1

theorem narrows_toSubscriptions : Narrows criteria criteria.toSubscriptions := by
  -- The criteria for rows ask for the same ids and groups.
  intro row admitted
  simpa [SubscriptionCriteria.admits, FeedCriteria.toSubscriptions, FeedCriteria.admits, anyOf] using admitted

/-- Lists of rows of which a discovery learns the same. -/
def Agree (engine : Engine σ) (criteria : FeedCriteria) (meant : String → Bool) (first second : List Subscription) :
    Prop :=
  ∀ subscriber ∈ engine.registry.subscribers, criteria.admits subscriber.id subscriber.group = true →
    (subscriber.id ∈ Rows.ids first ↔ subscriber.id ∈ Rows.ids second) ∧
      (subscriber.id ∉ Rows.ids first → meant subscriber.id = true)

/-- Where ids cover what is meant, the other ids make no difference to a discovery. -/
theorem Covers.agree {first second : List Subscription} (mine : Covers engine criteria meant first)
    (yours : Covers engine criteria meant second) (same : Rows.within meant first = Rows.within meant second) :
    Agree engine criteria meant first second := by
  -- A meant subscriber is stored on both sides or on neither, and any other one is stored on both.
  intro subscriber registered admitted
  refine ⟨?_, mine.absent subscriber registered admitted⟩
  cases own : meant subscriber.id with
  | true => rw [← Rows.mem_ids_within own, same, Rows.mem_ids_within own]
  | false =>
    -- Where it is not meant, it has a row on both sides.
    have stored : ∀ {rows}, Covers engine criteria meant rows → subscriber.id ∈ Rows.ids rows := by
      intro rows covers
      by_contra missing
      rw [covers.absent subscriber registered admitted missing] at own
      cases own
    exact iff_of_true (stored mine) (stored yours)

/-- The states of two setups that have come to the same. -/
structure Level (meant : String → Bool) (one two : Engine.SetupState) : Prop where
  even : Even meant one.unit two.unit
  latest : one.latest = two.latest
  errors : one.errors = two.errors

/-- What is stored is found, as the unit knows it. -/
theorem Hosts.find_tracks (hosted : stage.Hosts engine) (unit : WorkUnit) (wanted : SubscriptionCriteria) (system : σ) :
    unit.find engine.store wanted system = .ok (unit.trackAll (Rows.find (stage.rows.read system) wanted)) system := by
  -- A store in memory finds by filtering its rows, and fails with nothing.
  unfold WorkUnit.find
  rw [hosted.store]
  rfl

/-- A call of subscriber code. -/
theorem call_alongside {hook : Hook σ} (same : Bonded bond hook) :
    Alongside bond Eq (engine.call hook) (engine.call hook) := by
  -- The code ends in the same way on both sides, and only this end decides what the call comes to.
  intro left right related
  obtain ⟨outcome, kept⟩ := same left right related
  unfold Engine.call
  rcases result : hook left with ⟨first, after⟩
  rcases answer : hook right with ⟨second, last⟩
  simp only [result, answer] at outcome kept
  obtain rfl := outcome
  cases first with
  | done => exact ⟨rfl, kept⟩
  | failed error => exact ⟨rfl, kept⟩
  | panicked payload => cases engine.config.catchPanics <;> exact ⟨rfl, kept⟩

/-- A message that is handed to a subscriber whose code does the same. -/
theorem handle_alongside {subscriber : Subscriber σ} (same : ∀ {hook}, subscriber.Code hook → Bonded bond hook)
    (message : Message) :
    Alongside bond Eq (engine.handle subscriber message) (engine.handle subscriber message) := by
  -- Both sides select the same handlers, since the message is the same.
  have each : ∀ handler ∈ subscriber.handlersFor message.eventType, Bonded bond (handler message) := by
    intro handler member
    obtain ⟨entry, selected, rfl⟩ := List.mem_map.mp member
    exact same (.handler (List.mem_filter.mp selected).1 message)
  unfold Engine.handle
  -- The handlers are called one after another, up to the first that fails.
  generalize subscriber.handlersFor message.eventType = handlers at each ⊢
  induction handlers with
  | nil => exact .pure rfl
  | cons handler rest ih =>
    refine (call_alongside (each handler (by simp))).bind fun result _ same => ?_
    obtain rfl := same
    cases result with
    | error error => exact .pure rfl
    | ok _ => exact ih fun other member => each other (by simp [member])

section Phases

variable (hosted : stage.Hosts engine) (bonded : stage.Bond engine criteria meant bond)

include hosted bonded

/-- A report. -/
theorem Bond.note (notice : Notice) : Alongside bond (fun _ _ => True) (engine.note notice) (engine.note notice) := by
  -- Reports never fail, and the bond is one that reports do not break.
  intro left right related
  rw [hosted.note_run, hosted.note_run]
  exact ⟨trivial, bonded.observe notice related⟩

omit hosted in
/-- A message that is handed to a subscriber. -/
theorem Bond.handle {subscriber : Subscriber σ} (registered : subscriber ∈ engine.registry.subscribers)
    (own : meant subscriber.id = true) (message : Message) :
    Alongside bond Eq (engine.handle subscriber message) (engine.handle subscriber message) :=
  handle_alongside (bonded.code subscriber registered own) message

/-- A failure of a subscription. -/
theorem Bond.fail (row : Subscription) (error : HandlerError) :
    Alongside bond (fun first second => first = second ∧ first.1.id = row.id) (engine.fail row error)
      (engine.fail row error) := by
  -- A failure is a report and a change of the row, whatever the system.
  intro left right related
  rw [hosted.fail_run, hosted.fail_run]
  exact ⟨⟨rfl, rfl⟩, bonded.observe _ related⟩

omit hosted in
/-- A step on the store that a meant row takes on both sides, or on neither. -/
theorem Bond.written {write : List Subscription → Subscription → Except EngineError (List Subscription)}
    {row : Subscription} (own : meant row.id = true)
    (together : ∀ {one two}, Rows.within meant one = Rows.within meant two → ∀ stamp : Timestamp,
      Rows.Together meant one two (write one (row.markSaved stamp)) (write two (row.markSaved stamp))) :
    Alongside bond (fun first second => first = second ∧ meant first.id = true)
      (SubscriptionStore.written (SubscriptionStore.writeRows stage.rows stage.now write row))
      (SubscriptionStore.written (SubscriptionStore.writeRows stage.rows stage.now write row)) := by
  -- The stamp is the same on both sides, as the clock is, so the two steps are given the same row.
  intro left right related
  have changed := together (bonded.rows related) (stage.now left)
  unfold SubscriptionStore.written Action.ofStep SubscriptionStore.writeRows
  simp only [← bonded.now related]
  cases result : write (stage.rows.read left) (row.markSaved (stage.now left)) <;>
    cases answer : write (stage.rows.read right) (row.markSaved (stage.now left)) <;>
    simp only [result, answer, Rows.Together] at changed ⊢
  · exact ⟨congrArg _ changed, related⟩
  · exact ⟨⟨rfl, own⟩, bonded.write related changed⟩

/-- Writing a tracked subscription that is meant. -/
theorem Bond.flushRow {row : TrackedRow} (own : meant row.current.id = true) :
    Alongside bond (fun first second => first = second ∧ meant first.current.id = true)
      (WorkUnit.flushRow engine.store row) (WorkUnit.flushRow engine.store row) := by
  -- Whether a row is written, and whether it is new, is told by the row alone.
  unfold WorkUnit.flushRow
  rw [hosted.store]
  split
  · refine Alongside.bind (?_ : Alongside bond (fun first second => first = second ∧ meant first.id = true) _ _)
      fun saved _ same => ?_
    · split
      · exact bonded.written own fun same stamp => Rows.add_beside same own
      · exact bonded.written own fun same stamp => Rows.update_beside same own
    · obtain ⟨rfl, named⟩ := same
      exact .pure ⟨rfl, named⟩
  · exact .pure ⟨rfl, own⟩

/-- Writing tracked subscriptions that are entwined. -/
theorem Bond.flushRows {one two : List TrackedRow} (even : Even meant ⟨one⟩ ⟨two⟩) :
    Alongside bond (fun first second => Even meant ⟨first⟩ ⟨second⟩) (one.mapM (WorkUnit.flushRow engine.store))
      (two.mapM (WorkUnit.flushRow engine.store)) := by
  -- An idle row is left as it is.
  have idles : ∀ row : TrackedRow, row.isDirty = false → WorkUnit.flushRow engine.store row = pure row := by
    intro row clean
    rw [WorkUnit.flushRow, clean]
    rfl
  unfold WorkUnit.Even at even
  simp only at even
  induction even with
  | nil => exact .pure .nil
  | @both row one two common _ ih =>
    rw [List.mapM_cons, List.mapM_cons]
    refine (bonded.flushRow hosted common).bind fun saved _ same => ?_
    obtain ⟨rfl, named⟩ := same
    exact ih.bind fun first second rest => .pure (Entwined.both named rest)
  | @left row one two idle _ ih =>
    rw [List.mapM_cons, idles row idle.2, pure_bind, ← bind_pure (List.mapM _ two)]
    exact ih.bind fun first second rest => .pure (Entwined.left idle rest)
  | @right row one two idle _ ih =>
    rw [List.mapM_cons, idles row idle.2, pure_bind, ← bind_pure (List.mapM _ one)]
    exact ih.bind fun first second rest => .pure (Entwined.right idle rest)

/-- What is kept back is written on both sides, and nothing else is. -/
theorem Bond.flush {one two : WorkUnit} (even : Even meant one two) :
    Alongside bond (fun first second => Even meant first.2 second.2) (one.flush engine.store)
      (two.flush engine.store) :=
  (bonded.flushRows hosted even).bind fun _ _ rest => .pure rest

/-- Meant subscriptions are found on both sides. -/
theorem Bond.find {one two : WorkUnit} (even : Even meant one two) {wanted : SubscriptionCriteria}
    (narrows : Narrows criteria wanted) :
    Alongside bond (fun first second => first.1 = second.1 ∧ (∀ row ∈ first.1, meant row.id = true) ∧
      Even meant first.2 second.2) (one.find engine.store wanted) (two.find engine.store wanted) := by
  -- Looking up changes neither system, so what is found has to be compared only once.
  refine .look fun left right related =>
    ⟨_, _, hosted.find_tracks one wanted left, hosted.find_tracks two wanted right, ?_⟩
  obtain ⟨mine, yours⟩ := bonded.covers related
  -- Both find what they find among the rows that are meant.
  have own : ∀ row ∈ stage.rows.read left, wanted.admits row = true → meant row.id = true :=
    fun row member admitted => mine.stored row member (narrows row admitted)
  have other : ∀ row ∈ stage.rows.read right, wanted.admits row = true → meant row.id = true :=
    fun row member admitted => yours.stored row member (narrows row admitted)
  have same : Rows.find (stage.rows.read left) wanted = Rows.find (stage.rows.read right) wanted := by
    rw [← Rows.find_within own, bonded.rows related, Rows.find_within other]
  rw [← same]
  refine even.trackAll fun row member => ?_
  obtain ⟨present, admitted⟩ := List.mem_filter.mp member
  exact own row present admitted

/-- New subscribers are discovered on both sides. -/
theorem Bond.discover : Alongside bond (Even meant) (engine.discover criteria {}) (engine.discover criteria {}) := by
  -- Both sides look for everything that is stored, which differs in rows that are not meant; these make no difference.
  have all : ∀ rows : List Subscription, Rows.find rows {} = rows := fun rows =>
    List.filter_eq_self.mpr fun row _ => rfl
  have found : Alongside bond (fun first second => Agree engine criteria meant first.1 second.1 ∧
      Even meant first.2 second.2) (WorkUnit.find {} engine.store {}) (WorkUnit.find {} engine.store {}) := by
    refine .look fun left right related => ⟨_, _, hosted.find_tracks {} {} left, hosted.find_tracks {} {} right, ?_, ?_⟩
    · rw [all, all, Agree, WorkUnit.ids_trackAll, WorkUnit.ids_trackAll]
      exact (bonded.covers related).1.agree (bonded.covers related).2 (bonded.rows related)
    · rw [all, all]
      exact WorkUnit.Even.trackSome .nil (.of_filter (bonded.rows related))
  refine found.bind fun first second ends => ?_
  obtain ⟨agree, even⟩ := ends
  refine (Alongside.foldlM _ (fun subscriber registered one two even => ?_) even).bind fun one two even =>
    (bonded.flush hosted even).bind fun first second even => .pure even
  unfold Engine.discoverOne
  by_cases admitted : criteria.admits subscriber.id subscriber.group = true
  · obtain ⟨same, own⟩ := agree subscriber registered admitted
    by_cases known : subscriber.id ∈ Rows.ids first.1
    · rw [if_neg fun chosen => chosen.2 known, if_neg fun chosen => chosen.2 (same.mp known)]
      exact .pure even
    · rw [if_pos ⟨admitted, known⟩, if_pos ⟨admitted, fun other => known (same.mpr other)⟩]
      exact (bonded.note hosted _).bind fun _ _ _ => .pure (even.add (own known))
  · rw [if_neg fun chosen => admitted chosen.1, if_neg fun chosen => admitted chosen.1]
    exact .pure even

/-- A phase that goes through some of the subscriptions that are meant, and writes what it has changed. -/
theorem Bond.pass {β : Type} {wanted : SubscriptionCriteria} (narrows : Narrows criteria wanted)
    {step : WorkUnit → Subscription → Action σ WorkUnit} (steps : ∀ row, meant row.id = true → ∀ one two,
      Even meant one two → Alongside bond (Even meant) (step one row) (step two row))
    {rest : WorkUnit → Action σ β} {alike : β → β → Prop}
    (goes : ∀ one two, Even meant one two → Alongside bond alike (rest one) (rest two)) {one two : WorkUnit}
    (even : Even meant one two) :
    Alongside bond alike (do
      let (found, unit) ← one.find engine.store wanted
      let unit ← found.foldlM step unit
      let (_, unit) ← unit.flush engine.store
      rest unit) (do
      let (found, unit) ← two.find engine.store wanted
      let unit ← found.foldlM step unit
      let (_, unit) ← unit.flush engine.store
      rest unit) := by
  -- A phase finds, goes through what it has found, and writes; each of these goes on alike.
  refine (bonded.find hosted even narrows).bind fun first second ends => ?_
  obtain ⟨found, one⟩ := first
  obtain ⟨_, two⟩ := second
  obtain ⟨rfl, own, even⟩ := ends
  refine (Alongside.foldlM found (fun row member one two even => steps row (own row member) one two even) even).bind
    fun one two even => (bonded.flush hosted even).bind fun first second even => goes _ _ even

/-- Retries. -/
theorem Bond.retry (failedIn : List Status) {one two : WorkUnit} (even : Even meant one two) :
    Alongside bond (Even meant) (engine.retry criteria failedIn one) (engine.retry criteria failedIn two) := by
  -- Whether a row is retried is decided by the row, the clock and the strategy, which are the same on both sides.
  refine bonded.pass hosted (narrows_withStatuses _) (fun row own one two even => ?_) (fun _ _ even => .pure even) even
  unfold Engine.retryOne
  split
  · exact .pure even
  · refine Alongside.get.bind fun left right related => ?_
    rw [bonded.retries related row]
    split
    · exact (bonded.note hosted _).bind fun _ _ _ => .pure even
    · cases retried : row.retry with
      | error error => exact (bonded.note hosted _).bind fun _ _ _ => .pure even
      | ok next =>
        obtain ⟨error, -, shape⟩ := Subscription.retry_ok retried
        have named : next.id = row.id := by rw [shape]
        exact (bonded.note hosted _).bind fun _ _ _ => .pure (even.update (by rw [named]; exact own))

/-- Detachment. -/
theorem Bond.markDetached (statuses : List Status) {one two : WorkUnit} (even : Even meant one two) :
    Alongside bond (Even meant) (engine.markDetached criteria statuses one)
      (engine.markDetached criteria statuses two) := by
  -- Whether a row is detached is decided by the registry alone.
  refine bonded.pass hosted (narrows_withStatuses _) (fun row own one two even => ?_) (fun _ _ even => .pure even) even
  unfold Engine.detachOne
  split
  · exact .pure even
  · exact (bonded.note hosted _).bind fun _ _ _ => .pure (even.update own)

/-- Loading messages. -/
theorem Bond.load (asked : LogCriteria) (options : LoadOptions) :
    Alongside bond Eq (Action.ofStep (engine.source.load asked options))
      (Action.ofStep (engine.source.load asked options)) := by
  -- The log is part of what both systems have in common.
  refine .look fun left right related => ?_
  simp only [Action.ofStep, hosted.load, bonded.log related]
  exact ⟨_, _, rfl, rfl, rfl⟩

/-- The end of the log. -/
theorem Bond.latestOnce (latest : Option Nat) :
    Alongside bond Eq (engine.latestOnce latest) (engine.latestOnce latest) := by
  -- The index is looked up in the log only if it is not known yet.
  cases latest with
  | some index => exact .pure rfl
  | none =>
    refine (bonded.load hosted {} LoadOptions.latest).bind fun items _ same => ?_
    obtain rfl := same
    cases items with
    | nil => exact .pure rfl
    | cons item rest =>
      cases item with
      | ok entry => exact .pure rfl
      | error error => exact fun _ _ related => ⟨rfl, related⟩

/-- A subscription that has been set up starts. -/
theorem Bond.start {row : Subscription} (own : meant row.id = true) {one two : Engine.SetupState}
    (level : Level meant one two) : Alongside bond (Level meant) (engine.start one row) (engine.start two row) := by
  -- A row that starts now needs the end of the log, and any other one starts at once.
  unfold Engine.start
  split
  · rw [level.latest]
    refine (bonded.latestOnce hosted two.latest).bind fun index _ same => ?_
    obtain rfl := same
    exact (bonded.note hosted _).bind fun _ _ _ => .pure ⟨level.even.update own, rfl, level.errors⟩
  · exact (bonded.note hosted _).bind fun _ _ _ => .pure ⟨level.even.update own, level.latest, level.errors⟩

/-- A subscription is set up. -/
theorem Bond.setupOne {row : Subscription} (own : meant row.id = true) {one two : Engine.SetupState}
    (level : Level meant one two) :
    Alongside bond (Level meant) (engine.setupOne one row) (engine.setupOne two row) := by
  -- A row without a subscriber is passed by, and one without a hook starts at once.
  unfold Engine.setupOne
  split
  · exact .pure level
  rename_i subscriber found
  obtain ⟨registered, named⟩ := found_meant found own
  split
  · exact bonded.start hosted own level
  rename_i hook declared
  refine (call_alongside (bonded.code subscriber registered named (.setup declared))).bind fun result _ same => ?_
  obtain rfl := same
  cases result with
  | ok _ => exact (bonded.note hosted _).bind fun _ _ _ => bonded.start hosted own level
  | error error =>
    refine (bonded.fail hosted row error).bind fun failed _ same => ?_
    obtain ⟨rfl, kept⟩ := same
    exact .pure ⟨level.even.update (by rw [kept]; exact own), level.latest, by rw [level.errors]⟩

/-- The setup phase. -/
theorem Bond.setupNew {one two : WorkUnit} (even : Even meant one two) :
    Alongside bond (fun first second => first.1 = second.1 ∧ Even meant first.2 second.2)
      (engine.setupNew criteria one) (engine.setupNew criteria two) := by
  -- The phase starts from nothing in particular: no index is known yet, and nothing has failed.
  refine (bonded.find hosted even (narrows_withStatuses _)).bind fun first second ends => ?_
  obtain ⟨found, one⟩ := first
  obtain ⟨_, two⟩ := second
  obtain ⟨rfl, own, even⟩ := ends
  refine (Alongside.foldlM found (fun row member one two level => bonded.setupOne hosted (own row member) level)
    (⟨even, rfl, rfl⟩ : Level meant { unit := one } { unit := two })).bind fun one two level => ?_
  exact (bonded.flush hosted level.even).bind fun first second even => .pure ⟨level.errors, even⟩

end Phases

end Stage

end EventFeed
