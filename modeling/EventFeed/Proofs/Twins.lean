import EventFeed.Proofs.Bonds
import EventFeed.Proofs.InStep

/-! Twins: systems that look the same, and have the same rows stored but for the stamps of their last writes. What
comes before the feeding does the same on both of them, and leaves twins. -/

namespace EventFeed

open EventFeed.Action
open Subscription (unstamped)

variable {σ τ : Type}

/-- Computations that run side by side, and return, are in step. -/
theorem Action.Alongside.inStep {α β : Type} {bond : σ → σ → Prop} {alike : α → β → Prop} {one : Action σ α}
    {two : Action σ β} {left right : σ} {mine : α → σ → Prop} {yours : β → σ → Prop}
    (runs : Alongside bond alike one two) (related : bond left right) (ends : Ends one left mine)
    (other : Ends two right yours) :
    InStep one two left right fun first second after last =>
      alike first second ∧ bond after last ∧ mine first after ∧ yours second last := by
  -- That both return is known of each of them alone.
  obtain ⟨first, after, run, own⟩ := ends.run
  obtain ⟨second, last, answer, theirs⟩ := other.run
  have same := runs left right related
  rw [run, answer] at same
  exact ⟨first, second, after, last, run, answer, same.1, same.2, own, theirs⟩

namespace Stage

variable {stage : Stage σ} {engine : Engine σ} {view : σ → τ} {criteria : FeedCriteria} {left right : σ}

/-- A view of systems that leaves out what is stored, and takes in all that an engine and its subscribers go by besides:
from systems that look the same, reports and subscriber code lead to systems that look the same. A strategy for retries
may go by all of a subscription but the stamp of its last write, so that it may be one that always or never approves. -/
structure Sight (stage : Stage σ) (engine : Engine σ) (view : σ → τ) : Prop where
  write : ∀ rows system, view (stage.rows.write rows system) = view system
  log : ∀ {left right}, view left = view right → stage.log left = stage.log right
  calls : ∀ {left right}, view left = view right → stage.calls left = stage.calls right
  observe : ∀ {left right} notice, view left = view right →
    view (stage.observe notice left) = view (stage.observe notice right)
  code : ∀ subscriber ∈ engine.registry.subscribers, ∀ {hook}, subscriber.Code hook →
    Bonded (fun left right => view left = view right) hook
  retries : ∀ {left right row other}, view left = view right → row.unstamped = other.unstamped →
    engine.retries left row = engine.retries right other

/-- Systems that look the same, and have the same rows stored but for stamps. -/
structure Twins (stage : Stage σ) (view : σ → τ) (left right : σ) : Prop where
  view : view left = view right
  rows : (stage.rows.read left).map unstamped = (stage.rows.read right).map unstamped
  distinct : (Rows.ids (stage.rows.read left)).Nodup

/-- A system is the twin of itself. -/
theorem twins_self {system : σ} (distinct : (Rows.ids (stage.rows.read system)).Nodup) :
    stage.Twins view system system := ⟨rfl, rfl, distinct⟩

/-- The ids are distinct on the other side, too. -/
theorem Twins.distinctRight (twins : stage.Twins view left right) : (Rows.ids (stage.rows.read right)).Nodup :=
  Rows.ids_of_unstamped twins.rows ▸ twins.distinct

/-- Twins, and a unit of work on each side that has nothing to write. -/
def Cleared (stage : Stage σ) (view : σ → τ) (one two : WorkUnit) (left right : σ) : Prop :=
  one = .clean (stage.rows.read left) ∧ two = .clean (stage.rows.read right) ∧ stage.Twins view left right

/-- Systems that look the same, and a unit of work on each side; the drafts of both are of some known ids, and the same
but for stamps. -/
structure Drafting (stage : Stage σ) (view : σ → τ) (known : List String) (one two : WorkUnit) (left right : σ) :
    Prop where
  view : view left = view right
  drafts : ∃ mine yours, stage.Keeps one mine left ∧ stage.Keeps two yours right ∧ Rows.ids mine = known ∧
    mine.map unstamped = yours.map unstamped

section Units

variable {known : List String} {one two : WorkUnit}

/-- Units that have nothing to write draft what is stored. -/
theorem Twins.drafting (twins : stage.Twins view left right) :
    stage.Drafting view (Rows.ids (stage.rows.read left)) (.clean (stage.rows.read left))
      (.clean (stage.rows.read right)) left right :=
  ⟨twins.view, _, _, keeps_clean twins.distinct, keeps_clean twins.distinctRight, rfl, twins.rows⟩

/-- Drafts are kept while the rows stay. -/
theorem Drafting.of_rows (drafting : stage.Drafting view known one two left right) {after last : σ}
    (same : view after = view last) (mine : stage.rows.read after = stage.rows.read left)
    (yours : stage.rows.read last = stage.rows.read right) : stage.Drafting view known one two after last := by
  -- Drafts depend on the rows only.
  obtain ⟨-, drafts, others, keeps, keepsOther, ids, fields⟩ := drafting
  exact ⟨same, drafts, others, keeps.of_rows mine, keepsOther.of_rows yours, ids, fields⟩

/-- A report on both sides. -/
theorem Drafting.observe (drafting : stage.Drafting view known one two left right) (sight : stage.Sight engine view)
    (notice : Notice) :
    stage.Drafting view known one two (stage.observe notice left) (stage.observe notice right) :=
  drafting.of_rows (sight.observe notice drafting.view) (by simp) (by simp)

/-- The same change on both sides, but for the stamp. -/
theorem Drafting.update (drafting : stage.Drafting view known one two left right) {next other : Subscription}
    (own : next.id ∈ known) (same : next.unstamped = other.unstamped) :
    stage.Drafting view known (one.update next) (two.update other) left right := by
  -- Either side makes the change on its own, and what is left is that the drafts stay in step.
  obtain ⟨looks, drafts, others, keeps, keepsOther, rfl, fields⟩ := drafting
  have named := Subscription.id_of_unstamped same
  have ids := Rows.ids_of_unstamped fields
  refine ⟨looks, _, _, keeps.update own, keepsOther.update (by rwa [← named, ← ids]), ?_, ?_⟩
  · -- The draft that changes keeps its id.
    simp only [Rows.ids, List.map_map]
    refine List.map_congr_left fun draft _ => ?_
    by_cases chosen : draft.id = next.id <;> simp [chosen]
  · -- The drafts that stand opposite to each other have the same id, so both change or none does.
    refine Rows.forall₂_unstamped.mp ?_
    rw [List.forall₂_map_left_iff, List.forall₂_map_right_iff]
    refine (Rows.forall₂_unstamped.mpr fields).imp fun draft shadow alike => ?_
    have opposite : draft.id = next.id ↔ shadow.id = other.id := by
      rw [named, Subscription.id_of_unstamped alike]
    by_cases chosen : draft.id = next.id
    · rw [if_pos chosen, if_pos (opposite.mp chosen)]
      exact same
    · rw [if_neg chosen, if_neg (mt opposite.mpr chosen)]
      exact alike

/-- A flush writes rows, and leaves the view as it is. -/
theorem Sight.flush_view (sight : stage.Sight engine view) (hosted : stage.Hosts engine) (unit : WorkUnit)
    (system : σ) :
    Meets (unit.flush engine.store) system (fun _ after => view after = view system) (fun _ _ => True) := by
  -- A write changes rows only, which the view leaves out, or fails.
  have written : ∀ (write : List Subscription → Subscription → Except EngineError (List Subscription)) row between,
      Meets (SubscriptionStore.written (SubscriptionStore.writeRows stage.rows stage.now write row)) between
        (fun _ after => view after = view between) (fun _ _ => True) := by
    intro write row between
    unfold Meets SubscriptionStore.written Action.ofStep SubscriptionStore.writeRows
    cases result : write (stage.rows.read between) (row.markSaved (stage.now between)) with
    | error error => simp [result, Except.map]
    | ok next => simp [result, Except.map, sight.write]
  have row : ∀ tracked between, Meets (WorkUnit.flushRow engine.store tracked) between
      (fun _ after => view after = view between) (fun _ _ => True) := by
    intro tracked between
    unfold WorkUnit.flushRow
    rw [hosted.store]
    split
    · refine Meets.bind (?_ : Meets _ between (fun _ after => view after = view between) _) fun _ _ same =>
        Meets.pure same
      split <;> exact written _ _ _
    · exact Meets.pure rfl
  refine Meets.bind (Meets.mapM (fun _ _ between => view between = view system)
    (fun _ tracked _ between same => (row tracked between).mono fun _ _ further => further.trans same) unit.rows []
    system rfl) fun _ _ same => Meets.pure same

/-- A flush on both sides. -/
theorem Drafting.flush (drafting : stage.Drafting view known one two left right) (sight : stage.Sight engine view)
    (hosted : stage.Hosts engine) :
    InStep (one.flush engine.store) (two.flush engine.store) left right fun first second after last =>
      stage.Cleared view first.2 second.2 after last := by
  -- Either side flushes on its own, and stores what it had kept back.
  obtain ⟨looks, drafts, others, keeps, keepsOther, -, fields⟩ := drafting
  refine .of_ends ((keeps.flush hosted).also (sight.flush_view hosted one left))
    ((keepsOther.flush hosted).also (sight.flush_view hosted two right)) fun first second after last mine yours => ?_
  obtain ⟨⟨-, clean, distinct, stored, -⟩, same⟩ := mine
  obtain ⟨⟨-, cleanOther, -, storedOther, -⟩, sameOther⟩ := yours
  exact ⟨clean, cleanOther, same.trans (looks.trans sameOther.symm), stored.trans (fields.trans storedOther.symm),
    distinct⟩

end Units

/-- A report comes first on both sides. -/
theorem Hosts.note_inStep (hosted : stage.Hosts engine) {α β : Type} {notice : Notice} {next : Unit → Action σ α}
    {other : Unit → Action σ β} {post : α → β → σ → σ → Prop}
    (rest : InStep (next ()) (other ()) (stage.observe notice left) (stage.observe notice right) post) :
    InStep (engine.note notice >>= next) (engine.note notice >>= other) left right post :=
  .run_bind (hosted.note_run notice left) (hosted.note_run notice right) rest

/-- Rows that stand opposite to each other: they are the same but for stamps, and have a known id. -/
def Facing (known : List String) (row other : Subscription) : Prop :=
  row.unstamped = other.unstamped ∧ row.id ∈ known

/-- What is found on both sides stands opposite to each other. -/
theorem Twins.found (twins : stage.Twins view left right) (wanted : SubscriptionCriteria) :
    List.Forall₂ (Facing (Rows.ids (stage.rows.read left))) (Rows.find (stage.rows.read left) wanted)
      (Rows.find (stage.rows.read right) wanted) := by
  -- The rows are equal up to the stamp, one by one, and so is what is filtered from them.
  have opposite := Rows.forall₂_unstamped.mpr (Rows.find_unstamped twins.rows wanted)
  have known : ∀ row ∈ Rows.find (stage.rows.read left) wanted, row.id ∈ Rows.ids (stage.rows.read left) :=
    fun row member => Rows.id_mem_ids (List.mem_filter.mp member).1
  -- What is found comes from the rows that are stored.
  generalize Rows.find (stage.rows.read left) wanted = found at opposite known
  generalize Rows.find (stage.rows.read right) wanted = others at opposite
  induction opposite with
  | nil => exact .nil
  | cons same _ ih => exact .cons ⟨same, known _ (by simp)⟩ (ih fun row member => known row (by simp [member]))

/-- How far a discovery has come on both sides: the same rows have been added, and nothing has been written yet. -/
structure Enlisting (stage : Stage σ) (view : σ → τ) (rows others : List Subscription) (one two : WorkUnit)
    (left right : σ) : Prop where
  view : view left = view right
  left : stage.rows.read left = rows
  right : stage.rows.read right = others
  added : ∃ fresh : List Subscription, one = ⟨(WorkUnit.clean rows).rows ++ fresh.map fun draft => ⟨draft, none⟩⟩ ∧
    two = ⟨(WorkUnit.clean others).rows ++ fresh.map fun draft => ⟨draft, none⟩⟩ ∧ (Rows.ids (rows ++ fresh)).Nodup

/-- At first nothing has been added. -/
theorem Twins.enlisting (twins : stage.Twins view left right) :
    stage.Enlisting view (stage.rows.read left) (stage.rows.read right) (.clean (stage.rows.read left))
      (.clean (stage.rows.read right)) left right :=
  ⟨twins.view, rfl, rfl, [], by simp, by simp, by simpa using twins.distinct⟩

/-- A subscriber is passed over on both sides, or a row is added for it on both. -/
theorem Enlisting.next {rows others : List Subscription} {one two : WorkUnit}
    (enlisting : stage.Enlisting view rows others one two left right) (hosted : stage.Hosts engine)
    (sight : stage.Sight engine view) (ids : Rows.ids rows = Rows.ids others) (criteria : FeedCriteria)
    (subscriber : Subscriber σ) :
    InStep (engine.discoverOne criteria (Rows.ids rows) one subscriber)
      (engine.discoverOne criteria (Rows.ids others) two subscriber) left right
      (stage.Enlisting view rows others) := by
  -- Whether the subscriber is wanted and known is the same on both sides.
  unfold Engine.discoverOne
  rw [← ids]
  split
  · rename_i wanted
    obtain ⟨looks, mine, yours, fresh, rfl, rfl, apart⟩ := enlisting
    have apartOther : (Rows.ids (others ++ fresh)).Nodup := by
      rw [Rows.ids_append] at apart ⊢
      rwa [← ids]
    refine hosted.note_inStep (.pure ⟨sight.observe _ looks, by simpa using mine, by simpa using yours,
      Rows.enlist (Engine.freshSubscription subscriber) fresh, WorkUnit.add_fresh apart wanted.2,
      WorkUnit.add_fresh apartOther (ids ▸ wanted.2), ?_⟩)
    -- The row that is added is none of those that are stored.
    rw [Rows.ids_append, List.nodup_append'] at apart ⊢
    refine ⟨apart.1, Rows.distinct_enlist apart.2.1, fun id stored listed => ?_⟩
    rcases Rows.mem_ids_enlist.mp listed with old | rfl
    · exact apart.2.2 stored old
    · exact wanted.2 stored
  · exact .pure enlisting

section Phases

variable (hosted : stage.Hosts engine) (sight : stage.Sight engine view)

include hosted sight

/-- A phase that goes through some subscriptions, and writes what it has changed. -/
theorem Twins.pass (twins : stage.Twins view left right) {wanted : SubscriptionCriteria}
    {step : WorkUnit → Subscription → Action σ WorkUnit}
    (steps : ∀ known row other, Facing known row other → ∀ one two left right,
      stage.Drafting view known one two left right →
      InStep (step one row) (step two other) left right (stage.Drafting view known)) :
    InStep (do
      let (found, unit) ← (WorkUnit.clean (stage.rows.read left)).find engine.store wanted
      let unit ← found.foldlM step unit
      let (_, unit) ← unit.flush engine.store
      return unit) (do
      let (found, unit) ← (WorkUnit.clean (stage.rows.read right)).find engine.store wanted
      let unit ← found.foldlM step unit
      let (_, unit) ← unit.flush engine.store
      return unit) left right (stage.Cleared view) := by
  -- A find, a fold and a flush, each of them in step.
  refine .run_bind (hosted.find_run twins.distinct wanted) (hosted.find_run twins.distinctRight wanted) ?_
  refine (InStep.foldlM (fun row other facing one two _ _ drafting => steps _ row other facing one two _ _ drafting)
    (twins.found wanted) twins.drafting).bind fun one two _ _ drafting => ?_
  exact (drafting.flush sight hosted).bind fun _ _ _ _ cleared => .pure cleared

/-- Discovery adds the same rows on both sides. -/
theorem Twins.discover (twins : stage.Twins view left right) :
    InStep (engine.discover criteria {}) (engine.discover criteria {}) left right (stage.Cleared view) := by
  -- A fold over the subscribers, and a flush of what it has added.
  have ids := Rows.ids_of_unstamped twins.rows
  refine .run_bind (hosted.find_all_run twins.distinct) (hosted.find_all_run twins.distinctRight) ?_
  refine (InStep.foldlM (fun subscriber _ same one two _ _ enlisting => ?_) (List.forall₂_same.mpr fun _ _ => rfl)
    twins.enlisting).bind fun one two between middle enlisting => ?_
  · -- One more subscriber is looked at.
    obtain rfl := same
    exact enlisting.next hosted sight ids criteria subscriber
  · -- What was added is written on both sides.
    obtain ⟨looks, mine, yours, fresh, rfl, rfl, apart⟩ := enlisting
    have apartOther : (Rows.ids (stage.rows.read right ++ fresh)).Nodup := by
      rw [Rows.ids_append] at apart ⊢
      rwa [← ids]
    have flushed := ((keeps_clean twins.distinct).of_rows mine).flush_added hosted apart
    have flushedOther := ((keeps_clean twins.distinctRight).of_rows yours).flush_added hosted apartOther
    refine (InStep.of_ends (flushed.also (sight.flush_view hosted _ between))
      (flushedOther.also (sight.flush_view hosted _ middle)) fun _ _ _ _ first second => ?_).bind
        fun _ _ _ _ (cleared : stage.Cleared view _ _ _ _) => .pure cleared
    obtain ⟨⟨-, clean, distinct, stored, -⟩, same⟩ := first
    obtain ⟨⟨-, cleanOther, -, storedOther, -⟩, sameOther⟩ := second
    refine ⟨clean, cleanOther, same.trans (looks.trans sameOther.symm), stored.trans (.trans ?_ storedOther.symm),
      distinct⟩
    rw [List.map_append, List.map_append, twins.rows]

/-- Retries. -/
theorem Twins.retry (twins : stage.Twins view left right) (failedIn : List Status) :
    InStep (engine.retry criteria failedIn (.clean (stage.rows.read left)))
      (engine.retry criteria failedIn (.clean (stage.rows.read right))) left right (stage.Cleared view) := by
  -- A pass, whose step looks at nothing but what both rows have in common.
  refine twins.pass hosted sight fun known row other facing one two left right drafting => ?_
  obtain ⟨same, own⟩ := facing
  have alike := Subscription.alike_of_unstamped same
  unfold Engine.retryOne
  rw [alike.error]
  split
  · exact .pure drafting
  refine .get_bind ?_
  rw [sight.retries drafting.view same]
  split
  · rw [alike.id, alike.retryAttempt]
    exact hosted.note_inStep (.pure (drafting.observe sight _))
  -- Both go back, or neither can.
  have retried := Subscription.retry_unstamped same
  cases mine : row.retry <;> cases yours : other.retry <;> rw [mine, yours] at retried
  · obtain rfl := Except.error.inj retried
    rw [alike.id]
    exact hosted.note_inStep (.pure (drafting.observe sight _))
  · cases retried
  · cases retried
  · rename_i next changed
    have fields : next.unstamped = changed.unstamped := Except.ok.inj retried
    obtain ⟨_, -, shape⟩ := Subscription.retry_ok mine
    have named : next.id = row.id := by rw [shape]
    have later := Subscription.alike_of_unstamped fields
    simp only [later.id, later.status, later.retryAttempt]
    exact hosted.note_inStep (.pure ((drafting.observe sight _).update (by rwa [named]) fields))

/-- Detachment. -/
theorem Twins.markDetached (twins : stage.Twins view left right) (statuses : List Status) :
    InStep (engine.markDetached criteria statuses (.clean (stage.rows.read left)))
      (engine.markDetached criteria statuses (.clean (stage.rows.read right))) left right (stage.Cleared view) := by
  -- A pass, whose step looks at the id and the status.
  refine twins.pass hosted sight fun known row other facing one two left right drafting => ?_
  obtain ⟨same, own⟩ := facing
  have alike := Subscription.alike_of_unstamped same
  unfold Engine.detachOne
  rw [alike.id, alike.status]
  split
  · exact .pure drafting
  · refine hosted.note_inStep (.pure ((drafting.observe sight _).update own ?_))
    rw [Subscription.eq_of_unstamped same]
    rfl

/-- The end of the log. -/
theorem Sight.latestOnce (same : view left = view right) (latest : Option Nat) :
    InStep (engine.latestOnce latest) (engine.latestOnce latest) left right fun index other after last =>
      index = other ∧ after = left ∧ last = right := by
  -- Both sides have looked it up before, or both look into the same log.
  cases latest with
  | some index => exact .pure ⟨rfl, rfl, rfl⟩
  | none =>
    refine .of_ends (hosted.latestIndex_newest left) (hosted.latestIndex_newest right)
      fun index other after last mine yours => ⟨?_, mine.1, yours.1⟩
    rw [mine.2, yours.2, sight.log same]

variable (caught : engine.config.catchPanics = true)
  (behaves : ∀ subscriber ∈ engine.registry.subscribers, stage.Behaves subscriber)

omit hosted in
include caught behaves in
/-- A call of subscriber code ends alike on both sides, and leaves what is stored. -/
theorem Sight.call (same : view left = view right) {subscriber : Subscriber σ}
    (registered : subscriber ∈ engine.registry.subscribers) {hook : Hook σ} (code : subscriber.Code hook) :
    InStep (engine.call hook) (engine.call hook) left right fun result answer after last =>
      result = answer ∧ view after = view last ∧ stage.rows.read after = stage.rows.read left ∧
        stage.rows.read last = stage.rows.read right := by
  -- The two calls run side by side, and each returns, as panics are caught.
  have discreet := (behaves subscriber registered).code code
  refine ((call_alongside (sight.code subscriber registered code)).inStep same
    (ends_of_caught caught (call_meets discreet left)) (ends_of_caught caught (call_meets discreet right))).mono
    fun _ _ _ _ ends => ?_
  obtain ⟨equal, looks, mine, yours⟩ := ends
  exact ⟨equal, looks, mine.rows, yours.rows⟩

omit hosted in
include caught behaves in
/-- So does the handing over of a message. -/
theorem Sight.handle (same : view left = view right) {subscriber : Subscriber σ}
    (registered : subscriber ∈ engine.registry.subscribers) (message : Message) :
    InStep (engine.handle subscriber message) (engine.handle subscriber message) left right
      fun result answer after last => result = answer ∧ view after = view last ∧
        stage.rows.read after = stage.rows.read left ∧ stage.rows.read last = stage.rows.read right := by
  -- The two calls run side by side, and each returns, as panics are caught.
  have behaved := behaves subscriber registered
  refine ((handle_alongside (sight.code subscriber registered) message).inStep same
    (ends_of_caught caught (handle_meets behaved message left))
    (ends_of_caught caught (handle_meets behaved message right))).mono fun _ _ _ _ ends => ?_
  obtain ⟨equal, looks, mine, yours⟩ := ends
  exact ⟨equal, looks, mine.rows, yours.rows⟩

/-- The states of two setups that have come to the same, but for stamps. -/
structure Setups (stage : Stage σ) (view : σ → τ) (known : List String) (one two : Engine.SetupState)
    (left right : σ) : Prop where
  drafting : stage.Drafting view known one.unit two.unit left right
  latest : one.latest = two.latest
  errors : one.errors = two.errors

/-- A subscription that has been set up starts. -/
theorem Setups.start {known : List String} {one two : Engine.SetupState}
    (setups : stage.Setups view known one two left right) {row other : Subscription} (facing : Facing known row other) :
    InStep (engine.start one row) (engine.start two other) left right (stage.Setups view known) := by
  -- The run mode is the same on both sides, and so is the end of the log where it is looked up.
  obtain ⟨drafting, latest, errors⟩ := setups
  obtain ⟨same, own⟩ := facing
  have alike := Subscription.alike_of_unstamped same
  unfold Engine.start
  rw [alike.runMode, alike.id, latest]
  split
  · refine (sight.latestOnce hosted drafting.view two.latest).bind fun index _ _ _ ends => ?_
    obtain ⟨rfl, rfl, rfl⟩ := ends
    refine hosted.note_inStep (.pure ⟨(drafting.observe sight _).update own ?_, rfl, errors⟩)
    rw [Subscription.eq_of_unstamped same]
    rfl
  · refine hosted.note_inStep (.pure ⟨(drafting.observe sight _).update own ?_, rfl, errors⟩)
    rw [Subscription.eq_of_unstamped same]
    rfl

include caught behaves in
/-- A subscription is set up. -/
theorem Setups.setupOne {known : List String} {one two : Engine.SetupState}
    (setups : stage.Setups view known one two left right) {row other : Subscription} (facing : Facing known row other) :
    InStep (engine.setupOne one row) (engine.setupOne two other) left right (stage.Setups view known) := by
  -- Both sides are in the same case of the program, as the subscriber and the result are the same.
  have alike := Subscription.alike_of_unstamped facing.1
  unfold Engine.setupOne
  rw [alike.id]
  split
  · exact .pure setups
  rename_i subscriber found
  have registered : subscriber ∈ engine.registry.subscribers := List.mem_of_find?_eq_some found
  split
  · exact setups.start hosted sight facing
  rename_i hook declared
  refine (sight.call caught behaves setups.drafting.view registered (.setup declared)).bind
    fun result _ between middle ends => ?_
  obtain ⟨rfl, looks, mine, yours⟩ := ends
  -- The hook has ended alike on both sides, and has left the rows.
  have called : stage.Setups view known one two between middle :=
    ⟨setups.drafting.of_rows looks mine yours, setups.latest, setups.errors⟩
  cases result with
  | ok _ =>
    refine hosted.note_inStep (Setups.start hosted sight ⟨called.drafting.observe sight _, called.latest, called.errors⟩
      facing)
  | error error =>
    refine .run_bind (hosted.fail_run row error between) (hosted.fail_run other error middle) (.pure ?_)
    simp only [alike.id, alike.status, alike.position]
    exact ⟨(called.drafting.observe sight _).update facing.2 (Subscription.fail_unstamped facing.1 _), called.latest,
      by rw [called.errors]⟩

include caught behaves in
/-- The setup phase. -/
theorem Twins.setupNew (twins : stage.Twins view left right) :
    InStep (engine.setupNew criteria (.clean (stage.rows.read left)))
      (engine.setupNew criteria (.clean (stage.rows.read right))) left right fun first second after last =>
        first.1 = second.1 ∧ stage.Cleared view first.2 second.2 after last := by
  -- A find, a fold of setups and a flush, each of them in step.
  refine .run_bind (hosted.find_run twins.distinct _) (hosted.find_run twins.distinctRight _) ?_
  have setups : stage.Setups view (Rows.ids (stage.rows.read left)) { unit := .clean (stage.rows.read left) }
      { unit := .clean (stage.rows.read right) } left right := ⟨twins.drafting, rfl, rfl⟩
  have steps : ∀ row other, Facing (Rows.ids (stage.rows.read left)) row other → ∀ one two between middle,
      stage.Setups view (Rows.ids (stage.rows.read left)) one two between middle →
      InStep (engine.setupOne one row) (engine.setupOne two other) between middle (stage.Setups view _) :=
    fun _ _ facing _ _ _ _ setups => setups.setupOne hosted sight caught behaves facing
  refine (InStep.foldlM steps (twins.found _) setups).bind fun one two _ _ setups => ?_
  exact (setups.drafting.flush sight hosted).bind fun _ _ _ _ cleared => .pure ⟨setups.errors, cleared⟩

end Phases

end Stage

end EventFeed
