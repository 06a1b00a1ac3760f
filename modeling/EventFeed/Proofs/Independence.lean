import EventFeed.Proofs.Tandem
import EventFeed.Proofs.World

/-! Independence: an operation leaves alone what its criteria do not mean, and operations that are meant for different
subscriptions can change places. -/

namespace EventFeed

open EventFeed.Action

variable {σ : Type}

namespace Rows

variable {kind other : String → Bool} {one two rows : List Subscription}

/-- What is meant among rows that include all that is meant. -/
theorem within_within (narrower : ∀ id, kind id = true → other id = true) :
    within kind (within other rows) = within kind rows := by
  -- The narrower filter decides, since the wider one lets pass all that it does.
  rw [within, within, within, List.filter_filter]
  refine List.filter_congr fun row _ => ?_
  cases chosen : kind row.id with
  | false => rfl
  | true => simp [narrower row.id chosen]

/-- Rows that agree on fewer ids. -/
theorem within_narrow (narrower : ∀ id, kind id = true → other id = true) (same : within other one = within other two) :
    within kind one = within kind two := by
  rw [← within_within narrower, same, within_within narrower]

/-- Rows are the same up to their order when each of them has an id on which they agree. -/
theorem perm_of_within (agree : ∀ id, ∃ kind : String → Bool, kind id = true ∧ within kind one = within kind two) :
    one.Perm two := by
  -- A row is counted among those of a kind that its id has, and there it is counted the same.
  refine List.perm_iff_count.mpr fun row => ?_
  obtain ⟨kind, chosen, same⟩ := agree row.id
  have counted : ∀ rows : List Subscription, (within kind rows).count row = rows.count row := fun rows =>
    List.count_filter chosen
  rw [← counted one, same, counted two]

end Rows

/-- The system that an operation leaves. -/
def Operation.leave (operation : Operation) (engine : Engine σ) (system : σ) : σ :=
  ((operation.ask engine).outcome system).2

/-- How an operation ends: with an answer, or early. -/
def Operation.ending (operation : Operation) (engine : Engine σ) (system : σ) : Except Abort Answer :=
  ((operation.ask engine).outcome system).1

namespace Stage

variable {stage : Stage σ} {engine : Engine σ} {criteria : FeedCriteria} {meant : String → Bool}
  {before after system : σ}

/-- A view of systems that stays as it is whatever an engine does itself, and when it calls the code of subscribers that
are meant. -/
structure Aloof (stage : Stage σ) (engine : Engine σ) (meant : String → Bool) {τ : Type} (view : σ → τ) : Prop where
  observe : ∀ notice system, view (stage.observe notice system) = view system
  write : ∀ rows system, view (stage.rows.write rows system) = view system
  code : ∀ subscriber ∈ engine.registry.subscribers, meant subscriber.id = true →
    ∀ {hook}, subscriber.Code hook → ∀ system, view (hook system).2 = view system

/-- A system next to itself, while some rows and a view stay as they are. -/
def Framed {τ : Type} (stage : Stage σ) (meant : String → Bool) (others : List Subscription) (view : σ → τ) (seen : τ)
    (left right : σ) : Prop :=
  left = right ∧ Rows.within (fun id => !meant id) (stage.rows.read left) = others ∧ view left = seen

/-- What lies outside of some ids stays as it is while only subscriptions with those ids are meant. -/
theorem Aloof.bond {τ : Type} {view : σ → τ} (aloof : stage.Aloof engine meant view)
    (behaves : ∀ subscriber ∈ engine.registry.subscribers, stage.Behaves subscriber) {others : List Subscription}
    (covers : ∀ rows, Rows.within (fun id => !meant id) rows = others → Covers engine criteria meant rows) (seen : τ) :
    stage.Bond engine criteria meant (stage.Framed meant others view seen) := by
  -- On the left stands the system before, on the right the one that is compared with it.
  refine ⟨?_, ?_, ?_, ?_, ?_, ?_, ?_, ?_⟩
  · rintro left _ ⟨rfl, -, -⟩
    rfl
  · rintro left _ ⟨rfl, rest, -⟩
    exact ⟨covers _ rest, covers _ rest⟩
  · rintro left _ ⟨rfl, -, -⟩
    rfl
  · rintro left _ ⟨rfl, -, -⟩
    rfl
  · rintro left _ ⟨rfl, -, -⟩ row
    rfl
  · rintro left _ notice ⟨rfl, rest, same⟩
    exact ⟨rfl, by rw [stage.read_observe]; exact rest, (aloof.observe notice left).trans same⟩
  · rintro left _ next other ⟨rfl, rest, same⟩ beside
    refine ⟨by rw [beside.same rfl], ?_, (aloof.write next left).trans same⟩
    rw [stage.read_write, beside.left]
    exact rest
  · -- Code of a meant subscriber touches neither the rows nor the view.
    rintro subscriber registered own hook code left _ ⟨rfl, rest, same⟩
    refine ⟨rfl, rfl, ?_, (aloof.code subscriber registered own code left).trans same⟩
    rw [((behaves subscriber registered).code code left).rows]
    exact rest

/-- An operation leaves the rows and the views alone that lie outside of the ids that cover its criteria. -/
theorem Hosts.leave_framed {τ : Type} {view : σ → τ} (hosted : stage.Hosts engine)
    (behaves : ∀ subscriber ∈ engine.registry.subscribers, stage.Behaves subscriber)
    (aloof : stage.Aloof engine meant view) {operation : Operation}
    (covers : ∀ rows, Rows.within (fun id => !meant id) rows =
      Rows.within (fun id => !meant id) (stage.rows.read system) → Covers engine operation.criteria meant rows) :
    Rows.within (fun id => !meant id) (stage.rows.read (operation.leave engine system)) =
        Rows.within (fun id => !meant id) (stage.rows.read system) ∧
      view (operation.leave engine system) = view system :=
  (((aloof.bond behaves covers (view system)).ask hosted).outcome ⟨rfl, rfl, rfl⟩).2.2

/-- What an operation does to a row that it is not meant for: the row stays as it is, and the only one of its id, and
every view that only the code of its subscriber could change is unchanged. -/
structure Untouched (stage : Stage σ) (engine : Engine σ) (row : Subscription) (before after : σ) : Prop where
  stored : row ∈ stage.rows.read after
  alone : ∀ other ∈ stage.rows.read after, other.id = row.id → other = row
  uncalled : ∀ (τ : Type) (view : σ → τ), stage.Aloof engine (fun id => id != row.id) view → view after = view before

/-- Criteria frame an operation: whatever it is, a row that they do not mean is left as it is, and neither hooks nor
handlers of its subscriber are called. -/
theorem Hosts.leave_untouched (hosted : stage.Hosts engine)
    (behaves : ∀ subscriber ∈ engine.registry.subscribers, stage.Behaves subscriber) (operation : Operation)
    (distinct : (Rows.ids (stage.rows.read system)).Nodup) {row : Subscription} (member : row ∈ stage.rows.read system)
    (other : operation.criteria.admits row.id row.group = false) :
    stage.Untouched engine row system (operation.leave engine system) := by
  -- All other ids are taken as meant, so what is framed is this row alone.
  let meant := fun id => id != row.id
  have mem : ∀ {rows next}, next ∈ Rows.within (fun id => !meant id) rows ↔ next ∈ rows ∧ next.id = row.id := by
    intro rows next
    rw [Rows.mem_within]
    simp [meant]
  -- The row is the only one of its id, and so what is meant has another one.
  have covers : ∀ rows, Rows.within (fun id => !meant id) rows =
      Rows.within (fun id => !meant id) (stage.rows.read system) → Covers engine operation.criteria meant rows := by
    intro rows same
    constructor
    · intro next present admitted
      refine bne_iff_ne.mpr fun named => ?_
      have own := mem.mp (same ▸ mem.mpr ⟨present, named⟩)
      rw [Rows.eq_of_id distinct own.1 member own.2, other] at admitted
      cases admitted
    · intro subscriber _ _ absent
      refine bne_iff_ne.mpr fun named => absent ?_
      rw [named]
      exact Rows.id_mem_ids (mem.mp (same ▸ mem.mpr ⟨member, rfl⟩)).1
  have constant : stage.Aloof engine meant fun _ => () :=
    ⟨fun _ _ => rfl, fun _ _ => rfl, fun _ _ _ _ _ _ => rfl⟩
  have rows := (hosted.leave_framed behaves constant covers).1
  refine ⟨(mem.mp (rows ▸ mem.mpr ⟨member, rfl⟩)).1, fun next present named => ?_, fun τ view aloof =>
    (hosted.leave_framed behaves aloof covers).2⟩
  have own := mem.mp (rows ▸ mem.mpr ⟨present, named⟩)
  exact Rows.eq_of_id distinct own.1 member own.2

/-- Code of a self-contained subscriber notes its call under the id of the subscriber. -/
theorem SelfContained.code {judge : List CallNote → HandlerOutcome} {subscriber : Subscriber σ}
    (contained : stage.SelfContained judge subscriber) {hook : Hook σ} (code : subscriber.Code hook) :
    ∃ note, note.name = subscriber.id ∧ stage.Noted judge note hook := by
  -- Subscriber code is one of three kinds, and each notes itself.
  cases code with
  | setup declared => exact ⟨_, rfl, contained.setup hook declared⟩
  | teardown declared => exact ⟨_, rfl, contained.teardown hook declared⟩
  | handler member message =>
    obtain ⟨place, within, rfl⟩ := List.mem_iff_getElem.mp member
    have placed : (subscriber.handlers[place], place) ∈ subscriber.handlers.zipIdx := by
      simp [List.mem_zipIdx_iff_getElem?]
    exact ⟨_, rfl, contained.handlers _ placed message⟩

/-- Systems that are the same to subscriptions with some ids: in their rows, the log, the time and the calls. -/
structure Akin (stage : Stage σ) (meant : String → Bool) (left right : σ) : Prop where
  rows : Rows.within meant (stage.rows.read left) = Rows.within meant (stage.rows.read right)
  log : stage.log left = stage.log right
  now : stage.now left = stage.now right
  calls : ∀ id, meant id = true → callsOf id (stage.calls left) = callsOf id (stage.calls right)

namespace Akin

variable {kind : String → Bool} {left right last : σ}

theorem symm (akin : stage.Akin meant left right) : stage.Akin meant right left :=
  ⟨akin.rows.symm, akin.log.symm, akin.now.symm, fun id chosen => (akin.calls id chosen).symm⟩

theorem trans (one : stage.Akin meant left right) (two : stage.Akin meant right last) : stage.Akin meant left last :=
  ⟨one.rows.trans two.rows, one.log.trans two.log, one.now.trans two.now,
    fun id chosen => (one.calls id chosen).trans (two.calls id chosen)⟩

/-- Systems are akin to fewer subscriptions as well. -/
theorem narrow (narrower : ∀ id, kind id = true → meant id = true) (akin : stage.Akin meant left right) :
    stage.Akin kind left right :=
  ⟨Rows.within_narrow narrower akin.rows, akin.log, akin.now, fun id chosen => akin.calls id (narrower id chosen)⟩

end Akin

/-- Two operations can change places: each of them ends as it would have ended without the other one before it, every
subscriber is called in the same order, and the same rows are left, up to their order. -/
structure Commute (stage : Stage σ) (engine : Engine σ) (one two : Operation) (system : σ) : Prop where
  first : one.ending engine (two.leave engine system) = one.ending engine system
  second : two.ending engine (one.leave engine system) = two.ending engine system
  calls : ∀ id, callsOf id (stage.calls (two.leave engine (one.leave engine system))) =
    callsOf id (stage.calls (one.leave engine (two.leave engine system)))
  rows : (stage.rows.read (two.leave engine (one.leave engine system))).Perm
    (stage.rows.read (one.leave engine (two.leave engine system)))

/-- Whether an id is one of a list. -/
def listed (ids : List String) (id : String) : Bool := decide (id ∈ ids)

/-- The ids of criteria cover what they mean, whatever rows there are. -/
theorem covers_listed {ids : List String} (named : criteria.ids = some ids) (rows : List Subscription) :
    Covers engine criteria (listed ids) rows := by
  -- Whatever the criteria admit has one of the ids that they name.
  have own : ∀ id group, criteria.admits id group = true → listed ids id = true := by
    intro id group admitted
    rw [FeedCriteria.admits, named, Bool.and_eq_true] at admitted
    exact admitted.1
  exact ⟨fun row _ admitted => own _ _ admitted, fun subscriber _ admitted _ => own _ _ admitted⟩

section Calm

variable {verdict : String → List CallNote → HandlerOutcome} {strategy : Timestamp → Subscription → Bool}
  (contained : ∀ subscriber ∈ engine.registry.subscribers, stage.SelfContained (verdict subscriber.id) subscriber)
  (still : stage.Aloof engine (fun _ => true) fun system => (stage.log system, stage.now system))
  (timed : ∀ system row, engine.retries system row = strategy (stage.now system) row)

include contained in
/-- The calls of a subscriber that is not meant are such a view. -/
theorem calls_aloof {id : String} (foreign : meant id = false) :
    stage.Aloof engine meant fun system => callsOf id (stage.calls system) := by
  -- Code of a meant subscriber notes calls under its own id, which is another one.
  refine ⟨fun notice system => by simp, fun rows system => by simp,
    fun subscriber registered own hook code system => ?_⟩
  obtain ⟨note, named, noted⟩ := (contained subscriber registered).code code
  have apart : ∀ made ∈ [note], made.name = subscriber.id := by simpa using named
  rw [noted.calls, callsOf_append, callsOf_other apart (WorkUnit.ne_of_meant own foreign).symm, List.append_nil]

include contained still timed in
/-- Systems that are akin remain so while only subscriptions with those ids are meant. -/
theorem akin_bond (covers : ∀ rows, Covers engine criteria meant rows) :
    stage.Bond engine criteria meant (stage.Akin meant) := by
  -- The log and the clock stand still, so only rows and calls need a closer look.
  have observed := fun notice system => Prod.mk.inj (still.observe notice system)
  have written := fun rows system => Prod.mk.inj (still.write rows system)
  refine ⟨Akin.rows, fun _ => ⟨covers _, covers _⟩, Akin.log, Akin.now, fun akin row => ?_, fun notice akin => ?_,
    fun akin beside => ?_, fun subscriber registered own hook code left right akin => ?_⟩
  · rw [timed, timed, akin.now]
  · refine ⟨by simpa using akin.rows, by simpa using akin.log, ?_, by simpa using akin.calls⟩
    rw [(observed notice _).2, (observed notice _).2, akin.now]
  · refine ⟨by simpa using beside.shared, by simpa using akin.log, ?_, by simpa using akin.calls⟩
    rw [(written _ _).2, (written _ _).2, akin.now]
  · -- Code of a meant subscriber looks at its own calls, and adds to them.
    obtain ⟨note, named, noted⟩ := (contained subscriber registered).code code
    obtain ⟨log, now⟩ := Prod.mk.inj (still.code subscriber registered rfl code left)
    obtain ⟨sameLog, sameNow⟩ := Prod.mk.inj (still.code subscriber registered rfl code right)
    refine ⟨by rw [noted.outcome, noted.outcome, named, akin.calls _ own], ?_, by rw [log, sameLog, akin.log],
      by rw [now, sameNow, akin.now], fun id chosen => ?_⟩
    · rw [(noted.onward left).rows, (noted.onward right).rows, akin.rows]
    · rw [noted.calls, noted.calls, callsOf_append, callsOf_append, akin.calls id chosen]

variable (hosted : stage.Hosts engine) {ids : List String} {operation : Operation}
  (named : operation.criteria.ids = some ids)

include hosted named contained still

/-- An operation that is meant for some ids leaves a system that is akin to all the others. -/
theorem Hosts.leave_akin (system : σ) :
    stage.Akin (fun id => !listed ids id) (operation.leave engine system) system := by
  -- An operation is framed twice: for the rows with log and clock, and for the calls of each other subscriber.
  have behaves : ∀ subscriber ∈ engine.registry.subscribers, stage.Behaves subscriber :=
    fun subscriber registered => (contained subscriber registered).behaves
  have calm : stage.Aloof engine (listed ids) fun system => (stage.log system, stage.now system) :=
    ⟨still.observe, still.write, fun subscriber registered _ => still.code subscriber registered rfl⟩
  obtain ⟨rows, same⟩ := hosted.leave_framed behaves calm fun rows _ => covers_listed named rows
  obtain ⟨log, now⟩ := Prod.mk.inj same
  refine ⟨rows, log, now, fun id foreign => ?_⟩
  exact (hosted.leave_framed behaves (calls_aloof contained (by simpa using foreign)) fun rows _ =>
    covers_listed named rows).2

include timed in
/-- On systems that are akin, an operation ends in the same way, and leaves systems that are akin. -/
theorem Hosts.leave_alike {left right : σ} (akin : stage.Akin (listed ids) left right) :
    operation.ending engine left = operation.ending engine right ∧
      stage.Akin (listed ids) (operation.leave engine left) (operation.leave engine right) :=
  ((akin_bond contained still timed (covers_listed named)).ask hosted).outcome akin

end Calm

/-- Criteria separate operations. Whatever an operation is, a row that its criteria do not mean stays as it is, and
nothing of its subscriber is called. And operations whose criteria name different ids can change places, where the clock
stands still, nothing is appended and no subscriber depends on the calls of another one. -/
theorem Hosts.criteria_separate (hosted : stage.Hosts engine)
    (behaves : ∀ subscriber ∈ engine.registry.subscribers, stage.Behaves subscriber) :
    (∀ (operation : Operation) (system : σ), (Rows.ids (stage.rows.read system)).Nodup →
      ∀ row ∈ stage.rows.read system, operation.criteria.admits row.id row.group = false →
        stage.Untouched engine row system (operation.leave engine system)) ∧
      ∀ (verdict : String → List CallNote → HandlerOutcome) (strategy : Timestamp → Subscription → Bool),
        (∀ subscriber ∈ engine.registry.subscribers, stage.SelfContained (verdict subscriber.id) subscriber) →
        stage.Aloof engine (fun _ => true) (fun system => (stage.log system, stage.now system)) →
        (∀ system row, engine.retries system row = strategy (stage.now system) row) →
        ∀ (one two : Operation) (mine yours : List String), one.criteria.ids = some mine →
          two.criteria.ids = some yours → mine.Disjoint yours → ∀ system, stage.Commute engine one two system := by
  -- The first half is the frame, and the second one compares both orders through the ids that are named.
  refine ⟨fun operation system distinct row member other =>
    hosted.leave_untouched behaves operation distinct member other,
    fun verdict strategy contained still timed one two mine yours own other disjoint system => ?_⟩
  -- What lies in one of the lists lies outside of the other one.
  have mineOnly : ∀ id, listed mine id = true → (!listed yours id) = true := by
    intro id chosen
    simpa [listed] using disjoint (of_decide_eq_true chosen)
  have yoursOnly : ∀ id, listed yours id = true → (!listed mine id) = true := by
    intro id chosen
    simpa [listed] using fun also => disjoint also (of_decide_eq_true chosen)
  have before : stage.Akin (fun id => !listed mine id) (one.leave engine system) system :=
    hosted.leave_akin contained still own system
  have beforeOther : stage.Akin (fun id => !listed yours id) (two.leave engine system) system :=
    hosted.leave_akin contained still other system
  have after : stage.Akin (fun id => !listed yours id) (two.leave engine (one.leave engine system))
      (one.leave engine system) := hosted.leave_akin contained still other _
  have afterOther : stage.Akin (fun id => !listed mine id) (one.leave engine (two.leave engine system))
      (two.leave engine system) := hosted.leave_akin contained still own _
  obtain ⟨first, mineLast⟩ := hosted.leave_alike contained still timed own (beforeOther.narrow mineOnly)
  obtain ⟨second, yoursLast⟩ := hosted.leave_alike contained still timed other (before.narrow yoursOnly)
  -- Each id is in one of the lists or in neither, and in each case both orders leave systems that are akin.
  have akin : ∀ id, ∃ kind : String → Bool, kind id = true ∧ stage.Akin kind
      (two.leave engine (one.leave engine system)) (one.leave engine (two.leave engine system)) := by
    intro id
    cases isMine : listed mine id with
    | true => exact ⟨listed mine, isMine, (after.narrow mineOnly).trans mineLast.symm⟩
    | false =>
      cases isYours : listed yours id with
      | true => exact ⟨listed yours, isYours, yoursLast.trans (afterOther.narrow yoursOnly).symm⟩
      | false =>
        have outside : ∀ id, (!listed mine id && !listed yours id) = true →
            (!listed mine id) = true ∧ (!listed yours id) = true := fun id chosen => Bool.and_eq_true_iff.mp chosen
        refine ⟨fun id => !listed mine id && !listed yours id, by simp [isMine, isYours], ?_⟩
        exact ((after.narrow fun id chosen => (outside id chosen).2).trans
          (before.narrow fun id chosen => (outside id chosen).1)).trans
            ((afterOther.narrow fun id chosen => (outside id chosen).1).trans
              (beforeOther.narrow fun id chosen => (outside id chosen).2)).symm
  refine ⟨first, second, fun id => ?_, Rows.perm_of_within fun id => ?_⟩
  · obtain ⟨kind, chosen, same⟩ := akin id
    exact same.calls id chosen
  · obtain ⟨kind, chosen, same⟩ := akin id
    exact ⟨kind, chosen, same.rows⟩

end Stage

namespace World

/-- No reacting subscriber appends anything or turns the clock. -/
theorem pair_still (retry : RetryStrategy) (config : EngineConfig) :
    stage.Aloof (feeder pair retry config) (fun _ => true) fun world => (stage.log world, stage.now world) := by
  -- All code of theirs notes its call and nothing else.
  refine ⟨fun _ _ => rfl, fun _ _ => rfl, fun subscriber registered _ hook code world => ?_⟩
  have shape : ∃ judge, subscriber = reacting subscriber.id judge := by
    rcases List.mem_pair.mp registered with rfl | rfl <;> exact ⟨_, rfl⟩
  obtain ⟨judge, shape⟩ := shape
  rw [shape] at code
  cases code with
  | setup declared =>
    obtain rfl := Option.some.inj declared
    rfl
  | teardown declared => cases declared
  | handler member message =>
    obtain rfl := List.mem_singleton.mp member
    rfl

/-- Two messages, of which an active steady subscription has none behind it. -/
def waiting : World := { telling ["a", "b"] with rows := [{ id := "steady", status := .active }] }

/-- A boot of the shaky subscriber leaves the steady subscription alone. And two boots, of one subscriber each, can
change places: only the order of the rows tells which was the first. -/
theorem waiting_criteria_separate :
    stage.Untouched (feeder pair .always) { id := "steady", status := .active } waiting
        ((Operation.boot { ids := some ["shaky"] } none).leave (feeder pair .always) waiting) ∧
      stage.Commute (feeder pair .always) (.boot { ids := some ["steady"] } none) (.boot { ids := some ["shaky"] } none)
        (telling ["a", "b"]) ∧
      Rows.ids (stage.rows.read ((Operation.boot { ids := some ["steady"] } none).leave (feeder pair .always)
        ((Operation.boot { ids := some ["shaky"] } none).leave (feeder pair .always) (telling ["a", "b"])))) =
          ["shaky", "steady"] := by
  have separate := (hosts pair .always {}).criteria_separate
    fun subscriber member => (pair_contained subscriber member).behaves
  exact ⟨separate.1 _ _ (by decide +kernel) _ (by decide +kernel) (by decide +kernel),
    separate.2 verdict (fun time row => RetryStrategy.always.approves time row) pair_contained (pair_still .always {})
      (fun _ _ => rfl) _ _ ["steady"] ["shaky"] rfl rfl (by simp) _, by decide +kernel⟩

end World

end EventFeed
