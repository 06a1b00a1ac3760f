import EventFeed.Proofs.Tallies

/-! Endurance: what outlasts subscriber code, too, and so the setup of subscriptions and the handing over of
messages. -/

namespace EventFeed

open EventFeed.Action

variable {σ : Type}

/-- Whether a report tells that a message is handed over, or that it was handled. -/
def Notice.delivers : Notice → Bool
  | dispatching .. | handled .. => true
  | _ => false

/-- No routine report tells of messages. -/
theorem Notice.delivers_of_routine {notice : Notice} (routine : notice.routine = true) : notice.delivers = false := by
  cases notice <;> first | rfl | cases routine

namespace Stage

variable {stage : Stage σ} {engine : Engine σ} {admits : Notice → Prop} {holds : σ → Prop}

/-- What endures the work of an engine: it outlasts writes, whatever subscriber code may do, and some reports. -/
structure Enduring (stage : Stage σ) (admits : Notice → Prop) (holds : σ → Prop) : Prop where
  observe : ∀ {notice system}, admits notice → holds system → holds (stage.observe notice system)
  write : ∀ {rows system}, holds system → holds (stage.rows.write rows system)
  onward : ∀ {before after}, stage.Onward before after → holds before → holds after

/-- Since a beginning, every report keeps a rule. -/
def Reports (stage : Stage σ) (rule : Notice → Prop) (begun system : σ) : Prop :=
  ∃ notices, stage.journal system = stage.journal begun ++ notices ∧ ∀ notice ∈ notices, rule notice

/-- At the beginning nothing has been reported. -/
theorem reports_begin (rule : Notice → Prop) (begun : σ) : stage.Reports rule begun begun := ⟨[], by simp⟩

/-- Reports go on to keep a rule while each further one keeps it. -/
theorem reports_enduring (rule : Notice → Prop) (begun : σ) : stage.Enduring rule (stage.Reports rule begun) where
  observe := by
    -- Only reports add to what the rule is about.
    intro notice system lawful reports
    obtain ⟨notices, journal, kept⟩ := reports
    refine ⟨notices ++ [notice], by simp [journal], fun other member => ?_⟩
    rcases List.mem_append.mp member with old | new
    · exact kept other old
    · rw [List.mem_singleton.mp new]
      exact lawful
  write reports := by simpa [Reports] using reports
  onward moved reports := by
    obtain ⟨notices, journal, kept⟩ := reports
    exact ⟨notices, moved.journal.trans journal, kept⟩

section Work

variable (hosted : stage.Hosts engine) (enduring : stage.Enduring admits holds)

include enduring in
/-- What endures outlasts the keeping of subscriptions in order, when it admits the reports of it. -/
theorem Enduring.lasting (others : ∀ notice, notice.delivers = false → admits notice) : stage.Lasting holds :=
  ⟨fun routine held => enduring.observe (others _ (Notice.delivers_of_routine routine)) held,
    fun held => enduring.write held⟩

include enduring in
/-- A call of subscriber code. -/
theorem call_outlasts {hook : Hook σ} (discreet : stage.Discreet hook) : Outlasts holds (engine.call hook) :=
  fun system held => (call_meets discreet system).weaken (fun _ _ moved => enduring.onward moved held)
    fun _ _ _ => trivial

include enduring in
/-- The handing over of a message. -/
theorem handle_outlasts {subscriber : Subscriber σ} (behaves : stage.Behaves subscriber) (message : Message) :
    Outlasts holds (engine.handle subscriber message) :=
  fun system held => (handle_meets behaves message system).weaken (fun _ _ moved => enduring.onward moved held)
    fun _ _ _ => trivial

include hosted enduring

/-- A report that is admitted. -/
theorem Hosts.note_endures {notice : Notice} (lawful : admits notice) : Outlasts holds (engine.note notice) :=
  fun system held => Meets.of_run (hosted.note_run notice system) (enduring.observe lawful held)

/-- The report of a failure. -/
theorem Hosts.fail_endures {row : Subscription} {error : HandlerError}
    (lawful : admits (.failed row.id row.status row.position (.ofHandler error))) :
    Outlasts holds (engine.fail row error) :=
  fun system held => Meets.of_run (hosted.fail_run row error system) (enduring.observe lawful held)

variable (others : ∀ notice, notice.delivers = false → admits notice)

include others

/-- The start of a subscription. -/
theorem Hosts.start_endures (state : Engine.SetupState) (row : Subscription) :
    Outlasts holds (engine.start state row) := by
  -- A row that starts now needs the end of the log, and any other one starts at once.
  unfold Engine.start
  split
  · -- The end of the log is looked up first, which leaves the system as it is.
    have looked : Outlasts holds (engine.latestOnce state.latest) := fun system held =>
      Meets.of_run (hosted.latestOnce_run state.latest system) held
    exact looked.bind fun index => (hosted.note_endures enduring (others _ rfl)).bind fun _ => outlasts_pure _
  · exact (hosted.note_endures enduring (others _ rfl)).bind fun _ => outlasts_pure _

variable (behaves : ∀ subscriber ∈ engine.registry.subscribers, stage.Behaves subscriber)

include behaves

/-- The setup of one subscription. -/
theorem Hosts.setupOne_endures (state : Engine.SetupState) (row : Subscription) :
    Outlasts holds (engine.setupOne state row) := by
  -- Without a subscriber nothing is done, and without a hook the row starts at once.
  unfold Engine.setupOne
  split
  · exact outlasts_pure _
  rename_i subscriber known
  split
  · exact hosted.start_endures enduring others state row
  rename_i hook declared
  -- The hook is called, and then the subscription fails or starts.
  have discreet := (behaves subscriber (List.mem_of_find?_eq_some known)).setup hook declared
  refine (call_outlasts enduring discreet).bind fun result => ?_
  cases result with
  | error error => exact (hosted.fail_endures enduring (others _ rfl)).bind fun _ => outlasts_pure _
  | ok _ =>
    exact (hosted.note_endures enduring (others _ rfl)).bind fun _ => hosted.start_endures enduring others state row

/-- The setup phase. -/
theorem Hosts.setupNew_endures (criteria : FeedCriteria) (unit : WorkUnit) :
    Outlasts holds (engine.setupNew criteria unit) :=
  (hosted.find_outlasts unit _).bind fun _ =>
    (outlasts_foldlM (fun state row => hosted.setupOne_endures enduring others behaves state row) _ _).bind
      fun state => (hosted.flush_outlasts (enduring.lasting others) state.unit).bind fun _ => outlasts_pure _

end Work

end Stage

end EventFeed
