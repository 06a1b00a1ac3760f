import EventFeed.Proofs.Readings

/-! Whatever an engine is asked to do is a sequence of deeds, and so a sequence of small steps on its
subscriptions. -/

namespace EventFeed

open EventFeed.Action
open Subscription (unstamped)

namespace Stage

variable {σ : Type} {stage : Stage σ} {engine : Engine σ} {operation : Operation} {first : Chronicle}
  {loaded : List Nat} {criteria : FeedCriteria} {limit : Option Nat} {system : σ}

/-- Every operation starts with discovery, under the lock of the store. -/
theorem Hosts.discovering_enters {α : Type} (hosted : stage.Hosts engine)
    (entered : stage.Entered engine operation first loaded system) {rest : WorkUnit → Action σ α}
    {ok : α → σ → Prop}
    (meets : ∀ after, stage.Entered engine operation first loaded after →
      Meets (rest (.clean (stage.rows.read after))) after ok (stage.Severed engine operation first)) :
    Meets (engine.store.guarded do
      let unit ← engine.discover criteria {}
      rest unit) system ok (stage.Severed engine operation first) := by
  -- The unit that discovery leaves is clean.
  apply hosted.guarded_meets
  apply Meets.bind (hosted.discover_enters entered).meets
  intro unit after ends
  obtain ⟨rfl, entered⟩ := ends
  exact meets after entered

/-- Catching up is a sequence of deeds. -/
theorem Hosts.boot_enters (hosted : stage.Hosts engine)
    (behaves : ∀ subscriber ∈ engine.registry.subscribers, stage.Behaves subscriber)
    (entered : stage.Entered engine (.boot criteria limit) first loaded system) :
    Meets (engine.boot criteria limit) system
      (fun _ after => ∃ loaded, stage.Entered engine (.boot criteria limit) first loaded after)
      (stage.Severed engine (.boot criteria limit) first) := by
  -- Each phase goes on from the rows that the one before it has stored.
  refine hosted.discovering_enters entered fun one entered => ?_
  apply Meets.bind (hosted.retry_enters entered).meets
  intro unit two ends
  obtain ⟨rfl, entered⟩ := ends
  apply Meets.bind (hosted.markDetached_enters entered).meets
  intro unit three ends
  obtain ⟨rfl, entered⟩ := ends
  apply Meets.bind (hosted.setupNew_enters behaves rfl entered)
  intro result four ends
  obtain ⟨errors, unit⟩ := result
  obtain ⟨rfl, entered⟩ := ends
  apply Meets.run_bind (hosted.targets_run entered.distinct)
  have fed : (Operation.boot criteria limit).fed = some .booting := rfl
  exact hosted.feed_enters behaves fed rfl rfl
    (fun loaded row between status through => hosted.caughtUp_closes fed status through) entered

/-- Keeping up is a sequence of deeds. -/
theorem Hosts.run_enters (hosted : stage.Hosts engine)
    (behaves : ∀ subscriber ∈ engine.registry.subscribers, stage.Behaves subscriber)
    (entered : stage.Entered engine (.run criteria limit) first loaded system) :
    Meets (engine.run criteria limit) system
      (fun _ after => ∃ loaded, stage.Entered engine (.run criteria limit) first loaded after)
      (stage.Severed engine (.run criteria limit) first) := by
  -- There is no setup, and the end of the log is not the end of a subscription that keeps up.
  refine hosted.discovering_enters entered fun one entered => ?_
  apply Meets.bind (hosted.retry_enters entered).meets
  intro unit two ends
  obtain ⟨rfl, entered⟩ := ends
  apply Meets.bind (hosted.markDetached_enters entered).meets
  intro unit three ends
  obtain ⟨rfl, entered⟩ := ends
  apply Meets.run_bind (hosted.targets_run entered.distinct)
  have fed : (Operation.run criteria limit).fed = some .active := rfl
  exact hosted.feed_enters behaves fed rfl rfl
    (fun loaded row between status through => hosted.keptUp_closes fed status through) entered

/-- The failure of a teardown hook is reported, and has no consequences. -/
theorem Hosts.teardownFailure_enters (hosted : stage.Hosts engine) (row : Subscription) (error : HandlerError)
    (entered : stage.Entered engine operation first loaded system) :
    Ends (engine.teardownFailure row error) system
      fun _ after => stage.rows.read after = stage.rows.read system ∧
        stage.Entered engine operation first loaded after :=
  hosted.note_meets (Meets.pure ⟨stage.read_observe _ _, entered.observe rfl⟩)

/-- A teardown hook is run, and only how it ended is reported. -/
theorem Hosts.teardownOne_enters (hosted : stage.Hosts engine)
    (behaves : ∀ subscriber ∈ engine.registry.subscribers, stage.Behaves subscriber)
    (failures : List SubscriptionFailure) (row : Subscription)
    (entered : stage.Entered engine operation first loaded system) :
    Meets (engine.teardownOne failures row) system
      (fun _ after => stage.Entered engine operation first loaded after)
      (stage.Severed engine operation first) := by
  -- Whether there is a subscriber with a hook decides what is done.
  unfold Engine.teardownOne
  split
  · -- A subscription without a subscriber is reported only.
    exact hosted.note_meets (Meets.pure (entered.observe rfl))
  rename_i subscriber known
  split
  · -- So is a subscriber without a hook.
    exact hosted.note_meets (Meets.pure (entered.observe rfl))
  rename_i hook declared
  -- Whatever the hook returns, its subscription stays as it is.
  have discreet := (behaves subscriber (List.mem_of_find?_eq_some known)).teardown hook declared
  refine ((call_meets discreet system).weaken (fun _ _ moved => moved) fun _ _ early =>
    ⟨early.1, loaded, _, (entered.onward early.2).recorded⟩).bind fun result middle moved => ?_
  cases result with
  | ok _ => exact hosted.note_meets (Meets.pure ((entered.onward moved).observe rfl))
  | error error =>
    apply Meets.bind (hosted.teardownFailure_enters row error (entered.onward moved)).meets
    exact fun failure after ends => Meets.pure ends.2

/-- Tearing down reports, and does nothing to subscriptions. -/
theorem Hosts.teardown_enters (hosted : stage.Hosts engine)
    (behaves : ∀ subscriber ∈ engine.registry.subscribers, stage.Behaves subscriber)
    (entered : stage.Entered engine operation first loaded system) :
    Meets (engine.teardown criteria) system
      (fun _ after => stage.Entered engine operation first loaded after)
      (stage.Severed engine operation first) := by
  -- The hooks are run one after another.
  refine hosted.discovering_enters entered fun one entered => ?_
  apply Meets.run_bind (hosted.find_run entered.distinct _)
  exact Meets.foldlM (fun _ _ between => stage.Entered engine operation first loaded between)
    (fun failures row rest between entered => hosted.teardownOne_enters behaves failures row entered) _ _ _
    entered

/-- The teardown hook of a subscription that is removed is run, if there is one. -/
theorem Hosts.farewell_enters (hosted : stage.Hosts engine)
    (behaves : ∀ subscriber ∈ engine.registry.subscribers, stage.Behaves subscriber) (row : Subscription)
    (entered : stage.Entered engine operation first loaded system) :
    Meets (engine.farewell row) system
      (fun _ after => stage.rows.read after = stage.rows.read system ∧
        stage.Entered engine operation first loaded after)
      (stage.Severed engine operation first) := by
  -- Whether there is a hook decides what is done.
  unfold Engine.farewell
  split
  · -- Without a hook there is nothing to do.
    exact Meets.pure ⟨rfl, entered⟩
  rename_i hook declared
  obtain ⟨subscriber, known, declares⟩ := Option.bind_eq_some_iff.mp declared
  -- A failure of the hook is reported, and does not save the subscription.
  have discreet := (behaves subscriber (List.mem_of_find?_eq_some known)).teardown hook declares
  refine ((call_meets discreet system).weaken (fun _ _ moved => moved) fun _ _ early =>
    ⟨early.1, loaded, _, (entered.onward early.2).recorded⟩).bind fun result middle moved => ?_
  cases result with
  | ok _ => exact Meets.pure ⟨moved.rows, entered.onward moved⟩
  | error error =>
    apply Meets.bind (hosted.teardownFailure_enters row error (entered.onward moved)).meets
    exact fun failure after ends => Meets.pure ⟨ends.1.trans moved.rows, ends.2⟩

/-- A subscription that is meant is deleted after its farewell, and no other one. -/
theorem Hosts.removeOne_enters (hosted : stage.Hosts engine)
    (behaves : ∀ subscriber ∈ engine.registry.subscribers, stage.Behaves subscriber)
    (state : List SubscriptionFailure × WorkUnit) {row : Subscription}
    (member : row ∈ stage.rows.read system) (meant : criteria.admits row.id row.group = true)
    (entered : stage.Entered engine (.remove criteria) first loaded system) :
    Meets (engine.removeOne state row) system
      (fun _ after => stage.rows.read after = Rows.remove (stage.rows.read system) row.id ∧
        stage.Entered engine (.remove criteria) first loaded after)
      (stage.Severed engine (.remove criteria) first) := by
  -- The farewell leaves the rows, so what is removed is the row that was found.
  refine (hosted.farewell_enters behaves row entered).bind fun failures middle ends => ?_
  obtain ⟨rows, entered⟩ := ends
  refine Meets.run_bind (hosted.remove_run state.2 row middle) (hosted.note_meets (Meets.pure ⟨by simp [rows], ?_, ?_⟩))
  · -- The rows that are left have distinct ids still.
    rw [stage.read_observe, stage.read_write]
    exact entered.distinct.sublist (List.filter_sublist.map Subscription.id)
  · -- The removal is a step of its own.
    have step := Chronicle.Leads.step entered.recorded (.remove rfl (rows ▸ member) meant)
    simpa [Recorded, chronicle] using step

/-- Removing subscriptions deletes those that are meant. -/
theorem Hosts.remove_enters (hosted : stage.Hosts engine)
    (behaves : ∀ subscriber ∈ engine.registry.subscribers, stage.Behaves subscriber)
    (entered : stage.Entered engine (.remove criteria) first loaded system) :
    Meets (engine.remove criteria) system
      (fun _ after => stage.Entered engine (.remove criteria) first loaded after)
      (stage.Severed engine (.remove criteria) first) := by
  -- What is found is removed from the store, so the unit has nothing to write.
  refine hosted.discovering_enters entered fun one entered => ?_
  apply Meets.run_bind (hosted.find_run entered.distinct _)
  -- The subscriptions are deleted one after another: those that are left are meant, and stored still.
  refine (Meets.foldlM (fun _ left between =>
    (∀ row ∈ left, row ∈ stage.rows.read between ∧ criteria.admits row.id row.group = true) ∧
    (Rows.ids left).Nodup ∧ stage.Entered engine (.remove criteria) first loaded between) ?_ _ _ _
    ⟨fun row found => ?_, ?_, entered⟩).bind fun state after ends => Meets.pure ends.2.2
  · intro state row rest between ends
    obtain ⟨chosen, distinct, entered⟩ := ends
    obtain ⟨foreign, distinct⟩ := List.nodup_cons.mp distinct
    obtain ⟨member, meant⟩ := chosen row (by simp)
    refine (hosted.removeOne_enters behaves state member meant entered).mono fun state after ends => ?_
    obtain ⟨rows, entered⟩ := ends
    refine ⟨fun other left => ?_, distinct, entered⟩
    obtain ⟨present, meant⟩ := chosen other (by simp [left])
    have different : other.id ≠ row.id := fun same => foreign (same ▸ Rows.id_mem_ids left)
    exact ⟨rows ▸ List.mem_filter.mpr ⟨present, by simpa using different⟩, meant⟩
  · obtain ⟨present, chosen⟩ := List.mem_filter.mp found
    exact ⟨present, by
      simpa [FeedCriteria.toSubscriptions, SubscriptionCriteria.admits, FeedCriteria.admits, anyOf] using chosen⟩
  · exact entered.distinct.sublist (List.filter_sublist.map Subscription.id)

/-- Going back to work is a sequence of deeds. -/
theorem Hosts.reactivate_enters (hosted : stage.Hosts engine)
    (entered : stage.Entered engine (.reactivate criteria) first loaded system) :
    Meets (engine.reactivate criteria) system
      (fun _ after => stage.Entered engine (.reactivate criteria) first loaded after)
      (stage.Severed engine (.reactivate criteria) first) := by
  -- Only stopped subscriptions are found.
  refine hosted.discovering_enters entered fun one entered => Ends.meets ?_
  refine hosted.phase_enters (fun unit row drafts between member chosen keeps recorded => ?_) entered
    fun count after entered => Meets.pure entered
  obtain ⟨meant, status⟩ := admitted_of_withStatuses chosen
  exact hosted.reactivateOne_conveys member rfl meant status keeps recorded

/-- Stopping subscriptions is a sequence of deeds. -/
theorem Hosts.pause_enters (hosted : stage.Hosts engine)
    (entered : stage.Entered engine (.pause criteria) first loaded system) :
    Meets (engine.pause criteria) system
      (fun _ after => stage.Entered engine (.pause criteria) first loaded after)
      (stage.Severed engine (.pause criteria) first) := by
  -- Subscriptions that stand still already are not found.
  refine hosted.discovering_enters entered fun one entered => Ends.meets ?_
  refine hosted.phase_enters (fun unit row drafts between member chosen keeps recorded => ?_) entered
    fun count after entered => Meets.pure entered
  obtain ⟨meant, status⟩ := admitted_of_withStatuses chosen
  exact hosted.pauseOne_conveys member rfl meant status keeps recorded

/-- Looking at subscriptions only adds those of new subscribers. -/
theorem Hosts.subscriptions_enters (hosted : stage.Hosts engine)
    (entered : stage.Entered engine operation first loaded system) :
    Meets (engine.subscriptions criteria) system
      (fun _ after => stage.Entered engine operation first loaded after)
      (stage.Severed engine operation first) := by
  -- What is found is looked at and nothing else.
  refine hosted.discovering_enters entered fun one entered => ?_
  exact Meets.run_bind (hosted.find_run entered.distinct _) (Meets.pure entered)

/-- Whatever an engine is asked to do is a sequence of deeds, with the reasons of what it was asked to do. -/
theorem Hosts.perform_enters (hosted : stage.Hosts engine)
    (behaves : ∀ subscriber ∈ engine.registry.subscribers, stage.Behaves subscriber)
    (entered : stage.Entered engine operation first loaded system) :
    Meets (operation.perform engine) system
      (fun _ after => ∃ loaded, stage.Entered engine operation first loaded after)
      (stage.Severed engine operation first) := by
  -- What an operation returns is dropped after it.
  cases operation with
  | boot criteria limit => exact (hosted.boot_enters behaves entered).bind fun _ _ done => Meets.pure done
  | run criteria limit => exact (hosted.run_enters behaves entered).bind fun _ _ done => Meets.pure done
  | teardown criteria =>
    exact (hosted.teardown_enters behaves entered).bind fun _ _ done => Meets.pure ⟨loaded, done⟩
  | remove criteria =>
    exact (hosted.remove_enters behaves entered).bind fun _ _ done => Meets.pure ⟨loaded, done⟩
  | reactivate criteria => exact (hosted.reactivate_enters entered).mono fun _ _ done => ⟨loaded, done⟩
  | pause criteria => exact (hosted.pause_enters entered).mono fun _ _ done => ⟨loaded, done⟩
  | subscriptions criteria =>
    exact (hosted.subscriptions_enters entered).bind fun _ _ done => Meets.pure ⟨loaded, done⟩

/-- Whether an operation returns or breaks off, what it did is a sequence of deeds; where it returns, what is known in the
end is what is stored. -/
theorem Hosts.perform_recorded (hosted : stage.Hosts engine)
    (behaves : ∀ subscriber ∈ engine.registry.subscribers, stage.Behaves subscriber)
    (distinct : (Rows.ids (stage.rows.read system)).Nodup) (operation : Operation) :
    ∃ loaded known, stage.Recorded engine operation (stage.chronicle [] (stage.rows.read system) system) loaded known
        ((operation.perform engine).outcome system).2 ∧
      (((operation.perform engine).outcome system).1 = .ok () →
        known = stage.rows.read ((operation.perform engine).outcome system).2) := by
  -- Before the operation nothing was recorded, and each of its two ends leaves a record.
  have entered : stage.Entered engine operation (stage.chronicle [] (stage.rows.read system) system) [] system :=
    ⟨distinct, .refl⟩
  have performed := hosted.perform_enters behaves entered
  unfold Meets at performed
  unfold outcome
  cases run : operation.perform engine system with
  | ok value after =>
    rw [run] at performed
    obtain ⟨loaded, -, recorded⟩ := performed
    exact ⟨loaded, _, recorded, fun _ => rfl⟩
  | error abort after =>
    rw [run] at performed
    obtain ⟨-, loaded, known, recorded⟩ := performed
    exact ⟨loaded, known, recorded, fun returned => by cases returned⟩

/-- Where everything that was seen of a computation is recorded, it is a sequence of small steps. -/
theorem meets_traced {α : Type} {action : Action σ α} {first : Ledger} (traced : stage.Traced first system)
    (meets : stage.Entered engine operation (stage.chronicle [] (stage.rows.read system) system) [] system →
      Meets action system
        (fun _ after => ∃ loaded, stage.Entered engine operation
          (stage.chronicle [] (stage.rows.read system) system) loaded after)
        (stage.Severed engine operation (stage.chronicle [] (stage.rows.read system) system))) :
    Meets action system (fun _ after => stage.Traced first after) (stage.Broken engine first) := by
  -- A chronicle starts with the system, so its deeds continue the steps that led there.
  refine (meets ⟨traced.distinct, .refl⟩).weaken (fun _ after ends => ?_) fun abort after early => ?_
  · obtain ⟨loaded, entered⟩ := ends
    exact ⟨entered.distinct, traced.follows.trans entered.recorded.follows⟩
  · obtain ⟨panics, loaded, known, recorded⟩ := early
    exact ⟨panics, known, traced.follows.trans recorded.follows⟩

/-- Keeping up is a sequence of small steps. -/
theorem Hosts.run_traced (hosted : stage.Hosts engine)
    (behaves : ∀ subscriber ∈ engine.registry.subscribers, stage.Behaves subscriber) {first : Ledger}
    (traced : stage.Traced first system) :
    Meets (engine.run criteria limit) system (fun _ after => stage.Traced first after)
      (stage.Broken engine first) :=
  meets_traced traced (hosted.run_enters behaves)

/-- Whatever an engine is asked to do is a sequence of small steps. -/
theorem Hosts.perform_traced (hosted : stage.Hosts engine)
    (behaves : ∀ subscriber ∈ engine.registry.subscribers, stage.Behaves subscriber) {first : Ledger}
    (traced : stage.Traced first system) (operation : Operation) :
    Meets (operation.perform engine) system (fun _ after => stage.Traced first after)
      (stage.Broken engine first) :=
  meets_traced traced (hosted.perform_enters behaves)

end Stage

end EventFeed
