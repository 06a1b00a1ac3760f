import EventFeed.Proofs.Ledger
import EventFeed.Proofs.WorkUnit

/-! Phases that go through the rows that are meant and change some of them: what each step, and then
the phase, leaves. -/

namespace EventFeed

open EventFeed.Action
open Subscription (unstamped)

/-- A restriction on statuses comes on top of the other restrictions. -/
theorem FeedCriteria.admits_withStatuses (criteria : FeedCriteria) (statuses : List Status)
    (row : Subscription) : (criteria.withStatuses statuses).admits row =
      (criteria.admits row.id row.group && decide (row.status ∈ statuses)) := rfl

/-- The changes that a phase makes: a row that is meant is edited, and every other row stays. -/
def Edited (meant : Subscription → Bool) (Edit : Subscription → Subscription → Prop)
    (rows : List Subscription) (change : Subscription → Subscription) : Prop :=
  ∀ row ∈ rows, (change row).id = row.id ∧
    if meant row then Edit row (change row) else change row = row

/-- Putting the edit of one more row among changed rows changes that row, too. -/
theorem Rows.put_map {rows : List Subscription} {change : Subscription → Subscription}
    (named : ∀ row ∈ rows, (change row).id = row.id)
    {row next : Subscription} (same : next.id = row.id) :
    Rows.put next (rows.map change) =
      rows.map fun other => if other.id = row.id then next else change other := by
  -- A changed row has the id of the row it comes from.
  simp only [Rows.put, List.map_map]
  refine List.map_congr_left fun other present => ?_
  simp only [Function.comp_apply, named other present, same]

/-- A phase changes no id. -/
theorem edited_ids {meant : Subscription → Bool} {Edit : Subscription → Subscription → Prop}
    {rows next : List Subscription} {change : Subscription → Subscription}
    (edited : Edited meant Edit rows change)
    (fields : next.map unstamped = (rows.map change).map unstamped) : Rows.ids next = Rows.ids rows := by
  -- An edit keeps the id of each row, and stamps have nothing to do with ids.
  rw [Rows.ids_of_unstamped fields, Rows.ids, List.map_map]
  exact List.map_congr_left fun row member => (edited row member).1

namespace Stage

variable {σ β : Type} {stage : Stage σ} {engine : Engine σ}

/-- A difference in rows only is nothing that bears on messages. -/
theorem Aside.quietly {before after : σ} (aside : stage.Aside before after) : stage.Quietly before after :=
  ⟨aside.log, aside.calls, [], by simp [aside.journal], by simp⟩

/-- A pass over the rows that are meant edits each of them, when each step edits its row. -/
theorem pass_meets (unitOf : β → WorkUnit) (holds : β → List Subscription → σ → Prop)
    {step : β → Subscription → Action σ β} {meant : Subscription → Bool}
    {Edit : Subscription → Subscription → Prop} {early : Abort → σ → Prop} {rows : List Subscription}
    (distinct : (Rows.ids rows).Nodup) (identity : ∀ row next, Edit row next → next.id = row.id)
    (steps : ∀ state row drafts system, row ∈ rows → row ∈ drafts → meant row = true →
      stage.Keeps (unitOf state) drafts system → holds state drafts system →
      Meets (step state row) system (fun state after => ∃ next, Edit row next ∧
        stage.Keeps (unitOf state) (Rows.put next drafts) after ∧
        holds state (Rows.put next drafts) after) early)
    {state : β} {system : σ} (keeps : stage.Keeps (unitOf state) rows system)
    (start : holds state rows system) :
    Meets ((rows.filter meant).foldlM step state) system (fun state after =>
      ∃ change, Edited meant Edit rows change ∧ stage.Keeps (unitOf state) (rows.map change) after ∧
        holds state (rows.map change) after) early := by
  -- Of the rows that are meant, those that are left have not been changed yet.
  refine (Meets.foldlM (fun state rest system => ∃ change,
    Edited (fun row => meant row && decide (row ∉ rest)) Edit rows change ∧
    (rest.Nodup ∧ ∀ row ∈ rest, row ∈ rows ∧ meant row = true) ∧
    stage.Keeps (unitOf state) (rows.map change) system ∧ holds state (rows.map change) system)
    ?_ (rows.filter meant) state system ?_).mono ?_
  · -- One more row is edited, and it is not met again.
    intro state row rest system ends
    obtain ⟨change, edited, ⟨single, left⟩, keeps, held⟩ := ends
    obtain ⟨member, chosen⟩ := left row (by simp)
    have untouched : change row = row := by simpa using (edited row member).2
    have inDrafts : row ∈ rows.map change := List.mem_map.mpr ⟨row, member, untouched⟩
    apply (steps state row _ system member inDrafts chosen keeps held).mono
    intro state after ends
    obtain ⟨next, edit, keeps, held⟩ := ends
    have same := identity row next edit
    rw [Rows.put_map (fun other present => (edited other present).1) same] at keeps held
    refine ⟨_, fun other present => ?_, ⟨single.of_cons, fun other present => left other (by simp [present])⟩,
      keeps, held⟩
    by_cases own : other.id = row.id
    · have equal : other = row := Rows.eq_of_id distinct present member own
      subst equal
      have gone : other ∉ rest := (List.nodup_cons.mp single).1
      simp [chosen, gone, same, edit]
    · have different : other ≠ row := fun equal => own (equal ▸ rfl)
      simpa [own, different] using edited other present
  · -- At first nothing has been edited.
    have single : rows.Nodup := distinct.of_map
    refine ⟨id, fun row present => ⟨rfl, ?_⟩, ⟨single.filter _, fun row member => ?_⟩, by simpa using keeps,
      by simpa using start⟩
    · by_cases chosen : meant row = true <;> simp [chosen, present]
    · exact List.mem_filter.mp member
  · -- In the end all rows that are meant have been edited.
    intro state after ends
    obtain ⟨change, edited, -, keeps, held⟩ := ends
    exact ⟨change, by simpa using edited, keeps, held⟩

/-- What a step without subscriber code leaves: the draft of one row is
edited, and nothing else happens. -/
structure Edits (stage : Stage σ) (Edit : Subscription → Subscription → Prop) (first : Ledger)
    (drafts : List Subscription) (row : Subscription) (before : σ) (unit : WorkUnit) (after : σ) :
    Prop where
  edit : ∃ next, Edit row next ∧ stage.Keeps unit (Rows.put next drafts) after ∧
    Ledger.Follows first (stage.ledger (Rows.put next drafts) after)
  quietly : stage.Quietly before after
  rows : stage.rows.read after = stage.rows.read before

/-- A step that reports quietly and leaves its row alone. -/
theorem edits_of_left {Edit : Subscription → Subscription → Prop} {unit : WorkUnit}
    {drafts : List Subscription} {row : Subscription} {before after : σ} {first : Ledger}
    (member : row ∈ drafts) (keeps : stage.Keeps unit drafts before)
    (follows : Ledger.Follows first (stage.ledger drafts before)) (edit : Edit row row)
    (quietly : stage.Quietly before after) (rows : stage.rows.read after = stage.rows.read before) :
    stage.Edits Edit first drafts row before unit after := by
  -- The row is put in its own place, which changes nothing.
  have distinct : (Rows.ids drafts).Nodup := keeps.ids ▸ keeps.distinct
  have own : Rows.put row drafts = drafts := Rows.put_of_mem distinct member
  exact ⟨⟨row, edit, own.symm ▸ keeps.of_rows rows, own.symm ▸ quietly.follows rows follows⟩, quietly, rows⟩

/-- A step that reports quietly and moves its row. -/
theorem edits_of_moved {Edit : Subscription → Subscription → Prop} {unit : WorkUnit}
    {drafts : List Subscription} {row next : Subscription} {before after : σ} {first : Ledger}
    (member : row ∈ drafts) (keeps : stage.Keeps unit drafts before)
    (follows : Ledger.Follows first (stage.ledger drafts before)) (edit : Edit row next)
    (moved : Move (stage.log after) [] row next) (stamp : next.lastSavedAt = row.lastSavedAt)
    (quietly : stage.Quietly before after) (rows : stage.rows.read after = stage.rows.read before) :
    stage.Edits Edit first drafts row before (unit.update next) after := by
  -- The reports come first, and then the move.
  have step := follows_move (quietly.follows rows follows) member moved rfl rfl (by simp)
  exact ⟨⟨next, edit, (keeps.update_draft member moved.id_eq stamp).of_rows rows, step⟩, quietly, rows⟩

/-- What a failed subscription becomes when it may be tried again: it stays,
or an approved one goes back. -/
def Retried (engine : Engine σ) (failedIn : List Status) (row next : Subscription) : Prop :=
  next = row ∨ (∃ system, engine.retries system row = true) ∧
    (∀ error, row.error = some error → error.previous ∈ failedIn) ∧ row.retry = .ok next

/-- Going back from a failure changes neither the id nor the stamp. -/
theorem Retried.identity {failedIn : List Status} {row next : Subscription}
    (retried : Retried engine failedIn row next) :
    next.id = row.id ∧ next.lastSavedAt = row.lastSavedAt := by
  -- The subscription stays, or leaves its failure behind.
  rcases retried with rfl | ⟨-, -, retried⟩
  · exact ⟨rfl, rfl⟩
  · obtain ⟨error, -, rfl⟩ := Subscription.retry_ok retried
    exact ⟨rfl, rfl⟩

/-- A failed subscription is left alone, or put back when its retry is approved. -/
theorem Hosts.retryOne_ends (hosted : stage.Hosts engine) {failedIn : List Status} {unit : WorkUnit}
    {drafts : List Subscription} {row : Subscription} {system : σ} {first : Ledger}
    (member : row ∈ drafts) (status : row.status = .error) (keeps : stage.Keeps unit drafts system)
    (follows : Ledger.Follows first (stage.ledger drafts system)) :
    Ends (engine.retryOne failedIn unit row) system
      (stage.Edits (Retried engine failedIn) first drafts row system) := by
  -- A subscription that failed elsewhere, is deferred or has nothing to go back to is left alone.
  unfold Engine.retryOne
  split
  · exact Meets.pure (edits_of_left member keeps follows (Or.inl rfl) (.refl system) rfl)
  · -- A failure in one of the statuses is put to the strategy.
    rename_i admitted
    apply Meets.get_bind
    split
    · exact hosted.note_meets (Meets.pure
        (edits_of_left member keeps follows (Or.inl rfl) (quietly_observe rfl system) (by simp)))
    · -- An approved subscription goes back to where it failed, if that is known.
      rename_i approved
      split
      · exact hosted.note_meets (Meets.pure
          (edits_of_left member keeps follows (Or.inl rfl) (quietly_observe rfl system) (by simp)))
      · rename_i next retried
        have edit : Retried engine failedIn row next := by
          refine Or.inr ⟨⟨system, by simpa using approved⟩, fun error failed => ?_, retried⟩
          simpa [failed] using admitted
        exact hosted.note_meets (Meets.pure (edits_of_moved member keeps follows edit
          (.retry status retried) edit.identity.2 (quietly_observe rfl system) (by simp)))

/-- What a subscription becomes when those without a subscriber are marked. -/
def Detached (engine : Engine σ) (row next : Subscription) : Prop :=
  next = if engine.registry.knows row.id then row else row.outdated

/-- A subscription is left alone when it has a subscriber, and outdated when it has none. -/
theorem Hosts.detachOne_ends (hosted : stage.Hosts engine) {unit : WorkUnit}
    {drafts : List Subscription} {row : Subscription} {system : σ} {first : Ledger}
    (member : row ∈ drafts) (status : row.status ∈ [.new, .booting, .active, .paused, .error])
    (keeps : stage.Keeps unit drafts system)
    (follows : Ledger.Follows first (stage.ledger drafts system)) :
    Ends (engine.detachOne unit row) system
      (stage.Edits (Detached engine) first drafts row system) := by
  -- Only a subscription without a subscriber is reported and changed.
  unfold Engine.detachOne
  split
  · rename_i known
    exact Meets.pure (edits_of_left member keeps follows (by simp [Detached, known]) (.refl system) rfl)
  · rename_i unknown
    exact hosted.note_meets (Meets.pure (edits_of_moved member keeps follows
      (by simp [Detached, unknown]) (.detach status) rfl (quietly_observe rfl system) (by simp)))

/-- What a phase without subscriber code leaves: the rows that are meant are edited and stored, and
nothing else happens. -/
structure Revised (stage : Stage σ) (meant : Subscription → Bool) (Edit : Subscription → Subscription → Prop)
    (first : Ledger) (before : σ) (unit : WorkUnit) (after : σ) : Prop where
  unit : unit = .clean (stage.rows.read after)
  distinct : (Rows.ids (stage.rows.read after)).Nodup
  quietly : stage.Quietly before after
  follows : Ledger.Follows first (stage.ledger (stage.rows.read after) after)
  rows : ∃ change, Edited meant Edit (stage.rows.read before) change ∧
    (stage.rows.read after).map unstamped = ((stage.rows.read before).map change).map unstamped ∧
    ((stage.rows.read before).map change = stage.rows.read before →
      stage.rows.read after = stage.rows.read before)

/-- A phase finds the rows that are meant, edits each of them, and stores the edits before anything
else is done. -/
theorem Hosts.phase_ends {α : Type} (hosted : stage.Hosts engine) {criteria : SubscriptionCriteria}
    {step : WorkUnit → Subscription → Action σ WorkUnit} {next : Nat × WorkUnit → Action σ α}
    {Edit : Subscription → Subscription → Prop} {ok : α → σ → Prop} {system : σ} {first : Ledger}
    (identity : ∀ row next, Edit row next → next.id = row.id)
    (steps : ∀ unit row drafts between, row ∈ drafts → criteria.admits row = true →
      stage.Keeps unit drafts between → Ledger.Follows first (stage.ledger drafts between) →
      Ends (step unit row) between (stage.Edits Edit first drafts row between))
    (distinct : (Rows.ids (stage.rows.read system)).Nodup)
    (follows : Ledger.Follows first (stage.ledger (stage.rows.read system) system))
    (rest : ∀ flushed after, stage.Revised criteria.admits Edit first system flushed.2 after →
      Ends (next flushed) after ok) :
    Ends (do
      let (found, unit) ← (WorkUnit.clean (stage.rows.read system)).find engine.store criteria
      let unit ← found.foldlM step unit
      let flushed ← unit.flush engine.store
      next flushed) system ok := by
  -- Every step edits one draft, and the rows stay until the flush.
  apply Meets.run_bind (hosted.find_run distinct criteria)
  refine (pass_meets id (fun _ drafts between => stage.Quietly system between ∧
    stage.rows.read between = stage.rows.read system ∧
    Ledger.Follows first (stage.ledger drafts between)) distinct identity ?_ (keeps_clean distinct)
    ⟨.refl system, rfl, follows⟩).bind ?_
  · -- One more draft is edited.
    intro unit row drafts between _ member chosen keeps ends
    obtain ⟨quietly, rows, follows⟩ := ends
    apply (steps unit row drafts between member chosen keeps follows).mono
    intro unit after ends
    obtain ⟨⟨next, edit, keeps, follows⟩, quietlyStep, rowsStep⟩ := ends
    exact ⟨next, edit, keeps, quietly.trans quietlyStep, rowsStep.trans rows, follows⟩
  · -- At the end the drafts are written.
    intro unit middle ends
    obtain ⟨change, edited, keeps, quietly, rows, follows⟩ := ends
    apply (keeps.flush hosted).bind
    intro result after ends
    obtain ⟨count, unit⟩ := result
    obtain ⟨aside, rfl, distinct, fields, unchanged⟩ := ends
    rw [rows] at unchanged
    exact rest _ after ⟨rfl, distinct, quietly.trans aside.quietly,
      aside.quietly.saved follows fields fields, change, edited, fields, unchanged⟩

/-- The retry phase puts approved subscriptions back. -/
theorem Hosts.retry_ends (hosted : stage.Hosts engine) {criteria : FeedCriteria} {failedIn : List Status}
    {system : σ} {first : Ledger} (distinct : (Rows.ids (stage.rows.read system)).Nodup)
    (follows : Ledger.Follows first (stage.ledger (stage.rows.read system) system)) :
    Ends (engine.retry criteria failedIn (.clean (stage.rows.read system))) system
      (stage.Revised (criteria.withStatuses [.error]).admits (Retried engine failedIn) first system) := by
  -- Only failed subscriptions are found.
  refine hosted.phase_ends (fun row next retried => retried.identity.1)
    (fun unit row drafts between member chosen keeps follows => ?_) distinct follows
    fun _ _ revised => Meets.pure revised
  rw [FeedCriteria.admits_withStatuses] at chosen
  exact hosted.retryOne_ends member (by simpa using (Bool.and_eq_true_iff.mp chosen).2) keeps follows

/-- The detachment phase outdates subscriptions without a subscriber. -/
theorem Hosts.markDetached_ends (hosted : stage.Hosts engine) {criteria : FeedCriteria}
    {statuses : List Status} {system : σ} {first : Ledger}
    (attached : statuses ⊆ [.new, .booting, .active, .paused, .error])
    (distinct : (Rows.ids (stage.rows.read system)).Nodup)
    (follows : Ledger.Follows first (stage.ledger (stage.rows.read system) system)) :
    Ends (engine.markDetached criteria statuses (.clean (stage.rows.read system))) system
      (stage.Revised (criteria.withStatuses statuses).admits (Detached engine) first system) := by
  -- Only subscriptions in the statuses are found.
  refine hosted.phase_ends ?_ (fun unit row drafts between member chosen keeps follows => ?_) distinct follows
    fun _ _ revised => Meets.pure revised
  · -- An outdated row keeps its id.
    intro row next detached
    rw [Detached] at detached
    split at detached <;> simp [detached, Subscription.outdated, Subscription.settle]
  · rw [FeedCriteria.admits_withStatuses] at chosen
    have found : row.status ∈ statuses := by simpa using (Bool.and_eq_true_iff.mp chosen).2
    exact hosted.detachOne_ends member (attached found) keeps follows

/-- Whether no failed subscription is ever tried again. -/
def Unforgiving (engine : Engine σ) : Prop := ∀ system row, engine.retries system row = false

/-- Where no retry is approved, the retry phase changes no row. -/
theorem Revised.unretried {failedIn : List Status} {meant : Subscription → Bool} {first : Ledger}
    {before after : σ} {unit : WorkUnit} (never : Unforgiving engine)
    (revised : stage.Revised meant (Retried engine failedIn) first before unit after) :
    stage.rows.read after = stage.rows.read before := by
  -- A phase that changes no row in the unit writes nothing.
  obtain ⟨change, edited, -, unchanged⟩ := revised.rows
  apply unchanged
  -- Every row that is meant stays as it is, too.
  have fixed : ∀ row ∈ stage.rows.read before, change row = row := by
    intro row member
    have edit := (edited row member).2
    split at edit
    · rcases edit with same | ⟨⟨system, approved⟩, -⟩
      · exact same
      · rw [never] at approved
        cases approved
    · exact edit
  simpa using List.map_congr_left fixed

/-- Where everybody who is meant has a subscriber, the detachment phase changes no row. -/
theorem Revised.undetached {meant : Subscription → Bool} {first : Ledger} {before after : σ}
    {unit : WorkUnit} (revised : stage.Revised meant (Detached engine) first before unit after)
    (attached : ∀ row ∈ stage.rows.read before, meant row = true → engine.registry.knows row.id = true) :
    stage.rows.read after = stage.rows.read before := by
  -- A phase that changes no row in the unit writes nothing.
  obtain ⟨change, edited, -, unchanged⟩ := revised.rows
  apply unchanged
  -- Nobody who is meant would be outdated.
  have fixed : ∀ row ∈ stage.rows.read before, change row = row := by
    intro row member
    have edit := (edited row member).2
    split at edit
    · rename_i chosen
      simpa [Detached, attached row member chosen] using edit
    · exact edit
  simpa using List.map_congr_left fixed

end Stage

end EventFeed
