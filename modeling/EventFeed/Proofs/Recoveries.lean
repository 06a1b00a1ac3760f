import EventFeed.Proofs.Budget
import EventFeed.Proofs.CatchUp
import EventFeed.Proofs.Endurance

/-! Recoveries: what becomes of the retries that a subscription is charged with when it handles messages and does not
fail. They are forgotten at the end of the log only, and so a limit that ends a window keeps them. -/

namespace EventFeed

open EventFeed.Action
open Subscription (unstamped)

variable {σ : Type}

namespace Subscription

variable {row next : Subscription}

/-- The retries that a subscription is charged with once it is back at work; before its setup there are none. -/
def charge (row : Subscription) : Nat := if row.resumes = .new then 0 else row.tries

/-- A subscription that is not set up yet is charged with none. -/
theorem charge_of_new (new : row.resumes = .new) : row.charge = 0 := if_pos new

/-- A subscription that is at work is charged with those that it counts. -/
theorem charge_of_working (works : row.status = .booting ∨ row.status = .active) : row.charge = row.retryAttempt := by
  -- At work, it has neither failed nor its setup ahead.
  have started : row.status ≠ .error := by rcases works with works | works <;> simp [works]
  have begun : row.resumes ≠ .new := by rcases works with works | works <;> simp [resumes_of_started started, works]
  rw [charge, if_neg begun, tries, if_neg started]

/-- A retry charges nothing that was not charged before. -/
theorem charge_retry (status : row.status = .error) (retried : row.retry = .ok next) (started : next.status ≠ .error) :
    next.charge = row.charge := by
  -- The retry counts one, and the failure before it did so already.
  have same := resumes_retry status retried
  obtain ⟨error, -, shape⟩ := retry_ok retried
  have counted : next.tries = row.tries := by
    rw [tries, tries, if_neg started, if_pos status, shape]
  rw [charge, charge, same, counted]

/-- Stamps make no difference to what is charged. -/
theorem charge_of_unstamped (same : next.unstamped = row.unstamped) : next.charge = row.charge := by
  -- The charge reads no stamp.
  show next.unstamped.charge = row.unstamped.charge
  rw [same]

end Subscription

/-- The retries that the stored subscription of an id is charged with, if there is one. -/
def chargeIn (rows : List Subscription) (id : String) : Nat := ((Rows.get? rows id).map Subscription.charge).getD 0

/-- Rows that are charged with as many retries as before, unless they are outdated. -/
def Charged (before rows : List Subscription) : Prop :=
  ∀ row ∈ rows, row.status = .outdated ∨ row.charge = chargeIn before row.id

/-- Rows that are edited without a change of what they are charged with. -/
theorem Charged.edited {before rows next : List Subscription} {meant : Subscription → Bool}
    {Edit : Subscription → Subscription → Prop} {change : Subscription → Subscription} (charged : Charged before rows)
    (edited : Edited meant Edit rows change) (fields : next.map unstamped = (rows.map change).map unstamped)
    (edits : ∀ row next, meant row = true → Edit row next →
      next.status = .outdated ∨ row.status ≠ .outdated ∧ next.charge = row.charge) : Charged before next := by
  -- Each stored row stands for an old one, which was edited or left alone.
  intro row member
  obtain ⟨changed, isChanged, same⟩ := Rows.source fields member
  obtain ⟨old, present, rfl⟩ := List.mem_map.mp isChanged
  obtain ⟨named, edit⟩ := edited old present
  have alike := Subscription.alike_of_unstamped same
  rw [← Subscription.charge_of_unstamped same, ← alike.status, ← alike.id, named]
  split at edit
  · rename_i chosen
    rcases edits old _ chosen edit with outdated | ⟨stays, equal⟩
    · exact Or.inl outdated
    · exact Or.inr (equal.trans ((charged old present).resolve_left stays))
  · rw [edit]
    exact charged old present

/-- Only the subscription that is offered a message can have handled it. -/
theorem Response.own {status : Status} {entry : Nat × Message} {row next : Subscription} {notices : List Notice}
    (response : Response status entry row notices next) {id : String} {index : Nat}
    (told : .handled id index ∈ notices) : id = row.id := by
  -- Of the reports of an offer one tells this, and it carries the id of the target.
  cases response with
  | handled => exact (by simpa [handlings] using told : id = row.id ∧ _).1
  | other | past | failed => simp at told

/-- Whoever is at work counts the retries that it is charged with. -/
theorem Charged.counted {before rows : List Subscription} (charged : Charged before rows) {status : Status}
    (fed : status = .booting ∨ status = .active) :
    ∀ row ∈ rows, row.status = status → row.retryAttempt = chargeIn before row.id := by
  -- Being at work, it is not outdated.
  intro row member current
  refine (Subscription.charge_of_working (current ▸ fed)).symm.trans
    ((charged row member).resolve_left fun outdated => ?_)
  rcases fed with rfl | rfl <;> simp [outdated] at current

namespace Stage

variable {stage : Stage σ} {engine : Engine σ} {criteria : FeedCriteria} {first : Ledger} {before after system : σ}
  {unit : WorkUnit}

/-- Subscriptions that are found are charged with none. -/
theorem Discovered.charged (discovered : stage.Discovered engine criteria first before unit after)
    (distinct : (Rows.ids (stage.rows.read before)).Nodup) :
    Charged (stage.rows.read before) (stage.rows.read after) := by
  -- A row was stored before, with the same charge, or is fresh, and was not known at all.
  obtain ⟨fresh, isFresh, fields, -⟩ := discovered.rows
  intro row member
  obtain ⟨old, present, same⟩ := Rows.source fields member
  have alike := Subscription.alike_of_unstamped same
  rw [← Subscription.charge_of_unstamped same, ← alike.id]
  refine Or.inr ?_
  rcases List.mem_append.mp present with stored | added
  · rw [chargeIn, Rows.get?_of_mem distinct stored]
    rfl
  · obtain ⟨subscriber, -, -, absent, rfl⟩ := isFresh old added
    have none : Rows.get? (stage.rows.read before) (Engine.freshSubscription subscriber).id = none :=
      Rows.get?_of_not_mem absent
    rw [chargeIn, none]
    rfl

/-- Retries charge nothing that was not charged before. -/
theorem Revised.charged_retried {failedIn : List Status} {rows : List Subscription}
    (revised : stage.Revised (criteria.withStatuses [.error]).admits (Retried engine failedIn) first before unit after)
    (working : .error ∉ failedIn) (charged : Charged rows (stage.rows.read before)) :
    Charged rows (stage.rows.read after) := by
  -- A retried row goes back to one of the statuses whose failures are retried, and error is none of them.
  obtain ⟨change, edited, fields, -⟩ := revised.rows
  refine charged.edited edited fields fun row next chosen edit => Or.inr ?_
  have status : row.status = .error := by
    rw [FeedCriteria.admits_withStatuses] at chosen
    simpa using (Bool.and_eq_true_iff.mp chosen).2
  refine ⟨by simp [status], ?_⟩
  rcases edit with rfl | ⟨-, admitted, retried⟩
  · rfl
  · obtain ⟨error, failure, shape⟩ := Subscription.retry_ok retried
    refine Subscription.charge_retry status retried fun again => working ?_
    rw [shape] at again
    exact again ▸ admitted error failure

/-- Detachment leaves those alone that it does not outdate. -/
theorem Revised.charged_detached {meant : Subscription → Bool} {rows : List Subscription}
    (revised : stage.Revised meant (Detached engine) first before unit after)
    (charged : Charged rows (stage.rows.read before)) : Charged rows (stage.rows.read after) := by
  -- Whoever is not outdated afterwards was not changed.
  obtain ⟨change, edited, fields, -⟩ := revised.rows
  refine charged.edited edited fields fun row next _ edit => ?_
  rw [Detached] at edit
  split at edit
  · by_cases outdated : row.status = .outdated
    · exact Or.inl (edit ▸ outdated)
    · exact Or.inr ⟨outdated, by rw [edit]⟩
  · exact Or.inl (edit ▸ rfl)

/-- Neither before nor after its setup is a subscription charged with any. -/
theorem Prepared.charged {rows : List Subscription} (prepared : stage.Prepared engine criteria first before unit after)
    (charged : Charged rows (stage.rows.read before)) : Charged rows (stage.rows.read after) := by
  -- Only new rows are edited, whose charge is none, and so is that of what comes of them.
  obtain ⟨change, edited, fields⟩ := prepared.rows
  refine charged.edited edited fields fun row next chosen edit => Or.inr ?_
  have status : row.status = .new := by
    rw [FeedCriteria.admits_withStatuses] at chosen
    simpa using (Bool.and_eq_true_iff.mp chosen).2
  have new : row.resumes = .new := by rw [Subscription.resumes_of_started (by simp [status]), status]
  refine ⟨by simp [status], ?_⟩
  rw [Subscription.charge_of_new new]
  cases edit with
  | left => exact Subscription.charge_of_new new
  | failed => exact Subscription.charge_of_new new
  | booting | fromNow => rfl

/-- Since a beginning, no message was reported to be handled. -/
def Unhandled (stage : Stage σ) (begun system : σ) : Prop :=
  ∃ notices, stage.journal system = stage.journal begun ++ notices ∧ ∀ id index, .handled id index ∉ notices

/-- Another report makes no difference to that. -/
theorem Unhandled.observe {begun : σ} (unhandled : stage.Unhandled begun system) {notice : Notice}
    (other : ∀ id index, notice ≠ .handled id index) : stage.Unhandled begun (stage.observe notice system) := by
  -- The report is added at the end, and it is not of that kind.
  obtain ⟨notices, journal, none⟩ := unhandled
  refine ⟨notices ++ [notice], by simp [journal], fun id index member => ?_⟩
  rcases List.mem_append.mp member with before | last
  · exact none id index before
  · exact other id index (List.mem_singleton.mp last).symm

/-- It endures everything but the report that a message was handled. -/
theorem unhandled_enduring (begun : σ) :
    stage.Enduring (fun notice => ∀ id index, notice ≠ .handled id index) (stage.Unhandled begun) where
  observe other unhandled := unhandled.observe other
  write unhandled := by simpa [Unhandled] using unhandled
  onward moved unhandled := by
    obtain ⟨notices, journal, none⟩ := unhandled
    exact ⟨notices, moved.journal.trans journal, none⟩

/-- No other report tells that. -/
theorem unhandled_others (notice : Notice) (other : notice.delivers = false) :
    ∀ id index, notice ≠ .handled id index := by
  -- The handling of a message is a delivery.
  intro id index same
  rw [same] at other
  cases other

/-- It lasts while an engine keeps its subscriptions in order. -/
theorem unhandled_lasting (begun : σ) : stage.Lasting (stage.Unhandled begun) :=
  (unhandled_enduring begun).lasting unhandled_others

/-- No message is handled in the setup phase. -/
theorem Hosts.setupNew_unhandled (hosted : stage.Hosts engine)
    (behaves : ∀ subscriber ∈ engine.registry.subscribers, stage.Behaves subscriber) (begun : σ) :
    Outlasts (stage.Unhandled begun) (engine.setupNew criteria unit) :=
  hosted.setupNew_endures (unhandled_enduring begun) unhandled_others behaves criteria unit

/-- A subscription of a window counts as many retries as it did at the start, and is still at work unless it has
failed. -/
def Counts (status : Status) (start : List Subscription) (notices : List Notice) (row : Subscription) : Prop :=
  ∃ first ∈ start, first.id = row.id ∧ row.retryAttempt = first.retryAttempt ∧
    (row.status = status ∨ ∃ failure ∈ failuresIn notices, failure.id = row.id)

/-- More reports make no difference to that. -/
theorem Counts.further {status : Status} {start : List Subscription} {notices : List Notice} {row : Subscription}
    (counts : Counts status start notices row) (more : List Notice) : Counts status start (notices ++ more) row := by
  -- A failure that was reported stays among the reports.
  obtain ⟨first, present, same, counted, works⟩ := counts
  refine ⟨first, present, same, counted, works.imp_right fun failed => ?_⟩
  obtain ⟨failure, member, named⟩ := failed
  exact ⟨failure, by simp [member], named⟩

/-- Neither does the offer of a message, apart from a failure. -/
theorem Counts.responds {status : Status} {start : List Subscription} {notices more : List Notice}
    {row next : Subscription} {entry : Nat × Message} (counts : Counts status start notices row)
    (response : Response status entry row more next) : Counts status start (notices ++ more) next := by
  -- The response counts no retry, and one that fails is reported.
  obtain ⟨first, present, same, counted, works⟩ := counts.further more
  refine ⟨first, present, same.trans response.id_eq.symm, ?_, ?_⟩
  · cases response <;> exact counted
  · cases response with
    | failed _ _ error => exact Or.inr ⟨⟨row.id, error⟩, by simp [failuresIn, Notice.failure?], rfl⟩
    | other => simpa using works
    | past | handled => exact works

/-- In a window, retries are neither counted nor forgotten, and whoever handles messages was there at the start. -/
structure Counting (stage : Stage σ) (status : Status) (start : List (Target σ)) (begun : σ) (targets : List (Target σ))
    (system : σ) : Prop where
  behaves : ∀ target ∈ targets, stage.Behaves target.subscriber
  ids : Rows.ids (Target.all targets) = Rows.ids (Target.all start)
  counts : ∃ notices, stage.journal system = stage.journal begun ++ notices ∧
    (∀ target ∈ targets, Counts status (Target.all start) notices target.subscription) ∧
    ∀ id index, .handled id index ∈ notices → id ∈ Rows.ids (Target.all start)

variable {status : Status} {start : List (Target σ)} {begun : σ}

/-- A round of offers keeps that. -/
theorem Hosts.counting_offers (hosted : stage.Hosts engine) :
    stage.Offers engine status (fun _ _ targets _ => stage.Counting status start begun targets)
      fun abort _ => Panics engine abort := by
  -- The targets are offered the message one by one, and each answers with a response.
  intro read entry rest targets errors system _ counting
  refine (Meets.mapM (fun done left between => stage.rows.read between = stage.rows.read system ∧
    stage.Counting status start begun (done.map Prod.fst ++ left) between) ?_ targets [] system
    ⟨rfl, counting⟩).mono ?_
  · intro done target left between ends
    obtain ⟨rows, behaves, ids, notices, journal, counts, handled⟩ := ends
    refine (hosted.offer_answers (behaves target (by simp)) entry between).weaken (fun offered after responded => ?_)
      fun _ _ early => early.1
    obtain ⟨subscriber, same, -, more, further, response⟩ := responded
    -- The target takes the place that it had.
    have split : ∀ other ∈ (done ++ [offered]).map Prod.fst ++ left, other = offered.1 ∨
        other ∈ done.map Prod.fst ++ target :: left := by
      intro other member
      simp only [List.map_append, List.map_cons, List.map_nil, List.append_assoc, List.mem_append, List.mem_cons,
        List.not_mem_nil, or_false] at member ⊢
      tauto
    refine ⟨same.trans rows, fun other member => ?_, ?_, notices ++ more, ?_, fun other member => ?_,
      fun id index told => ?_⟩
    · rcases split other member with rfl | old
      · exact subscriber ▸ behaves target (by simp)
      · exact behaves other old
    · rw [← ids]
      simp [Target.all, response.id_eq]
    · rw [further, journal, List.append_assoc]
    · rcases split other member with rfl | old
      · exact (counts target (by simp)).responds response
      · exact (counts other old).further more
    · rcases List.mem_append.mp told with before | here
      · exact handled id index before
      · -- Whoever is offered the message was there.
        rw [← ids, response.own here]
        simp [Target.all]
  · intro offered after ends
    obtain ⟨rows, still⟩ := ends
    simp only [List.nil_append, List.append_nil] at still
    exact ⟨rows, still.ids.trans counting.ids.symm, still⟩

/-- Writing the targets changes nothing of it. -/
theorem counting_saves : stage.Saves fun _ _ targets _ => stage.Counting status start begun targets := by
  -- A write touches neither the targets nor the reports.
  intro read rest targets errors system after _ counting stored
  obtain ⟨behaves, ids, notices, journal, counts, handled⟩ := counting
  exact ⟨behaves, ids, notices, stored.aside.journal.trans journal, counts, handled⟩

/-- What a call does to the retries of those that handle messages and do not fail: it forgets them if it comes to the
end of the log, as it does without a limit, and otherwise it keeps them. -/
structure Recovers (stage : Stage σ) (limit : Option Nat) (charges : String → Nat) (before : σ) (report : FeedReport)
    (after : σ) : Prop where
  whole : limit = none → report.finished = true
  rows : ∃ notices, stage.journal after = stage.journal before ++ notices ∧
    ∀ row ∈ stage.rows.read after, (∃ index, .handled row.id index ∈ notices) →
      (∀ failure ∈ failuresIn notices, failure.id ≠ row.id) →
      row.retryAttempt = if report.finished then 0 else charges row.id

/-- What was done before without handling a message makes no difference to that. -/
theorem Recovers.since {limit : Option Nat} {charges : String → Nat} {report : FeedReport}
    (recovers : stage.Recovers limit charges before report after) (unhandled : stage.Unhandled begun before) :
    stage.Recovers limit charges begun report after := by
  -- What is told of the row is told after that.
  obtain ⟨whole, notices, journal, recovered⟩ := recovers
  obtain ⟨earlier, reported, none⟩ := unhandled
  refine ⟨whole, earlier ++ notices, by rw [journal, reported, List.append_assoc], fun row stored told unfailed => ?_⟩
  obtain ⟨index, told⟩ := told
  have later := (List.mem_append.mp told).resolve_left (none row.id index)
  exact recovered row stored ⟨index, later⟩ fun failure member => unfailed failure (by simp [member])

/-- What is stored of a target that is still at work after its feeding, up to the stamp: the target, which is settled at
the end of the log. -/
theorem stored_of_target {settled : Subscription → Subscription} (named : ∀ row, (settled row).id = row.id)
    {final : List (Target σ)} (inHand : stage.InHand final before) {finished : Bool}
    (fields : (stage.rows.read after).map unstamped = (stage.knownRows
      (if finished then final.map (settledTarget status settled) else final) before).map unstamped)
    {row : Subscription} (stored : row ∈ stage.rows.read after) {target : Target σ} (isTarget : target ∈ final)
    (same : target.subscription.id = row.id) (works : target.subscription.status = status) :
    row.unstamped = (if finished then settled target.subscription else target.subscription).unstamped := by
  -- The ids stay what they were, so the row is found under the id of its target.
  let kept := if finished then final.map (settledTarget status settled) else final
  let place := if finished then settled target.subscription else target.subscription
  have listed : target.subscription ∈ Target.all final := List.mem_map_of_mem isTarget
  have keptIds : Rows.ids (Target.all kept) = Rows.ids (Target.all final) := by
    simp only [kept]
    split
    · exact ids_settled named final
    · rfl
  have placeId : place.id = target.subscription.id := by
    simp only [place]
    split
    · exact named _
    · rfl
  have isKept : place ∈ Target.all kept := by
    simp only [place, kept]
    split
    · refine List.mem_map.mpr ⟨_, List.mem_map_of_mem isTarget, ?_⟩
      rw [settledTarget, if_pos works]
    · exact listed
  -- The rows are known under distinct ids, and so the row under this one is the target.
  have isKnown : place ∈ stage.knownRows kept before :=
    Rows.mem_overlay (keptIds ▸ inHand.distinct) isKept (placeId ▸ inHand.known _ (Rows.id_mem_ids listed))
  obtain ⟨known, isStored, unstampedSame⟩ := Rows.source fields stored
  have own : known = place := by
    refine Rows.eq_of_id ?_ isStored isKnown ?_
    · rw [knownRows, Rows.ids_overlay]
      exact inHand.stored
    · rw [placeId, same]
      exact Subscription.id_of_unstamped unstampedSame
  exact (own ▸ unstampedSame).symm

/-- Feeding forgets the retries of those that do not fail, at the end of the log only. -/
theorem Hosts.feed_recovers (hosted : stage.Hosts engine)
    (behaves : ∀ subscriber ∈ engine.registry.subscribers, stage.Behaves subscriber) {limit : Option Nat}
    {idle : Notice} {change : Subscription → Action σ Subscription} {settled : Subscription → Subscription}
    {errors : List SubscriptionFailure} (quiet : idle.quiet = true) (settles : stage.Settles change settled)
    (named : ∀ row, (settled row).id = row.id) (concludes : Concludes status settled)
    (distinct : (Rows.ids (stage.rows.read system)).Nodup) {charges : String → Nat}
    (charged : ∀ row ∈ stage.rows.read system, row.status = status → row.retryAttempt = charges row.id) :
    Meets (engine.feed status limit idle change errors (targetsIn engine criteria status (stage.rows.read system))
        (.clean (stage.rows.read system))) system (stage.Recovers limit charges system)
      fun abort _ => Panics engine abort := by
  -- What holds of the targets is kept through the window, and carried over to what is stored at its end.
  let targets := targetsIn engine criteria status (stage.rows.read system)
  have members : ∀ row ∈ Target.all targets, row ∈ stage.rows.read system ∧ Chosen engine criteria status row :=
    fun row member => mem_all_targetsIn.mp member
  by_cases nobody : targets = []
  · -- Where nobody is fed, nobody handles anything.
    show Meets (engine.feed status limit idle change errors targets _) system _ _
    rw [nobody]
    refine Meets.of_run (hosted.feed_idle system) ⟨fun _ => rfl, [idle], by simp, fun row _ handled => ?_⟩
    obtain ⟨index, told⟩ := handled
    rw [← List.mem_singleton.mp told] at quiet
    cases quiet
  have inHand : stage.InHand targets system := inHand_targetsIn distinct
  have counting : stage.Counting status targets system targets
      (stage.observe (.loading (Engine.lowestPosition targets) targets.length) system) :=
    ⟨fun target member => behaves _ (registered_of_targetsIn target member), rfl, [_], stage.journal_observe _ _,
      fun target member => ⟨_, List.mem_map_of_mem member, rfl, rfl,
        Or.inl (members _ (List.mem_map_of_mem member)).2.2.1⟩, by simp⟩
  refine Meets.mono (hosted.feed_meets hosted.counting_offers counting_saves settles named inHand nobody
    counting) fun report after ends => ?_
  obtain ⟨finished, -, -, final, rest, middle, counting, inHandFinal, quietly, ids, -, fields⟩ := ends
  obtain ⟨-, -, notices, journal, counts, handled⟩ := counting
  obtain ⟨more, further, still⟩ := quietly.journal
  refine ⟨fun unlimited => by rw [finished, unlimited]; rfl, notices ++ more, ?_, fun row stored told unfailed => ?_⟩
  · rw [further, journal, List.append_assoc]
  -- Whoever has handled a message is one of the targets, and still at work.
  obtain ⟨index, told⟩ := told
  have listed : row.id ∈ Rows.ids (Target.all final) := by
    rw [ids]
    refine handled row.id index ((List.mem_append.mp told).resolve_right fun last => ?_)
    cases still _ last
  obtain ⟨last, isFinal, same⟩ := List.mem_map.mp listed
  obtain ⟨target, isTarget, rfl⟩ := List.mem_map.mp isFinal
  obtain ⟨first, isFirst, sameFirst, counted, works⟩ := counts target isTarget
  have works : target.subscription.status = status := by
    refine works.resolve_right fun failed => ?_
    obtain ⟨failure, member, own⟩ := failed
    exact unfailed failure (by simp [member]) (own.trans same)
  have kept := stored_of_target named inHandFinal fields stored isTarget same works
  rw [(Subscription.alike_of_unstamped kept).retryAttempt]
  split
  · exact concludes.retries _
  · obtain ⟨present, chosen⟩ := members first isFirst
    rw [counted, charged first present chosen.2.1, sameFirst, same]

/-- Up to the detachment of subscriptions nothing is handled, and nobody is charged with other retries than before. -/
theorem Hosts.charging {α : Type} (hosted : stage.Hosts engine) (distinct : (Rows.ids (stage.rows.read system)).Nodup)
    {failedIn statuses : List Status} (working : .error ∉ failedIn)
    (attached : statuses ⊆ [.new, .booting, .active, .paused, .error]) {rest : WorkUnit → Action σ α}
    {ok : α → σ → Prop} {early : Abort → σ → Prop}
    (meets : ∀ after, stage.Traced (stage.ledger (stage.rows.read system) system) after →
      stage.Unhandled system after → Charged (stage.rows.read system) (stage.rows.read after) →
        Meets (rest (.clean (stage.rows.read after))) after ok early) :
    Meets (engine.store.guarded do
      let unit ← engine.discover criteria {}
      let unit ← engine.retry criteria failedIn unit
      let unit ← engine.markDetached criteria statuses unit
      rest unit) system ok early := by
  -- Discovery, retry and detachment, each of which neither handles a message nor changes a charge.
  have lasting : stage.Lasting (stage.Unhandled system) := unhandled_lasting system
  apply hosted.guarded_meets
  refine ((hosted.discover_ends distinct (.refl _)).also (hosted.discover_outlasts lasting _ _ system
    ⟨[], by simp, by simp⟩)).meets.bind fun unit one ends => ?_
  obtain ⟨discovered, unhandled⟩ := ends
  obtain rfl := discovered.clean
  refine ((hosted.retry_ends discovered.distinct discovered.follows).also
    (hosted.retry_outlasts lasting _ _ _ one unhandled)).meets.bind fun unit two ends => ?_
  obtain ⟨retried, unhandled⟩ := ends
  obtain rfl := retried.unit
  refine ((hosted.markDetached_ends attached retried.distinct retried.follows).also
    (hosted.markDetached_outlasts lasting _ _ _ two unhandled)).meets.bind fun unit three ends => ?_
  obtain ⟨marked, unhandled⟩ := ends
  obtain rfl := marked.unit
  exact meets three ⟨marked.distinct, marked.follows⟩ unhandled
    (marked.charged_detached (retried.charged_retried working (discovered.charged distinct)))

/-- A boot and a run, with or without a limit, forget the retries of those that handle messages and do not fail, if they
come to the end of the log. -/
theorem Hosts.retries_forgotten (hosted : stage.Hosts engine)
    (behaves : ∀ subscriber ∈ engine.registry.subscribers, stage.Behaves subscriber)
    (distinct : (Rows.ids (stage.rows.read system)).Nodup) (criteria : FeedCriteria) (limit : Option Nat) :
    Meets (engine.boot criteria limit) system
        (stage.Recovers limit (chargeIn (stage.rows.read system)) system) (fun abort _ => Panics engine abort) ∧
      Meets (engine.run criteria limit) system
        (stage.Recovers limit (chargeIn (stage.rows.read system)) system) fun abort _ => Panics engine abort := by
  -- Only the setup of a boot stands between the common phases and the feeding.
  constructor
  · refine hosted.charging distinct (by simp) (by simp) fun before traced unhandled charged => ?_
    refine (((hosted.setupNew_meets behaves traced.distinct traced.follows).both
      (hosted.setupNew_unhandled behaves system before unhandled)).weaken (fun _ _ ends => ends)
        fun _ _ early => early.1.1).bind fun result after ends => ?_
    obtain ⟨errors, unit⟩ := result
    obtain ⟨prepared, unhandled⟩ := ends
    obtain rfl := prepared.clean
    refine Meets.run_bind (hosted.targets_run prepared.distinct) ?_
    exact (hosted.feed_recovers behaves rfl hosted.caughtUp_settles caughtUp_id caughtUp_concludes prepared.distinct
      ((prepared.charged charged).counted (Or.inl rfl))).mono fun _ _ recovers => recovers.since unhandled
  · refine hosted.charging distinct (by simp) (by simp) fun before traced unhandled charged => ?_
    refine Meets.run_bind (hosted.targets_run traced.distinct) ?_
    exact (hosted.feed_recovers behaves rfl hosted.keptUp_settles keptUp_id keptUp_concludes traced.distinct
      (charged.counted (Or.inr rfl))).mono fun _ _ recovers => recovers.since unhandled

end Stage

namespace World

/-- A steady and a shaky subscriber have caught up with a first message, and then a run handed them two more: the shaky
one has failed with the second message. -/
def shaken : World :=
  let caught := (((feeder pair .always).boot {} none).outcome (telling ["a"])).2
  (((feeder pair .always).run {} none).outcome (caught.append [plainMessage "b", plainMessage "c"])).2

/-- Its next run forgets the retry at the end of the log, and keeps it under a limit of one message. -/
theorem shaken_retries_forgotten :
    chargeIn (stage.rows.read shaken) "shaky" = 1 ∧
      Meets ((feeder pair .always).boot {} (some 1)) shaken
        (stage.Recovers (some 1) (chargeIn (stage.rows.read shaken)) shaken)
        (fun abort _ => Stage.Panics (feeder pair .always) abort) ∧
      Meets ((feeder pair .always).run {} (some 1)) shaken
        (stage.Recovers (some 1) (chargeIn (stage.rows.read shaken)) shaken)
        fun abort _ => Stage.Panics (feeder pair .always) abort :=
  ⟨by decide +kernel, (hosts pair .always {}).retries_forgotten
    (fun subscriber member => (pair_contained subscriber member).behaves) (by decide +kernel) {} (some 1)⟩

/-- Under that limit the run returns, and the shaky subscriber handles its message and does not fail, but its retry is
still counted. -/
theorem shaken_counts_retry :
    let resumed := ((feeder pair .always).run {} (some 1)).outcome shaken
    resumed.1 = .ok { processed := 1, finished := false, errors := [] } ∧
      (stage.journal resumed.2).drop (stage.journal shaken).length =
        [.retrying "shaky" .active 1, .loading 1 2, .alreadyHandled "steady" 2 3, .dispatching "shaky" 2 "plain",
          .handled "shaky" 2] ∧
      (stage.rows.read resumed.2).map (fun row => (row.id, row.status, row.retryAttempt)) =
        [("steady", .active, 0), ("shaky", .active, 1)] := by
  decide +kernel

end World

end EventFeed
