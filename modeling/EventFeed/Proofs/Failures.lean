import EventFeed.Proofs.Tallies
import EventFeed.Proofs.Transitions
import Mathlib.Data.List.Infix

/-! Failures: what a boot or a run reports as failed is stored as failed, and what had failed before and was not tried
again is left as it was. -/

namespace EventFeed

open EventFeed.Action
open Subscription (unstamped)

variable {σ : Type}

/-- A report that goes with no change tells of no failure. -/
theorem Notice.failure?_of_idle {notice : Notice} (idle : notice.idle = true) : notice.failure? = none := by
  cases notice <;> first | rfl | cases idle

/-- A subscription as a failure leaves it that is told of in some reports. -/
inductive Stopped (operation : Operation) (notices : List Notice) (failure : SubscriptionFailure) (row : Subscription) :
    Prop
  /-- Its setup hook has failed in a boot, and it was handed no message. -/
  | setup (status : row.status = .error) (kept : row.error = some (.ofCaptured .new failure.error))
    (booting : operation.fed = some .booting)
    (unhanded : ∀ index eventType, .dispatching row.id index eventType ∉ notices)
  /-- It has failed on a message, and does not stand past that. -/
  | handler {fed : Status} {index : Nat} {eventType : String} (status : row.status = .error)
    (kept : row.error = some (.ofCaptured fed failure.error)) (feeding : operation.fed = some fed)
    (told : [.dispatching row.id index eventType, .failed row.id fed row.position failure.error] <:+: notices)
    (behind : row.position < index)

namespace Stopped

variable {operation : Operation} {notices : List Notice} {failure : SubscriptionFailure} {row next : Subscription}

theorem status (stopped : Stopped operation notices failure row) : row.status = .error := by
  cases stopped <;> assumption

/-- Stamps make no difference to a failure, and neither do other reports in which the subscription is handed nothing. -/
theorem among (stopped : Stopped operation notices failure row) (same : next.unstamped = row.unstamped)
    {all : List Notice} (within : notices <:+: all) (unhanded : ∀ index eventType,
      .dispatching row.id index eventType ∈ all → .dispatching row.id index eventType ∈ notices) :
    Stopped operation all failure next := by
  -- Only the id, the position and what is kept of the failure are looked at.
  have alike := Subscription.alike_of_unstamped same
  cases stopped with
  | setup status kept booting none =>
    refine .setup (alike.status.trans status) (alike.error.trans kept) booting fun index eventType member => ?_
    rw [alike.id] at member
    exact none index eventType (unhanded index eventType member)
  | handler status kept feeding told behind =>
    rw [← alike.id, ← alike.position] at told
    rw [← alike.position] at behind
    exact .handler (alike.status.trans status) (alike.error.trans kept) feeding (told.trans within) behind

/-- In particular, such reports may follow. -/
theorem further (stopped : Stopped operation notices failure row) (same : next.unstamped = row.unstamped)
    {more : List Notice} (unhanded : ∀ index eventType, .dispatching row.id index eventType ∉ more) :
    Stopped operation (notices ++ more) failure next :=
  stopped.among same (List.infix_append' [] _ more) fun index eventType member =>
    (List.mem_append.mp member).resolve_right (unhanded index eventType)

end Stopped

variable {engine : Engine σ} {operation : Operation} {log : List (Nat × Message)} {loaded : List Nat}
  {journal notices : List Notice} {row next : Subscription} {fed : Status}

namespace Deed

/-- What is done to a subscription in a boot or a run either tells of no failure, and then leaves nobody in error who
was not, or stops the subscription on a failure that it tells of. -/
theorem fails (feeding : operation.fed = some fed) (done : Deed engine operation log loaded notices row next) :
    failuresIn notices = [] ∧ (next.status = .error → next = row) ∨
    ∃ error, failuresIn notices = [⟨row.id, error⟩] ∧ row.status ≠ .error ∧ next.status = .error ∧
      engine.registry.knows row.id = true ∧ ∀ front, (row.status = .new → ∀ index eventType,
        .dispatching row.id index eventType ∉ front) → Stopped operation (front ++ notices) ⟨row.id, error⟩ next := by
  -- Only three deeds leave a failed subscription, and one of them is a retry of nothing.
  cases done with
  | breakOff => exact Or.inl ⟨rfl, fun _ => rfl⟩
  | retry status admitted approved retried =>
    obtain ⟨error, failure, shape⟩ := Subscription.retry_ok retried
    refine Or.inl ⟨rfl, fun again => ?_⟩
    -- Nobody is put back into error.
    have back := admitted error failure
    rw [shape] at again
    have again : error.previous = .error := again
    cases operation <;> simp [again, Operation.retried] at back
  | detach | pause => exact Or.inl ⟨rfl, fun again => by cases again⟩
  | reactivate asked => rw [asked] at feeding; cases feeding
  | boot | startNow =>
    refine Or.inl ⟨?_, fun again => by cases again⟩
    simp only [Subscriber.setupReports]
    split <;> rfl
  | activate | finish => exact Or.inl ⟨rfl, fun again => by cases again⟩
  | handle own => exact Or.inl ⟨rfl, fun again => absurd again (Subscription.started_of_fed own)⟩
  | recover _ active => exact Or.inl ⟨rfl, fun again => by cases active.symm.trans again⟩
  | failSetup asked status found hook error =>
    have started : row.status ≠ .error := by simp [status]
    refine Or.inr ⟨error, rfl, started, rfl, by simp [Registry.knows, found], fun front unhanded => ?_⟩
    refine .setup rfl (by rw [Subscription.fail_error started, status]) asked fun index eventType member => ?_
    simp only [List.mem_append, List.mem_cons, reduceCtorEq, List.not_mem_nil, or_false] at member
    exact unhanded status index eventType member
  | failHandle own found awaits read eventType error =>
    have started := Subscription.started_of_fed own
    refine Or.inr ⟨error, rfl, started, rfl, by simp [Registry.knows, found], fun front _ => ?_⟩
    exact .handler rfl (Subscription.fail_error started error) own (List.infix_append' front _ []) awaits.1.2

/-- A subscription that has failed rests while no retry is approved, unless its subscriber is gone. -/
theorem rests (feeding : operation.fed = some fed) (never : Stage.Unforgiving engine)
    (done : Deed engine operation log loaded notices row next) (known : engine.registry.knows row.id = true) :
    row.status ≠ .error := by
  -- Deeds to a failed subscription need an approval, a lost subscriber or a request.
  cases done with
  | retry _ _ approved =>
    obtain ⟨system, approved⟩ := approved
    simp [never system row] at approved
  | detach _ gone => simp [known] at gone
  | pause asked | reactivate asked => rw [asked] at feeding; cases feeding
  | handle own | failHandle own | breakOff own | finish own => exact Subscription.started_of_fed own
  | boot _ status | startNow _ status | failSetup _ status | activate _ status | recover _ status => simp [status]

/-- Nobody becomes new while no retry is approved. -/
theorem ages (feeding : operation.fed = some fed) (never : Stage.Unforgiving engine)
    (done : Deed engine operation log loaded notices row next) (old : row.status ≠ .new) : next.status ≠ .new := by
  -- Only a retry or a request could make a subscription new.
  cases done with
  | retry _ _ approved =>
    obtain ⟨system, approved⟩ := approved
    simp [never system row] at approved
  | reactivate asked => rw [asked] at feeding; cases feeding
  | handle | breakOff | recover => exact old
  | _ => exact Status.noConfusion

end Deed

namespace Chronicle

variable {before : List Subscription} {one two : Chronicle}

/-- Who is in error and was not reported to have failed is stored as before. -/
structure Abiding (before : List Subscription) (notices : List Notice) (chronicle : Chronicle) : Prop where
  orderly : chronicle.ledger.Orderly
  abiding : ∀ row ∈ chronicle.known, row.status = .error → (∀ failure ∈ failuresIn notices, failure.id ≠ row.id) →
    row ∈ before ∧ row ∈ chronicle.stored

/-- Every small step of a boot or a run leaves alone who is in error and does not fail. -/
theorem Abiding.step (feeding : operation.fed = some fed) (abides : Abiding before journal one)
    (step : Step engine operation one two) :
    ∃ notices, two.journal = one.journal ++ notices ∧ Abiding before (journal ++ notices) two := by
  have orderly : two.ledger.Orderly := abides.orderly.turns (step.follows (.refl one.ledger)).turns
  -- What was reported before is reported still.
  have earlier : ∀ {row : Subscription} {more : List Notice},
      (∀ failure ∈ failuresIn (journal ++ more), failure.id ≠ row.id) →
        ∀ failure ∈ failuresIn journal, failure.id ≠ row.id :=
    fun unfailed failure member => unfailed failure (by simp [member])
  cases step with
  | remark | load | grow =>
    exact ⟨_, by simp; rfl, orderly, fun row member failed unfailed =>
      abides.abiding row member failed (earlier unfailed)⟩
  | enroll reports new =>
    refine ⟨_, rfl, orderly, fun row member failed unfailed => ?_⟩
    rcases List.mem_append.mp member with old | added
    · exact abides.abiding row old failed (earlier unfailed)
    · rw [(new row added).1] at failed
      cases failed
  | @deed notices row next member meant done =>
    refine ⟨notices, rfl, orderly, fun other present failed unfailed => ?_⟩
    rcases Rows.mem_put present with rfl | ⟨old, -⟩
    · rcases done.fails feeding with ⟨-, same⟩ | ⟨error, told, -⟩
      · obtain rfl := same failed
        exact abides.abiding _ member failed (earlier unfailed)
      · exact absurd done.named.1.symm (unfailed ⟨row.id, error⟩ (by simp [told]))
    · exact abides.abiding other old failed (earlier unfailed)
  | @save stored known written same spared =>
    refine ⟨[], by simp, orderly, fun row member failed unfailed => ?_⟩
    obtain ⟨old, present, stamped⟩ := Rows.source same member
    have alike := Subscription.alike_of_unstamped stamped
    have kept := abides.abiding old present (alike.status.trans failed) (alike.id ▸ earlier unfailed)
    obtain ⟨isStored, isKnown⟩ := spared old present kept.2
    obtain rfl := Rows.eq_of_id orderly.known isKnown member alike.id
    exact ⟨kept.1, isStored⟩
  | remove asked => rw [asked] at feeding; cases feeding

/-- Who was reported to have failed is known as failed, once each. -/
structure Faulted (engine : Engine σ) (operation : Operation) (notices : List Notice) (chronicle : Chronicle) :
    Prop where
  orderly : chronicle.ledger.Orderly
  once : ((failuresIn notices).map SubscriptionFailure.id).Nodup
  stopped : ∀ failure ∈ failuresIn notices, ∃ row ∈ chronicle.known, row.id = failure.id ∧
    engine.registry.knows row.id = true ∧ operation.criteria.admits row.id row.group = true ∧
    Stopped operation notices failure row
  handed : ∀ id index eventType, .dispatching id index eventType ∈ notices →
    ∃ row ∈ chronicle.known, row.id = id ∧ row.status ≠ .new

/-- Reports that tell of no failure and of no message make no difference, while nobody gets lost. -/
theorem Faulted.further (faulted : Faulted engine operation journal one) (orderly : two.ledger.Orderly)
    {more : List Notice} (unfailed : failuresIn more = [])
    (unhanded : ∀ id index eventType, .dispatching id index eventType ∉ more)
    (kept : ∀ row ∈ one.known, ∃ next ∈ two.known, next.unstamped = row.unstamped) :
    Faulted engine operation (journal ++ more) two := by
  -- The further reports are in none of the lists that are looked at.
  obtain ⟨-, once, stopped, handed⟩ := faulted
  refine ⟨orderly, by simpa [unfailed] using once, fun failure member => ?_, fun id index eventType member => ?_⟩
  · rw [failuresIn_append, unfailed, List.append_nil] at member
    obtain ⟨row, present, named, known, meant, stays⟩ := stopped failure member
    obtain ⟨next, isKnown, same⟩ := kept row present
    have alike := Subscription.alike_of_unstamped same
    exact ⟨next, isKnown, alike.id.trans named, alike.id ▸ known, by rw [alike.id, alike.group]; exact meant,
      stays.further same (unhanded row.id)⟩
  · obtain ⟨row, present, named, old⟩ := handed id index eventType
      ((List.mem_append.mp member).resolve_right (unhanded _ _ _))
    obtain ⟨next, isKnown, same⟩ := kept row present
    have alike := Subscription.alike_of_unstamped same
    exact ⟨next, isKnown, alike.id.trans named, alike.status ▸ old⟩

/-- Every small step of a boot or a run after its retries reports each failure once, and leaves those who have failed
as they are. -/
theorem Faulted.step (feeding : operation.fed = some fed) (never : Stage.Unforgiving engine)
    (faulted : Faulted engine operation journal one) (step : Step engine operation one two) :
    ∃ notices, two.journal = one.journal ++ notices ∧ Faulted engine operation (journal ++ notices) two := by
  -- Most steps report no failure and hand over nothing, so only the deeds need a closer look.
  have orderly : two.ledger.Orderly := faulted.orderly.turns (step.follows (.refl one.ledger)).turns
  have same : ∀ row ∈ one.known, ∃ next ∈ one.known, next.unstamped = row.unstamped :=
    fun row member => ⟨row, member, rfl⟩
  cases step with
  | @remark notice idle =>
    refine ⟨_, rfl, faulted.further orderly ?_ ?_ same⟩
    · simp [failuresIn, Notice.failure?_of_idle idle]
    · intro id index eventType member
      simp [← List.mem_singleton.mp member, Notice.idle] at idle
  | load => exact ⟨_, rfl, faulted.further orderly rfl (by simp) same⟩
  | grow => exact ⟨[], by simp, faulted.further orderly rfl (by simp) same⟩
  | enroll reports =>
    refine ⟨_, rfl, faulted.further orderly ?_ ?_ fun row member => ⟨row, List.mem_append_left _ member, rfl⟩⟩
    · refine List.filterMap_eq_nil_iff.mpr fun notice member => ?_
      obtain ⟨id, group, rfl, -⟩ := reports notice member
      rfl
    · intro id index eventType member
      obtain ⟨_, _, shape, -⟩ := reports _ member
      cases shape
  | save written kept =>
    exact ⟨[], by simp, faulted.further orderly rfl (by simp) fun row member => Rows.source kept.symm member⟩
  | @deed notices row next member meant done =>
    obtain ⟨distinct, once, stopped, handed⟩ := faulted
    have named := done.named
    have placed : next ∈ Rows.put next one.known := List.mem_map.mpr ⟨row, member, if_pos named.1.symm⟩
    -- Whoever has failed is somebody else, and is left alone.
    have apart : ∀ failure ∈ failuresIn journal, ∃ other ∈ one.known, other.id = failure.id ∧ row.id ≠ other.id ∧
        engine.registry.knows other.id = true ∧ operation.criteria.admits other.id other.group = true ∧
        Stopped operation (journal ++ notices) failure other := by
      intro failure failed
      obtain ⟨other, present, id, known, admitted, stays⟩ := stopped failure failed
      have different : row.id ≠ other.id := by
        intro equal
        obtain rfl := Rows.eq_of_id distinct.known member present equal
        exact done.rests feeding never known stays.status
      exact ⟨other, present, id, different, known, admitted,
        stays.further rfl fun index eventType told => different (done.dispatching told).1.symm⟩
    have old : ∀ failure ∈ failuresIn journal, ∃ other ∈ Rows.put next one.known, other.id = failure.id ∧
        engine.registry.knows other.id = true ∧ operation.criteria.admits other.id other.group = true ∧
        Stopped operation (journal ++ notices) failure other := by
      intro failure failed
      obtain ⟨other, present, id, different, rest⟩ := apart failure failed
      exact ⟨other, Rows.mem_put_of_ne present fun equal => different (named.1.symm.trans equal.symm), id, rest⟩
    -- Whoever was handed a message is not new, and stays so.
    have served : ∀ id index eventType, .dispatching id index eventType ∈ journal ++ notices →
        ∃ other ∈ Rows.put next one.known, other.id = id ∧ other.status ≠ .new := by
      intro id index eventType told
      by_cases same : id = row.id
      · subst same
        refine ⟨next, placed, named.1, done.ages feeding never fun new => ?_⟩
        rcases List.mem_append.mp told with before | here
        · obtain ⟨other, present, equal, old⟩ := handed row.id index eventType before
          obtain rfl := Rows.eq_of_id distinct.known present member equal
          exact old new
        · obtain ⟨-, own, -⟩ := done.dispatching here
          rcases Operation.fed_cases own with works | works <;> cases new.symm.trans works
      · rcases List.mem_append.mp told with before | here
        · obtain ⟨other, present, rfl, old⟩ := handed id index eventType before
          exact ⟨other, Rows.mem_put_of_ne present fun equal => same (equal.trans named.1), rfl, old⟩
        · exact absurd (done.dispatching here).1 same
    rcases done.fails feeding with ⟨unfailed, -⟩ | ⟨error, told, started, status, known, stops⟩
    · exact ⟨notices, rfl, orderly, by simpa [unfailed] using once, by simpa [unfailed] using old, served⟩
    · -- The one who fails now was neither in error before, nor new after it was handed a message.
      refine ⟨notices, rfl, orderly, ?_, fun failure member => ?_, served⟩
      · rw [failuresIn_append, told, List.map_append, List.nodup_append]
        refine ⟨once, by simp, fun id before other now => ?_⟩
        obtain ⟨failure, failed, rfl⟩ := List.mem_map.mp before
        obtain rfl : other = row.id := by simpa using now
        obtain ⟨other, -, equal, different, -⟩ := apart failure failed
        exact fun same => different (same.symm.trans equal.symm)
      · rw [failuresIn_append, told, List.mem_append, List.mem_singleton] at member
        rcases member with before | rfl
        · exact old failure before
        · refine ⟨next, placed, named.1, named.1 ▸ known, by rw [named.1, named.2.1]; exact meant, ?_⟩
          refine stops journal fun new index eventType before => ?_
          obtain ⟨other, present, equal, old⟩ := handed row.id index eventType before
          obtain rfl := Rows.eq_of_id distinct.known present member equal
          exact old new
  | remove asked => rw [asked] at feeding; cases feeding

/-- At first nothing was reported. -/
theorem faulted_start {first : Chronicle} (orderly : first.ledger.Orderly) : Faulted engine operation [] first :=
  ⟨orderly, by simp, by simp, by simp⟩

end Chronicle

namespace Engine

/-- An engine that tries no failed subscription again, and is like another one otherwise. -/
def unforgiving (engine : Engine σ) : Engine σ := { engine with retries := fun _ _ => false }

/-- Handlers are called in the same way, whoever is tried again. -/
theorem callAll_unforgiving (engine : Engine σ) (message : Message) (handlers : List (Handler σ)) :
    engine.unforgiving.callAll message handlers = engine.callAll message handlers := by
  -- A call does not look at the strategy for retries.
  induction handlers with
  | nil => rfl
  | cons handler rest ih =>
    simp only [callAll, ih]
    rfl

/-- So are messages offered. -/
theorem offer_unforgiving (engine : Engine σ) : engine.unforgiving.offer = engine.offer := by
  -- An offer does not look at the strategy for retries.
  funext status index message target
  simp only [offer, handle, callAll_unforgiving]
  rfl

/-- So are messages delivered. -/
theorem deliver_unforgiving (engine : Engine σ) (status : Status) (limit : Option Nat) (items : List LogItem)
    (window : Window σ) :
    engine.unforgiving.deliver status limit window items = engine.deliver status limit window items := by
  -- Each message is offered alike, and the windows stop alike.
  induction items generalizing window with
  | nil => rfl
  | cons item rest ih =>
    simp only [deliver, ih, offerAll, offer_unforgiving]
    rfl

/-- So are targets fed. -/
theorem feed_unforgiving (engine : Engine σ) : engine.unforgiving.feed = engine.feed := by
  -- Feeding is loading and delivering, and neither looks at the strategy.
  funext status limit idle change errors targets unit
  simp only [feed, process, deliver_unforgiving]
  rfl

end Engine

namespace Stage

variable {stage : Stage σ} {criteria : FeedCriteria} {limit : Option Nat} {system : σ}

/-- Since a beginning, all reports were routine. -/
def Routinely (stage : Stage σ) (begun system : σ) : Prop :=
  ∃ notices, stage.journal system = stage.journal begun ++ notices ∧ ∀ notice ∈ notices, notice.routine = true

/-- That lasts while an engine keeps its subscriptions in order. -/
theorem routinely_lasting (begun : σ) : stage.Lasting (stage.Routinely begun) where
  observe {notice system} routine held := by
    -- A routine report is one more of those, and a write reports nothing.
    obtain ⟨notices, journal, each⟩ := held
    refine ⟨notices ++ [notice], by simp [journal], fun other member => ?_⟩
    rcases List.mem_append.mp member with before | last
    · exact each other before
    · exact List.mem_singleton.mp last ▸ routine
  write held := by simpa [Routinely] using held

/-- An engine works on a system whoever it tries again. -/
theorem Hosts.unforgiving (hosted : stage.Hosts engine) : stage.Hosts engine.unforgiving :=
  ⟨hosted.load, hosted.store, hosted.observe⟩

/-- After routine reports, each failure was reported once and is stored as it was reported. -/
def Filed (stage : Stage σ) (engine : Engine σ) (operation : Operation) (before after : σ) : Prop :=
  ∃ front back loaded, stage.journal after = stage.journal before ++ (front ++ back) ∧
    (∀ notice ∈ front, notice.routine = true) ∧
    Chronicle.Faulted engine.unforgiving operation back (stage.chronicle loaded (stage.rows.read after) after)

/-- What is done after the retries of a boot or a run is recorded as if no retry was approved, and so it files each
failure. -/
theorem Hosts.files {α : Type} (hosted : stage.Hosts engine) (feeding : operation.fed = some fed)
    (distinct : (Rows.ids (stage.rows.read system)).Nodup) {rest : WorkUnit → Action σ α}
    (meets : ∀ between, stage.Entered engine.unforgiving operation
        (stage.chronicle [] (stage.rows.read between) between) [] between →
      Meets (rest (.clean (stage.rows.read between))) between (fun _ after => ∃ loaded, stage.Entered engine.unforgiving
        operation (stage.chronicle [] (stage.rows.read between) between) loaded after) fun _ _ => True) :
    Meets (engine.store.guarded do
      let unit ← engine.discover operation.criteria {}
      let unit ← engine.retry operation.criteria operation.retried unit
      rest unit) system (fun _ after => stage.Filed engine operation system after) fun _ _ => True := by
  -- The retries are behind, so a journal that begins here has no deed of theirs.
  have entered : stage.Entered engine operation (stage.chronicle [] (stage.rows.read system) system) [] system :=
    ⟨distinct, .refl⟩
  have lasting : stage.Lasting (stage.Routinely system) := routinely_lasting system
  apply hosted.guarded_meets
  -- Discovery and retries make routine reports.
  refine Meets.bind ((hosted.discover_enters entered).also
    (hosted.discover_outlasts lasting _ _ system ⟨[], by simp⟩)).meets fun unit one ends => ?_
  obtain ⟨⟨rfl, entered⟩, routinely⟩ := ends
  refine Meets.bind ((hosted.retry_enters entered).also
    (hosted.retry_outlasts lasting _ _ _ one routinely)).meets fun unit two ends => ?_
  obtain ⟨⟨rfl, entered⟩, front, before, routine⟩ := ends
  -- The rest is recorded anew.
  refine (meets two ⟨entered.distinct, .refl⟩).mono fun _ after ends => ?_
  obtain ⟨loaded, -, recorded⟩ := ends
  obtain ⟨back, journal, faulted⟩ := Chronicle.Leads.tells
    (fun faulted step => Chronicle.Faulted.step feeding (fun _ _ => rfl) faulted step) recorded
    (Chronicle.faulted_start (orderly_outside entered.distinct))
  have journal : stage.journal after = stage.journal two ++ back := journal
  exact ⟨front, back, loaded, by rw [journal, before, List.append_assoc], routine, faulted⟩

/-- A boot files each failure. -/
theorem Hosts.boot_files (hosted : stage.Hosts engine)
    (behaves : ∀ subscriber ∈ engine.registry.subscribers, stage.Behaves subscriber)
    (distinct : (Rows.ids (stage.rows.read system)).Nodup) (criteria : FeedCriteria) (limit : Option Nat) :
    Meets (engine.boot criteria limit) system
      (fun _ after => stage.Filed engine (.boot criteria limit) system after) fun _ _ => True := by
  -- After the retries come the detachment, the setups and the feeding.
  have fed : (Operation.boot criteria limit).fed = some .booting := rfl
  refine hosted.files fed distinct fun between entered => ?_
  refine Meets.bind (hosted.unforgiving.markDetached_enters entered).meets fun unit one ends => ?_
  obtain ⟨rfl, entered⟩ := ends
  refine Meets.bind ((hosted.unforgiving.setupNew_enters behaves rfl entered).weaken (fun _ _ ends => ends)
    fun _ _ _ => trivial) fun result two ends => ?_
  obtain ⟨errors, unit⟩ := result
  obtain ⟨rfl, entered⟩ := ends
  apply Meets.run_bind (hosted.targets_run entered.distinct)
  rw [← engine.feed_unforgiving]
  exact (hosted.unforgiving.feed_enters behaves fed rfl rfl
    (fun loaded row between status through => hosted.unforgiving.caughtUp_closes fed status through) entered).weaken
      (fun _ _ ends => ends) fun _ _ _ => trivial

/-- A run files each failure. -/
theorem Hosts.run_files (hosted : stage.Hosts engine)
    (behaves : ∀ subscriber ∈ engine.registry.subscribers, stage.Behaves subscriber)
    (distinct : (Rows.ids (stage.rows.read system)).Nodup) (criteria : FeedCriteria) (limit : Option Nat) :
    Meets (engine.run criteria limit) system
      (fun _ after => stage.Filed engine (.run criteria limit) system after) fun _ _ => True := by
  -- After the retries come the detachment and the feeding.
  have fed : (Operation.run criteria limit).fed = some .active := rfl
  refine hosted.files fed distinct fun between entered => ?_
  refine Meets.bind (hosted.unforgiving.markDetached_enters entered).meets fun unit one ends => ?_
  obtain ⟨rfl, entered⟩ := ends
  apply Meets.run_bind (hosted.targets_run entered.distinct)
  rw [← engine.feed_unforgiving]
  exact (hosted.unforgiving.feed_enters behaves fed rfl rfl
    (fun loaded row between status through => hosted.unforgiving.keptUp_closes fed status through) entered).weaken
      (fun _ _ ends => ends) fun _ _ _ => trivial

/-- What a boot or a run that returns has to say about failures. -/
structure Accounts (stage : Stage σ) (engine : Engine σ) (operation : Operation) (before : σ) (report : FeedReport)
    (after : σ) : Prop where
  /-- The report has what went wrong in setup hooks and handlers, in that order, and nothing else. -/
  complete : stage.Adds engine report.errors before after
  /-- It names nobody twice. -/
  once : (report.errors.map SubscriptionFailure.id).Nodup
  /-- Everybody whom it names is stored with that failure. -/
  stored : ∃ notices, stage.journal after = stage.journal before ++ notices ∧ failuresIn notices = report.errors ∧
    ∀ failure ∈ report.errors, ∃ row ∈ stage.rows.read after, row.id = failure.id ∧
      operation.criteria.admits row.id row.group = true ∧ Stopped operation notices failure row
  /-- Everybody else who is in error was stored before as now, with the same stamp. -/
  abiding : ∀ row ∈ stage.rows.read after, row.status = .error → row.id ∉ report.errors.map SubscriptionFailure.id →
    row ∈ stage.rows.read before

/-- What was filed and what was tallied agree. -/
theorem Filed.accounts {report : FeedReport} {after : σ} (filed : stage.Filed engine operation system after)
    (feeding : operation.fed = some fed) (tallied : stage.Tallied engine system report.errors after)
    (distinct : (Rows.ids (stage.rows.read system)).Nodup)
    (entered : ∃ loaded, stage.Entered engine operation (stage.chronicle [] (stage.rows.read system) system) loaded
      after) :
    stage.Accounts engine operation system report after := by
  -- Both speak of the same reports, those of the front having told of no failure.
  obtain ⟨front, back, loaded, journal, routine, -, once, stopped, -⟩ := filed
  obtain ⟨⟨notices, told, failures⟩, complete⟩ := tallied
  obtain rfl : notices = front ++ back := List.append_cancel_left (told.symm.trans journal)
  have silent : failuresIn front = [] :=
    List.filterMap_eq_nil_iff.mpr fun notice member => Notice.failure?_of_routine (routine notice member)
  have same : failuresIn back = report.errors := by rw [← failures, failuresIn_append, silent, List.nil_append]
  rw [same] at once stopped
  refine ⟨complete, once, ⟨_, journal, failures, fun failure member => ?_⟩, fun row stored failed unnamed => ?_⟩
  · obtain ⟨row, stored, named, -, meant, stops⟩ := stopped failure member
    refine ⟨row, stored, named, meant, stops.among rfl (List.suffix_append _ _).isInfix fun index eventType told => ?_⟩
    refine (List.mem_append.mp told).resolve_left fun handed => ?_
    cases routine _ handed
  · -- Who does not fail in the whole operation stays as it is.
    obtain ⟨_, -, recorded⟩ := entered
    obtain ⟨all, whole, abides⟩ := Chronicle.Leads.tells
      (fun abides step => Chronicle.Abiding.step feeding abides step) recorded
      (⟨orderly_outside distinct, fun row member _ _ => ⟨member, member⟩⟩ :
        Chronicle.Abiding (stage.rows.read system) [] (stage.chronicle [] (stage.rows.read system) system))
    obtain rfl : all = front ++ back := List.append_cancel_left (whole.symm.trans journal)
    refine (abides.abiding row stored failed fun failure member named => unnamed ?_).1
    rw [failures] at member
    exact named ▸ List.mem_map_of_mem member

/-- A boot accounts for its failures. -/
theorem Hosts.boot_accounts (hosted : stage.Hosts engine) (caught : engine.config.catchPanics = true)
    (behaves : ∀ subscriber ∈ engine.registry.subscribers, stage.Behaves subscriber)
    (distinct : (Rows.ids (stage.rows.read system)).Nodup) (criteria : FeedCriteria) (limit : Option Nat) :
    Ends (engine.boot criteria limit) system (stage.Accounts engine (.boot criteria limit) system) := by
  -- The three views of one boot are taken together.
  have start : stage.Entered engine (.boot criteria limit) (stage.chronicle [] (stage.rows.read system) system) []
      system := ⟨distinct, .refl⟩
  have entered := ends_of_caught caught (hosted.boot_enters behaves start)
  refine Meets.mono ((entered.also (hosted.boot_files behaves distinct criteria limit)).also
    (hosted.boot_tallied behaves criteria limit system)) fun report after ends => ?_
  obtain ⟨⟨entered, filed⟩, tallied⟩ := ends
  exact filed.accounts rfl tallied distinct entered

/-- A run accounts for its failures. -/
theorem Hosts.run_accounts (hosted : stage.Hosts engine) (caught : engine.config.catchPanics = true)
    (behaves : ∀ subscriber ∈ engine.registry.subscribers, stage.Behaves subscriber)
    (distinct : (Rows.ids (stage.rows.read system)).Nodup) (criteria : FeedCriteria) (limit : Option Nat) :
    Ends (engine.run criteria limit) system (stage.Accounts engine (.run criteria limit) system) := by
  -- The three views of one run are taken together.
  have start : stage.Entered engine (.run criteria limit) (stage.chronicle [] (stage.rows.read system) system) []
      system := ⟨distinct, .refl⟩
  have entered := ends_of_caught caught (hosted.run_enters behaves start)
  refine Meets.mono ((entered.also (hosted.run_files behaves distinct criteria limit)).also
    (hosted.run_tallied behaves criteria limit system)) fun report after ends => ?_
  obtain ⟨⟨entered, filed⟩, tallied⟩ := ends
  exact filed.accounts rfl tallied distinct entered

/-- The failures that a boot or a run reports are those that have happened, in order, and nobody fails twice. Whoever
has failed is stored with that failure, and whoever else is in error afterwards is left as before. -/
theorem Hosts.failures_stored (hosted : stage.Hosts engine) (caught : engine.config.catchPanics = true)
    (behaves : ∀ subscriber ∈ engine.registry.subscribers, stage.Behaves subscriber)
    (distinct : (Rows.ids (stage.rows.read system)).Nodup) (criteria : FeedCriteria) (limit : Option Nat) :
    Ends (engine.boot criteria limit) system (stage.Accounts engine (.boot criteria limit) system) ∧
      Ends (engine.run criteria limit) system (stage.Accounts engine (.run criteria limit) system) :=
  ⟨hosted.boot_accounts caught behaves distinct criteria limit,
    hosted.run_accounts caught behaves distinct criteria limit⟩

end Stage

namespace World

/-- What the calls of subscribers came to that did not end well, if calls end as they are judged. -/
def mishaps (judge : String → List CallNote → HandlerOutcome) (world : World) : List SubscriptionFailure :=
  world.calls.inits.filterMap fun made =>
    made.getLast?.bind fun note => (judge note.name (callsOf note.name made)).failure? note.name

/-- One more call adds what it comes to. -/
theorem mishaps_react (judge : String → List CallNote → HandlerOutcome) (note : CallNote) (world : World) :
    mishaps judge (react (judge note.name) note world).2 =
      mishaps judge world ++ ((react (judge note.name) note world).1.failure? note.name).toList := by
  -- A mishap is told from the calls up to it, and this call is the last one.
  simp only [react, mishaps, noteCall, List.inits_append, List.filterMap_append]
  cases failed : (judge note.name (callsOf note.name world.calls ++ [note])).failure? note.name <;>
    simp [callsOf_append, callsOf_own, failed]

/-- How the calls of the ensemble end. -/
def castVerdict (id : String) : List CallNote → HandlerOutcome :=
  if id = "brittle" then brittle else if id = "clumsy" then fun _ => .panicked (.text "unready") else fun _ => .done

/-- What goes wrong in the ensemble can be told from its calls. -/
theorem ensemble_reckons (retry : RetryStrategy) (config : EngineConfig) :
    stage.Reckons (feeder ensemble retry config) (mishaps castVerdict) := by
  -- All code of the ensemble is a reaction of this kind.
  have judged : ∀ subscriber ∈ ensemble,
      ∃ runMode, subscriber = reacting subscriber.id (castVerdict subscriber.id) runMode := by
    intro subscriber member
    simp only [ensemble, List.mem_cons, List.not_mem_nil, or_false] at member
    rcases member with rfl | rfl | rfl | rfl <;> exact ⟨_, rfl⟩
  refine ⟨fun _ _ => rfl, fun _ _ => rfl, fun subscriber member hook declared world => ?_,
    fun subscriber member entry own message world => ?_⟩
  · obtain ⟨runMode, shape⟩ := judged subscriber member
    rw [shape] at declared
    obtain rfl := Option.some.inj declared
    exact mishaps_react castVerdict { name := subscriber.id, hook := .setup } world
  · obtain ⟨runMode, shape⟩ := judged subscriber member
    rw [shape] at own
    obtain rfl := List.mem_singleton.mp own
    exact mishaps_react castVerdict (handlerNote subscriber.id message 0) world

/-- After an operation that broke off, a clumsy and a brittle subscriber fail in a boot, in that order. -/
theorem torn_failures_stored :
    (mishaps castVerdict torn).map SubscriptionFailure.id = ["brittle"] ∧
      (mishaps castVerdict (((feeder ensemble .always).boot {} none).outcome torn).2).map SubscriptionFailure.id =
        ["brittle", "clumsy", "brittle"] ∧
      stage.Reckons (feeder ensemble .always) (mishaps castVerdict) ∧
      Ends ((feeder ensemble .always).boot {} none) torn
        (stage.Accounts (feeder ensemble .always) (.boot {} none) torn) ∧
      Ends ((feeder ensemble .always).run {} none) torn
        (stage.Accounts (feeder ensemble .always) (.run {} none) torn) :=
  ⟨by decide +kernel, by decide +kernel, ensemble_reckons _ _,
    (hosts ..).failures_stored rfl ensemble_behaves.1 (by decide +kernel) {} none⟩

end World

end EventFeed
