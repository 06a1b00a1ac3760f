import EventFeed.Proofs.Coverage
import EventFeed.Proofs.SetupFirst
import EventFeed.Proofs.Starts

/-! Latecomers: subscriptions that want no history are handed no message that is older than where they start, as long as
they last. -/

namespace EventFeed

open EventFeed.Action

variable {σ : Type}

/-- Whether a subscription resumes somewhere does not depend on its stamp. -/
theorem Subscription.resumes_of_unstamped {one two : Subscription} (same : one.unstamped = two.unstamped) :
    one.resumes = two.resumes := by
  -- Two such subscriptions are one with two stamps.
  rw [eq_of_unstamped same]
  rfl

/-- No message is handed to the subscription of an id. -/
def Unhanded (id : String) (notices : List Notice) : Prop :=
  ∀ index eventType, .dispatching id index eventType ∉ notices

/-- Where none is handed over before and none after, none is at all. -/
theorem Unhanded.append {id : String} {journal notices : List Notice} (before : Unhanded id journal)
    (after : Unhanded id notices) : Unhanded id (journal ++ notices) := fun index eventType member =>
  (List.mem_append.mp member).elim (before index eventType) (after index eventType)

/-- Where nothing is said of a subscription, no message is handed to it. -/
theorem Silent.unhanded {id : String} {notices : List Notice} (quiet : Silent id notices) : Unhanded id notices :=
  fun index eventType member => by simpa [Notice.tells] using quiet _ member

/-- No message is handed over while subscriptions are found. -/
theorem unhanded_of_discoveries {notices : List Notice}
    (reports : ∀ notice ∈ notices, ∃ id group, notice = .discovered id group) (id : String) :
    Unhanded id notices := by
  -- A discovery is no dispatch.
  intro index eventType member
  obtain ⟨own, group, shape⟩ := reports _ member
  cases shape

namespace Deed

variable {engine : Engine σ} {criteria : FeedCriteria} {limit : Option Nat} {log : List (Nat × Message)}
  {loaded : List Nat} {notices : List Notice} {row next : Subscription}

/-- A boot leaves active subscriptions alone. -/
theorem not_active (done : Deed engine (.boot criteria limit) log loaded notices row next) :
    row.status ≠ .active := by
  -- A boot feeds booting subscriptions, and starts new ones.
  intro active
  cases done with
  | detach status => simp [Operation.detached, active] at status
  | pause asked | reactivate asked => cases asked
  | handle fed | failHandle fed | breakOff fed | finish fed | recover fed => simp [Operation.fed, active] at fed
  | retry status | boot _ status | startNow _ status | failSetup _ status | activate _ status =>
    rw [active] at status
    cases status

/-- What would be new after a deed of a boot was so before, at the same position, and is handed no message. -/
theorem resumes_new (done : Deed engine (.boot criteria limit) log loaded notices row next)
    (new : next.resumes = .new) : row.resumes = .new ∧ next.position = row.position ∧ Unhanded row.id notices := by
  -- Whoever is fed has been set up already, so such deeds leave nobody new.
  have fed : ∀ {row : Subscription}, (Operation.boot criteria limit).fed = some row.status → row.resumes ≠ .new := by
    intro row fed new
    rw [Subscription.resumes_of_started (Subscription.started_of_fed fed)] at new
    rw [new] at fed
    cases fed
  cases done with
  | retry status _ _ retried =>
    have same := Subscription.resumes_retry status retried
    obtain ⟨error, -, rfl⟩ := Subscription.retry_ok retried
    exact ⟨same.symm.trans new, rfl, by simp [Unhanded]⟩
  | failSetup => exact ⟨new, rfl, by simp [Unhanded]⟩
  | handle works | failHandle works | breakOff works => exact (fed works new).elim
  | pause asked | reactivate asked => cases asked
  | recover works => cases works
  | detach | boot | startNow | activate | finish => cases new

/-- A subscription that is reported to start at the end of the log does so, and is handed no message yet. -/
theorem starting (done : Deed engine (.boot criteria limit) log loaded notices row next) {id : String} {index : Nat}
    (member : .activeFromNow id index ∈ notices) :
    row.status = .new ∧ next = (row.changePosition index).active ∧ Unhanded row.id notices := by
  -- Only one deed reports such a start.
  cases done with
  | startNow _ status =>
    simp only [List.mem_append, Subscriber.mem_setupReports, List.mem_singleton, reduceCtorEq, and_false, false_or,
      Notice.activeFromNow.injEq] at member
    obtain ⟨rfl, rfl⟩ := member
    exact ⟨status, rfl, by simp [Unhanded]⟩
  | _ => simp at member

end Deed

namespace Chronicle

/-- What is true of an id while a boot goes on: messages are handed only to a subscription that is known, one that is
still to be set up stands at the beginning, and one that starts at the end of the log stays there. -/
structure Arrives (id : String) (notices : List Notice) (chronicle : Chronicle) : Prop where
  listed : id ∉ Rows.ids chronicle.known → Unhanded id notices
  waiting : ∀ row ∈ chronicle.known, row.id = id → row.resumes = .new → row.position = 0 ∧ Unhanded id notices
  started : ∀ index, .activeFromNow id index ∈ notices → id ∈ Rows.ids chronicle.known ∧ Unhanded id notices ∧
    ∀ row ∈ chronicle.known, row.id = id → row.status = .active ∧ row.position = index

namespace Arrives

variable {engine : Engine σ} {criteria : FeedCriteria} {limit : Option Nat} {journal notices : List Notice}
  {row next : Subscription} {id : String} {chronicle after : Chronicle}

/-- What a boot does to the subscription itself. -/
theorem own (arrives : Arrives row.id journal chronicle) (member : row ∈ chronicle.known)
    (done : Deed engine (.boot criteria limit) chronicle.log chronicle.loaded notices row next) :
    Arrives row.id (journal ++ notices)
      { chronicle with journal := chronicle.journal ++ notices, known := Rows.put next chronicle.known } := by
  have listed := Rows.id_mem_ids member
  -- The only row with the id that is known afterwards is the one that was changed.
  have changed : ∀ other ∈ Rows.put next chronicle.known, other.id = row.id → other = next := by
    intro other present same
    rcases Rows.mem_put present with rfl | ⟨-, different⟩
    · rfl
    · exact absurd (same.trans done.named.1.symm) different
  refine ⟨fun absent => absurd listed (by simpa using absent), fun other present same new => ?_, fun index told => ?_⟩
  · obtain rfl := changed other present same
    obtain ⟨before, position, none⟩ := done.resumes_new new
    obtain ⟨beginning, unhanded⟩ := arrives.waiting row member rfl before
    exact ⟨position.trans beginning, unhanded.append none⟩
  · rcases List.mem_append.mp told with before | now
    · -- A subscription that has started already is left alone.
      exact absurd ((arrives.started index before).2.2 row member rfl).1 done.not_active
    · obtain ⟨new, rfl, none⟩ := done.starting now
      have status : row.resumes = .new := by rw [Subscription.resumes_of_started (by simp [new]), new]
      obtain ⟨beginning, unhanded⟩ := arrives.waiting row member rfl status
      refine ⟨by simpa using listed, unhanded.append none, fun other present same => ?_⟩
      rw [changed other present same]
      simp [Subscription.active, Subscription.settle, Subscription.changePosition, beginning]

/-- Every small step of a boot keeps it so. -/
theorem step (arrives : Arrives id journal chronicle) (step : Step engine (.boot criteria limit) chronicle after) :
    ∃ notices, after.journal = chronicle.journal ++ notices ∧ Arrives id (journal ++ notices) after := by
  -- A step concerns the subscription, or others, or finds it, or removes it.
  cases step.bears id with
  | aside notices further quiet listed known =>
    have none := quiet.unhanded
    refine ⟨notices, further, fun absent => (arrives.listed (mt listed.mpr absent)).append none,
      fun row member same new => ?_, fun index told => ?_⟩
    · obtain ⟨old, present, stamped⟩ := known row member same
      have own := (Subscription.id_of_unstamped stamped).trans same
      obtain ⟨beginning, unhanded⟩ :=
        arrives.waiting old present own ((Subscription.resumes_of_unstamped stamped).trans new)
      exact ⟨(Subscription.alike_of_unstamped stamped).position.symm.trans beginning, unhanded.append none⟩
    · have before : .activeFromNow id index ∈ journal :=
        (List.mem_append.mp told).resolve_right fun now => by simpa [Notice.tells] using quiet _ now
      obtain ⟨present, unhanded, active⟩ := arrives.started index before
      refine ⟨listed.mpr present, unhanded.append none, fun row member same => ?_⟩
      obtain ⟨old, present, stamped⟩ := known row member same
      have alike := Subscription.alike_of_unstamped stamped
      rw [← alike.status, ← alike.position]
      exact active old present (alike.id.trans same)
  | found notices fresh absent reports new shape =>
    -- A subscription that is not known has not been started, and is handed nothing.
    subst shape
    have unhanded := (arrives.listed absent).append (unhanded_of_discoveries reports id)
    refine ⟨notices, rfl, fun _ => unhanded, fun row member same _ => ⟨?_, unhanded⟩, fun index told => ?_⟩
    · rcases List.mem_append.mp member with old | added
      · exact absurd (same ▸ Rows.id_mem_ids old) absent
      · rw [(new row added).1]
    · rcases List.mem_append.mp told with before | now
      · exact absurd (arrives.started index before).1 absent
      · obtain ⟨own, group, shape⟩ := reports _ now
        cases shape
  | own notices row changed same member meant done shape =>
    subst same shape
    exact ⟨notices, rfl, arrives.own member done⟩
  | removed row same asked =>
    -- A boot removes nothing.
    cases asked

end Arrives

end Chronicle

/-- No message up to an index is handed to the subscription of an id, until it is removed. -/
def Spared (id : String) (start : Nat) (notices : List Notice) : Prop :=
  ∀ front index eventType back, notices = front ++ .dispatching id index eventType :: back →
    (∀ status, .removed id status ∉ front) → start < index

/-- More reports spare a subscription, too, if their messages are late enough, unless it was removed before them. -/
theorem Spared.append {id : String} {start : Nat} {journal notices : List Notice} (spared : Spared id start journal)
    (further : ∀ index eventType, .dispatching id index eventType ∈ notices → (∀ status, .removed id status ∉ journal) →
      start < index) : Spared id start (journal ++ notices) := by
  intro front index eventType back shape kept
  -- The message is one of the old reports, or one of the new ones.
  rcases split_append shape with ⟨more, old, -⟩ | ⟨more, rfl, new⟩
  · exact spared front index eventType more old kept
  · exact further index eventType (by simp [new]) fun status member => kept status (List.mem_append_left _ member)

namespace Ledger

/-- From one moment to the next, messages are handed only to subscriptions that are known and behind them. -/
theorem Turn.handed {ledger next : Ledger} (turn : Turn ledger next) :
    ∃ notices, next.journal = ledger.journal ++ notices ∧ ∀ id index eventType,
      .dispatching id index eventType ∈ notices → ∃ row ∈ ledger.known, row.id = id ∧ row.position < index := by
  -- Only moves hand over messages, and a move is one of a row that is known.
  cases turn with
  | write | forget => exact ⟨[], by simp, by simp⟩
  | step step =>
    cases step with
    | @remark notice quiet =>
      refine ⟨_, rfl, fun id index eventType member => ?_⟩
      rw [← List.mem_singleton.mp member] at quiet
      cases quiet
    | load start targets => exact ⟨_, rfl, by simp⟩
    | grow | restamp | save => exact ⟨[], by simp, by simp⟩
    | enroll reports =>
      refine ⟨_, rfl, fun id index eventType member => ?_⟩
      obtain ⟨own, group, shape, -⟩ := reports _ member
      cases shape
    | @move notices row moved member happened =>
      refine ⟨_, rfl, fun id index eventType told => ⟨row, member, ?_⟩⟩
      cases happened with
      | handle _ awaits | failHandle _ awaits | breakOff _ awaits =>
        simp only [List.mem_cons, Notice.dispatching.injEq, reduceCtorEq, List.not_mem_nil, or_false] at told
        obtain ⟨rfl, rfl, -⟩ := told
        exact ⟨rfl, awaits.1.2⟩
      | _ => simp at told
    | remove id status => exact ⟨_, rfl, by simp⟩

/-- A stored subscription is spared all messages up to where it is stored. -/
theorem Orderly.spares {early late : Ledger} (orderly : Orderly early) {row : Subscription}
    (member : row ∈ early.stored) (turns : Turns early late) :
    ∃ notices, late.journal = early.journal ++ notices ∧ Spared row.id row.position notices := by
  -- Each turn is spared the subscription on its own, so the turns are followed from the moment on.
  induction turns with
  | refl => exact ⟨[], by simp, by simp [Spared]⟩
  | @tail middle late turns turn ih =>
    obtain ⟨notices, journal, spared⟩ := ih
    obtain ⟨more, further, handed⟩ := turn.handed
    refine ⟨notices ++ more, by rw [further, journal, List.append_assoc],
      spared.append fun index eventType told kept => ?_⟩
    obtain ⟨known, inHand, same, behind⟩ := handed row.id index eventType told
    -- Until it is removed, it is stored and known at its old position or at a later one.
    obtain ⟨others, again, retained⟩ := orderly.retains_turns turns
    obtain rfl := List.append_cancel_left (again.symm.trans journal)
    rcases retained row member with ⟨status, removed⟩ | ⟨later, present, own, ahead⟩
    · exact absurd removed (kept status)
    · have kept := (orderly.turns turns).behind later present known inHand (same.trans own.symm)
      omega

end Ledger

/-- A sound subscription that is still to be set up, whether it has failed at that or not, stands at the beginning. -/
theorem Subscription.Sound.beginning {row : Subscription} (sound : row.Sound) (new : row.resumes = .new) :
    row.position = 0 := by
  -- It is new now, or failed when it was.
  by_cases failed : row.status = .error
  · obtain ⟨error, failure⟩ := Option.ne_none_iff_exists'.mp (sound.failed failed)
    refine sound.unstarted failed error failure ?_
    simpa [resumes, statusBefore, failed, failure] using new
  · exact sound.new ((resumes_of_started failed).symm.trans new)

namespace Stage

variable {stage : Stage σ} {engine : Engine σ}

/-- What a boot comes to for a subscription that it starts at an index: it is active there, and is handed no message up
to there, neither in the boot nor later, until it is removed. -/
structure Skips (stage : Stage σ) (id : String) (start : Nat) (told : List Notice) (after : σ) : Prop where
  active : ∃ row ∈ stage.rows.read after, row.id = id ∧ row.status = .active ∧ row.position = start
  unhanded : Unhanded id told
  spared : ∀ last, stage.History after last →
    ∃ notices, stage.journal last = stage.journal after ++ notices ∧ Spared id start notices

/-- A stored subscription is spared all messages up to where it is stored. -/
theorem History.spares {first last : σ} (history : stage.History first last)
    (distinct : (Rows.ids (stage.rows.read first)).Nodup) {row : Subscription} (member : row ∈ stage.rows.read first) :
    ∃ notices, stage.journal last = stage.journal first ++ notices ∧ Spared row.id row.position notices :=
  (orderly_outside distinct).spares member (history.turns distinct).1

/-- Where a boot reports that a subscription starts at the end of the log, it skips all that is older. -/
theorem Hosts.boot_skips (hosted : stage.Hosts engine)
    (behaves : ∀ subscriber ∈ engine.registry.subscribers, stage.Behaves subscriber) (criteria : FeedCriteria)
    (limit : Option Nat) {system : σ} (distinct : (Rows.ids (stage.rows.read system)).Nodup)
    (sound : ∀ row ∈ stage.rows.read system, row.Sound) :
    Meets (engine.boot criteria limit) system (fun _ after => ∃ told,
      stage.journal after = stage.journal system ++ told ∧
      ∀ id start, .activeFromNow id start ∈ told → stage.Skips id start told after) fun _ _ => True := by
  -- The chronicle of the boot says what each id has come to, step by step.
  have entered : stage.Entered engine (.boot criteria limit) (stage.chronicle [] (stage.rows.read system) system) []
      system := ⟨distinct, .refl⟩
  refine (hosted.boot_enters behaves entered).weaken (fun report after ends => ?_) fun _ _ _ => trivial
  obtain ⟨loaded, entered⟩ := ends
  obtain ⟨told, journal, arrives⟩ := Chronicle.Leads.tells
    (fun {notices one _} (arrives : ∀ id, Chronicle.Arrives id notices one) step =>
      step.each fun id => (arrives id).step step)
    entered.recorded fun id => ⟨fun _ => by simp [Unhanded],
      fun row member _ new => ⟨(sound row member).beginning new, by simp [Unhanded]⟩, by simp⟩
  refine ⟨told, journal, fun id start reported => ?_⟩
  obtain ⟨listed, unhanded, active⟩ := (arrives id).started start reported
  obtain ⟨row, member, rfl⟩ := List.mem_map.mp listed
  obtain ⟨status, rfl⟩ := active row member rfl
  exact ⟨⟨row, member, rfl, status, rfl⟩, unhanded, fun last history => history.spares entered.distinct member⟩

/-- In every boot that returns, the subscriptions that want no history, and whose setup passes, become active at one
index: the end of the log when the first of them has been set up, and so no older than the log was. From then on they
are handed no message up to that index, whatever is asked of engines, until they are removed. -/
theorem History.skips_past {first system : σ} (history : stage.History first system)
    (empty : stage.rows.read first = []) (hosted : stage.Hosts engine)
    (behaves : ∀ subscriber ∈ engine.registry.subscribers, stage.Behaves subscriber) (criteria : FeedCriteria)
    (limit : Option Nat) :
    Meets (engine.boot criteria limit) system (fun _ after => ∃ start told,
      stage.journal after = stage.journal system ++ told ∧ (∀ index ∈ stage.indices system, index ≤ start) ∧
      ∀ front row moment, engine.PassesAfter criteria system front row moment → row.runMode = .fromNow →
        ((∀ earlier other there, earlier ++ [other] <+: front →
          engine.PassesAfter criteria system earlier other there → other.runMode ≠ .fromNow) →
            start = newest (stage.log moment)) ∧
        stage.Skips row.id start told after) fun _ _ => True := by
  -- One half is about the boot itself, and the other one about all that comes after it.
  obtain ⟨turns, distinct⟩ := history.turns (by simp [empty])
  refine ((hosted.boot_starts behaves criteria limit system).both (hosted.boot_skips behaves criteria limit distinct
    (sound_turns empty turns).stored)).weaken (fun report after ends => ?_) fun _ _ _ => trivial
  obtain ⟨⟨start, least, starts⟩, told, journal, skips⟩ := ends
  refine ⟨start, told, journal, least, fun front row moment passes mode => ?_⟩
  obtain ⟨newest, notices, again, member⟩ := starts front row moment passes mode
  obtain rfl := List.append_cancel_left (again.symm.trans journal)
  exact ⟨newest, skips row.id start member⟩

end Stage

namespace World

/-- A subscriber that wants no history, and whose setup appends a message. -/
def herald (id : String) : Subscriber World :=
  { reacting id (fun _ => .done) .fromNow with setup := some fun world => (.done, world.append [plainMessage id]) }

/-- An engine with two of them. -/
def heralds : Engine World := feeder [herald "early", herald "late"] .never

/-- They do what is allowed. -/
theorem heralds_behave : ∀ subscriber ∈ heralds.registry.subscribers, stage.Behaves subscriber := by
  -- Their setup hooks append messages, and all other code of theirs only answers.
  intro subscriber member
  have plain : ∀ id, stage.Behaves (herald id) := by
    intro id
    have bare := (reacting_contained id (fun _ => .done) .fromNow).behaves
    refine ⟨fun hook declared world => ?_, bare.teardown, bare.handlers⟩
    obtain rfl := Option.some.inj declared
    exact append_onward ..
  rcases List.mem_pair.mp member with rfl | rfl <;> exact plain _

/-- Both start at the message that the setup of the first one appends, though the second one appends another, and only
that one is handed over to them. -/
theorem heralds_skip_past :
    (stage.rows.read ((heralds.boot {} none).outcome (telling ["a", "b"])).2).map
        (fun row => (row.id, row.status, row.position)) = [("early", .active, 3), ("late", .active, 3)] ∧
      (stage.journal ((heralds.run {} none).outcome ((heralds.boot {} none).outcome (telling ["a", "b"])).2).2).filter
        (· matches .dispatching ..) = [.dispatching "early" 4 "plain", .dispatching "late" 4 "plain"] ∧
      Meets (heralds.boot {} none) (telling ["a", "b"]) (fun _ after => ∃ start told,
        stage.journal after = stage.journal (telling ["a", "b"]) ++ told ∧
        (∀ index ∈ stage.indices (telling ["a", "b"]), index ≤ start) ∧
        ∀ front row moment, heralds.PassesAfter {} (telling ["a", "b"]) front row moment → row.runMode = .fromNow →
          ((∀ earlier other there, earlier ++ [other] <+: front →
            heralds.PassesAfter {} (telling ["a", "b"]) earlier other there → other.runMode ≠ .fromNow) →
              start = newest (stage.log moment)) ∧
          stage.Skips row.id start told after) fun _ _ => True :=
  ⟨by decide +kernel, by decide +kernel, Stage.History.skips_past .start rfl (hosts ..) heralds_behave {} none⟩

end World

end EventFeed
