import EventFeed.Proofs.Spells
import EventFeed.Proofs.WellFormed
import Mathlib.Data.List.Induction

/-! Setup before messages: a subscription is handed messages only after its setup went well, or after it was put
back to work on request. -/

namespace EventFeed

open EventFeed.Action
open Subscription (unstamped)

/-- A report among some reports and further ones is one of the first ones or one of the others. -/
theorem split_append {journal notices front back : List Notice} {notice : Notice}
    (shape : journal ++ notices = front ++ notice :: back) :
    (∃ more, journal = front ++ notice :: more ∧ back = more ++ notices) ∨
      ∃ more, front = journal ++ more ∧ notices = more ++ notice :: back := by
  -- The place where the two lists part is before the report or behind it.
  rcases List.append_eq_append_iff.mp shape with ⟨more, rfl, new⟩ | ⟨more, rfl, old⟩
  · exact Or.inr ⟨more, rfl, new⟩
  · cases more with
    | nil => exact Or.inr ⟨[], by simp, by simpa using old.symm⟩
    | cons first rest =>
      obtain ⟨rfl, rfl⟩ := List.cons.inj old
      exact Or.inl ⟨rest, rfl, rfl⟩

/-- What was reported since the subscription of an id was discovered last. -/
def Since (id : String) (journal later : List Notice) : Prop :=
  ∃ before group, journal = before ++ .discovered id group :: later ∧ ∀ group, .discovered id group ∉ later

/-- More reports come after those since the last discovery, when none of them is another one. -/
theorem Since.append {id : String} {journal later notices : List Notice} (since : Since id journal later)
    (none : ∀ group, .discovered id group ∉ notices) : Since id (journal ++ notices) (later ++ notices) := by
  -- The same discovery is still the last one.
  obtain ⟨before, group, rfl, last⟩ := since
  refine ⟨before, group, by simp, fun group member => ?_⟩
  rcases List.mem_append.mp member with old | new
  · exact last group old
  · exact none group new

/-- Earlier reports do not matter. -/
theorem Since.prepend {id : String} {notices later : List Notice} (since : Since id notices later)
    (journal : List Notice) : Since id (journal ++ notices) later := by
  -- The same discovery is still the last one, with more before it.
  obtain ⟨before, group, rfl, last⟩ := since
  exact ⟨journal ++ before, group, by simp, last⟩

/-- Of all discoveries of an id there is a last one. -/
theorem exists_since {id : String} {notices : List Notice} {group : String}
    (member : .discovered id group ∈ notices) : ∃ later, Since id notices later := by
  -- The last report is a discovery of the id, or comes after the last one.
  induction notices using List.reverseRecOn with
  | nil => cases member
  | append_singleton front notice ih =>
    by_cases own : ∃ group, notice = .discovered id group
    · obtain ⟨group, rfl⟩ := own
      exact ⟨[], front, group, rfl, by simp⟩
    · have other : ∀ group, Notice.discovered id group ∉ [notice] := fun group here =>
        own ⟨group, (List.mem_singleton.mp here).symm⟩
      obtain ⟨later, since⟩ := ih ((List.mem_append.mp member).resolve_right (other group))
      exact ⟨later ++ [notice], since.append other⟩

/-- The setup of a subscription went well, or it was put back to work on request, at some point of some reports. -/
def Warranted (id : String) (later : List Notice) : Prop :=
  .setupDone id ∈ later ∨ ∃ former ∈ [Status.paused, Status.outdated], .reactivated id former .active ∈ later

/-- What was once warranted stays so. -/
theorem Warranted.append {id : String} {later : List Notice} (warranted : Warranted id later)
    (notices : List Notice) : Warranted id (later ++ notices) :=
  warranted.imp (List.mem_append_left _) fun ⟨former, stopped, member⟩ =>
    ⟨former, stopped, List.mem_append_left _ member⟩

variable {σ : Type} {engine : Engine σ} {operation : Operation} {log : List (Nat × Message)} {loaded : List Nat}
  {journal notices : List Notice} {row next : Subscription}

/-- Before the messages of a subscription are handed over, something holds of the reports so far. -/
def Foregoing (id : String) (rule : List Notice → Prop) (journal : List Notice) : Prop :=
  ∀ front index eventType back, journal = front ++ .dispatching id index eventType :: back → rule front

/-- What holds before the messages of more reports, too, holds before all of them. -/
theorem Foregoing.append {id : String} {rule : List Notice → Prop} (foregoing : Foregoing id rule journal)
    (further : ∀ front index eventType back, notices = front ++ .dispatching id index eventType :: back →
      rule (journal ++ front)) : Foregoing id rule (journal ++ notices) := by
  intro front index eventType back shape
  -- The message is one of the old reports, or one of the new ones.
  rcases split_append shape with ⟨more, old, -⟩ | ⟨more, rfl, new⟩
  · exact foregoing front index eventType more old
  · exact further more index eventType back new

/-- Reports without messages add nothing. -/
theorem Foregoing.append_of_none {id : String} {rule : List Notice → Prop} (foregoing : Foregoing id rule journal)
    (none : ∀ index eventType, .dispatching id index eventType ∉ notices) :
    Foregoing id rule (journal ++ notices) :=
  foregoing.append fun front index eventType back shape => absurd (by simp [shape]) (none index eventType)

namespace Subscription

/-- A subscription whose status shows that something is warranted: it works or has worked, or it will once it goes
back from a failure, which it keeps. -/
structure Backed (row : Subscription) (warrant : Prop) : Prop where
  working : row.resumes ∈ [.booting, .active, .finished] → warrant
  failed : row.status = .error → ∃ error, row.error = some error ∧ error.previous ≠ .error

variable {row : Subscription} {warrant : Prop}

/-- A weaker thing is warranted, too. -/
theorem Backed.mono {weaker : Prop} (backed : row.Backed warrant) (follows : warrant → weaker) :
    row.Backed weaker := ⟨fun status => follows (backed.working status), backed.failed⟩

/-- A subscription that is not in error is backed, if it works only where that is warranted. -/
theorem backed_of_started (started : row.status ≠ .error)
    (working : row.status ∈ [.booting, .active, .finished] → warrant) : row.Backed warrant :=
  ⟨fun status => working (resumes_of_started started ▸ status), fun status => absurd status started⟩

/-- What is warranted for a subscription that works is so for one that fails at work. -/
theorem Backed.fail (backed : row.Backed warrant) (started : row.status ≠ .error) (error : CapturedError) :
    (row.fail error).Backed warrant :=
  ⟨fun status => backed.working (resumes_fail row error ▸ status),
    fun _ => ⟨_, fail_error started error, started⟩⟩

/-- What was warranted before a failure is so for the subscription that goes back from it. -/
theorem Backed.retry {next : Subscription} (backed : row.Backed warrant) (status : row.status = .error)
    (retried : row.retry = .ok next) : next.Backed warrant := by
  -- It resumes where it failed, which is what the warrant was for.
  obtain ⟨error, failure, shape⟩ := retry_ok retried
  obtain ⟨own, same, previous⟩ := backed.failed status
  obtain rfl : own = error := Option.some.inj (same.symm.trans failure)
  refine ⟨fun works => backed.working (resumes_retry status retried ▸ works), fun again => ?_⟩
  rw [shape] at again
  exact absurd again previous

/-- A subscription goes back to work on request as it was, or for a reason of its own where it had stopped. -/
theorem Backed.reactivate (backed : row.Backed warrant)
    (status : row.status ∈ [.error, .outdated, .paused, .finished])
    (stopped : row.status ∈ [.paused, .outdated] → row.reactivate.status = .active → warrant) :
    row.reactivate.Backed warrant := by
  by_cases failed : row.status = .error
  · -- A failed subscription goes back to where it failed.
    obtain ⟨error, failure, previous⟩ := backed.failed failed
    have back : row.reactivate.status = error.previous := by
      simp [Subscription.reactivate, settle, statusBefore, failed, failure]
    have same : row.resumes = error.previous := by simp [resumes, statusBefore, failed, failure]
    exact backed_of_started (back ▸ previous) fun works => backed.working (same ▸ back ▸ works)
  · -- Any other one becomes active.
    have back : row.reactivate.status = .active := by
      simp only [Subscription.reactivate, settle, statusBefore]
      split
      · exact absurd ‹_› failed
      · rfl
    refine backed_of_started (by simp [back]) fun _ => ?_
    simp only [List.mem_cons, failed, List.not_mem_nil, or_false, false_or] at status
    rcases status with away | paused | finished
    · exact stopped (by simp [away]) back
    · exact stopped (by simp [paused]) back
    · exact backed.working (by simp [resumes_of_started failed, finished])

/-- What a subscription that is fed was warranted to. -/
theorem Backed.serving {operation : Operation} (backed : row.Backed warrant)
    (fed : operation.fed = some row.status) : warrant := by
  -- Whoever is fed is at work and has not failed.
  apply backed.working
  rw [resumes_of_started (started_of_fed fed)]
  rcases Operation.fed_cases fed with works | works <;> simp [works]

end Subscription

/-- What the status of a subscription tells of the reports since it was discovered. -/
def Sanctioned (journal : List Notice) (row : Subscription) : Prop :=
  ∃ later, Since row.id journal later ∧ row.Backed (Warranted row.id later)

/-- What a status tells stays true while other things are reported. -/
theorem Sanctioned.append (sanctioned : Sanctioned journal row)
    (none : ∀ group, .discovered row.id group ∉ notices) : Sanctioned (journal ++ notices) row := by
  -- The reports are added to those since the last discovery, and what was warranted stays so.
  obtain ⟨later, since, backed⟩ := sanctioned
  exact ⟨later ++ notices, since.append none, backed.mono fun warranted => warranted.append notices⟩

/-- Nothing of it depends on the stamp. -/
theorem Sanctioned.restamp (sanctioned : Sanctioned journal row) (same : next.unstamped = row.unstamped) :
    Sanctioned journal next := by
  -- Status and failure do not depend on it.
  obtain ⟨later, since, working, failed⟩ := sanctioned
  rw [Subscription.eq_of_unstamped same]
  exact ⟨later, since, working, failed⟩

/-- A subscription that was just discovered is new. -/
theorem sanctioned_fresh {group : String}
    (fresh : row = { id := row.id, group := row.group, runMode := row.runMode })
    (reported : .discovered row.id group ∈ notices) (journal : List Notice) :
    Sanctioned (journal ++ notices) row := by
  -- It is new, so nothing needs to be warranted.
  obtain ⟨later, since⟩ := exists_since reported
  have status : row.status = .new := by rw [fresh]
  exact ⟨later, since.prepend journal, Subscription.backed_of_started (by simp [status]) (by simp [status])⟩

/-- An operation that sets up the subscription of an id by a setup hook, if it sets it up at all. -/
def Hooked (id : String) (engine : Engine σ) (operation : Operation) : Prop :=
  operation.fed = some .booting → ∀ subscriber ∈ engine.registry.subscribers, subscriber.id = id →
    subscriber.setup.isSome = true

/-- Where a subscription is set up, its subscriber has a hook for it. -/
theorem Hooked.declared {id : String} {subscriber : Subscriber σ} (hooked : Hooked id engine operation)
    (asked : operation.fed = some .booting) (found : engine.registry.get? id = some subscriber) :
    subscriber.setup.isSome = true := by
  -- Whoever is found under an id has that id.
  have same : subscriber.id = id := by simpa using List.find?_some found
  exact hooked asked subscriber (List.mem_of_find?_eq_some found) same

/-- A deed leaves a subscription backed by what was warranted before it and by its own reports, when the subscriber
has a setup hook. -/
theorem Deed.backed (done : Deed engine operation log loaded notices row next) {later : List Notice}
    (hooked : Hooked row.id engine operation) (backed : row.Backed (Warranted row.id later)) :
    next.Backed (Warranted row.id (later ++ notices)) := by
  -- The deeds are gone through: most keep the status or take one back, and each that starts work is backed by a report.
  have kept : Warranted row.id later → Warranted row.id (later ++ notices) :=
    fun warranted => warranted.append notices
  have before := backed.mono kept
  cases done with
  | retry status _ _ retried => exact before.retry status retried
  | reactivate asked status known =>
    -- That it had stopped is reported.
    refine before.reactivate status fun stopped active => Or.inr ⟨row.status, ?_, by simp [active]⟩
    simpa using stopped
  | @boot _ subscriber asked _ found =>
    have reported : Warranted row.id (later ++ (subscriber.setupReports row.id ++ [.booting row.id])) :=
      Or.inl (by simp [hooked.declared asked found])
    exact Subscription.backed_of_started (by simp [Subscription.booting, Subscription.settle]) fun _ => reported
  | @startNow _ subscriber index asked _ found =>
    have reported : Warranted row.id (later ++ (subscriber.setupReports row.id ++ [.activeFromNow row.id index])) :=
      Or.inl (by simp [hooked.declared asked found])
    exact Subscription.backed_of_started (by simp [Subscription.active, Subscription.settle]) fun _ => reported
  | failSetup _ status => exact before.fail (by simp [status]) _
  | handle fed =>
    exact Subscription.backed_of_started (Subscription.started_of_fed fed) fun _ => before.serving fed
  | failHandle fed => exact before.fail (Subscription.started_of_fed fed) _
  | breakOff => exact before
  | activate fed status =>
    exact Subscription.backed_of_started (by simp [Subscription.active, Subscription.settle])
      fun _ => before.serving (status ▸ fed)
  | finish fed =>
    exact Subscription.backed_of_started (by simp [Subscription.finished, Subscription.settle])
      fun _ => before.serving fed
  | recover fed status =>
    exact Subscription.backed_of_started (by simp [Subscription.resetRetryAttempt, status])
      fun _ => before.serving (status ▸ fed)
  | detach =>
    exact Subscription.backed_of_started (by simp [Subscription.outdated, Subscription.settle])
      (by simp [Subscription.outdated, Subscription.settle])
  | pause =>
    exact Subscription.backed_of_started (by simp [Subscription.pause]) (by simp [Subscription.pause])

/-- What is done to a subscription leaves it sanctioned, when its subscriber has a setup hook. -/
theorem Sanctioned.deed (sanctioned : Sanctioned journal row)
    (done : Deed engine operation log loaded notices row next) (hooked : Hooked row.id engine operation) :
    Sanctioned (journal ++ notices) next := by
  -- A deed is no discovery, so the reports since the last one are followed by its own.
  obtain ⟨later, since, backed⟩ := sanctioned
  refine ⟨later ++ notices, ?_, ?_⟩ <;> rw [done.named.1]
  · exact since.append fun group => done.discovers_none row.id group
  · exact done.backed hooked backed

/-- What is true of the subscription of an id and of the reports: every message was handed over for a reason, and
the next one will be. -/
structure Chronicle.Heeds (id : String) (notices : List Notice) (chronicle : Chronicle) : Prop where
  listed : id ∈ Rows.ids chronicle.stored → id ∈ Rows.ids chronicle.known
  stored : ∀ row ∈ chronicle.stored, row.id = id → Sanctioned notices row
  known : ∀ row ∈ chronicle.known, row.id = id → Sanctioned notices row
  foregoing : Foregoing id (fun front => ∃ later, Since id front later ∧ Warranted id later) notices

namespace Chronicle.Heeds

variable {id : String} {chronicle after : Chronicle}

/-- What is done to the subscription itself goes on from a sanctioned one to a sanctioned one. -/
theorem own (heeds : Heeds row.id journal chronicle) (member : row ∈ chronicle.known)
    (done : Deed engine operation chronicle.log chronicle.loaded notices row next)
    (hooked : Hooked row.id engine operation) :
    Heeds row.id (journal ++ notices)
      { chronicle with journal := chronicle.journal ++ notices, known := Rows.put next chronicle.known } := by
  -- The stored rows and those that are known are looked at first, and then the reports of the deed.
  have sanctioned := heeds.known row member rfl
  refine ⟨fun present => by simpa using heeds.listed present, fun old present same => ?_, fun other present same => ?_,
    heeds.foregoing.append fun front index eventType back shape => ?_⟩
  · exact (heeds.stored old present same).append fun group => done.discovers_none old.id group
  · -- The only row with the id that is known afterwards is the one that was changed.
    rcases Rows.mem_put present with rfl | ⟨-, different⟩
    · exact sanctioned.deed done hooked
    · exact absurd (same.trans done.named.1.symm) different
  · -- A message is handed over first of all, and only to a subscription that works.
    have member : .dispatching row.id index eventType ∈ notices := by simp [shape]
    obtain ⟨-, fed, -, -, rest, first, single⟩ := done.dispatching member
    obtain ⟨later, since, backed⟩ := sanctioned
    cases front with
    | nil => exact ⟨later, by simpa using since, backed.serving fed⟩
    | cons notice front =>
      rw [first] at shape
      exact absurd (by simp [(List.cons.inj shape).2]) (single row.id index eventType)

/-- Every small step of an operation gives reasons for the messages that it hands over. -/
theorem step (heeds : Heeds id journal chronicle) (hooked : Hooked id engine operation)
    (step : Step engine operation chronicle after) :
    ∃ notices, after.journal = chronicle.journal ++ notices ∧ Heeds id (journal ++ notices) after := by
  -- Of the kinds of steps only a deed on the subscription itself can hand it a message.
  cases step.bears id with
  | aside notices further quiet listed known stored =>
    have none : ∀ group, .discovered id group ∉ notices := fun group member => by
      simpa [Notice.tells] using quiet _ member
    have stays : ∀ row, row ∈ chronicle.stored ∨ row ∈ chronicle.known → row.id = id →
        Sanctioned (journal ++ notices) row := by
      rintro row (old | current) rfl
      · exact (heeds.stored row old rfl).append none
      · exact (heeds.known row current rfl).append none
    refine ⟨notices, further, fun present => ?_, fun row member same => ?_, fun row member same => ?_,
      heeds.foregoing.append_of_none fun index eventType member => ?_⟩
    · obtain ⟨row, member, same⟩ := List.mem_map.mp present
      rcases stored row member same with before | ⟨old, current, stamped⟩
      · exact listed.mpr (heeds.listed (same ▸ Rows.id_mem_ids before))
      · exact listed.mpr ((Subscription.id_of_unstamped stamped).trans same ▸ Rows.id_mem_ids current)
    · rcases stored row member same with before | ⟨old, current, stamped⟩
      · exact stays row (Or.inl before) same
      · exact (stays old (Or.inr current) ((Subscription.id_of_unstamped stamped).trans same)).restamp stamped.symm
    · obtain ⟨old, present, stamped⟩ := known row member same
      exact (stays old (Or.inr present) ((Subscription.id_of_unstamped stamped).trans same)).restamp stamped.symm
    · simpa [Notice.tells] using quiet _ member
  | found notices fresh absent reports new shape =>
    subst shape
    refine ⟨notices, rfl, fun present => absurd (heeds.listed present) absent, fun row member same => ?_,
      fun row member same => ?_, heeds.foregoing.append_of_none fun index eventType member => ?_⟩
    · exact absurd (heeds.listed (same ▸ Rows.id_mem_ids member)) absent
    · rcases List.mem_append.mp member with old | added
      · exact absurd (same ▸ Rows.id_mem_ids old) absent
      · obtain ⟨shape, reported⟩ := new row added
        exact sanctioned_fresh shape reported journal
    · obtain ⟨own, group, shape⟩ := reports _ member
      cases shape
  | own notices row changed same member meant done shape =>
    subst same shape
    exact ⟨notices, rfl, heeds.own member done hooked⟩
  | removed row same asked member meant shape =>
    -- No row with the id is left.
    subst same shape
    exact ⟨_, rfl, by simp, fun other left same => absurd same (by simpa using (List.mem_filter.mp left).2),
      fun other left same => absurd same (by simpa using (List.mem_filter.mp left).2),
      heeds.foregoing.append_of_none (by simp)⟩

end Chronicle.Heeds

namespace Stage

/-- A message is handed to a subscription only after it was set up, or put back to work from a pause or after it had
lost its subscriber, since it was added last: wherever setups have a hook, and whatever engines were asked to do. -/
theorem Spell.handed_after_setup {stage : Stage σ} {id : String} {first last : σ}
    (spell : stage.Spell (Hooked id) first last) (empty : stage.rows.read first = []) :
    ∃ notices, stage.journal last = stage.journal first ++ notices ∧
      Foregoing id (fun front => ∃ later, Since id front later ∧ Warranted id later) notices := by
  -- Nothing is known at first, and nothing was handed over.
  obtain ⟨notices, journal, loaded, heeds⟩ := spell.tells (Chronicle.Heeds id)
    (fun hooked heeds step => heeds.step hooked step)
    (fun heeds longer => ⟨heeds.listed, heeds.stored, heeds.known, heeds.foregoing⟩)
    (fun _ _ heeds => ⟨fun present => present, heeds.stored, heeds.stored, heeds.foregoing⟩) (by simp [empty])
    ⟨by simp [chronicle, empty], by simp [chronicle, empty], by simp [chronicle, empty], by simp [Foregoing]⟩
  exact ⟨notices, journal, heeds.foregoing⟩

end Stage

namespace World

/-- A brittle subscriber is handed its second message twice, by two engines, and its setup comes before both
times. -/
theorem mended_handed_after_setup :
    ((stage.journal mended).filter (· == .dispatching "brittle" 2 "plain")).length = 2 ∧
      ∃ notices, stage.journal mended = stage.journal blank ++ notices ∧
        Foregoing "brittle" (fun front => ∃ later, Since "brittle" front later ∧ Warranted "brittle" later)
          notices := by
  -- The two operations by which the system came about make a spell.
  have declared : ∀ subscriber ∈ uneven, subscriber.setup.isSome = true := by
    intro subscriber member
    rcases List.mem_pair.mp member with rfl | rfl <;> rfl
  have spell : stage.Spell (Hooked "brittle") blank mended :=
    .operate (.operate .start (hosts ..) uneven_behaves fun _ subscriber member _ => declared subscriber member)
      (hosts ..) uneven_behaves fun _ subscriber member _ => declared subscriber member
  exact ⟨by decide +kernel, spell.handed_after_setup rfl⟩

/-- One message. -/
def brief : World := telling ["a"]

/-- An engine with one subscriber that has a setup hook. -/
def lone : Engine World := feeder [reacting "late" fun _ => .done] .never

/-- A new subscription is paused, reactivated, and fed. -/
def rushed : World :=
  ((((Operation.run {} none).perform lone).outcome
    (((Operation.reactivate {}).perform lone).outcome
      (((Operation.pause {}).perform lone).outcome brief).2).2).2)

/-- A setup need not come before the first message, even where every subscriber has a hook for it: a new
subscription can be paused, and is active once it is put back to work. -/
theorem rushed_handed_without_setup :
    ¬ ∀ first last : World, stage.Spell (fun engine _ => ∀ subscriber ∈ engine.registry.subscribers,
        subscriber.setup.isSome = true) first last → stage.rows.read first = [] →
      ∀ id notices, stage.journal last = stage.journal first ++ notices →
        Foregoing id (fun front => ∃ later, Since id front later ∧ .setupDone id ∈ later) notices := by
  -- What is needed is a spell that hands over a message without a report of a setup before it.
  intro always
  have behaves : ∀ subscriber ∈ lone.registry.subscribers, stage.Behaves subscriber := by
    intro subscriber member
    obtain rfl := List.mem_singleton.mp member
    exact (reacting_contained ..).behaves
  have declared : ∀ subscriber ∈ lone.registry.subscribers, subscriber.setup.isSome = true := by
    intro subscriber member
    obtain rfl := List.mem_singleton.mp member
    rfl
  have spell : stage.Spell (fun engine _ => ∀ subscriber ∈ engine.registry.subscribers,
      subscriber.setup.isSome = true) brief rushed :=
    .operate (.operate (.operate .start (hosts ..) behaves declared) (hosts ..) behaves declared)
      (hosts ..) behaves declared
  -- The message is handed over, and no setup is reported.
  have handed : .dispatching "late" 1 "plain" ∈ stage.journal rushed := by decide +kernel
  have unprepared : .setupDone "late" ∉ stage.journal rushed := by decide +kernel
  obtain ⟨front, back, shape⟩ := List.append_of_mem handed
  obtain ⟨later, ⟨before, group, since, -⟩, done⟩ :=
    always brief rushed spell rfl "late" _ rfl front 1 "plain" back shape
  exact unprepared (by simp [shape, since, done])

/-- A subscription that was set up without a hook is fed by an engine whose subscriber has one. -/
def swapped : World :=
  let bare : Subscriber World := { reacting "late" fun _ => .done with setup := none }
  let booted := (((Operation.boot {} none).perform (feeder [bare] .never)).outcome (telling [])).2
  (((Operation.run {} none).perform lone).outcome (booted.append [plainMessage "a"])).2

/-- Nor need it come where a subscriber has got its hook after the boot, although nothing was put back to work. -/
theorem swapped_handed_without_setup :
    .dispatching "late" 1 "plain" ∈ stage.journal swapped ∧ .setupDone "late" ∉ stage.journal swapped ∧
      ∀ notice ∈ stage.journal swapped, ¬ notice matches .reactivated .. := by
  decide +kernel

end World

end EventFeed
