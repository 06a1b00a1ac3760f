import EventFeed.Proofs.Budget
import EventFeed.Proofs.SetupFirst

/-! Setup once: after its setup hook went well for a subscription, the hook is not called for it again until it is
removed. -/

namespace EventFeed

open EventFeed.Action

/-- The setup hook of an id went well in some reports, and its subscription was not removed after that. -/
def Installed (id : String) (notices : List Notice) : Prop :=
  ∃ front back, notices = front ++ .setupDone id :: back ∧ ∀ status, .removed id status ∉ back

/-- The setup hook of an id was called only while its subscription was not set up. -/
def InstalledOnce (id : String) (notices : List Notice) : Prop :=
  ∀ front notice back, notices = front ++ notice :: back → notice.endsSetup id = true → ¬ Installed id front

/-- What is set up after more reports was set up before them, or in them. -/
theorem Installed.of_append {id : String} {journal notices : List Notice} (ready : Installed id (journal ++ notices)) :
    Installed id journal ∨ .setupDone id ∈ notices := by
  obtain ⟨front, back, shape, kept⟩ := ready
  -- The last success is one of the old reports, or one of the new ones.
  rcases split_append shape with ⟨more, old, rfl⟩ | ⟨more, -, new⟩
  · exact Or.inl ⟨front, more, old, fun status member => kept status (List.mem_append_left _ member)⟩
  · exact Or.inr (by simp [new])

/-- After a removal nothing is set up. -/
theorem not_installed_removed (id : String) (status : Status) (journal : List Notice) :
    ¬ Installed id (journal ++ [.removed id status]) := by
  rintro ⟨front, back, shape, kept⟩
  -- The removal is the last report, so it comes after every success.
  rcases List.eq_nil_or_concat back with rfl | ⟨rest, last, rfl⟩
  · obtain ⟨-, same⟩ := List.append_inj' shape rfl
    cases same
  · have shape : journal ++ [.removed id status] = (front ++ .setupDone id :: rest) ++ [last] := by simpa using shape
    obtain ⟨-, same⟩ := List.append_inj' shape rfl
    exact kept status (by simp [List.singleton_inj.mp same])

/-- Calls in more reports are calls while nothing was set up, if none of them comes after a success. -/
theorem InstalledOnce.append {id : String} {journal notices : List Notice} (once : InstalledOnce id journal)
    (further : ∀ front notice back, notices = front ++ notice :: back → notice.endsSetup id = true →
      ¬ Installed id (journal ++ front)) : InstalledOnce id (journal ++ notices) := by
  -- A call stands in the earlier reports or in the further ones.
  intro front notice back shape ends
  rcases split_append shape with ⟨more, old, -⟩ | ⟨more, rfl, new⟩
  · exact once front notice more old ends
  · exact further more notice back new ends

/-- Reports without calls of the hook add nothing. -/
theorem InstalledOnce.append_of_none {id : String} {journal notices : List Notice} (once : InstalledOnce id journal)
    (none : ∀ notice ∈ notices, notice.endsSetup id = false) : InstalledOnce id (journal ++ notices) :=
  once.append fun front notice back shape ends => by simp [none notice (by simp [shape])] at ends

/-- A report of another kind ends no setup. -/
theorem Notice.not_endsSetup_of_quiet {id : String} {notice : Notice} (quiet : notice.tells id = false) :
    notice.endsSetup id = false := by
  -- Only two kinds of reports end a setup, and each of them tells about its subscription.
  unfold endsSetup
  split
  · exact quiet
  · exact quiet
  · rfl

/-- A subscription that is not past its setup: it is new, or it keeps a failure that came while it was. -/
def Subscription.Unready (row : Subscription) : Prop :=
  row.status = .new ∨ ∃ error, row.error = some error ∧ error.previous = .new

variable {σ : Type} {engine : Engine σ} {operation : Operation} {log : List (Nat × Message)} {loaded : List Nat}
  {journal notices : List Notice} {row next : Subscription}

namespace Subscription

/-- Nothing of it depends on the stamp. -/
theorem Unready.restamp (unready : row.Unready) (same : next.unstamped = row.unstamped) : next.Unready := by
  -- Status and failure do not depend on it.
  rw [eq_of_unstamped same]
  exact unready

/-- A subscription with a clean slate is past its setup in any other status than new. -/
theorem not_unready_settle {status : Status} (begun : status ≠ .new) : ¬ (row.settle status).Unready := by
  -- It is in the other status, and keeps no failure.
  rintro (new | ⟨error, kept, -⟩)
  · exact begun new
  · cases kept

/-- What fails after its setup keeps that it was past it. -/
theorem not_unready_fail (error : CapturedError) (begun : row.status ≠ .new) (started : row.status ≠ .error) :
    ¬ (row.fail error).Unready := by
  -- Its failure keeps the status that it had.
  rintro (new | ⟨kept, failure, previous⟩)
  · cases new
  · rw [fail_error started error] at failure
    obtain rfl := Option.some.inj failure
    exact begun previous

/-- A subscription that would go back to its setup has not passed it. -/
theorem unready_of_statusBefore {fallback : Status} (begun : fallback ≠ .new)
    (back : row.statusBefore fallback = .new) : row.Unready := by
  -- It goes back to where it failed, as the fallback is another status.
  unfold statusBefore at back
  split at back
  · exact Or.inr ⟨_, ‹_›, back⟩
  · exact absurd back begun

end Subscription

namespace Deed

/-- A subscription that is not past its setup after a deed was not past it before, and did not pass it in between. -/
theorem unready (done : Deed engine operation log loaded notices row next) (unready : next.Unready) :
    row.Unready ∧ .setupDone row.id ∉ notices := by
  -- The deeds are gone through: the ones that end a setup leave the status new behind.
  cases done with
  | retry _ _ _ retried =>
    -- It goes back to the status that its failure kept.
    obtain ⟨error, failure, rfl⟩ := Subscription.retry_ok retried
    rcases unready with new | ⟨kept, none, -⟩
    · exact ⟨Or.inr ⟨error, failure, new⟩, by simp⟩
    · cases none
  | reactivate =>
    rcases unready with new | ⟨kept, none, -⟩
    · exact ⟨Subscription.unready_of_statusBefore (by simp) new, by simp⟩
    · cases none
  | pause =>
    rcases unready with paused | kept
    · cases paused
    · exact ⟨Or.inr kept, by simp⟩
  | failSetup _ status => exact ⟨Or.inl status, by simp⟩
  | handle | breakOff | recover => exact ⟨unready, by simp⟩
  | failHandle fed =>
    have begun : row.status ≠ .new := by rcases Operation.fed_cases fed with works | works <;> simp [works]
    exact absurd unready (Subscription.not_unready_fail _ begun (Subscription.started_of_fed fed))
  | detach | boot | startNow | activate | finish =>
    exact absurd unready (Subscription.not_unready_settle (by simp))

/-- A deed calls the setup hook of a new subscription only, and once at most. -/
theorem setupCalls_le_one (done : Deed engine operation log loaded notices row next) :
    setupCalls row.id notices ≤ if row.status = .new then 1 else 0 := by
  -- The deeds are gone through: three of them can come from the hook, and all of these want a new row.
  cases done with
  | failSetup _ status => simp [setupCalls, Notice.endsSetup, status]
  | boot _ status | startNow _ status =>
    rw [if_pos status]
    unfold Subscriber.setupReports
    split <;> simp [setupCalls, Notice.endsSetup]
  | failHandle fed =>
    -- It fails while it catches up or keeps up.
    rcases Operation.fed_cases fed with works | works <;> simp [setupCalls, Notice.endsSetup, works]
  | _ => simp [setupCalls, Notice.endsSetup]

end Deed

/-- What is true of an id and of the reports: the setup hook was called only while the subscription was not set up,
and it is known and past its setup if it is set up now. -/
structure Chronicle.Settled (id : String) (notices : List Notice) (chronicle : Chronicle) : Prop where
  once : InstalledOnce id notices
  listed : Installed id notices → id ∈ Rows.ids chronicle.known
  begun : Installed id notices → ∀ row ∈ chronicle.known, row.id = id → ¬ row.Unready

namespace Chronicle.Settled

variable {id : String} {chronicle after : Chronicle}

/-- What is done to the subscription itself calls the hook only before it is set up. -/
theorem own (settled : Settled row.id journal chronicle) (member : row ∈ chronicle.known)
    (done : Deed engine operation chronicle.log chronicle.loaded notices row next) :
    Settled row.id (journal ++ notices)
      { chronicle with journal := chronicle.journal ++ notices, known := Rows.put next chronicle.known } := by
  -- Three things are kept: no call comes after a success, and whoever was set up is listed and past it.
  refine ⟨settled.once.append fun front notice back shape ends ready => ?_,
    fun _ => by simpa using Rows.id_mem_ids member, fun ready other present same unready => ?_⟩
  · -- A call means that the subscription is new, and it is the only one.
    have single := done.setupCalls_le_one
    have called : 1 ≤ setupCalls row.id (notice :: back) := by simp [setupCalls, ends]
    rw [shape, setupCalls_append] at single
    rcases ready.of_append with before | now
    · refine settled.begun before row member rfl (Or.inl ?_)
      by_contra begun
      rw [if_neg begun] at single
      omega
    · have earlier : 0 < setupCalls row.id front := List.countP_pos_iff.mpr ⟨_, now, by simp [Notice.endsSetup]⟩
      split at single <;> omega
  · -- What is set up now was so before, or the deed has done it.
    rcases Rows.mem_put present with rfl | ⟨-, different⟩
    · obtain ⟨before, none⟩ := done.unready unready
      rcases ready.of_append with earlier | now
      · exact settled.begun earlier row member rfl before
      · exact none now
    · exact different (same.trans done.named.1.symm)

/-- Every small step calls the setup hook only before the subscription is set up. -/
theorem step (settled : Settled id journal chronicle) (step : Step engine operation chronicle after) :
    ∃ notices, after.journal = chronicle.journal ++ notices ∧ Settled id (journal ++ notices) after := by
  -- Of the kinds of steps only a deed on the subscription itself calls its hook.
  cases step.bears id with
  | aside notices further quiet listed known =>
    have before : Installed id (journal ++ notices) → Installed id journal := fun ready =>
      ready.of_append.resolve_right fun now => by simpa [Notice.tells] using quiet _ now
    refine ⟨notices, further,
      settled.once.append_of_none fun notice member => Notice.not_endsSetup_of_quiet (quiet notice member),
      fun ready => listed.mpr (settled.listed (before ready)), fun ready row member same unready => ?_⟩
    obtain ⟨old, present, stamped⟩ := known row member same
    exact settled.begun (before ready) old present ((Subscription.id_of_unstamped stamped).trans same)
      (unready.restamp stamped)
  | found notices fresh absent reports new shape =>
    -- A subscription that is not known is not set up.
    subst shape
    have never : ¬ Installed id (journal ++ notices) := fun ready => by
      rcases ready.of_append with before | now
      · exact absent (settled.listed before)
      · obtain ⟨own, group, shape⟩ := reports _ now
        cases shape
    refine ⟨notices, rfl, settled.once.append_of_none fun notice member => ?_, fun ready => absurd ready never,
      fun ready => absurd ready never⟩
    obtain ⟨own, group, rfl⟩ := reports notice member
    rfl
  | own notices row changed same member meant done shape =>
    subst same shape
    exact ⟨notices, rfl, settled.own member done⟩
  | removed row same asked member meant shape =>
    subst same shape
    have never := not_installed_removed row.id row.status journal
    exact ⟨_, rfl, settled.once.append_of_none (by simp [Notice.endsSetup]), fun ready => absurd ready never,
      fun ready => absurd ready never⟩

end Chronicle.Settled

namespace Stage

/-- From an empty store on, engines that catch panics may do anything, on any clock: a setup hook is called for a
subscription only while it was not set up, and a stored subscription that is new, or keeps a failure from when it was,
is not set up. -/
theorem Spell.set_up_once {stage : Stage σ} {first last : σ}
    (spell : stage.Spell (fun engine _ => engine.config.catchPanics = true) first last)
    (empty : stage.rows.read first = []) :
    ∃ notices, stage.journal last = stage.journal first ++ notices ∧ ∀ id, InstalledOnce id notices ∧
      ∀ row ∈ stage.rows.read last, row.id = id → row.Unready → ¬ Installed id notices := by
  -- The invariant speaks of all ids at once, and every step keeps it for each.
  obtain ⟨notices, journal, loaded, settled⟩ := spell.tells (fun notices chronicle =>
      ∀ id, Chronicle.Settled id notices chronicle)
    (fun {engine operation notices one two} _ settled step => by
      -- The reports of a step are the same for every id.
      obtain ⟨more, further⟩ := step.journal
      refine ⟨more, further, fun id => ?_⟩
      obtain ⟨own, shape, settled⟩ := (settled id).step step
      rwa [List.append_cancel_left (further.symm.trans shape)])
    (fun settled longer id => ⟨(settled id).once, (settled id).listed, (settled id).begun⟩)
    (fun caught uncaught => absurd caught (by simp [uncaught])) (by simp [empty])
    (fun id => ⟨by simp [InstalledOnce], by simp [Installed], by simp [Installed]⟩)
  exact ⟨notices, journal, fun id => ⟨(settled id).once, fun row member same unready ready =>
    (settled id).begun ready row member same unready⟩⟩

end Stage

namespace World

/-- How the calls of a hesitant subscriber end: the first one, which is its setup, in a failure, and the rest well. -/
def hesitant (calls : List CallNote) : HandlerOutcome :=
  if calls.length = 1 then .failed (.ofMessage "not yet") else .done

/-- An engine with a hesitant subscriber, which tries again at once. -/
def insistent : Engine World := feeder [reacting "late" hesitant] .always

/-- A setup fails and is retried, the subscription is removed, and is set up once more. -/
def renewed : World :=
  let after (operation : Operation) (world : World) : World := ((operation.perform insistent).outcome world).2
  after (.boot {} none) (after (.remove {}) (after (.run {} none) (after (.boot {} none) (after (.boot {} none)
    (telling ["a"])))))

/-- The hook is called three times, fails at first, and is called again only after the removal. -/
theorem renewed_set_up_once :
    setupCalls "late" (stage.journal renewed) = 3 ∧
      ((stage.journal renewed).filter (· == .setupDone "late")).length = 2 ∧
      ∃ notices, stage.journal renewed = stage.journal (telling ["a"]) ++ notices ∧ ∀ id,
        InstalledOnce id notices ∧
          ∀ row ∈ stage.rows.read renewed, row.id = id → row.Unready → ¬ Installed id notices := by
  -- The five operations by which the system came about make a spell.
  have hosted : stage.Hosts insistent := hosts ..
  have behaves : ∀ subscriber ∈ insistent.registry.subscribers, stage.Behaves subscriber := by
    intro subscriber member
    obtain rfl := List.mem_singleton.mp member
    exact (reacting_contained ..).behaves
  have spell : stage.Spell (fun engine _ => engine.config.catchPanics = true) (telling ["a"]) renewed :=
    .operate (.operate (.operate (.operate (.operate .start hosted behaves rfl) hosted behaves rfl) hosted behaves rfl)
      hosted behaves rfl) hosted behaves rfl
  exact ⟨by decide +kernel, by decide +kernel, spell.set_up_once rfl⟩

end World

end EventFeed
