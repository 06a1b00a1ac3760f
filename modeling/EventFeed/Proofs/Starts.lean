import EventFeed.Proofs.Limits

/-! Starts: where a boot starts the subscriptions that want no history, which is the end of the log when the first of
them has been set up. -/

namespace EventFeed

open EventFeed.Action

variable {σ : Type}

namespace Engine

/-- What comes before the setup of a boot. -/
def assemble (engine : Engine σ) (criteria : FeedCriteria) : Action σ WorkUnit := do
  let unit ← engine.discover criteria {}
  let unit ← engine.retry criteria [.new, .booting] unit
  engine.markDetached criteria [.new, .booting] unit

/-- A boot, with the setup of one subscription after another. -/
theorem boot_assembled (engine : Engine σ) (criteria : FeedCriteria) (limit : Option Nat) :
    engine.boot criteria limit = engine.store.guarded (do
      let unit ← engine.assemble criteria
      let (found, unit) ← unit.find engine.store (criteria.withStatuses [.new])
      let state ← found.foldlM engine.setupOne { unit }
      let (_, unit) ← state.unit.flush engine.store
      let (targets, unit) ← engine.targets criteria .booting unit
      engine.feed .booting limit .nothingToBoot engine.caughtUp state.errors targets unit) := by
  -- Both run the same phases, grouped in another way.
  simp only [boot, assemble, setupNew, bind_assoc, pure_bind]

/-- The setup of a subscription passes: its subscriber has no hook for it, or the hook ends well. -/
def Passes (engine : Engine σ) (row : Subscription) (before after : σ) : Prop :=
  ∃ subscriber, engine.registry.get? row.id = some subscriber ∧
    match subscriber.setup with
    | none => after = before
    | some setup => setup before = (.done, after)

/-- It passes in one way only. -/
theorem Passes.unique {engine : Engine σ} {row : Subscription} {before one two : σ}
    (passes : engine.Passes row before one) (again : engine.Passes row before two) : one = two := by
  -- The subscriber is the same one, and with it the hook that is called.
  obtain ⟨subscriber, known, ends⟩ := passes
  obtain ⟨other, same, endsAgain⟩ := again
  obtain rfl := Option.some.inj (known.symm.trans same)
  cases declared : subscriber.setup with
  | none =>
    rw [declared] at ends endsAgain
    exact ends.trans endsAgain.symm
  | some setup =>
    rw [declared] at ends endsAgain
    exact congrArg Prod.snd (ends.symm.trans endsAgain)

/-- In a boot of a system, a subscription is set up after some others, and its setup passes at some moment. -/
def PassesAfter (engine : Engine σ) (criteria : FeedCriteria) (system : σ) (front : List Subscription)
    (row : Subscription) (moment : σ) : Prop :=
  ∃ unit ready tracked looked back state before,
    engine.assemble criteria system = .ok unit ready ∧
    unit.find engine.store (criteria.withStatuses [.new]) ready = .ok (front ++ row :: back, tracked) looked ∧
    front.foldlM engine.setupOne { unit := tracked } looked = .ok state before ∧
    engine.Passes row before moment

end Engine

namespace Stage

variable {stage : Stage σ} {engine : Engine σ}

/-- Setup hooks that do only what is allowed pass so. -/
theorem passes_onward (behaves : ∀ subscriber ∈ engine.registry.subscribers, stage.Behaves subscriber)
    {row : Subscription} {before after : σ} (passes : engine.Passes row before after) : stage.Onward before after := by
  -- Without a hook nothing happens, and a hook is well behaved.
  obtain ⟨subscriber, known, ends⟩ := passes
  split at ends
  · rw [ends]
    exact .refl before
  · -- The hook has left the system as it is.
    rename_i hook declared
    have moved := (behaves subscriber (List.mem_of_find?_eq_some known)).setup hook declared before
    rwa [ends] at moved

/-- Since a beginning something has been reported. -/
def Told (stage : Stage σ) (begun : σ) (notice : Notice) (system : σ) : Prop :=
  ∃ notices, stage.journal system = stage.journal begun ++ notices ∧ notice ∈ notices

/-- What has been reported stays so. -/
theorem told_enduring (begun : σ) (notice : Notice) : stage.Enduring (fun _ => True) (stage.Told begun notice) where
  observe := by
    -- Reports are only added.
    intro other system _ told
    obtain ⟨notices, journal, member⟩ := told
    exact ⟨notices ++ [other], by simp [journal], List.mem_append_left _ member⟩
  write told := by simpa [Told] using told
  onward moved told := by
    obtain ⟨notices, journal, member⟩ := told
    exact ⟨notices, moved.journal.trans journal, member⟩

/-- What is reported after other reports is reported since before them. -/
theorem Reports.told {rule : Notice → Prop} {begun before after : σ} {notice : Notice}
    (reports : stage.Reports rule begun before) (told : stage.Told before notice after) :
    stage.Told begun notice after := by
  -- The reports are those before and those since.
  obtain ⟨notices, journal, -⟩ := reports
  obtain ⟨more, further, member⟩ := told
  exact ⟨notices ++ more, by rw [further, journal, List.append_assoc], List.mem_append_right _ member⟩

/-- The log only gets longer. -/
theorem longer_enduring (begun : σ) :
    stage.Enduring (fun _ => True) fun system => stage.log begun <+: stage.log system where
  observe _ longer := by simpa using longer
  write longer := by simpa using longer
  onward moved longer := longer.trans moved.log

/-- A subscription that wants no history starts at the end of the log, and that is reported. -/
theorem Hosts.start_now (hosted : stage.Hosts engine) (state : Engine.SetupState) {row : Subscription}
    (mode : row.runMode = .fromNow) (system : σ) :
    let index := state.latest.getD (newest (stage.log system))
    Ends (engine.start state row) system fun next after =>
      next.latest = some index ∧ stage.journal after = stage.journal system ++ [.activeFromNow row.id index] := by
  -- The index is looked up once, and the report comes right after it.
  unfold Engine.start
  rw [if_pos mode]
  exact Meets.run_bind (hosted.latestOnce_run state.latest system) (hosted.note_meets (Meets.pure ⟨rfl, by simp⟩))

/-- The start of any other one has nothing to do with the end of the log. -/
theorem Hosts.start_early (hosted : stage.Hosts engine) (state : Engine.SetupState) {row : Subscription}
    (mode : row.runMode ≠ .fromNow) (system : σ) :
    Ends (engine.start state row) system fun next _ => next.latest = state.latest := by
  -- Only the report is left to do.
  unfold Engine.start
  rw [if_neg mode]
  exact hosted.note_meets (Meets.pure rfl)

/-- What the setup of one subscription has to do with the end of the log. -/
inductive Looks (stage : Stage σ) (engine : Engine σ) (state : Engine.SetupState) (row : Subscription) (before : σ)
    (next : Engine.SetupState) (after : σ) : Prop
  /-- It passes, and the subscription starts at the end of the log, which was looked up before or is looked up now. -/
  | now (moment : σ) (passes : engine.Passes row before moment) (mode : row.runMode = .fromNow)
    (latest : next.latest = some (state.latest.getD (newest (stage.log moment))))
    (told : stage.Told before (.activeFromNow row.id (state.latest.getD (newest (stage.log moment)))) after)
  /-- It does not pass, or the subscription wants the history. -/
  | aside (other : ∀ moment, engine.Passes row before moment → row.runMode ≠ .fromNow)
    (latest : next.latest = state.latest)

section Setup

variable (hosted : stage.Hosts engine)

include hosted

/-- Once its setup has passed, a subscription starts. -/
theorem Hosts.start_looks {state : Engine.SetupState} {row : Subscription} {before moment system : σ}
    (passes : engine.Passes row before moment) (log : stage.log system = stage.log moment)
    (reports : stage.Reports (fun _ => True) before system) :
    Meets (engine.start state row) system (stage.Looks engine state row before) fun _ _ => True := by
  -- The run mode says whether it looks at the end of the log.
  by_cases mode : row.runMode = .fromNow
  · apply (hosted.start_now state mode system).meets.mono
    intro next after ends
    obtain ⟨latest, journal⟩ := ends
    rw [log] at latest journal
    exact .now moment passes mode latest (reports.told ⟨_, journal, List.mem_singleton_self _⟩)
  · exact (hosted.start_early state mode system).meets.mono fun _ _ latest => .aside (fun _ _ => mode) latest

variable (behaves : ∀ subscriber ∈ engine.registry.subscribers, stage.Behaves subscriber)

include behaves

/-- Setting up one subscription looks at the end of the log only where the setup passes, and no history is wanted. -/
theorem Hosts.setupOne_looks (state : Engine.SetupState) (row : Subscription) (before : σ) :
    Meets (engine.setupOne state row) before (stage.Looks engine state row before) fun _ _ => True := by
  -- The cases are those of the program: no subscriber, no hook, a hook that succeeds or fails.
  have begun : stage.Reports (fun _ => True) before before := reports_begin _ before
  unfold Engine.setupOne
  split
  · -- Without a subscriber there is nothing to pass.
    rename_i unknown
    refine Meets.pure (.aside (fun moment passes => ?_) rfl)
    obtain ⟨subscriber, known, -⟩ := passes
    cases unknown.symm.trans known
  rename_i subscriber known
  split
  · rename_i bare
    exact hosted.start_looks ⟨subscriber, known, by rw [bare]⟩ rfl begun
  rename_i hook declared
  have ended : ∀ moment, engine.Passes row before moment → hook before = (.done, moment) := by
    rintro moment ⟨other, registered, ends⟩
    obtain rfl := Option.some.inj (known.symm.trans registered)
    rwa [declared] at ends
  have moved := (behaves subscriber (List.mem_of_find?_eq_some known)).setup hook declared before
  cases result : hook before with
  | mk outcome moment =>
  rw [result] at ended moved
  -- A hook that fails does not pass, whether its failure is caught or not.
  have failed : outcome ≠ .done → ∀ moment, engine.Passes row before moment → row.runMode ≠ .fromNow :=
    fun bad moment passes => absurd (congrArg Prod.fst (ended moment passes)) bad
  cases outcome with
  | done =>
    have run : engine.call hook before = .ok (.ok ()) moment := by simp [Engine.call, result]
    apply Meets.run_bind run
    apply hosted.note_meets
    refine hosted.start_looks ⟨subscriber, known, by rw [declared]; exact result⟩ (by simp) ?_
    exact (reports_enduring _ before).observe trivial ((reports_enduring _ before).onward moved begun)
  | failed error =>
    have run : engine.call hook before = .ok (.error error) moment := by simp [Engine.call, result]
    exact Meets.run_bind run (Meets.run_bind (hosted.fail_run ..) (Meets.pure (.aside (failed (by simp)) rfl)))
  | panicked payload =>
    cases caught : engine.config.catchPanics with
    | true =>
      have run : engine.call hook before = .ok (.error (.ofPanic payload)) moment := by
        simp [Engine.call, result, caught]
      exact Meets.run_bind run (Meets.run_bind (hosted.fail_run ..) (Meets.pure (.aside (failed (by simp)) rfl)))
    | false => simp [Meets, bind, EStateM.bind, Engine.call, result, caught]

/-- What was looked up is kept for the subscriptions that come later. -/
theorem Hosts.setups_keep {index : Nat} (rows : List Subscription) (state : Engine.SetupState) (system : σ)
    (latest : state.latest = some index) :
    Meets (rows.foldlM engine.setupOne state) system (fun last _ => last.latest = some index) fun _ _ => True := by
  -- Each setup on the way uses what was looked up, or leaves it.
  refine Meets.foldlM (fun state _ _ => state.latest = some index) ?_ rows state system latest
  intro state row rest between latest
  apply (hosted.setupOne_looks behaves state row between).mono
  intro next after looks
  cases looks with
  | now moment _ _ found => simpa [latest] using found
  | aside _ same => exact same.trans latest

/-- What is looked up in a longer log is no older than the end of the log before. -/
theorem Hosts.setups_least {begun : σ} (rows : List Subscription) (unit : WorkUnit) (system : σ)
    (longer : stage.log begun <+: stage.log system) :
    Meets (rows.foldlM engine.setupOne { unit }) system
      (fun last _ => ∀ index, last.latest = some index → newest (stage.log begun) ≤ index) fun _ _ => True := by
  -- That the log only grows is followed beside the bound.
  have kept : Meets (rows.foldlM engine.setupOne { unit }) system (fun last after =>
      stage.log begun <+: stage.log after ∧ ∀ index, last.latest = some index → newest (stage.log begun) ≤ index)
      fun _ _ => True := by
    refine Meets.foldlM (fun (state : Engine.SetupState) _ between => stage.log begun <+: stage.log between ∧
      ∀ index, state.latest = some index → newest (stage.log begun) ≤ index) ?_ rows _ system ⟨longer, by simp⟩
    intro state row rest between ends
    obtain ⟨longer, least⟩ := ends
    apply ((hosted.setupOne_looks behaves state row between).both (hosted.setupOne_endures (longer_enduring begun)
      (fun _ _ => trivial) behaves state row between longer)).weaken
    · rintro next after ⟨looks, further⟩
      refine ⟨further, fun index latest => ?_⟩
      cases looks with
      | aside _ same => exact least index (same.symm.trans latest)
      | now moment passes _ found =>
        obtain rfl := Option.some.inj (found.symm.trans latest)
        cases remembered : state.latest with
        | some index => exact least index remembered
        | none => exact newest_mono (longer.trans (passes_onward behaves passes).log).subset
    · exact fun _ _ _ => trivial
  exact kept.mono fun _ _ ends => ends.2

/-- Where something was looked up, the setup of a subscription that wants no history has passed. -/
theorem Hosts.setups_source {unit : WorkUnit} {start : σ} (rows : List Subscription) :
    ∀ {last : Engine.SetupState} {after : σ}, rows.foldlM engine.setupOne { unit } start = .ok last after →
      last.latest ≠ none → ∃ earlier row rest state before moment, rows = earlier ++ row :: rest ∧
        earlier.foldlM engine.setupOne { unit } start = .ok state before ∧ engine.Passes row before moment ∧
        row.runMode = .fromNow := by
  -- The last subscription is the one, or it was looked up before.
  induction rows using List.reverseRecOn with
  | nil =>
    intro last after run looked
    cases run
    exact absurd rfl looked
  | append_singleton front row ih =>
    intro last after run looked
    rw [List.foldlM_append] at run
    obtain ⟨state, before, earlier, run⟩ := exists_of_bind run
    rw [List.foldlM_cons] at run
    obtain ⟨next, between, one, run⟩ := exists_of_bind run
    cases run
    cases (hosted.setupOne_looks behaves state row before).of_ok one with
    | now moment passes mode => exact ⟨front, row, [], state, before, moment, rfl, earlier, passes, mode⟩
    | aside _ same =>
      obtain ⟨first, other, rest, found⟩ := ih earlier (same ▸ looked)
      obtain ⟨state, before, moment, shape, found⟩ := found
      exact ⟨first, other, rest ++ [row], state, before, moment, by simp [shape], found⟩

/-- A subscription that wants no history, and whose setup passes, is reported to start at the end of the log, as it was
looked up before or is looked up then. -/
theorem Hosts.setups_start {unit : WorkUnit} {begun before moment last : σ} {front back : List Subscription}
    {row : Subscription} {state final : Engine.SetupState}
    (whole : (front ++ row :: back).foldlM engine.setupOne { unit } begun = .ok final last)
    (part : front.foldlM engine.setupOne { unit } begun = .ok state before) (passes : engine.Passes row before moment)
    (mode : row.runMode = .fromNow) :
    final.latest = some (state.latest.getD (newest (stage.log moment))) ∧
      stage.Told begun (.activeFromNow row.id (state.latest.getD (newest (stage.log moment)))) last := by
  -- The setups are split at the row: those before it, its own, and those after it.
  have sets : ∀ {holds : σ → Prop}, stage.Enduring (fun _ => True) holds → ∀ (rows : List Subscription) state,
      Outlasts holds (rows.foldlM engine.setupOne state) := fun enduring =>
    outlasts_foldlM fun state row => hosted.setupOne_endures enduring (fun _ _ => trivial) behaves state row
  rw [List.foldlM_append] at whole
  obtain ⟨same, middle, ran, whole⟩ := exists_of_bind whole
  obtain ⟨rfl, rfl⟩ := EStateM.Result.ok.inj (ran.symm.trans part)
  rw [List.foldlM_cons] at whole
  obtain ⟨next, after, one, others⟩ := exists_of_bind whole
  have reports := (sets (reports_enduring _ begun) front _ begun (reports_begin _ _)).of_ok part
  cases (hosted.setupOne_looks behaves same row middle).of_ok one with
  | aside other => exact absurd mode (other moment passes)
  | now there passesThere _ latest told =>
    obtain rfl := passes.unique passesThere
    exact ⟨(hosted.setups_keep behaves back next after latest).of_ok others,
      (sets (told_enduring begun _) back next after (reports.told told)).of_ok others⟩

omit behaves in
/-- What comes before the setups keeps what endures all reports. -/
theorem Hosts.assemble_endures {holds : σ → Prop} (enduring : stage.Enduring (fun _ => True) holds)
    (criteria : FeedCriteria) : Outlasts holds (engine.assemble criteria) := by
  -- Three phases follow one another, and each of them only reports and writes.
  have lasting := enduring.lasting fun _ _ => trivial
  exact (hosted.discover_outlasts lasting _ _).bind fun _ => (hosted.retry_outlasts lasting _ _ _).bind fun _ =>
    hosted.markDetached_outlasts lasting _ _ _

/-- So does what is left of a boot after them. -/
theorem Hosts.rest_endures {holds : σ → Prop} (enduring : stage.Enduring (fun _ => True) holds)
    (criteria : FeedCriteria) (limit : Option Nat) (state : Engine.SetupState) :
    Outlasts holds (do
      let (_, unit) ← state.unit.flush engine.store
      let (targets, unit) ← engine.targets criteria .booting unit
      engine.feed .booting limit .nothingToBoot engine.caughtUp state.errors targets unit) := by
  -- A flush, a find that changes nothing, and the feeding.
  have lasting := enduring.lasting fun _ _ => trivial
  refine (hosted.flush_outlasts lasting state.unit).bind fun result system held => ?_
  obtain ⟨targets, later, found, registered⟩ := hosted.targets_found criteria .booting result.2 system
  apply Meets.run_bind found
  exact (hosted.feed_reads enduring (fun _ _ => trivial) (fun _ _ => trivial) rfl (hosted.caughtUp_outlasts lasting)
    (fun target member => behaves _ (registered target member)) (fun _ _ _ _ => trivial) held).mono
    fun _ _ ends => ends.2

/-- All subscriptions that want no history, and whose setup passes in a boot, are reported to start at one index, which
is no older than the log was. It is the end of the log when the first of them has been set up. -/
theorem Hosts.boot_starts (criteria : FeedCriteria) (limit : Option Nat) (system : σ) :
    Meets (engine.boot criteria limit) system (fun _ after => ∃ start, (∀ index ∈ stage.indices system, index ≤ start) ∧
      ∀ front row moment, engine.PassesAfter criteria system front row moment → row.runMode = .fromNow →
        ((∀ earlier other there, earlier ++ [other] <+: front →
          engine.PassesAfter criteria system earlier other there → other.runMode ≠ .fromNow) →
            start = newest (stage.log moment)) ∧
        stage.Told system (.activeFromNow row.id start) after) fun _ _ => True := by
  -- The index is that of the first setup that looked, and it is kept for all later ones.
  unfold Meets
  cases run : engine.boot criteria limit system with
  | error abort after => trivial
  | ok report after =>
  -- The boot has got through each of its phases.
  rw [Engine.boot_assembled, hosted.guarded_eq] at run
  obtain ⟨unit, ready, assembled, run⟩ := exists_of_bind run
  obtain ⟨⟨found, tracked⟩, looked, foundRun, run⟩ := exists_of_bind run
  obtain ⟨final, between, setUp, rest⟩ := exists_of_bind run
  have begins : ∀ {holds : σ → Prop}, stage.Enduring (fun _ => True) holds → holds system → holds looked :=
    fun enduring held => (hosted.find_outlasts unit _ ready
      ((hosted.assemble_endures enduring criteria system held).of_ok assembled)).of_ok foundRun
  have least := (hosted.setups_least behaves found tracked looked
    (begins (longer_enduring system) (List.prefix_refl _))).of_ok setUp
  refine ⟨final.latest.getD (newest (stage.log system)), fun index member => ?_, fun front row moment passes mode => ?_⟩
  · obtain ⟨entry, logged, rfl⟩ := List.mem_map.mp member
    have known := le_newest logged
    cases latest : final.latest with
    | none => exact known
    | some index => exact known.trans (least index latest)
  · obtain ⟨unit', ready', tracked', looked', back, state, before, again, foundAgain, part, passes⟩ := passes
    -- There is one boot only, so this setup is one of those that were seen.
    obtain ⟨rfl, rfl⟩ := EStateM.Result.ok.inj (assembled.symm.trans again)
    obtain ⟨pair, rfl⟩ := EStateM.Result.ok.inj (foundRun.symm.trans foundAgain)
    obtain ⟨rfl, rfl⟩ := Prod.mk.inj pair
    obtain ⟨latest, told⟩ := hosted.setups_start behaves setUp part passes mode
    rw [latest, Option.getD_some]
    refine ⟨fun first => ?_, ?_⟩
    · -- Had anything been looked up before, an earlier setup would have passed.
      suffices unknown : state.latest = none by rw [unknown, Option.getD_none]
      by_contra looked
      obtain ⟨earlier, other, later, _, _, there, rfl, run, passes, wanted⟩ :=
        hosted.setups_source behaves front part looked
      refine first earlier other there ⟨later, by simp⟩ ?_ wanted
      exact ⟨unit, ready, tracked, _, later ++ row :: back, _, _, assembled, by simpa using foundRun, run, passes⟩
    · have begun := begins (reports_enduring (fun _ => True) system) (reports_begin _ _)
      exact (hosted.rest_endures behaves (told_enduring system _) criteria limit final between
        (begun.told told)).of_ok rest

end Setup

end Stage

end EventFeed
