import EventFeed.Proofs.Rounds

/-! Targets as the rows that they stand for: what feeding comes to, as a function of the stored rows. -/

namespace EventFeed

open EventFeed.Action
open Subscription (unstamped)

variable {σ : Type} {cast : Casting σ} {status : Status} {verdict : Verdict}

/-- Some rows, what they have become, and the targets among these: a row
that is no target has stayed. -/
inductive Casts (cast : Casting σ) (status : Status) :
    List Subscription → List Subscription → List (Target σ) → Prop
  | nil : Casts cast status [] [] []
  /-- A target is fed as the casting says, under the id and the group of its row. -/
  | target {row next : Subscription} {subscriber : Subscriber σ} {first rows : List Subscription}
    {targets : List (Target σ)} (known : cast row.id row.group = some subscriber) (id : next.id = row.id)
    (group : next.group = row.group) (rest : Casts cast status first rows targets) :
    Casts cast status (row :: first) (next :: rows) (⟨next, subscriber⟩ :: targets)
  /-- A row that nobody is fed for, or that is not in the status, is no target. -/
  | other {row : Subscription} {first rows : List Subscription} {targets : List (Target σ)}
    (left : cast row.id row.group = none ∨ row.status ≠ status) (rest : Casts cast status first rows targets) :
    Casts cast status (row :: first) (row :: rows) targets

/-- A round over the rows is a round over the targets among them. -/
theorem Casts.serve {first rows : List Subscription} {targets : List (Target σ)}
    (casts : Casts cast status first rows targets) (entry : Nat × Message) (calls : List CallNote) :
    let byRow := serveRows verdict cast status entry rows calls
    let byTarget := serveAll verdict status entry targets calls
    byRow.2 = byTarget.2 ∧ byRow.1.filterMap Prod.snd = byTarget.1.filterMap Prod.snd ∧
      Casts cast status first (byRow.1.map Prod.fst) (byTarget.1.map Prod.fst) := by
  -- Rows and targets are gone through side by side, with the same calls behind them.
  induction casts generalizing calls with
  | nil => exact ⟨rfl, rfl, .nil⟩
  | @target row next subscriber first rows targets known id group rest ih =>
    -- The row is served as the target is.
    have own : cast next.id next.group = some subscriber := by rw [id, group, known]
    have served := @serveRow_fed σ verdict cast status _ _ own entry calls
    have advances : Advances status next (serveRow verdict cast status entry next calls).1.1 :=
      serveRow_advances entry next calls
    have whole := @serve_subscriber σ (verdict subscriber.id) status entry ⟨next, subscriber⟩
      (callsOf subscriber.id calls)
    rw [served] at advances
    simp only [serveRows, serveAll, served]
    -- What is served is looked at no further: only its subscriber is known.
    generalize EventFeed.serve (verdict subscriber.id) status entry ⟨next, subscriber⟩
      (callsOf subscriber.id calls) = result at advances whole
    obtain ⟨⟨⟨reached, unchanged⟩, failure⟩, made⟩ := result
    obtain rfl : unchanged = subscriber := whole
    -- The rest starts from the calls that this target has made.
    obtain ⟨sameCalls, sameFailures, later⟩ := ih (calls ++ made)
    refine ⟨by rw [sameCalls], ?_, .target known (advances.id.trans id) (advances.group.trans group) later⟩
    cases failure <;> simp [sameFailures]
  | @other row first rows targets left rest ih =>
    -- A row that is no target is left alone by the round.
    have idle : serveRow verdict cast status entry row calls = ((row, none), []) := by
      apply serveRow_idle
      intro fed current
      rcases left with nobody | elsewhere
      · exact absurd nobody fed
      · exact absurd current elsewhere
    obtain ⟨sameCalls, sameFailures, later⟩ := ih calls
    simp only [serveRows, idle, List.append_nil, List.nil_append]
    exact ⟨sameCalls, by simpa using sameFailures, .other left later⟩

/-- What messages come to on the board is what they come to in the scene. -/
theorem Casts.play {first : List Subscription} {board : Board} {scene : Scene σ}
    (casts : Casts cast status first board.rows scene.targets) (calls : board.calls = scene.calls)
    (errors : board.errors = scene.errors) (entries : List (Nat × Message)) :
    let last := board.play verdict cast status entries
    let final := scene.play verdict status entries
    Casts cast status first last.rows final.targets ∧ last.calls = final.calls ∧ last.errors = final.errors := by
  -- The board and the scene take the messages in step.
  induction entries generalizing board scene with
  | nil => exact ⟨casts, calls, errors⟩
  | cons entry rest ih =>
    obtain ⟨sameCalls, sameFailures, later⟩ := @Casts.serve σ cast status verdict _ _ _ casts entry board.calls
    rw [calls] at sameCalls sameFailures later
    -- The next board goes with the next scene.
    apply ih
    · simpa [Board.next, Scene.next, calls] using later
    · simp [Board.next, Scene.next, calls, sameCalls]
    · simp [Board.next, Scene.next, calls, errors, sameFailures]

theorem Casts.ids {first rows : List Subscription} {targets : List (Target σ)}
    (casts : Casts cast status first rows targets) : Rows.ids (Target.all targets) ⊆ Rows.ids first := by
  -- A target brings the id of its row, and other rows bring nothing.
  induction casts with
  | nil => simp [Target.all]
  | @target row next subscriber first rows targets known id group rest ih =>
    simp only [Target.all, List.map_cons, Rows.ids_cons, id] at ih ⊢
    exact List.cons_subset_cons _ ih
  | @other row first rows targets left rest ih =>
    exact List.subset_cons_of_subset _ ih

theorem Casts.fed {first rows : List Subscription} {targets : List (Target σ)}
    (casts : Casts cast status first rows targets) :
    ∀ target ∈ targets, ∃ id group, cast id group = some target.subscriber := by
  -- A target is fed for the id and the group of the row it stands for.
  induction casts with
  | nil => simp
  | @target row next subscriber first rows targets known id group rest ih =>
    intro target member
    rcases List.mem_cons.mp member with rfl | later
    · exact ⟨row.id, row.group, known⟩
    · exact ih target later
  | other left rest ih => exact ih

/-- The rows are the first ones, with the targets in their places. -/
theorem Casts.overlay {first rows : List Subscription} {targets : List (Target σ)}
    (casts : Casts cast status first rows targets) (distinct : (Rows.ids first).Nodup) :
    Rows.overlay (Target.all targets) first = rows := by
  -- Targets stand in the order of the rows, so each row is compared with the first target that is left.
  induction casts with
  | nil => rfl
  | @target row next subscriber first rows targets known id group rest ih =>
    rw [Rows.ids_cons, List.nodup_cons] at distinct
    -- The target is found in its own place, and in no other one.
    have apart : ∀ place ∈ first, (Rows.get? (next :: Target.all targets) place.id).getD place =
        (Rows.get? (Target.all targets) place.id).getD place := by
      intro place present
      have different : next.id ≠ place.id := by
        intro same
        exact distinct.1 (id ▸ same ▸ Rows.id_mem_ids present)
      simp [Rows.get?, different]
    have others := ih distinct.2
    simp only [Rows.overlay, Target.all, List.map_cons] at apart others ⊢
    rw [List.map_congr_left apart, others]
    simp [Rows.get?, id]
  | @other row first rows targets left rest ih =>
    rw [Rows.ids_cons, List.nodup_cons] at distinct
    -- No target stands for this row, so it is overlaid by nothing.
    have absent : row.id ∉ Rows.ids (Target.all targets) := fun member => distinct.1 (rest.ids member)
    have others := ih distinct.2
    simp only [Rows.overlay, List.map_cons] at others ⊢
    rw [others, Rows.get?_of_not_mem absent]
    rfl

/-- A row that somebody is fed for is changed if it is in the status. -/
def settleRow (cast : Casting σ) (status : Status) (settled : Subscription → Subscription)
    (row : Subscription) : Subscription :=
  if (cast row.id row.group).isSome ∧ row.status = status then settled row else row

/-- Changing the targets that are in the status changes their rows. -/
theorem Casts.settle {first rows : List Subscription} {targets : List (Target σ)}
    (casts : Casts cast status first rows targets) {settled : Subscription → Subscription}
    (id : ∀ row, (settled row).id = row.id) (group : ∀ row, (settled row).group = row.group) :
    Casts cast status first (rows.map (settleRow cast status settled))
      (targets.map (Stage.settledTarget status settled)) := by
  -- Targets and their rows are in the same status, so both are changed or neither is.
  induction casts with
  | nil => exact .nil
  | @target row next subscriber first rows targets known sameId sameGroup rest ih =>
    have fed : (cast next.id next.group).isSome = true := by rw [sameId, sameGroup, known]; rfl
    by_cases current : next.status = status
    · simp only [List.map_cons, settleRow, Stage.settledTarget, fed, current, and_self, if_true]
      exact .target known ((id next).trans sameId) ((group next).trans sameGroup) ih
    · simp only [List.map_cons, settleRow, Stage.settledTarget, current, and_false, if_false]
      exact .target known sameId sameGroup ih
  | @other row first rows targets left rest ih =>
    -- A row that is no target is not changed.
    have alone : settleRow cast status settled row = row := by
      apply if_neg
      intro both
      obtain ⟨fed, current⟩ := both
      rcases left with nobody | elsewhere
      · simp [nobody] at fed
      · exact elsewhere current
    rw [List.map_cons, alone]
    exact .other left ih

namespace Stage

variable {stage : Stage σ} {engine : Engine σ} {criteria : FeedCriteria} {limit : Option Nat}

/-- Who is fed by an engine for a row that is meant. -/
def casting (engine : Engine σ) (criteria : FeedCriteria) : Casting σ := fun id group =>
  if criteria.admits id group then engine.registry.get? id else none

/-- The targets of an engine are those of its casting. -/
theorem casts_targetsIn (rows : List Subscription) :
    Casts (casting engine criteria) status rows rows (targetsIn engine criteria status rows) := by
  -- Each row is taken up as a target, or is left out for a reason.
  induction rows with
  | nil => exact .nil
  | cons row rest ih =>
    simp only [targetsIn, Rows.find, List.filter_cons, FeedCriteria.admits_withStatuses, Bool.and_eq_true,
      decide_eq_true_eq, List.mem_singleton] at ih ⊢
    by_cases meant : criteria.admits row.id row.group = true ∧ row.status = status
    · rw [if_pos meant, List.filterMap_cons]
      -- A row that is meant is a target when its subscriber is registered.
      cases known : engine.registry.get? row.id with
      | none => exact .other (Or.inl (by simp [casting, known])) ih
      | some subscriber => exact .target (by simp [casting, meant.1, known]) rfl rfl ih
    · rw [if_neg meant]
      apply Casts.other _ ih
      -- A row that is not meant has nobody to feed.
      by_cases admitted : criteria.admits row.id row.group = true
      · exact Or.inr fun current => meant ⟨admitted, current⟩
      · exact Or.inl (by simp [casting, admitted])

/-- A message is awaited when it is above the position of a target. -/
theorem awaited_iff {rows : List Subscription} {index : Nat} :
    Board.awaited (casting engine criteria) status rows index = true ↔
      ∃ target ∈ targetsIn engine criteria status rows, target.subscription.position < index := by
  -- A target is a row that is meant, in the status, and registered.
  simp only [Board.awaited, List.any_eq_true, Bool.and_eq_true, decide_eq_true_eq]
  constructor
  · intro awaited
    obtain ⟨row, member, fed, current, behind⟩ := awaited
    obtain ⟨subscriber, known⟩ := Option.isSome_iff_exists.mp fed
    simp only [casting, Option.ite_none_right_eq_some] at known
    exact ⟨⟨row, subscriber⟩, mem_targetsIn.mpr ⟨member, known.1, current, known.2⟩, behind⟩
  · intro ahead
    obtain ⟨target, present, behind⟩ := ahead
    obtain ⟨member, meant, current, known⟩ := mem_targetsIn.mp present
    exact ⟨target.subscription, member, by simp [casting, meant, known], current, behind⟩

/-- The messages that the rows of a system wait for. -/
def waiting (stage : Stage σ) (engine : Engine σ) (criteria : FeedCriteria) (status : Status) (system : σ) :
    List (Nat × Message) :=
  Board.pending (casting engine criteria) status (stage.rows.read system) (stage.log system)

/-- What is loaded for the targets is what the rows wait for. -/
theorem ahead_eq_waiting {system : σ}
    (somebody : targetsIn engine criteria status (stage.rows.read system) ≠ []) :
    stage.ahead (targetsIn engine criteria status (stage.rows.read system)) system =
      stage.waiting engine criteria status system := by
  -- Being above the lowest position is being above the position of some target.
  apply List.filter_congr
  intro entry _
  rw [Bool.eq_iff_iff, decide_eq_true_eq, lowestPosition_lt somebody, awaited_iff]

/-- Where nobody is fed, no message is awaited. -/
theorem waiting_idle {system : σ}
    (nobody : targetsIn engine criteria status (stage.rows.read system) = []) :
    stage.waiting engine criteria status system = [] := by
  -- An awaited message would have a target to wait for it.
  apply List.filter_eq_nil_iff.mpr
  intro entry _ awaited
  obtain ⟨target, present, -⟩ := awaited_iff.mp awaited
  rw [nobody] at present
  cases present

/-- What a system looks like on a board, with the failures so far. -/
def board (stage : Stage σ) (errors : List SubscriptionFailure) (system : σ) : Board :=
  ⟨stage.rows.read system, stage.calls system, errors⟩

/-- What the feeding of rows leaves: it is what the awaited messages come to on the board. -/
structure Played (stage : Stage σ) (engine : Engine σ) (criteria : FeedCriteria) (status : Status)
    (limit : Option Nat) (settled : Subscription → Subscription) (before : σ) (last : Board)
    (report : FeedReport) (after : σ) : Prop where
  finished : report.finished = exhausts limit (stage.waiting engine criteria status before).length
  errors : report.errors = last.errors
  calls : stage.calls after = last.calls
  log : stage.log after = stage.log before
  distinct : (Rows.ids (stage.rows.read after)).Nodup
  rows : (stage.rows.read after).map unstamped =
    (if report.finished then last.rows.map (settleRow (casting engine criteria) status settled)
      else last.rows).map unstamped

/-- Feeding self-contained subscribers comes to what the awaited messages come to on the board. -/
theorem Hosts.feed_played (hosted : stage.Hosts engine) (caught : engine.config.catchPanics = true)
    (contained : ∀ subscriber ∈ engine.registry.subscribers,
      stage.SelfContained (verdict subscriber.id) subscriber)
    (resting : ∀ subscriber ∈ engine.registry.subscribers, stage.Resting subscriber) {idle : Notice}
    {change : Subscription → Action σ Subscription} {settled : Subscription → Subscription}
    (settles : stage.Settles change settled) (named : ∀ row, (settled row).id = row.id)
    (grouped : ∀ row, (settled row).group = row.group) {errors : List SubscriptionFailure} {system : σ}
    (distinct : (Rows.ids (stage.rows.read system)).Nodup) :
    Ends (engine.feed status limit idle change errors
        (targetsIn engine criteria status (stage.rows.read system)) (.clean (stage.rows.read system))) system
      (stage.Played engine criteria status limit settled system
        ((stage.board errors system).play verdict (casting engine criteria) status
          (readUnder limit (stage.waiting engine criteria status system)))) := by
  -- The rows have their targets in their places at the start, and each message keeps them there.
  have casts : Casts (casting engine criteria) status (stage.rows.read system) (stage.rows.read system)
      (targetsIn engine criteria status (stage.rows.read system)) := casts_targetsIn _
  by_cases nobody : targetsIn engine criteria status (stage.rows.read system) = []
  · -- Nothing is read, and nobody is there to be changed.
    rw [waiting_idle nobody]
    rw [nobody] at casts ⊢
    -- Without targets no row is changed when the log ends.
    have fixed : (stage.rows.read system).map (settleRow (casting engine criteria) status settled) =
        stage.rows.read system := by
      have places := (casts.settle named grouped).overlay distinct
      simpa [Target.all] using places.symm
    have unread : readUnder limit ([] : List (Nat × Message)) = [] := by cases limit <;> simp [readUnder]
    rw [unread]
    apply Meets.of_run (hosted.feed_idle system)
    refine ⟨?_, rfl, by simp [Board.play, board], by simp, by simpa using distinct, ?_⟩
    · cases limit <;> simp [exhausts, waiting_idle nobody]
    · simp [Board.play, board, fixed]
  · have inHand : stage.InHand (targetsIn engine criteria status (stage.rows.read system)) system :=
      inHand_targetsIn distinct
    -- Whoever is fed, now or later, is in the registry.
    have registered : ∀ {rows targets}, Casts (casting engine criteria) status (stage.rows.read system) rows
        targets → ∀ subscriber ∈ targets.map Target.subscriber,
          subscriber ∈ engine.registry.subscribers := by
      intro rows targets among subscriber member
      obtain ⟨target, present, rfl⟩ := List.mem_map.mp member
      obtain ⟨id, group, known⟩ := among.fed target present
      simp only [casting, Option.ite_none_right_eq_some] at known
      exact List.mem_of_find?_eq_some known.2
    -- The window is a scene, and the scene goes with the board.
    apply Meets.mono (hosted.feed_meets (hosted.playing_offers caught _ system) (playing_saves _ system)
      settles named inHand nobody (playing_start (fun subscriber member =>
        contained subscriber (registered casts subscriber member)) _))
    intro report after fed
    obtain ⟨finished, -, distinctAfter, final, rest, middle, playing, -, quietly, ids, agree, fields⟩ := fed
    -- The window is what the rows wait for, so the board plays the messages of the scene.
    rw [ahead_eq_waiting nobody] at finished playing
    obtain ⟨together, calls, failures⟩ := @Casts.play σ (casting engine criteria) status verdict _
      (stage.board errors system)
      ⟨targetsIn engine criteria status (stage.rows.read system), stage.calls system, errors⟩ casts rfl rfl
      (readUnder limit (stage.waiting engine criteria status system))
    rw [playing.scene] at together calls failures
    -- The targets are fed by subscribers who do not touch the log.
    refine ⟨finished, failures.symm, quietly.calls.trans calls.symm, ?_, distinctAfter, ?_⟩
    · exact quietly.log.trans (playing.log fun subscriber member =>
        resting subscriber (registered together subscriber member))
    · rw [fields]
      -- What is written in the places of the targets makes up the rows of the board.
      split
      · rw [knownRows, agree _ ((ids_settled named final).trans ids),
          (together.settle named grouped).overlay distinct]
      · rw [knownRows, agree _ ids, together.overlay distinct]

end Stage

end EventFeed
