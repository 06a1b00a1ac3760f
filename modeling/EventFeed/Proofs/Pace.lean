import EventFeed.Proofs.Progress

/-! Pace: what a window makes of subscriptions that start behind each other, some of which may fail. -/

namespace EventFeed

open EventFeed.Action
open Subscription (unstamped)

variable {σ : Type}

/-- So many of some indices are behind a position: the first ones. -/
def Through (indices : List Nat) (count position : Nat) : Prop :=
  ∀ index ∈ indices, index ≤ position ↔ index ∈ indices.take count

/-- A position that has come from another one keeps abreast of what was read meanwhile. -/
structure Abreast (origin : Nat) (read : List Nat) (position : Nat) : Prop where
  onward : origin ≤ position
  reached : position = origin ∨ position ∈ read
  past : ∀ index ∈ read, index ≤ position

section Indices

variable {indices : List Nat} {count position : Nat}

theorem Through.filter_le (through : Through indices count position) (ascending : indices.Pairwise (· < ·)) :
    indices.filter (fun index => decide (index ≤ position)) = indices.take count := by
  -- Both sides ascend, so it is enough that they have the same members.
  apply List.Pairwise.eq_of_mem_iff (ascending.filter _) (ascending.sublist (List.take_sublist _ _))
  intro index
  rw [List.mem_filter, decide_eq_true_eq]
  constructor
  · intro found
    obtain ⟨member, upTo⟩ := found
    exact (through index member).mp upTo
  · intro early
    have member : index ∈ indices := List.mem_of_mem_take early
    exact ⟨member, (through index member).mpr early⟩

theorem Through.filter_gt (through : Through indices count position) (ascending : indices.Pairwise (· < ·)) :
    indices.filter (fun index => decide (position < index)) = indices.drop count := by
  -- What is not among the first ones is among the others.
  have split : (indices.take count ++ indices.drop count).Pairwise (· < ·) := by
    rw [List.take_append_drop]
    exact ascending
  rw [List.pairwise_append] at split
  apply List.Pairwise.eq_of_mem_iff (ascending.filter _) (ascending.sublist (List.drop_sublist _ _))
  intro index
  rw [List.mem_filter, decide_eq_true_eq]
  constructor
  · intro found
    -- An index beyond the position is not among the first ones.
    obtain ⟨member, further⟩ := found
    have parts : index ∈ indices.take count ++ indices.drop count := by rwa [List.take_append_drop]
    rcases List.mem_append.mp parts with early | late
    · exact absurd ((through index member).mpr early) (Nat.not_le.mpr further)
    · exact late
  · intro late
    -- An index among the others is above all of the first ones.
    have member : index ∈ indices := List.mem_of_mem_drop late
    refine ⟨member, Nat.lt_of_not_le fun upTo => ?_⟩
    exact Nat.lt_irrefl _ (split.2.2 index ((through index member).mp upTo) index late)

/-- How many indices are behind a position can be counted. -/
theorem through_length (ascending : indices.Pairwise (· < ·)) (position : Nat) :
    Through indices (indices.filter fun index => decide (index ≤ position)).length position := by
  -- A first index that is reached counts, and without it nothing does.
  induction indices with
  | nil => simp [Through]
  | cons first rest ih =>
    rw [List.pairwise_cons] at ascending
    intro index member
    by_cases reached : first ≤ position
    · rw [List.filter_cons_of_pos (by simpa using reached), List.length_cons, List.take_succ_cons,
        List.mem_cons]
      rcases List.mem_cons.mp member with rfl | later
      · -- The first index is reached, and it is counted.
        exact ⟨fun _ => Or.inl rfl, fun _ => reached⟩
      · -- A later index is judged among the later ones.
        have different : index ≠ first := Nat.ne_of_gt (ascending.1 index later)
        simpa [different] using ih ascending.2 index later
    · -- If the first index is not reached, none is.
      have beyond : ∀ other ∈ first :: rest, ¬ other ≤ position := by
        intro other present upTo
        rcases List.mem_cons.mp present with rfl | later
        · exact reached upTo
        · exact reached (Nat.le_trans (Nat.le_of_lt (ascending.1 other later)) upTo)
      have none : (first :: rest).filter (fun index => decide (index ≤ position)) = [] := by
        apply List.filter_eq_nil_iff.mpr
        intro other present
        simpa using beyond other present
      rw [none]
      simpa using beyond index member

/-- After a window of so many indices, a position that keeps abreast has at least those behind it
that the window has reached. -/
theorem Through.window {held limit start next : Nat} (through : Through indices count position)
    (ascending : indices.Pairwise (· < ·)) (heldBack : Through indices held start) (behind : start ≤ position)
    (abreast : Abreast position ((indices.drop held).take limit) next) :
    Through indices (max count (held + limit)) next := by
  -- What is among few is among many.
  have wider : ∀ {index : Nat} {few many : Nat}, few ≤ many → index ∈ indices.take few →
      index ∈ indices.take many := fun ordered member => List.take_subset_take_left indices ordered member
  -- The window continues where the first indices end.
  have window : indices.take (held + limit) = indices.take held ++ (indices.drop held).take limit :=
    List.take_add ..
  have apart : (indices.take (held + limit) ++ indices.drop (held + limit)).Pairwise (· < ·) := by
    rw [List.take_append_drop]
    exact ascending
  rw [List.pairwise_append] at apart
  -- An index is reached by the position, or by the window.
  intro index member
  constructor
  · intro upTo
    rcases abreast.reached with rfl | read
    · -- The position has not moved, so it has reached what it had before.
      exact wider (Nat.le_max_left _ _) ((through index member).mp upTo)
    · -- What is up to an index of the window is in the window or before it.
      apply wider (Nat.le_max_right _ _)
      have inside : next ∈ indices.take (held + limit) := by
        rw [window]
        exact List.mem_append_right _ read
      have parts : index ∈ indices.take (held + limit) ++ indices.drop (held + limit) := by
        rwa [List.take_append_drop]
      rcases List.mem_append.mp parts with early | late
      · exact early
      · exact absurd upTo (Nat.not_le.mpr (apart.2.2 next inside index late))
  · intro early
    rcases Nat.le_total count (held + limit) with fewer | more
    · rw [Nat.max_eq_right fewer, window, List.mem_append] at early
      rcases early with before | read
      · -- What the start has behind it, the position has behind it.
        have upTo := (heldBack index member).mpr before
        exact Nat.le_trans upTo (Nat.le_trans behind abreast.onward)
      · exact abreast.past index read
    · rw [Nat.max_eq_left more] at early
      exact Nat.le_trans ((through index member).mpr early) abreast.onward

/-- One more index is read, and the position is moved to it unless it is there already. -/
theorem Abreast.next {origin index : Nat} {read : List Nat} (abreast : Abreast origin read position) :
    Abreast origin (read ++ [index]) (max position index) := by
  -- A position only goes up, so that what it has passed stays behind it.
  obtain ⟨onward, reached, past⟩ := abreast
  refine ⟨Nat.le_trans onward (Nat.le_max_left _ _), ?_, ?_⟩
  · -- The new position is the old one, or the index that was read.
    rcases Nat.le_total index position with behind | ahead
    · rw [Nat.max_eq_left behind]
      exact reached.imp id fun member => by simp [member]
    · rw [Nat.max_eq_right ahead]
      exact Or.inr (by simp)
  · -- It is above all that was read before, and above this index.
    intro other member
    rcases List.mem_append.mp member with old | new
    · exact Nat.le_trans (past other old) (Nat.le_max_left _ _)
    · rw [List.mem_singleton.mp new]
      exact Nat.le_max_right _ _

end Indices

/-- Where the windows that were loaded started. -/
def starts (notices : List Notice) : List Nat := notices.filterMap fun
  | .loading start _ => some start
  | _ => none

theorem starts_quiet {notices : List Notice} (quiet : ∀ notice ∈ notices, notice.quiet = true) :
    starts notices = [] := by
  -- A load is never quiet.
  apply List.filterMap_eq_nil_iff.mpr
  intro notice member
  have silent := quiet notice member
  cases notice <;> first | rfl | cases silent

/-- A subscriber whose handlers succeed with every message. -/
def Subscriber.Flawless (subscriber : Subscriber σ) : Prop :=
  ∀ entry ∈ subscriber.handlers, ∀ message system, (entry.handle message system).1 = .done

/-- A subscription that is active, or has failed while it was. -/
def Working (row : Subscription) : Prop :=
  row.status = .active ∨ row.status = .error ∧ ∃ error, row.error = some error ∧ error.previous = .active

/-- What a window makes of an active subscription: it keeps abreast of what is read, or it fails. -/
structure Paces (read : List Nat) (flawless : Prop) (row next : Subscription) : Prop where
  id : next.id = row.id
  mode : next.runMode = row.runMode
  onward : row.position ≤ next.position
  abreast : next.status = .active → Abreast row.position read next.position
  working : Working next
  unfailed : flawless → next.status = .active

theorem Paces.restamp {read : List Nat} {flawless : Prop} {row next other : Subscription}
    (paces : Paces read flawless row next) (same : other.unstamped = next.unstamped) :
    Paces read flawless row other := by
  -- Stamps are not looked at.
  rw [Subscription.eq_of_unstamped same]
  obtain ⟨id, mode, onward, abreast, working, unfailed⟩ := paces
  exact ⟨id, mode, onward, abreast, working, unfailed⟩

namespace Stage

variable {stage : Stage σ} {engine : Engine σ}

/-- Between two systems the log stays, the windows that are loaded start in some places, and a
subscription does not start anew. -/
structure Loads (stage : Stage σ) (id : String) (places : List Nat) (before after : σ) : Prop where
  log : stage.log after = stage.log before
  journal : ∃ notices, stage.journal after = stage.journal before ++ notices ∧ starts notices = places ∧
    ∀ tally : Tally, (tally.noteAll id notices).start = tally.start

theorem Loads.refl (id : String) (system : σ) : stage.Loads id [] system system :=
  ⟨rfl, [], by simp, rfl, fun _ => rfl⟩

theorem Loads.trans {id : String} {one two : List Nat} {first second third : σ}
    (before : stage.Loads id one first second) (after : stage.Loads id two second third) :
    stage.Loads id (one ++ two) first third := by
  -- The reports of both ways stand one after another.
  obtain ⟨notices, journal, places, start⟩ := before.journal
  obtain ⟨more, journalMore, placesMore, startMore⟩ := after.journal
  refine ⟨after.log.trans before.log, notices ++ more, by rw [journalMore, journal, List.append_assoc], ?_, ?_⟩
  · rw [starts, List.filterMap_append, ← places, ← placesMore]
    rfl
  · intro tally
    rw [Tally.noteAll_append, startMore, start]

theorem loads_observe {notice : Notice} {id : String} {places : List Nat} (loads : starts [notice] = places)
    (running : notice.restarts = false) (system : σ) :
    stage.Loads id places system (stage.observe notice system) :=
  ⟨by simp, [notice], by simp, loads, fun tally => Tally.note_start running id tally⟩

theorem Quietly.loads {id : String} {before after : σ} (quietly : stage.Quietly before after) :
    stage.Loads id [] before after := by
  -- Quiet reports load nothing and start nothing.
  obtain ⟨notices, journal, quiet⟩ := quietly.journal
  exact ⟨quietly.log, notices, journal, starts_quiet quiet, fun tally => by rw [Tally.noteAll_quiet quiet]⟩

/-- Handlers that succeed with a message make the message succeed. -/
theorem callAll_flawless {message : Message} (handlers : List (Handler σ))
    (flawless : ∀ handler ∈ handlers, ∀ system, (handler message system).1 = .done) (system : σ) :
    Ends (engine.callAll message handlers) system fun result _ => result = .ok () := by
  -- The induction is on the handlers that are left.
  induction handlers generalizing system with
  | nil => exact Meets.pure rfl
  | cons handler rest ih =>
    -- The first call succeeds, and the rest is as flawless.
    have run : engine.call (handler message) system = .ok (.ok ()) (handler message system).2 := by
      have done := flawless handler (by simp) system
      unfold Engine.call
      rcases shape : handler message system with ⟨outcome, next⟩
      obtain rfl : outcome = .done := by rw [shape] at done; exact done
      rfl
    apply Meets.run_bind run
    exact ih (fun other member => flawless other (by simp [member])) _

/-- Handing a message to a subscriber that appends nothing leaves rows, log and reports. -/
theorem handle_rests {id : String} (caught : engine.config.catchPanics = true) {subscriber : Subscriber σ}
    (behaves : stage.Behaves subscriber) (sparing : stage.Sparing subscriber) (message : Message)
    (system : σ) :
    Ends (engine.handle subscriber message) system fun result next =>
      stage.rows.read next = stage.rows.read system ∧ stage.Loads id [] system next ∧
        (subscriber.Flawless → result = .ok ()) := by
  -- A sparing subscriber moves the system onward, but not its log.
  have moves := ends_of_caught caught (@handle_moves σ engine
    (fun before after => stage.Onward before after ∧ stage.log after = stage.log before)
    (fun system => ⟨.refl system, rfl⟩)
    (fun one two => ⟨one.1.trans two.1, two.2.trans one.2⟩) subscriber
    (fun entry member message system =>
      ⟨behaves.handlers entry member message system, sparing entry member message system⟩)
    message system)
  -- Handlers report nothing, so nothing is loaded.
  have loads : ∀ {next}, stage.Onward system next ∧ stage.log next = stage.log system →
      stage.Loads id [] system next := fun moved => ⟨moved.2, [], by simp [moved.1.journal], rfl, fun _ => rfl⟩
  by_cases flawless : subscriber.Flawless
  · -- Whatever is called is one of the subscriber's handlers.
    have succeeds : Ends (engine.handle subscriber message) system fun result _ => result = .ok () := by
      apply callAll_flawless
      intro handler member
      obtain ⟨entry, selected, rfl⟩ := List.mem_map.mp member
      exact flawless entry (List.mem_filter.mp selected).1 message
    apply (moves.both succeeds).weaken
    · exact fun _ _ ends => ⟨ends.1.1.rows, loads ends.1, fun _ => ends.2⟩
    · exact fun _ _ early => early.1
  · apply moves.mono
    exact fun _ _ moved => ⟨moved.1.rows, loads moved, fun flaw => absurd flaw flawless⟩

/-- A target that is offered a message keeps abreast of it, or fails. -/
theorem Hosts.offer_paced {id : String} (hosted : stage.Hosts engine)
    (caught : engine.config.catchPanics = true) {target : Target σ} (behaves : stage.Behaves target.subscriber)
    (sparing : stage.Sparing target.subscriber) {row : Subscription} {read : List Nat} {entry : Nat × Message}
    (paces : Paces read target.subscriber.Flawless row target.subscription) (system : σ) :
    Ends (engine.offer .active entry.1 entry.2 target) system fun offered after =>
      offered.1.subscriber = target.subscriber ∧
      Paces (read ++ [entry.1]) target.subscriber.Flawless row offered.1.subscription ∧
      stage.rows.read after = stage.rows.read system ∧ stage.Loads id [] system after := by
  -- The cases are those of the offer; only what is handed over tells a flawless subscriber from others.
  obtain ⟨named, mode, onward, abreast, working, unfailed⟩ := paces
  unfold Engine.offer
  simp only
  split
  · rename_i other
    -- A target that has failed earlier is passed by.
    exact Meets.pure ⟨rfl, ⟨named, mode, onward, fun current => absurd current other, working, unfailed⟩, rfl,
      .refl id system⟩
  rename_i current
  rw [ne_eq, Decidable.not_not] at current
  have further : Abreast row.position (read ++ [entry.1]) (max target.subscription.position entry.1) :=
    (abreast current).next
  split
  · rename_i past
    -- A target that is past the message stays where it is.
    rw [Nat.max_eq_left past] at further
    exact hosted.note_meets (Meets.pure ⟨rfl, ⟨named, mode, onward, fun _ => further, working, unfailed⟩,
      by simp, loads_observe (by rfl) (by rfl) system⟩)
  apply hosted.note_meets
  apply Meets.bind (handle_rests caught behaves sparing entry.2 _)
  intro result middle handled
  obtain ⟨rows, loads, flawless⟩ := handled
  -- From here on the message is handed over.
  have reported : stage.Loads id [] system (stage.observe
      (.dispatching target.subscription.id entry.1 entry.2.eventType) system) := loads_observe (by rfl) (by rfl) system
  have begun : stage.Loads id [] system middle := reported.trans loads
  cases result with
  | ok _ =>
    -- A subscription whose message succeeds moves on to it.
    refine hosted.note_meets (Meets.pure ⟨rfl, ⟨named, mode, ?_, fun _ => further, Or.inl current, fun _ => current⟩,
      by simpa using rows, begun.trans (loads_observe (by rfl) (by rfl) middle)⟩)
    exact Nat.le_trans onward (Nat.le_max_left _ _)
  | error error =>
    -- A subscriber that fails is not flawless, and its subscription stops where it is.
    apply Meets.run_bind (hosted.fail_run target.subscription error middle)
    refine Meets.pure ⟨rfl, ⟨named, mode, onward, ?_, ?_, ?_⟩, by simpa using rows,
      begun.trans (loads_observe (by rfl) (by rfl) middle)⟩
    · intro absurd
      cases absurd
    · exact Or.inr ⟨rfl, _, rfl, by simp [SubscriptionError.ofCaptured, Subscription.statusBefore, current]⟩
    · intro flaw
      cases flawless flaw

/-- A target that comes from another one keeps its subscriber, and its
subscription keeps pace or fails. -/
def PacesOn (read : List Nat) (old next : Target σ) : Prop :=
  next.subscriber = old.subscriber ∧
    Paces read old.subscriber.Flawless old.subscription next.subscription

/-- How far the targets of a window have come since its start. -/
structure Pacing (stage : Stage σ) (id : String) (first : List (Target σ)) (start : σ)
    (read : List (Nat × Message)) (targets : List (Target σ)) (system : σ) : Prop where
  paces : List.Forall₂ (PacesOn (read.map Prod.fst)) first targets
  loads : stage.Loads id [] start system

theorem paced_ids {read : List Nat} {first targets : List (Target σ)}
    (paces : List.Forall₂ (PacesOn read) first targets) :
    Rows.ids (Target.all targets) = Rows.ids (Target.all first) := by
  -- Each target keeps its id.
  induction paces with
  | nil => rfl
  | cons own _ ih =>
    simp only [Target.all, List.map_cons, Rows.ids_cons] at ih ⊢
    rw [own.2.id, ih]

/-- A round of offers keeps every target abreast of its message, or makes it fail. -/
theorem Hosts.pacing_offers {id : String} (hosted : stage.Hosts engine) (caught : engine.config.catchPanics = true)
    {first : List (Target σ)} (behaves : ∀ target ∈ first, stage.Behaves target.subscriber)
    (sparing : ∀ target ∈ first, stage.Sparing target.subscriber) (start : σ) :
    stage.Offers engine .active (fun read _ targets _ => stage.Pacing id first start read targets)
      fun _ _ => False := by
  intro read entry rest targets errors system inHand pacing
  -- The targets in front have been offered the message, and those behind have not.
  apply Meets.mono (Meets.mapM (fun done left between => ∃ front back, first = front ++ back ∧
    List.Forall₂ (PacesOn (read.map Prod.fst ++ [entry.1])) front (done.map Prod.fst) ∧
    List.Forall₂ (PacesOn (read.map Prod.fst)) back left ∧
    stage.rows.read between = stage.rows.read system ∧ stage.Loads id [] start between) ?_ targets [] system
    ⟨[], first, rfl, .nil, pacing.paces, rfl, pacing.loads⟩)
  · -- Everybody has been offered the message.
    intro offered after all
    obtain ⟨front, back, shape, paces, nobody, rows, loads⟩ := all
    obtain rfl : back = [] := List.forall₂_nil_right_iff.mp nobody
    rw [List.append_nil] at shape
    subst shape
    rw [List.nil_append] at paces
    refine ⟨rows, ?_, by simpa using paces, loads⟩
    rw [paced_ids paces, paced_ids pacing.paces]
  · -- One more target is offered the message, and joins those in front.
    intro done target left between round
    obtain ⟨front, back, rfl, paces, ahead, rows, loads⟩ := round
    obtain ⟨old, behind, own, later, rfl⟩ := List.forall₂_cons_right_iff.mp ahead
    obtain ⟨same, pace⟩ := own
    have calm := behaves old (by simp)
    have rests := sparing old (by simp)
    rw [← same] at calm rests pace
    apply Meets.mono (hosted.offer_paced caught calm rests pace between)
    intro offered after one
    obtain ⟨kept, further, sameRows, more⟩ := one
    refine ⟨front ++ [old], behind, by simp, ?_, later, sameRows.trans rows, loads.trans more⟩
    rw [same] at further kept
    simpa using List.rel_append paces (.cons ⟨kept, further⟩ .nil)

/-- Writing the targets changes nothing about how far they have come. -/
theorem pacing_saves {id : String} {first : List (Target σ)} {start : σ} :
    stage.Saves fun read _ targets _ => stage.Pacing id first start read targets := by
  -- A write is not looked at by the pace of the targets.
  intro read rest targets errors system after inHand pacing stored
  exact ⟨pacing.paces, pacing.loads.trans stored.aside.quietly.loads⟩

/-- Forgetting its retries at the end of the log is nothing to the pace of a subscription. -/
theorem paces_settled {read : List Nat} {first targets : List (Target σ)}
    (paces : List.Forall₂ (PacesOn read) first targets)
    (modes : ∀ target ∈ first, target.subscription.runMode = .fromBeginning) :
    List.Forall₂ (PacesOn read) first (targets.map (settledTarget .active keptUp)) := by
  -- Each target is settled on its own.
  induction paces with
  | nil => exact .nil
  | @cons old next first targets own _ ih =>
    refine .cons ?_ (ih fun target member => modes target (by simp [member]))
    obtain ⟨same, pace⟩ := own
    -- A subscription from the beginning stays active at the end of the log.
    have mode : next.subscription.runMode ≠ .once := by
      rw [pace.mode, modes old (by simp)]
      simp
    by_cases current : next.subscription.status = .active
    · -- A subscription that is active forgets its retries.
      simp only [settledTarget, current, if_true, keptUp, mode, if_false]
      exact ⟨same, pace.id, pace.mode, pace.onward, pace.abreast, Or.inl current, fun _ => current⟩
    · -- A subscription that has failed stays as it is.
      simp only [settledTarget, current, if_false]
      exact ⟨same, pace⟩

/-- What a run makes of the rows: those that are not active stay, and every
other one keeps pace or fails. -/
structure PacedRows (engine : Engine σ) (read : List Nat) (before after : List Subscription) : Prop where
  ids : Rows.ids after = Rows.ids before
  rows : ∀ next ∈ after, ∃ row ∈ before, next.id = row.id ∧
    (row.status ≠ .active ∧ next.unstamped = row.unstamped ∨
      row.status = .active ∧ ∃ subscriber, engine.registry.get? row.id = some subscriber ∧
        Paces read subscriber.Flawless row next)

/-- Rows that are written with the targets of a window in their places keep pace. -/
theorem pacedRows_overlay {rows after : List Subscription} {targets : List (Target σ)} {read : List Nat}
    (distinct : (Rows.ids rows).Nodup) (known : ∀ row ∈ rows, engine.registry.knows row.id = true)
    (paces : List.Forall₂ (PacesOn read) (targetsIn engine {} .active rows) targets)
    (fields : after.map unstamped = (Rows.overlay (Target.all targets) rows).map unstamped) :
    PacedRows engine read rows after := by
  -- The ids stay in their order, so each row is compared with the one that it stands for.
  refine ⟨(Rows.ids_of_unstamped fields).trans (Rows.ids_overlay _ _), ?_⟩
  intro next member
  -- Each row that was written stands for an old row, or for the target in its place.
  obtain ⟨_, place, same⟩ := Rows.source fields member
  obtain ⟨row, present, rfl⟩ := List.mem_map.mp place
  have id : next.id = row.id := (Subscription.id_of_unstamped same).symm.trans (Rows.id_of_get? row)
  refine ⟨row, present, id, ?_⟩
  cases found : Rows.get? (Target.all targets) row.id with
  | none =>
    -- An active row would be a target.
    rw [found, Option.getD_none] at same
    refine Or.inl ⟨fun current => ?_, same.symm⟩
    obtain ⟨subscriber, registered⟩ := Option.isSome_iff_exists.mp (known row present)
    have target : (⟨row, subscriber⟩ : Target σ) ∈ targetsIn engine {} .active rows :=
      mem_targetsIn.mpr ⟨present, rfl, current, registered⟩
    have listed : row.id ∈ Rows.ids (Target.all targets) := by
      rw [paced_ids paces]
      exact Rows.id_mem_ids (List.mem_map_of_mem target)
    obtain ⟨other, inTargets, named⟩ := List.mem_map.mp listed
    exact absurd named (by simpa using List.find?_eq_none.mp found other inTargets)
  | some reached =>
    rw [found, Option.getD_some] at same
    obtain ⟨target, inTargets, rfl⟩ := List.mem_map.mp (List.mem_of_find?_eq_some found)
    obtain ⟨old, first, kept, pace⟩ := source_of_forall₂ paces target inTargets
    obtain ⟨stored, -, current, registered⟩ := mem_targetsIn.mp first
    -- The target that stands in the place of the row has come from the row.
    have own : old.subscription = row := by
      apply Rows.eq_of_id distinct stored present
      rw [← pace.id]
      simpa using List.find?_some found
    rw [own] at current registered pace
    exact Or.inr ⟨current, old.subscriber, registered, pace.restamp same.symm⟩

/-- A window of a run keeps pace with what it reads from the lowest position on. -/
theorem Hosts.feed_paced {id : String} (hosted : stage.Hosts engine) (caught : engine.config.catchPanics = true)
    (behaves : ∀ subscriber ∈ engine.registry.subscribers, stage.Behaves subscriber)
    (sparing : ∀ subscriber ∈ engine.registry.subscribers, stage.Sparing subscriber) {limit : Option Nat}
    {system : σ} (distinct : (Rows.ids (stage.rows.read system)).Nodup)
    (known : ∀ row ∈ stage.rows.read system, engine.registry.knows row.id = true)
    (modes : ∀ row ∈ stage.rows.read system, row.runMode = .fromBeginning)
    (somebody : targetsIn engine {} .active (stage.rows.read system) ≠ []) :
    Ends (engine.feed .active limit .nothingActive engine.keptUp []
        (targetsIn engine {} .active (stage.rows.read system)) (.clean (stage.rows.read system))) system
      fun _ after =>
        let start := Engine.lowestPosition (targetsIn engine {} .active (stage.rows.read system))
        (Rows.ids (stage.rows.read after)).Nodup ∧ stage.Loads id [start] system after ∧
          PacedRows engine ((readUnder limit (stage.above start system)).map Prod.fst)
            (stage.rows.read system) (stage.rows.read after) := by
  -- The window is followed from its start, and what it writes is laid over the stored rows.
  have modesOn : ∀ target ∈ targetsIn engine {} .active (stage.rows.read system),
      target.subscription.runMode = .fromBeginning :=
    fun target member => modes target.subscription (mem_targetsIn.mp member).1
  -- The window starts with a report of its start.
  have loaded := @loads_observe σ stage
    (.loading (Engine.lowestPosition (targetsIn engine {} .active (stage.rows.read system)))
      (targetsIn engine {} .active (stage.rows.read system)).length) id _ rfl rfl system
  -- Before anything is read, every target is where it starts.
  have begun : List.Forall₂ (PacesOn []) (targetsIn engine {} .active (stage.rows.read system))
      (targetsIn engine {} .active (stage.rows.read system)) := by
    apply List.forall₂_same.mpr
    intro target member
    have current : target.subscription.status = .active := (mem_targetsIn.mp member).2.2.1
    exact ⟨rfl, rfl, rfl, Nat.le_refl _, fun _ => ⟨Nat.le_refl _, Or.inl rfl, by simp⟩, Or.inl current,
      fun _ => current⟩
  apply Meets.mono (hosted.feed_meets (hosted.pacing_offers caught
    (fun target member => behaves _ (registered_of_targetsIn target member))
    (fun target member => sparing _ (registered_of_targetsIn target member)) _) pacing_saves
    hosted.keptUp_settles keptUp_id (inHand_targetsIn distinct) somebody
    ⟨begun, .refl id _⟩)
  intro report after fed
  obtain ⟨-, -, distinctAfter, final, rest, middle, pacing, -, quietly, ids, agree, fields⟩ := fed
  refine ⟨distinctAfter, (loaded.trans pacing.loads).trans quietly.loads, ?_⟩
  -- The targets are written as they are, or settled at the end of the log.
  split at fields
  · rw [knownRows, agree _ ((ids_settled keptUp_id final).trans ids)] at fields
    exact pacedRows_overlay distinct known (paces_settled pacing.paces modesOn) fields
  · rw [knownRows, agree _ ids] at fields
    exact pacedRows_overlay distinct known pacing.paces fields

end Stage

end EventFeed
