import EventFeed.Proofs.Progress
import EventFeed.Proofs.WellFormed

/-! Coverage: no message is passed over, also where operations break off; every message up to a stored
position has been handled, and no stored position goes back. -/

namespace EventFeed

open EventFeed.Action
open Subscription (unstamped)

/-- A row stands at the beginning or at an index of the log, and the messages from its start up to there
have been handled, each of them once or more. -/
structure Covers (log : List (Nat × Message)) (tally : Tally) (row : Subscription) : Prop where
  reached : row.position = 0 ∨ row.position ∈ log.map Prod.fst
  completed : ∀ index ∈ log.map Prod.fst, tally.start < index → index ≤ row.position → index ∈ tally.completed

namespace Covers

variable {log longer : List (Nat × Message)} {tally : Tally} {row next other : Subscription} {notices : List Notice}

/-- Nothing lies up to the beginning. -/
theorem beginning (untouched : row.position = 0) : Covers log tally row :=
  ⟨Or.inl untouched, fun index _ after upTo => by omega⟩

/-- What is appended to the log lies behind every row. -/
theorem grow (covers : Covers log tally row) (grown : log <+: longer)
    (ascending : (longer.map Prod.fst).Pairwise (· < ·)) : Covers longer tally row := by
  -- A row stands at the beginning or at an index of the old log, and what is appended comes after both.
  obtain ⟨reached, completed⟩ := covers
  refine ⟨reached.imp id fun present => (grown.map Prod.fst).subset present, fun index logged after upTo => ?_⟩
  rcases reached with untouched | present
  · omega
  · rcases after_prefix grown ascending present logged with old | new
    · exact completed index old after upTo
    · omega

/-- Only the position of a row is looked at. -/
theorem stay (covers : Covers log tally row) (position : next.position = row.position) : Covers log tally next :=
  ⟨position ▸ covers.reached, position ▸ covers.completed⟩

/-- Tallies that count more from the same start cover no less. -/
theorem tally_grow {more : Tally} (covers : Covers log tally row) (start : more.start = tally.start)
    (completed : ∀ index ∈ tally.completed, index ∈ more.completed) : Covers log more row :=
  ⟨covers.reached, fun index logged after upTo =>
    completed index (covers.completed index logged (start ▸ after) upTo)⟩

/-- A row is still covered when something is reported of its id; it is at the beginning where its start
is recorded. -/
theorem report (covers : Covers log tally other) (moved : Move log notices row next)
    (untouched : row.status = .new → other.position = 0) : Covers log (tally.noteAll row.id notices) other := by
  -- Only the start of a new subscription is recorded, and reports of messages add to what was handled.
  cases moved with
  | startNow status mode present => exact beginning (untouched status)
  | failSetup status error =>
    refine covers.tally_grow ?_ ?_ <;> simp [Tally.note, status]
  | handle status awaits eventType =>
    refine covers.tally_grow (by simp [Tally.note]) fun index member => ?_
    simp [Tally.note, member]
  | failHandle status awaits eventType error =>
    have started : row.status ≠ .new := by rcases status with status | status <;> simp [status]
    refine covers.tally_grow ?_ ?_ <;> simp [Tally.note, started]
  | breakOff status awaits eventType =>
    refine covers.tally_grow ?_ ?_ <;> simp [Tally.note]
  | _ => exact covers

/-- A row that moves takes its handled messages with it. -/
theorem move (covers : Covers log tally row) (moved : Move log notices row next)
    (untouched : row.status = .new → row.position = 0) : Covers log (tally.noteAll row.id notices) next := by
  -- The report of the move is counted before the row is looked at.
  have reported := covers.report moved untouched
  cases moved with
  | retry status retried =>
    obtain ⟨error, -, rfl⟩ := Subscription.retry_ok retried
    exact reported.stay rfl
  | @startNow row index status mode present =>
    -- It starts at the end of the log, and has nothing to handle before that.
    have position : (row.changePosition index).active.position = index := by
      simp [Subscription.changePosition, Subscription.active, Subscription.settle, untouched status]
    refine ⟨by rw [position]; exact present, fun other _ after upTo => ?_⟩
    rw [position] at upTo
    simp only [Tally.noteAll_cons, Tally.noteAll_nil, Tally.note, if_true] at after
    omega
  | @handle row index status awaits eventType =>
    obtain ⟨⟨present, behind⟩, least⟩ := awaits
    have behind : row.position < index := behind
    have position : (row.changePosition index).position = index := Nat.max_eq_right (Nat.le_of_lt behind)
    refine ⟨Or.inr (by rw [position]; exact present), fun other logged after upTo => ?_⟩
    rw [position] at upTo
    by_cases reached : other ≤ row.position
    · exact reported.completed other logged after reached
    · -- No other index lies between the old position and the new one.
      have same : other = index := Nat.le_antisymm upTo (least ⟨logged, Nat.lt_of_not_le reached⟩)
      simp [Tally.note, same]
  | _ => exact reported.stay rfl

end Covers

namespace Ledger

/-- What was reported of a subscription in a ledger. -/
def tally (ledger : Ledger) (id : String) : Tally := ({} : Tally).noteAll id ledger.journal

/-- Every row, stored or known, is covered by what was reported of it. -/
structure Covered (ledger : Ledger) : Prop where
  ascending : (ledger.log.map Prod.fst).Pairwise (· < ·)
  orderly : Orderly ledger
  sound : Sound ledger
  covers : ∀ row, row ∈ ledger.stored ∨ row ∈ ledger.known → Covers ledger.log (ledger.tally row.id) row

/-- A stored row is at the beginning while the row that is known under its id is new. -/
theorem Covered.untouched {ledger : Ledger} (covered : Covered ledger) {row other : Subscription}
    (member : row ∈ ledger.known) (present : other ∈ ledger.stored ∨ other ∈ ledger.known) (same : row.id = other.id)
    (status : row.status = .new) : other.position = 0 := by
  -- A new row stands at the beginning, and what is stored under its id is not ahead of it.
  have start : row.position = 0 := (covered.sound.known row member).new status
  rcases present with stored | known
  · have behind := covered.orderly.behind other stored row member same
    omega
  · rw [← Rows.eq_of_id covered.orderly.known member known same]
    exact start

/-- Rows are covered at every moment. -/
theorem Covered.turn {ledger next : Ledger} (covered : Covered ledger) (turn : Turn ledger next) : Covered next := by
  -- Turns either change what is known, or store it.
  have orderly := covered.orderly.turn turn
  have sound := covered.sound.turn turn
  have untouched : ∀ {row other : Subscription}, row ∈ ledger.known → other ∈ ledger.stored ∨ other ∈ ledger.known →
      row.id = other.id → row.status = .new → other.position = 0 := covered.untouched
  obtain ⟨ascending, before, -, covers⟩ := covered
  cases turn with
  | forget => exact ⟨ascending, orderly, sound, fun row present => covers row (Or.inl (or_self_iff.mp present))⟩
  | @write row member =>
    refine ⟨ascending, orderly, sound, fun other present => ?_⟩
    rcases present with stored | known
    · rcases Rows.mem_enlist stored with rfl | old
      · exact covers other (Or.inr member)
      · exact covers other (Or.inl old)
    · exact covers other (Or.inr known)
  | step step =>
    cases step with
    | @remark notice quiet =>
      refine ⟨ascending, orderly, sound, fun row present => ?_⟩
      simpa [tally, Tally.note_quiet quiet] using covers row present
    | load start targets =>
      refine ⟨ascending, orderly, sound, fun row present => ?_⟩
      simpa [tally, Tally.note] using covers row present
    | grow longer ascendingLonger =>
      exact ⟨ascendingLonger, orderly, sound, fun row present => (covers row present).grow longer ascendingLonger⟩
    | @enroll notices fresh reports new distinct =>
      refine ⟨ascending, orderly, sound, fun row present => ?_⟩
      -- The reports name none of the rows that were there before.
      have old : ∀ row, row ∈ ledger.stored ∨ row ∈ ledger.known →
          Covers ledger.log (({} : Tally).noteAll row.id (ledger.journal ++ notices)) row := by
        intro row present
        have listed : row.id ∈ Rows.ids ledger.known :=
          present.elim (fun stored => before.listed _ (Rows.id_mem_ids stored)) Rows.id_mem_ids
        rw [Tally.noteAll_append, Tally.noteAll_of_others fun notice report => ?_]
        · exact covers row present
        · obtain ⟨id, group, shape, absent⟩ := reports notice report
          exact ⟨id, group, shape, fun same => absent (same ▸ listed)⟩
      rcases present with stored | known
      · exact old row (Or.inl stored)
      · rcases List.mem_append.mp known with known | added
        · exact old row (Or.inr known)
        · exact .beginning (by rw [(new row added).1])
    | @move notices row moved member happened =>
      refine ⟨ascending, orderly, sound, fun other present => ?_⟩
      -- Whether it has moved or not, a row of the id is covered with the reports of the move.
      have reported : ∀ other, other ∈ ledger.stored ∨ other ∈ ledger.known →
          Covers ledger.log (({} : Tally).noteAll other.id (ledger.journal ++ notices)) other := by
        intro other present
        rw [Tally.noteAll_append]
        by_cases same : row.id = other.id
        · have own := (covers other present).report happened (untouched member present same)
          rwa [same] at own
        · rw [Tally.noteAll_move happened same]
          exact covers other present
      rcases present with stored | known
      · exact reported other (Or.inl stored)
      · rcases Rows.mem_put known with rfl | ⟨old, -⟩
        · have own := (covers row (Or.inr member)).move happened (untouched member (Or.inr member) rfl)
          unfold tally at own ⊢
          rwa [Tally.noteAll_append, happened.id_eq]
        · exact reported other (Or.inr old)
    | @restamp others same =>
      refine ⟨ascending, orderly, sound, fun row present => ?_⟩
      rcases present with stored | known
      · exact covers row (Or.inl stored)
      · obtain ⟨old, inHand, stamped⟩ := Rows.source same known
        have position : row.position = old.position := by rw [Subscription.eq_of_unstamped stamped]
        have id : old.id = row.id := Subscription.id_of_unstamped stamped
        exact (id ▸ covers old (Or.inr inHand)).stay position
    | save => exact ⟨ascending, orderly, sound, fun row present => covers row (Or.inr (or_self_iff.mp present))⟩
    | remove id status =>
      refine ⟨ascending, orderly, sound, fun row present => ?_⟩
      have kept := covers row (present.imp (fun stored => (List.mem_filter.mp stored).1)
        fun known => (List.mem_filter.mp known).1)
      simpa [tally, Tally.note] using kept

/-- Every message up to the position of each stored row was handled since the row was added, but for those
up to the end of the log that was recorded for it. -/
def Complete (ledger : Ledger) : Prop :=
  ∀ row ∈ ledger.stored, ∀ index ∈ ledger.log.map Prod.fst,
    (ledger.tally row.id).start < index → index ≤ row.position → index ∈ (ledger.tally row.id).completed

/-- Covered rows have handled everything up to where they stand. -/
theorem Covered.complete {ledger : Ledger} (covered : Covered ledger) : Complete ledger :=
  fun row member => (covered.covers row (Or.inl member)).completed

/-- Every row that is stored at one moment is stored at another one at the same position or a later one,
unless its removal was reported in between. -/
def Retains (early late : Ledger) : Prop :=
  ∃ notices, late.journal = early.journal ++ notices ∧ ∀ row ∈ early.stored,
    (∃ status, .removed row.id status ∈ notices) ∨
      ∃ later ∈ late.stored, later.id = row.id ∧ row.position ≤ later.position

/-- Rows that are not touched are retained. -/
theorem Retains.of_stored {ledger next : Ledger} {notices : List Notice}
    (journal : next.journal = ledger.journal ++ notices) (stored : next.stored = ledger.stored) :
    Retains ledger next :=
  ⟨notices, journal, fun row member => Or.inr ⟨row, stored ▸ member, rfl, Nat.le_refl _⟩⟩

/-- What is retained twice is retained. -/
theorem Retains.trans {first second third : Ledger} (one : Retains first second) (two : Retains second third) :
    Retains first third := by
  -- A row is followed through the first stretch, and then through the second one unless it was removed.
  obtain ⟨notices, journal, kept⟩ := one
  obtain ⟨more, journalMore, keptMore⟩ := two
  refine ⟨notices ++ more, by rw [journalMore, journal, List.append_assoc], fun row member => ?_⟩
  rcases kept row member with ⟨status, removed⟩ | ⟨later, present, same, ahead⟩
  · exact Or.inl ⟨status, List.mem_append_left _ removed⟩
  · rcases keptMore later present with ⟨status, removed⟩ | ⟨last, stays, again, further⟩
    · exact Or.inl ⟨status, List.mem_append_right _ (same ▸ removed)⟩
    · exact Or.inr ⟨last, stays, again.trans same, Nat.le_trans ahead further⟩

/-- A stored row stays where it is or goes further, or its removal is reported. -/
theorem Orderly.retains {ledger next : Ledger} (orderly : Orderly ledger) (turn : Turn ledger next) :
    Retains ledger next := by
  -- Only writes and removals touch what is stored.
  cases turn with
  | forget => exact .of_stored (List.append_nil _).symm rfl
  | @write row member =>
    -- What takes the place of a stored row is known under its id.
    refine ⟨[], (List.append_nil _).symm, fun other present => Or.inr ?_⟩
    by_cases same : row.id = other.id
    · exact ⟨row, Rows.mem_enlist_self row _, same, orderly.behind other present row member same⟩
    · exact ⟨other, Rows.mem_enlist_of_ne present (Ne.symm same), rfl, Nat.le_refl _⟩
  | step step =>
    cases step with
    | remark | load | enroll | move => exact .of_stored rfl rfl
    | grow | restamp => exact .of_stored (List.append_nil _).symm rfl
    | save =>
      refine ⟨[], (List.append_nil _).symm, fun row member => Or.inr ?_⟩
      obtain ⟨current, inHand, same⟩ := List.mem_map.mp (orderly.listed _ (Rows.id_mem_ids member))
      exact ⟨current, inHand, same, orderly.behind row member current inHand same⟩
    | remove id status =>
      refine ⟨[.removed id status], rfl, fun row member => ?_⟩
      by_cases gone : row.id = id
      · exact Or.inl ⟨status, by simp [gone]⟩
      · exact Or.inr ⟨row, List.mem_filter.mpr ⟨member, by simpa using gone⟩, rfl, Nat.le_refl _⟩

/-- Stored rows stay where they are or go further, as long as they are not removed. -/
theorem Orderly.retains_turns {early late : Ledger} (orderly : Orderly early) (turns : Turns early late) :
    Retains early late := by
  -- The order among the rows lasts, too.
  induction turns with
  | refl => exact .of_stored (List.append_nil _).symm rfl
  | tail turns turn ih => exact ih.trans ((orderly.turns turns).retains turn)

end Ledger

namespace Stage

variable {σ : Type} {stage : Stage σ}

/-- A system without rows is covered, and so are its later moments. -/
theorem covered_turns {first : σ} {ledger : Ledger} (empty : stage.rows.read first = [])
    (turns : Ledger.Turns (stage.outside first) ledger) : ledger.Covered := by
  -- Where nothing is stored there is nothing to be covered.
  refine turns.keeps (fun before turn => before.turn turn)
    ⟨stage.ascending first, orderly_outside (by simp [empty]), sound_turns empty .refl, ?_⟩
  simp [outside, Stage.ledger, empty]

/-- Whatever is asked of engines on an empty store, and wherever operations break off, no message is lost and
no stored position goes back: neither between two operations nor at any moment in between. -/
theorem History.covered {first middle last : σ} (early : stage.History first middle)
    (late : stage.History middle last) (empty : stage.rows.read first = []) :
    (stage.outside last).Complete ∧ (stage.outside middle).Retains (stage.outside last) ∧
      Ledger.Turns (stage.outside first) (stage.outside middle) ∧
      Ledger.Turns (stage.outside middle) (stage.outside last) ∧
      ∀ moment later, Ledger.Turns (stage.outside first) moment → Ledger.Turns moment later →
        later.Complete ∧ moment.Retains later := by
  -- Turns from one end of a history to the other are all that is needed.
  obtain ⟨front, distinct⟩ := early.turns (by simp [empty])
  obtain ⟨back, -⟩ := late.turns distinct
  -- At every moment the rows are covered, and so they are at the last one.
  have always : ∀ moment later, Ledger.Turns (stage.outside first) moment → Ledger.Turns moment later →
      later.Complete ∧ moment.Retains later := fun moment later one two =>
    ⟨(covered_turns empty (one.trans two)).complete, (covered_turns empty one).orderly.retains_turns two⟩
  have ends := always _ _ front back
  exact ⟨ends.1, ends.2, front, back, always⟩

end Stage

namespace World

/-- The steady subscriber handles a message again whose position was not written when the operation broke
off, and neither subscriber misses one. -/
theorem mended_covered :
    (stage.rows.read torn).map (fun row => (row.id, row.position)) = [("steady", 1), ("brittle", 1)] ∧
      ((stage.outside mended).tally "steady").completed = [1, 2, 2] ∧
      (stage.outside mended).Complete ∧ (stage.outside torn).Retains (stage.outside mended) ∧
      Ledger.Turns (stage.outside blank) (stage.outside torn) ∧
      Ledger.Turns (stage.outside torn) (stage.outside mended) ∧
      ∀ moment later, Ledger.Turns (stage.outside blank) moment → Ledger.Turns moment later →
        later.Complete ∧ moment.Retains later :=
  ⟨by decide +kernel, by decide +kernel, Stage.History.covered mended_history.1 mended_history.2 rfl⟩

end World

end EventFeed
