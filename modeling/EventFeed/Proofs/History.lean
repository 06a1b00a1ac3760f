import EventFeed.Proofs.Chronicles

/-! Histories: operations one after another, any of which may break off, and every moment in between
as the store shows it. -/

namespace EventFeed

open EventFeed.Action
open Subscription (unstamped)

/-- Nothing that happens to a subscription takes it back to an earlier position. -/
theorem Move.position_le {log : List (Nat × Message)} {notices : List Notice} {row next : Subscription}
    (moved : Move log notices row next) : row.position ≤ next.position := by
  -- The position changes only where a message is handled or the end of the log is taken.
  cases moved with
  | retry _ retried =>
    obtain ⟨error, -, rfl⟩ := Subscription.retry_ok retried
    exact Nat.le_refl _
  | startNow => exact Nat.le_max_left _ _
  | handle => exact Nat.le_max_left _ _
  | _ => exact Nat.le_refl _

namespace Ledger

/-- What can happen from one moment to the next: a small step, the writing of one row, or the end of an
operation, which forgets what has not been written. -/
inductive Turn : Ledger → Ledger → Prop
  /-- A small step is taken. -/
  | step {ledger next : Ledger} (step : Step ledger next) : Turn ledger next
  /-- One of the rows that are known is written, before the others are. -/
  | write {ledger : Ledger} {row : Subscription} (member : row ∈ ledger.known) :
    Turn ledger { ledger with stored := Rows.enlist row ledger.stored }
  /-- Only what is stored is still known. -/
  | forget {ledger : Ledger} : Turn ledger { ledger with known := ledger.stored }

/-- Any number of moments later. -/
def Turns : Ledger → Ledger → Prop := Relation.ReflTransGen Turn

/-- Small steps lead from one moment to a later one. -/
theorem Follows.turns {first last : Ledger} (follows : Follows first last) : Turns first last :=
  Relation.ReflTransGen.mono (fun _ _ step => .step step) _ _ follows

/-- What lasts from each moment to the next lasts. -/
theorem Turns.keeps {holds : Ledger → Prop} (lasts : ∀ {one two}, holds one → Turn one two → holds two)
    {first last : Ledger} (turns : Turns first last) (start : holds first) : holds last := by
  -- The moments come one after another.
  induction turns with
  | refl => exact start
  | tail _ turn ih => exact lasts ih turn

/-- The rows that are stored and those that are known go together: no id is listed twice, and what is
stored is known, at the same position or at a later one. -/
structure Orderly (ledger : Ledger) : Prop where
  stored : (Rows.ids ledger.stored).Nodup
  known : (Rows.ids ledger.known).Nodup
  listed : ∀ id ∈ Rows.ids ledger.stored, id ∈ Rows.ids ledger.known
  behind : ∀ row ∈ ledger.stored, ∀ current ∈ ledger.known, current.id = row.id →
    row.position ≤ current.position

/-- Rows that are stored as they are known are in order. -/
theorem Orderly.same {ledger : Ledger} (distinct : (Rows.ids ledger.known).Nodup)
    (same : ledger.stored = ledger.known) : Orderly ledger := by
  -- An id belongs to one row only.
  refine ⟨same ▸ distinct, distinct, fun id member => same ▸ member, fun row member current present equal => ?_⟩
  rw [same] at member
  rw [Rows.eq_of_id distinct member present equal.symm]

/-- Rows that are added are reported under ids that were not known. -/
theorem absent_of_reported {known fresh : List Subscription} {notices : List Notice}
    (reports : ∀ notice ∈ notices, ∃ id group, notice = .discovered id group ∧ id ∉ Rows.ids known)
    (reported : ∀ row ∈ fresh, ∃ group, .discovered row.id group ∈ notices) :
    ∀ row ∈ fresh, row.id ∉ Rows.ids known := by
  -- A discovery is reported under the id of the row that it adds.
  intro row member
  obtain ⟨group, report⟩ := reported row member
  obtain ⟨id, group, shape, absent⟩ := reports _ report
  cases shape
  exact absent

/-- Rows go together at every moment. -/
theorem Orderly.turn {ledger next : Ledger} (orderly : Orderly ledger) (turn : Turn ledger next) :
    Orderly next := by
  -- A turn changes what is stored, or what is known, or what is reported.
  obtain ⟨stored, known, listed, behind⟩ := orderly
  cases turn with
  | forget => exact .same stored rfl
  | @write row member =>
    -- The row that is written is the only one that is known under its id.
    refine ⟨Rows.distinct_enlist stored, known, fun id present => ?_, fun other present current inHand same => ?_⟩
    · rcases Rows.mem_ids_enlist.mp present with old | rfl
      · exact listed id old
      · exact Rows.id_mem_ids member
    · rcases Rows.mem_enlist present with rfl | old
      · rw [Rows.eq_of_id known inHand member same]
      · exact behind other old current inHand same
  | step step =>
    cases step with
    | remark | load | grow => exact ⟨stored, known, listed, behind⟩
    | @enroll notices fresh reports new distinct =>
      -- What is added has ids that were not known, and so none of them is stored.
      have absent := absent_of_reported reports fun row member => (new row member).2
      refine ⟨stored, ?_, fun id present => ?_, fun row member current present same => ?_⟩
      · rw [Rows.ids_append]
        refine known.append distinct fun id old added => ?_
        obtain ⟨row, member, rfl⟩ := List.mem_map.mp added
        exact absent row member old
      · rw [Rows.ids_append]
        exact List.mem_append_left _ (listed id present)
      · rcases List.mem_append.mp present with old | added
        · exact behind row member current old same
        · exact absurd (same ▸ listed _ (Rows.id_mem_ids member)) (absent current added)
    | @move notices row moved member happened =>
      -- The row that moves stays where it is, or goes further.
      refine ⟨stored, by rw [Rows.ids_put]; exact known,
        fun id present => by rw [Rows.ids_put]; exact listed id present, fun other present current inHand same => ?_⟩
      rcases Rows.mem_put inHand with rfl | ⟨old, -⟩
      · exact Nat.le_trans (behind other present row member (happened.id_eq.symm.trans same)) happened.position_le
      · exact behind other present current old same
    | @restamp others same =>
      -- Neither ids nor positions change with a stamp.
      have ids := Rows.ids_of_unstamped same
      refine ⟨stored, by rw [ids]; exact known, fun id present => by rw [ids]; exact listed id present,
        fun row member current present equal => ?_⟩
      obtain ⟨old, inHand, stamped⟩ := Rows.source same present
      have position : old.position = current.position := by rw [Subscription.eq_of_unstamped stamped]
      rw [← position]
      exact behind row member old inHand ((Subscription.id_of_unstamped stamped).trans equal)
    | save => exact .same known rfl
    | remove id status =>
      -- The id is gone from both.
      refine ⟨stored.sublist (List.filter_sublist.map _), known.sublist (List.filter_sublist.map _),
        fun other present => ?_, fun row member current present same =>
          behind row (List.mem_filter.mp member).1 current (List.mem_filter.mp present).1 same⟩
      obtain ⟨row, member, rfl⟩ := List.mem_map.mp present
      obtain ⟨old, kept⟩ := List.mem_filter.mp member
      obtain ⟨current, inHand, same⟩ := List.mem_map.mp (listed _ (Rows.id_mem_ids old))
      exact List.mem_map.mpr ⟨current, List.mem_filter.mpr ⟨inHand, by rw [same]; exact kept⟩, same⟩

/-- Rows that go together do so at every later moment. -/
theorem Orderly.turns {first last : Ledger} (orderly : Orderly first) (turns : Turns first last) :
    Orderly last := turns.keeps (fun before turn => before.turn turn) orderly

end Ledger

namespace Stage

variable {σ : Type} {stage : Stage σ}

/-- The systems that come after a first one: engines are asked to do something, and each operation returns
or breaks off on a panic that nobody caught. -/
inductive History (stage : Stage σ) (first : σ) : σ → Prop where
  /-- Nothing has happened yet. -/
  | start : History stage first first
  /-- Some engine is asked to do something, and does it, or breaks off in the middle. -/
  | operate {system : σ} {engine : Engine σ} (history : History stage first system)
    (hosted : stage.Hosts engine)
    (behaves : ∀ subscriber ∈ engine.registry.subscribers, stage.Behaves subscriber)
    (operation : Operation) : History stage first ((operation.perform engine).outcome system).2
  /-- Between two operations messages may be appended. -/
  | meanwhile {system next : σ} (history : History stage first system) (onward : stage.Onward system next) :
    History stage first next

/-- A system as it shows between two operations, when only what is stored is known. -/
def outside (stage : Stage σ) (system : σ) : Ledger := stage.ledger (stage.rows.read system) system

/-- A system with distinct ids is orderly between two operations. -/
theorem orderly_outside {system : σ} (distinct : (Rows.ids (stage.rows.read system)).Nodup) :
    (stage.outside system).Orderly := .same distinct rfl

/-- Whether an operation returns or breaks off, it leads from one moment to a later one. -/
theorem Hosts.perform_turns {engine : Engine σ} (hosted : stage.Hosts engine)
    (behaves : ∀ subscriber ∈ engine.registry.subscribers, stage.Behaves subscriber) {system : σ}
    (distinct : (Rows.ids (stage.rows.read system)).Nodup) (operation : Operation) :
    Ledger.Turns (stage.outside system) (stage.outside ((operation.perform engine).outcome system).2) := by
  -- Either end of the operation has a trace, and what is known at it is stored or forgotten.
  have start : stage.Traced (stage.outside system) system := ⟨distinct, .refl _⟩
  have traced := hosted.perform_traced behaves start operation
  unfold Meets at traced
  unfold outcome
  cases run : operation.perform engine system with
  | ok value after =>
    rw [run] at traced
    exact traced.follows.turns
  | error abort after =>
    -- What was known when the panic came, and is not stored, is forgotten.
    rw [run] at traced
    obtain ⟨-, known, follows⟩ := traced
    exact follows.turns.tail .forget

/-- A history leads from one moment to a later one, and keeps ids distinct. -/
theorem History.turns {first last : σ} (history : stage.History first last)
    (distinct : (Rows.ids (stage.rows.read first)).Nodup) :
    Ledger.Turns (stage.outside first) (stage.outside last) ∧ (Rows.ids (stage.rows.read last)).Nodup := by
  -- A history is made up of operations and of what happens in between.
  induction history with
  | start => exact ⟨.refl, distinct⟩
  | @operate system engine _ hosted behaves operation ih =>
    have turns := ih.1.trans (hosted.perform_turns behaves ih.2 operation)
    exact ⟨turns, ((orderly_outside distinct).turns turns).stored⟩
  | @meanwhile system next _ onward ih =>
    -- The rows stay, and only the log gets longer.
    have further : Ledger.Turn (stage.outside system) (stage.outside next) := by
      have step : Ledger.Step (stage.outside system) { stage.outside system with log := stage.log next } :=
        .grow onward.log (stage.ascending next)
      refine .step ?_
      simpa [outside, ledger, onward.rows, onward.journal] using step
    exact ⟨ih.1.tail further, onward.rows.symm ▸ ih.2⟩

end Stage

end EventFeed
