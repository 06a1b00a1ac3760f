import EventFeed.Proofs.InStep

/-! What a unit of work keeps back: the rows that it expects of the store, and what becomes of them when it finds,
changes, adds, forgets or writes a subscription. -/

namespace EventFeed

open Subscription (unstamped)

/-- A tracked subscription is new, or stored, as it is known and with the stamp that it has. -/
inductive TrackedRow.Mirrors (rows : List Subscription) : TrackedRow → Prop
  | new {row : Subscription} (unstored : row.id ∉ Rows.ids rows) : Mirrors rows ⟨row, none⟩
  | stored {row known : Subscription} (member : known ∈ rows) (named : known.id = row.id)
      (stamp : known.lastSavedAt = row.lastSavedAt) : Mirrors rows ⟨row, some known⟩

/-- A stamp that a copy of a tracked subscription may bear, however old the copy is: there is none as long as the row
has been stored without one. -/
def TrackedRow.Outlives (tracked : TrackedRow) (stamp : Option Timestamp) : Prop :=
  tracked.persisted ≠ none → tracked.current.lastSavedAt = none → stamp = none

instance (tracked : TrackedRow) (stamp : Option Timestamp) : Decidable (tracked.Outlives stamp) :=
  inferInstanceAs (Decidable (_ → _ → _))

namespace WorkUnit

/-- The subscriptions that a unit tracks, as they should be. -/
def drafts (unit : WorkUnit) : List Subscription := unit.rows.map TrackedRow.current

/-- Those among them that the store does not have. -/
def pending (unit : WorkUnit) : List Subscription :=
  (unit.rows.filter fun tracked => tracked.persisted.isNone).map TrackedRow.current

/-- What the rows of the store should be: the drafts in their places, and the new ones behind them. -/
def expected (unit : WorkUnit) (rows : List Subscription) : List Subscription :=
  Rows.overlay unit.drafts rows ++ unit.pending

/-- Rows have ids of their own, and a unit tracks subscriptions under ids of their own, each new or as it is stored. -/
structure Reflects (unit : WorkUnit) (rows : List Subscription) : Prop where
  distinct : (Rows.ids rows).Nodup
  single : (Rows.ids unit.drafts).Nodup
  mirrors : ∀ tracked ∈ unit.rows, tracked.Mirrors rows

/-- A unit that has nothing to write. -/
def Idle (unit : WorkUnit) : Prop := ∀ tracked ∈ unit.rows, tracked.persisted = some tracked.current

variable {unit : WorkUnit} {rows after : List Subscription} {front back : List TrackedRow} {tracked next : TrackedRow}

section Expected

/-- A unit that tracks nothing reflects any rows. -/
theorem reflects_nothing (distinct : (Rows.ids rows).Nodup) : ({} : WorkUnit).Reflects rows :=
  ⟨distinct, by simp [drafts], by simp⟩

/-- It expects them as they are. -/
@[simp] theorem expected_nothing (rows : List Subscription) : ({} : WorkUnit).expected rows = rows := by
  simp [expected, drafts, pending]

@[simp] theorem drafts_append (front back : List TrackedRow) :
    drafts ⟨front ++ back⟩ = drafts ⟨front⟩ ++ drafts ⟨back⟩ :=
  List.map_append

@[simp] theorem drafts_cons (tracked : TrackedRow) (back : List TrackedRow) :
    drafts ⟨tracked :: back⟩ = tracked.current :: drafts ⟨back⟩ := rfl

@[simp] theorem drafts_nil : drafts ⟨[]⟩ = [] := rfl

@[simp] theorem pending_append (front back : List TrackedRow) :
    pending ⟨front ++ back⟩ = pending ⟨front⟩ ++ pending ⟨back⟩ := by simp [pending]

@[simp] theorem pending_cons_new (row : Subscription) (back : List TrackedRow) :
    pending ⟨⟨row, none⟩ :: back⟩ = row :: pending ⟨back⟩ := rfl

@[simp] theorem pending_cons_stored (row known : Subscription) (back : List TrackedRow) :
    pending ⟨⟨row, some known⟩ :: back⟩ = pending ⟨back⟩ := rfl

@[simp] theorem pending_nil : pending ⟨[]⟩ = [] := rfl

/-- In a unit that has nothing to write nothing is new. -/
theorem Idle.pending_eq (idle : unit.Idle) : unit.pending = [] := by
  -- Whatever is tracked is known to be stored.
  rw [pending, List.map_eq_nil_iff, List.filter_eq_nil_iff]
  intro tracked member
  simp [idle tracked member]

/-- A tracked subscription has the id of a draft. -/
theorem id_mem_drafts {list : List TrackedRow} (member : tracked ∈ list) :
    tracked.current.id ∈ Rows.ids (drafts ⟨list⟩) :=
  Rows.id_mem_ids (List.mem_map_of_mem member)

/-- What is new is a draft. -/
theorem ids_pending_sublist (unit : WorkUnit) : (Rows.ids unit.pending).Sublist (Rows.ids unit.drafts) :=
  (List.filter_sublist.map TrackedRow.current).map Subscription.id

/-- The expected ids are those of the rows and those of the new subscriptions. -/
theorem ids_expected (unit : WorkUnit) (rows : List Subscription) :
    Rows.ids (unit.expected rows) = Rows.ids rows ++ Rows.ids unit.pending := by
  rw [expected, Rows.ids_append, Rows.ids_overlay]

/-- Whoever is tracked is expected. -/
theorem Reflects.id_mem_expected (reflects : unit.Reflects rows) (member : tracked ∈ unit.rows) :
    tracked.current.id ∈ Rows.ids (unit.expected rows) := by
  -- A new row is expected behind the others, and a known one in its place.
  rw [ids_expected, List.mem_append]
  cases reflects.mirrors tracked member with
  | @new row _ => exact .inr (Rows.id_mem_ids (List.mem_map.mpr ⟨_, List.mem_filter.mpr ⟨member, rfl⟩, rfl⟩))
  | stored known named _ => exact .inl (named ▸ Rows.id_mem_ids known)

/-- The expected ids are distinct. -/
theorem Reflects.distinct_expected (reflects : unit.Reflects rows) : (Rows.ids (unit.expected rows)).Nodup := by
  rw [ids_expected]
  -- New subscriptions are drafts, and have ids of their own.
  refine reflects.distinct.append (reflects.single.sublist unit.ids_pending_sublist) fun id old new => ?_
  obtain ⟨row, member, rfl⟩ := List.mem_map.mp new
  obtain ⟨tracked, kept, rfl⟩ := List.mem_map.mp member
  obtain ⟨present, unknown⟩ := List.mem_filter.mp kept
  cases reflects.mirrors tracked present with
  | new unstored => exact unstored old
  | stored => cases unknown

/-- Whatever is stored and not tracked is expected as it is. -/
theorem mem_expected_of_untracked {row : Subscription} (stored : row ∈ rows) (absent : row.id ∉ Rows.ids unit.drafts) :
    row ∈ unit.expected rows :=
  List.mem_append_left _ (List.mem_map.mpr ⟨row, stored, by rw [Rows.get?_of_not_mem absent]; rfl⟩)

/-- What a unit tracks that has nothing to write is stored. -/
theorem Idle.stored (idle : unit.Idle) (reflects : unit.Reflects rows) (member : tracked ∈ unit.rows) :
    tracked.current ∈ rows := by
  -- What is tracked is known as it is.
  have own := idle tracked member
  cases reflects.mirrors tracked member with
  | new => cases own
  | stored known => exact Option.some.inj own ▸ known

/-- A unit that reflects rows and has nothing to write expects them as they are. -/
theorem Reflects.expected_idle (reflects : unit.Reflects rows) (idle : unit.Idle) : unit.expected rows = rows := by
  -- The drafts are then stored as they are, so laying them over the rows changes none.
  rw [expected, idle.pending_eq, List.append_nil]
  refine Rows.overlay_of_subset reflects.distinct fun row draft => ?_
  obtain ⟨tracked, member, rfl⟩ := List.mem_map.mp draft
  exact idle.stored reflects member

/-- One more subscription that the store has is expected in its place. -/
theorem expected_snoc_stored {row : Subscription} (absent : row.id ∉ Rows.ids unit.drafts) (known : Subscription)
    (rows : List Subscription) :
    expected ⟨unit.rows ++ [⟨row, some known⟩]⟩ rows = Rows.put row (unit.expected rows) := by
  -- A row that is known to be stored is not pending, so it goes over the rows.
  have unlisted : row.id ∉ Rows.ids unit.pending := fun member => absent (unit.ids_pending_sublist.subset member)
  simp only [expected, drafts_append, drafts_cons, drafts_nil, pending_append, pending_cons_stored, pending_nil,
    List.append_nil]
  rw [Rows.overlay_snoc absent, Rows.put_append, Rows.put_of_not_mem unlisted]

/-- One more new subscription is expected behind the others. -/
theorem expected_snoc_new {row : Subscription} (absent : row.id ∉ Rows.ids unit.drafts)
    (unstored : row.id ∉ Rows.ids rows) :
    expected ⟨unit.rows ++ [⟨row, none⟩]⟩ rows = unit.expected rows ++ [row] := by
  -- A new row is in nobody's place, so it goes behind the rows.
  have outside : row.id ∉ Rows.ids (Rows.overlay unit.drafts rows) := by rwa [Rows.ids_overlay]
  simp only [expected, drafts_append, drafts_cons, drafts_nil, pending_append, pending_cons_new, pending_nil]
  rw [Rows.overlay_snoc absent, Rows.put_of_not_mem outside, List.append_assoc]

/-- Where one of the tracked subscriptions is another one, so is the one that is expected under its id. -/
theorem expected_middle {row draft : Subscription} (named : draft.id = row.id) (persisted : Option Subscription)
    (single : (Rows.ids (drafts ⟨front ++ ⟨row, persisted⟩ :: back⟩)).Nodup) (rows : List Subscription) :
    expected ⟨front ++ ⟨draft, persisted⟩ :: back⟩ rows =
      Rows.put draft (expected ⟨front ++ ⟨row, persisted⟩ :: back⟩ rows) := by
  -- What is expected consists of the drafts over the rows and of the new rows behind them.
  have listed := single.sublist (ids_pending_sublist _)
  simp only [drafts_append, drafts_cons, pending_append] at single listed
  simp only [expected, drafts_append, drafts_cons, pending_append, Rows.put_append]
  rw [Rows.overlay_middle named single]
  congr 1
  rw [← Rows.put_append]
  cases persisted with
  | none =>
    -- A new subscription keeps its place behind the rows.
    rw [pending_cons_new] at listed ⊢
    rw [pending_cons_new, Rows.put_middle named listed]
  | some known =>
    -- Nothing new has the id of a subscription that the store has.
    rw [pending_cons_stored, pending_cons_stored]
    refine (Rows.put_of_not_mem fun member => ?_).symm
    simp only [Rows.ids_append, Rows.ids_cons, List.nodup_append, List.nodup_cons] at single
    rw [named, Rows.ids_append, List.mem_append] at member
    rcases member with inFront | behind
    · exact single.2.2 _ ((ids_pending_sublist ⟨front⟩).subset inFront) _ (by simp) rfl
    · exact single.2.1.1 ((ids_pending_sublist ⟨back⟩).subset behind)

/-- Deleting an id from the rows and from the drafts deletes it from what is expected. -/
theorem expected_remove (unit : WorkUnit) (rows : List Subscription) (id : String) :
    expected ⟨unit.rows.filter fun tracked => tracked.current.id != id⟩ (Rows.remove rows id) =
      Rows.remove (unit.expected rows) id := by
  -- The id is deleted from both parts of what is expected.
  have drawn : drafts ⟨unit.rows.filter fun tracked => tracked.current.id != id⟩ = Rows.remove unit.drafts id := by
    simp [drafts, Rows.remove, List.filter_map, Function.comp_def]
  have listed : pending ⟨unit.rows.filter fun tracked => tracked.current.id != id⟩ = Rows.remove unit.pending id := by
    simp only [pending, Rows.remove, List.filter_map, List.filter_filter, Function.comp_def, Bool.and_comm]
  have whole : Rows.remove (unit.expected rows) id =
      Rows.remove (Rows.overlay unit.drafts rows) id ++ Rows.remove unit.pending id := List.filter_append ..
  rw [expected, drawn, listed, Rows.overlay_remove, whole]

/-- A unit goes on to reflect rows when one of its subscriptions changes, and nothing is stored under another id. -/
theorem Reflects.middle (reflects : Reflects ⟨front ++ tracked :: back⟩ rows)
    (named : next.current.id = tracked.current.id) (distinct : (Rows.ids after).Nodup)
    (foreign : ∀ id ∈ Rows.ids after, id ∈ Rows.ids rows ∨ id = tracked.current.id)
    (kept : ∀ row ∈ rows, row.id ≠ tracked.current.id → row ∈ after) (mirrors : next.Mirrors after) :
    Reflects ⟨front ++ next :: back⟩ after := by
  -- The ids that are tracked are the same as before, and only one of them is concerned.
  have single := reflects.single
  simp only [drafts_append, drafts_cons, Rows.ids_append, Rows.ids_cons] at single
  refine ⟨distinct, by simpa [named] using single, fun other member => ?_⟩
  -- Whoever else is tracked has another id, under which nothing changes.
  have same : ∀ other, other ∈ front ∨ other ∈ back → other.Mirrors after := by
    intro other elsewhere
    have apart : other.current.id ≠ tracked.current.id := by
      rw [List.nodup_append, List.nodup_cons] at single
      rcases elsewhere with inFront | behind
      · exact single.2.2 _ (id_mem_drafts inFront) _ (by simp)
      · exact fun equal => single.2.1.1 (equal ▸ id_mem_drafts behind)
    have present : other ∈ front ++ tracked :: back := by
      rcases elsewhere with inFront | behind
      · exact List.mem_append_left _ inFront
      · exact List.mem_append_right _ (List.mem_cons_of_mem _ behind)
    cases reflects.mirrors other present with
    | new unstored => exact .new fun stored => (foreign _ stored).elim unstored apart
    | stored known name stamp => exact .stored (kept _ known (name ▸ apart)) name stamp
  rcases List.mem_append.mp member with inFront | behind
  · exact same other (.inl inFront)
  · rcases List.mem_cons.mp behind with rfl | later
    · exact mirrors
    · exact same other (.inr later)

end Expected

section Changes

/-- What is tracked in the middle of a unit is changed in its place. -/
theorem upsert_middle {id : String} (named : tracked.current.id = id) (apart : ∀ other ∈ front, other.current.id ≠ id)
    (change : TrackedRow → TrackedRow) (fresh : TrackedRow) (back : List TrackedRow) :
    upsert id change fresh (front ++ tracked :: back) = front ++ change tracked :: back := by
  -- The rows in front have other ids, and are passed by.
  induction front with
  | nil => simp [upsert, named]
  | cons other rest ih =>
    have step := ih fun each member => apart each (List.mem_cons_of_mem _ member)
    simp [upsert, apart other (by simp), step]

/-- Getting to know a stored row changes nothing in what is expected. -/
theorem Reflects.track (reflects : unit.Reflects rows) {row : Subscription} (stored : row ∈ rows) :
    (unit.track row).2.Reflects rows ∧ (unit.track row).2.expected rows = unit.expected rows := by
  -- What is tracked already changes nothing, and what is not becomes the draft that the row is.
  unfold WorkUnit.track
  split
  · exact ⟨reflects, rfl⟩
  · rename_i unknown
    have absent : row.id ∉ Rows.ids unit.drafts := by
      intro member
      obtain ⟨draft, listed, named⟩ := List.mem_map.mp member
      obtain ⟨tracked, present, rfl⟩ := List.mem_map.mp listed
      simpa [named] using List.find?_eq_none.mp unknown tracked present
    refine ⟨⟨reflects.distinct, ?_, fun tracked member => ?_⟩, ?_⟩
    · rw [drafts_append, Rows.ids_append, drafts_cons, drafts_nil]
      exact reflects.single.append (by simp) (by simpa using absent)
    · rcases List.mem_append.mp member with old | new
      · exact reflects.mirrors tracked old
      · obtain rfl := List.mem_singleton.mp new
        exact .stored stored rfl rfl
    · -- The row is put where it is.
      rw [expected_snoc_stored absent]
      exact Rows.put_of_mem reflects.distinct_expected (mem_expected_of_untracked stored absent)

/-- So does getting to know some of them. -/
theorem Reflects.trackAll : ∀ {found : List Subscription} {unit : WorkUnit}, unit.Reflects rows →
    (∀ row ∈ found, row ∈ rows) →
    (unit.trackAll found).2.Reflects rows ∧ (unit.trackAll found).2.expected rows = unit.expected rows := by
  -- They are tracked one after another, and none of them changes what is expected.
  intro found
  induction found with
  | nil => exact fun reflects _ => ⟨reflects, rfl⟩
  | cons row rest ih =>
    intro unit reflects known
    obtain ⟨first, same⟩ := reflects.track (known row (by simp))
    obtain ⟨others, unchanged⟩ := ih first fun other member => known other (by simp [member])
    exact ⟨others, unchanged.trans same⟩

/-- A unit that has nothing to write gives a stored row as it is, and goes on to have nothing to write. -/
theorem Idle.track (idle : unit.Idle) (reflects : unit.Reflects rows) {row : Subscription} (stored : row ∈ rows) :
    (unit.track row).1 = row ∧ (unit.track row).2.Idle := by
  -- What is tracked under the id is stored as it is, since there is nothing to write.
  unfold WorkUnit.track
  split
  · rename_i tracked located
    have member := List.mem_of_find?_eq_some located
    have named : tracked.current.id = row.id := by simpa using List.find?_some located
    -- What is tracked under the id is stored as it is, and so is the row.
    exact ⟨Rows.eq_of_id reflects.distinct (idle.stored reflects member) stored named, idle⟩
  · -- Otherwise the row comes to be known as it is stored.
    refine ⟨rfl, fun tracked member => ?_⟩
    rcases List.mem_append.mp member with old | new
    · exact idle tracked old
    · obtain rfl := List.mem_singleton.mp new
      rfl

/-- So it does with some of them. -/
theorem Idle.trackAll : ∀ {found : List Subscription} {unit : WorkUnit}, unit.Idle → unit.Reflects rows →
    (∀ row ∈ found, row ∈ rows) → (unit.trackAll found).1 = found := by
  -- Each of them leaves nothing to write for the next.
  intro found
  induction found with
  | nil => exact fun _ _ _ => rfl
  | cons row rest ih =>
    intro unit idle reflects known
    obtain ⟨same, next⟩ := idle.track reflects (known row (by simp))
    have others := ih next (reflects.track (known row (by simp))).1 fun other member => known other (by simp [member])
    simp only [WorkUnit.trackAll, same, others]

/-- Keeping a change of a tracked subscription back changes what is expected under its id, and nothing else. -/
theorem Reflects.update (reflects : unit.Reflects rows) {row : Subscription} (member : tracked ∈ unit.rows)
    (named : tracked.current.id = row.id) (outlives : tracked.Outlives row.lastSavedAt) :
    (unit.update row).Reflects rows ∧ ∃ draft, draft.unstamped = row.unstamped ∧
      (unit.update row).expected rows = Rows.put draft (unit.expected rows) := by
  -- The change goes to the place of the tracked subscription, and the parts around it stay.
  obtain ⟨front, back, split⟩ := List.append_of_mem member
  obtain ⟨list⟩ := unit
  obtain rfl : list = front ++ tracked :: back := split
  -- No other subscription is tracked under the id.
  have apart : ∀ other ∈ front, other.current.id ≠ row.id := by
    intro other inFront
    have single := reflects.single
    rw [drafts_append, drafts_cons, Rows.ids_append, Rows.ids_cons, List.nodup_append] at single
    exact named ▸ single.2.2 _ (id_mem_drafts inFront) _ (by simp)
  let draft : Subscription := { row with lastSavedAt := tracked.current.lastSavedAt.or row.lastSavedAt }
  have own : draft.id = tracked.current.id := named.symm
  rw [WorkUnit.update, upsert_middle named apart]
  refine ⟨reflects.middle named.symm reflects.distinct (fun _ => .inl) (fun _ stored _ => stored) ?_,
    draft, rfl, expected_middle own _ reflects.single rows⟩
  cases reflects.mirrors tracked member with
  | new unstored => exact .new (named ▸ unstored)
  | @stored current known present name stamp =>
    refine .stored present (name.trans named) (stamp.trans ?_)
    -- The stamp that is known stays; where there is none, no copy has one.
    cases kept : current.lastSavedAt with
    | none => simpa using (outlives (by simp) kept).symm
    | some time => rfl

/-- Keeping a new subscription back puts it behind what is expected. -/
theorem Reflects.add (reflects : unit.Reflects rows) {row : Subscription} (unstored : row.id ∉ Rows.ids rows)
    (untracked : row.id ∉ Rows.ids unit.drafts) :
    (unit.add row).Reflects rows ∧ (unit.add row).expected rows = unit.expected rows ++ [row] := by
  -- A new subscription takes no other one's place.
  have grown : unit.add row = ⟨unit.rows ++ [⟨row, none⟩]⟩ := by
    rw [WorkUnit.add, upsert_of_not_mem (by simpa [Rows.ids, drafts] using untracked)]
  rw [grown]
  refine ⟨⟨reflects.distinct, ?_, fun tracked member => ?_⟩, expected_snoc_new untracked unstored⟩
  · rw [drafts_append, Rows.ids_append, drafts_cons, drafts_nil]
    exact reflects.single.append (by simp) (by simpa using untracked)
  · rcases List.mem_append.mp member with old | new
    · exact reflects.mirrors tracked old
    · obtain rfl := List.mem_singleton.mp new
      exact .new unstored

/-- Among subscriptions with ids of their own, forgetting the first one of an id is forgetting the id. -/
theorem eraseP_eq_filter {list : List TrackedRow} (single : (Rows.ids (drafts ⟨list⟩)).Nodup) (id : String) :
    list.eraseP (fun tracked => tracked.current.id == id) = list.filter fun tracked => tracked.current.id != id := by
  -- Behind the first one of the id there is no other one.
  induction list with
  | nil => rfl
  | cons tracked rest ih =>
    rw [drafts_cons, Rows.ids_cons, List.nodup_cons] at single
    by_cases own : tracked.current.id = id
    · have others : ∀ other ∈ rest, (other.current.id != id) = true := by
        intro other member
        have apart : other.current.id ≠ id := fun same =>
          single.1 (own.trans same.symm ▸ id_mem_drafts member)
        simpa using apart
      simp [own, List.filter_eq_self.mpr others]
    · simp [own, ih single.2]

/-- Deleting a stored row and forgetting about it deletes it from what is expected. -/
theorem Reflects.forget (reflects : unit.Reflects rows) (id : String) :
    Reflects ⟨unit.rows.eraseP fun tracked => tracked.current.id == id⟩ (Rows.remove rows id) ∧
      expected ⟨unit.rows.eraseP fun tracked => tracked.current.id == id⟩ (Rows.remove rows id) =
        Rows.remove (unit.expected rows) id := by
  -- An id is tracked once, so forgetting the first row with it leaves none.
  rw [eraseP_eq_filter reflects.single]
  refine ⟨⟨reflects.distinct.sublist (List.filter_sublist.map _),
    reflects.single.sublist ((List.filter_sublist.map _).map _), fun tracked member => ?_⟩,
    expected_remove unit rows id⟩
  -- Whoever is left has another id, and is stored as before.
  obtain ⟨present, other⟩ := List.mem_filter.mp member
  cases reflects.mirrors tracked present with
  | new unstored => exact .new fun stored => unstored (Rows.mem_ids_remove.mp stored).1
  | stored known name stamp =>
    exact .stored (Rows.mem_remove_of_ne known (by simpa [name] using other)) name stamp

end Changes

section Writes

variable {row known saved : Subscription}

/-- Whoever has to be written differs from every stored row in some field other than the stamp, and nobody else does. -/
theorem Reflects.isDirty_iff (reflects : unit.Reflects rows) (member : tracked ∈ unit.rows) :
    tracked.isDirty = true ↔ tracked.current.unstamped ∉ rows.map unstamped := by
  -- A new subscription has to be written, and a known one just when it differs from what is stored.
  cases reflects.mirrors tracked member with
  | @new row unstored =>
    refine ⟨fun _ alike => ?_, fun _ => rfl⟩
    obtain ⟨other, present, same⟩ := List.mem_map.mp alike
    exact unstored (Subscription.id_of_unstamped same ▸ Rows.id_mem_ids present)
  | @stored row known present named stamp =>
    simp only [TrackedRow.isDirty, bne_iff_ne, ne_eq, Option.some.injEq]
    refine not_congr ⟨fun same => same ▸ List.mem_map_of_mem present, fun alike => ?_⟩
    -- The stored row of the id is the known one, which has the same stamp.
    obtain ⟨other, stored, fields⟩ := List.mem_map.mp alike
    obtain rfl := Rows.eq_of_id reflects.distinct stored present
      ((Subscription.id_of_unstamped fields).trans named.symm)
    rw [Subscription.eq_of_unstamped fields, stamp]

/-- What is stored in the place of a tracked subscription is known as it is stored. -/
theorem ids_drafts_middle (fields : saved.unstamped = tracked.current.unstamped) (front back : List TrackedRow) :
    Rows.ids (drafts ⟨front ++ ⟨saved, some saved⟩ :: back⟩) = Rows.ids (drafts ⟨front ++ tracked :: back⟩) := by
  simp [Subscription.id_of_unstamped fields]

/-- The first new subscription is stored behind the rows, where it was expected. -/
theorem Reflects.saved_new (reflects : Reflects ⟨front ++ ⟨row, none⟩ :: back⟩ rows) (idle : Idle ⟨front⟩)
    (fields : saved.unstamped = row.unstamped) :
    Reflects ⟨front ++ ⟨saved, some saved⟩ :: back⟩ (rows ++ [saved]) ∧
      (expected ⟨front ++ ⟨saved, some saved⟩ :: back⟩ (rows ++ [saved])).map unstamped =
        (expected ⟨front ++ ⟨row, none⟩ :: back⟩ rows).map unstamped := by
  -- The id is not stored yet, so the row goes behind the others.
  have named : saved.id = row.id := Subscription.id_of_unstamped fields
  have unstored : row.id ∉ Rows.ids rows := by
    cases reflects.mirrors _ (List.mem_append_right front List.mem_cons_self) with
    | new unstored => exact unstored
  have distinct : (Rows.ids (rows ++ [saved])).Nodup := by
    rw [Rows.ids_append, Rows.ids_cons, named]
    exact reflects.distinct.append (by simp) (by simpa using unstored)
  refine ⟨reflects.middle named distinct (fun id member => ?_) (fun _ old _ => List.mem_append_left _ old)
    (.stored (by simp) rfl rfl), ?_⟩
  · simpa [named] using member
  · have single := reflects.single
    rw [← ids_drafts_middle fields] at single
    -- The subscription is found in its own place, and nothing before it is new.
    have own : Rows.overlay (drafts ⟨front ++ ⟨saved, some saved⟩ :: back⟩) [saved] = [saved] := by
      rw [Rows.overlay, List.map_singleton, Rows.get?_of_mem single (by simp), Option.getD_some]
    have apart : ∀ others, Rows.overlay others (rows ++ [saved]) =
        Rows.overlay others rows ++ Rows.overlay others [saved] := fun _ => List.map_append
    have places : (Rows.overlay (drafts ⟨front ++ ⟨saved, some saved⟩ :: back⟩) rows).map unstamped =
        (Rows.overlay (drafts ⟨front ++ ⟨row, none⟩ :: back⟩) rows).map unstamped :=
      Rows.overlay_alike (by simp [fields])
    simp only [expected, apart, own, pending_append, idle.pending_eq, pending_cons_stored, pending_cons_new,
      List.map_append, places, List.nil_append, List.append_assoc, List.map_cons, fields, List.singleton_append]

/-- A stored subscription that has changed is stored in its place, where it was expected. -/
theorem Reflects.saved_known (reflects : Reflects ⟨front ++ ⟨row, some known⟩ :: back⟩ rows)
    (fields : saved.unstamped = row.unstamped) :
    Reflects ⟨front ++ ⟨saved, some saved⟩ :: back⟩ (Rows.put saved rows) ∧
      (expected ⟨front ++ ⟨saved, some saved⟩ :: back⟩ (Rows.put saved rows)).map unstamped =
        (expected ⟨front ++ ⟨row, some known⟩ :: back⟩ rows).map unstamped := by
  -- The id is stored, so the row takes its place.
  have named : saved.id = row.id := Subscription.id_of_unstamped fields
  have stored : saved.id ∈ Rows.ids rows := by
    cases reflects.mirrors _ (List.mem_append_right front List.mem_cons_self) with
    | stored present name _ => exact named.trans name.symm ▸ Rows.id_mem_ids present
  refine ⟨reflects.middle named (by rw [Rows.ids_put]; exact reflects.distinct) (fun id member => ?_)
    (fun _ old other => Rows.mem_put_of_ne old (named ▸ other)) (.stored (Rows.mem_put_self stored) rfl rfl), ?_⟩
  · rw [Rows.ids_put] at member
    exact .inl member
  · -- What stood in the place before gives way.
    have drawn : saved.id ∈ Rows.ids (drafts ⟨front ++ ⟨saved, some saved⟩ :: back⟩) := by simp
    have places : (Rows.overlay (drafts ⟨front ++ ⟨saved, some saved⟩ :: back⟩) rows).map unstamped =
        (Rows.overlay (drafts ⟨front ++ ⟨row, some known⟩ :: back⟩) rows).map unstamped :=
      Rows.overlay_alike (by simp [fields])
    simp only [expected, Rows.overlay_put drawn, pending_append, pending_cons_stored, List.map_append, places]

end Writes

end WorkUnit

end EventFeed
