import EventFeed.Proofs.Drafts
import EventFeed.Proofs.Stores
import EventFeed.Proofs.World

/-! A unit of work refines direct writes: what a flush leaves in the store is what every change would have made of the
rows at once, up to stamps, and it writes nothing but the rows that differ. -/

namespace EventFeed

open EventFeed.Action
open Subscription (unstamped)

variable {σ : Type}

namespace SubscriptionStore

/-- Rows that are saved one after another, each as it is stamped when it is written, and the system before and after. -/
inductive Saves (store : SubscriptionStore σ) (now : σ → Timestamp) (begun : σ) : List Subscription → σ → Prop
  | none : Saves store now begun [] begun
  | add {written : List Subscription} {system : σ} (saves : Saves store now begun written system)
      (row : Subscription) : Saves store now begun (written ++ [row.markSaved (now system)]) (store.add row system).2
  | update {written : List Subscription} {system : σ} (saves : Saves store now begun written system)
      (row : Subscription) : Saves store now begun (written ++ [row.markSaved (now system)]) (store.update row system).2

end SubscriptionStore

namespace WorkUnit

/-- What a unit of work is told to do. -/
inductive Command where
  | find (criteria : SubscriptionCriteria)
  | update (row : Subscription)
  | add (row : Subscription)
  | remove (row : Subscription)
  | flush

namespace Command

/-- Does what a unit is told to do. -/
def perform (store : SubscriptionStore σ) (unit : WorkUnit) : Command → Action σ WorkUnit
  | find criteria => do
    let (_, unit) ← unit.find store criteria
    return unit
  | update row => return unit.update row
  | add row => return unit.add row
  | remove row => unit.remove store row
  | flush => do
    let (_, unit) ← unit.flush store
    return unit

/-- Makes the change to the store at once. -/
def direct (store : SubscriptionStore σ) : Command → Action σ Unit
  | find _ | flush => return ()
  | update row => do
    let _ ← SubscriptionStore.written (store.update row)
  | add row => do
    let _ ← SubscriptionStore.written (store.add row)
  | remove row => Action.ofStep (store.remove row)

end Command

/-- What a unit may be told to do over some rows: whoever is added has an id that is neither stored nor tracked, and
whoever is updated has been found or added and is still tracked, with any stamp that a copy of it may bear; and there is
room for both. -/
def Command.Fits (unit : WorkUnit) (rows : List Subscription) (room : Subscription → Prop) : Command → Prop
  | add row => room row ∧ row.id ∉ Rows.ids rows ∧ row.id ∉ Rows.ids unit.drafts
  | update row =>
    room row ∧ ∃ tracked ∈ unit.rows, tracked.current.id = row.id ∧ tracked.Outlives row.lastSavedAt
  | find _ | remove _ | flush => True

variable {store : SubscriptionStore σ} {rows : σ → List Subscription} {now : σ → Timestamp}
  {room : Subscription → Prop} {ready : σ → Prop} {unit : WorkUnit} {begun system shadow : σ}

/-- A flush on its way: what has been written, and the tracked subscriptions that are settled and that are left. -/
structure Flushing (store : SubscriptionStore σ) (rows : σ → List Subscription) (now : σ → Timestamp)
    (ready : σ → Prop) (unit : WorkUnit) (begun : σ) (written : List Subscription) (settled left : List TrackedRow)
    (system : σ) : Prop where
  able : ready system
  reflects : Reflects ⟨settled ++ left⟩ (rows system)
  idle : Idle ⟨settled⟩
  same : (expected ⟨settled ++ left⟩ (rows system)).map unstamped = (unit.expected (rows begun)).map unstamped
  ahead : ∀ tracked ∈ left, tracked ∈ unit.rows
  saves : store.Saves now begun written system
  count : written.length + left.countP TrackedRow.isDirty = unit.rows.countP TrackedRow.isDirty
  among : written.Sublist (drafts ⟨settled⟩)
  kept : ∀ row ∈ rows system, row ∈ written ∨ row ∈ rows begun
  changed : ∀ row ∈ written, row.unstamped ∉ (rows begun).map unstamped

namespace Flushing

variable {written : List Subscription} {settled left : List TrackedRow} {tracked : TrackedRow}

/-- What has nothing to write is settled. -/
theorem pass (flushing : Flushing store rows now ready unit begun written settled (tracked :: left) system)
    (pure : ¬ tracked.isDirty = true) :
    Flushing store rows now ready unit begun written (settled ++ [tracked]) left system where
  able := flushing.able
  reflects := by simpa using flushing.reflects
  idle := by
    intro other member
    rcases List.mem_append.mp member with old | own
    · exact flushing.idle other old
    · obtain rfl := List.mem_singleton.mp own
      simpa [TrackedRow.isDirty] using pure
  same := by simpa using flushing.same
  ahead other member := flushing.ahead other (List.mem_cons_of_mem _ member)
  saves := flushing.saves
  count := by simpa [pure] using flushing.count
  among := by
    rw [drafts_append]
    exact flushing.among.trans (List.sublist_append_left _ _)
  kept := flushing.kept
  changed := flushing.changed

/-- What has something to write is settled when it has been written. -/
theorem wrote {after : σ} {saved : Subscription} (able : ready after) (reflects : unit.Reflects (rows begun))
    (flushing : Flushing store rows now ready unit begun written settled (tracked :: left) system)
    (dirty : tracked.isDirty = true) (fields : saved.unstamped = tracked.current.unstamped)
    (saves : store.Saves now begun (written ++ [saved]) after)
    (grown : ∀ row ∈ rows after, row = saved ∨ row ∈ rows system)
    (stored : Reflects ⟨settled ++ ⟨saved, some saved⟩ :: left⟩ (rows after) ∧
      (expected ⟨settled ++ ⟨saved, some saved⟩ :: left⟩ (rows after)).map unstamped =
        (expected ⟨settled ++ tracked :: left⟩ (rows system)).map unstamped) :
    Flushing store rows now ready unit begun (written ++ [saved]) (settled ++ [⟨saved, some saved⟩]) left after where
  able := able
  reflects := by simpa using stored.1
  idle := by
    intro other member
    rcases List.mem_append.mp member with old | own
    · exact flushing.idle other old
    · obtain rfl := List.mem_singleton.mp own
      rfl
  same := by simpa using stored.2.trans flushing.same
  ahead other member := flushing.ahead other (List.mem_cons_of_mem _ member)
  saves := saves
  count := by
    have counted := flushing.count
    simp only [List.countP_cons, dirty, if_true] at counted
    simp only [List.length_append, List.length_singleton]
    omega
  among := by
    rw [drafts_append]
    exact flushing.among.append (List.Sublist.refl _)
  kept row member := by
    rcases grown row member with rfl | old
    · exact .inl (by simp)
    · exact (flushing.kept row old).imp_left (List.mem_append_left _)
  changed row member := by
    rcases List.mem_append.mp member with old | own
    · exact flushing.changed row old
    · obtain rfl := List.mem_singleton.mp own
      rw [fields]
      exact (reflects.isDirty_iff (flushing.ahead tracked (by simp))).mp dirty

/-- A flush goes on with the next tracked subscription, and returns. -/
theorem flushRow (sound : store.Sound rows now room ready) (each : unit.Each room)
    (reflects : unit.Reflects (rows begun))
    (flushing : Flushing store rows now ready unit begun written settled (tracked :: left) system) :
    Ends (WorkUnit.flushRow store tracked) system fun saved after =>
      ∃ written, Flushing store rows now ready unit begun written (settled ++ [saved]) left after := by
  -- What is not dirty is passed over, and the other ones are written.
  unfold WorkUnit.flushRow
  by_cases dirty : tracked.isDirty = true
  swap
  · rw [if_neg dirty]
    exact Meets.pure ⟨written, flushing.pass dirty⟩
  rw [if_pos dirty]
  have mirrors := flushing.reflects.mirrors tracked (by simp)
  have fits := each tracked (flushing.ahead tracked (by simp))
  have able := flushing.able
  obtain ⟨row, persisted⟩ := tracked
  have alike : (row.markSaved (now system)).unstamped = row.unstamped := Subscription.unstamped_markSaved row _
  -- A new subscription is added, and one that is known takes the place of the stored one.
  cases mirrors with
  | new unstored =>
    obtain ⟨-, added, further⟩ := sound.add able fits unstored
    refine Meets.run_bind (sound.add_run able fits unstored) (Meets.pure ⟨written ++ [row.markSaved (now system)], ?_⟩)
    refine flushing.wrote further reflects dirty alike (flushing.saves.add row) ?_ ?_
    · rw [added]
      intro other member
      simpa [or_comm] using member
    · rw [added]
      exact flushing.reflects.saved_new flushing.idle alike
  | @stored _ known present named _ =>
    have held : row.id ∈ Rows.ids (rows system) := named ▸ Rows.id_mem_ids present
    have updated := sound.rows_update able fits flushing.reflects.distinct held
    refine Meets.run_bind (sound.update_run able fits held) (Meets.pure ⟨written ++ [row.markSaved (now system)], ?_⟩)
    refine flushing.wrote (sound.update able fits held).2.2 reflects dirty alike (flushing.saves.update row) ?_ ?_
    · rw [updated]
      intro other member
      exact (Rows.mem_put member).imp_right And.left
    · rw [updated]
      exact flushing.reflects.saved_known alike

end Flushing

/-- What a flush leaves: the rows that were expected, up to stamps; some rows have been saved, as many as it says, each
once, and these are the ones that no stored row was like; every other one is as it was. -/
structure Flushed (store : SubscriptionStore σ) (rows : σ → List Subscription) (now : σ → Timestamp)
    (wanted : List Subscription) (begun : σ) (count : Nat) (after : σ) : Prop where
  same : (rows after).map unstamped = wanted.map unstamped
  writes : ∃ written, store.Saves now begun written after ∧ count = written.length ∧ (Rows.ids written).Nodup ∧
    (∀ row, row ∈ written ↔ row ∈ rows after ∧ row.unstamped ∉ (rows begun).map unstamped) ∧
    ∀ row ∈ rows after, row ∉ written → row ∈ rows begun

/-- A unit that reflects the rows is flushed, and reflects what is left. -/
theorem Reflects.flush (sound : store.Sound rows now room ready) (able : ready system) (each : unit.Each room)
    (reflects : unit.Reflects (rows system)) :
    Ends (unit.flush store) system fun flushed after =>
      flushed.2.Reflects (rows after) ∧ flushed.2.Idle ∧ ready after ∧
        Flushed store rows now (unit.expected (rows system)) system flushed.1 after := by
  -- At the start nothing is written, and nothing is settled.
  have start : Flushing store rows now ready unit system [] [] unit.rows system :=
    ⟨able, reflects, by simp [Idle], rfl, fun _ member => member, .none, by simp, by simp, fun _ => .inr, by simp⟩
  refine (Meets.mapM (fun settled left system => ∃ written,
      Flushing store rows now ready unit _ written settled left system)
    (fun settled tracked left middle flushing => flushing.choose_spec.flushRow sound each reflects)
    unit.rows [] system ⟨[], start⟩).bind ?_
  rintro settled after ⟨written, flushing⟩
  have left : Reflects ⟨settled⟩ (rows after) := by simpa using flushing.reflects
  have idle : Idle ⟨settled⟩ := flushing.idle
  have expects : expected ⟨settled⟩ (rows after) = rows after := left.expected_idle idle
  refine Meets.pure ⟨left, idle, flushing.able, by simpa [expects] using flushing.same, written, flushing.saves,
    by simpa using flushing.count.symm, left.single.sublist (flushing.among.map _), fun row => ⟨fun member => ?_, ?_⟩,
    fun row member fresh => (flushing.kept row member).resolve_left fresh⟩
  · -- What has been written is tracked, and known as it is stored.
    refine ⟨?_, flushing.changed row member⟩
    obtain ⟨tracked, present, rfl⟩ := List.mem_map.mp (flushing.among.subset member)
    exact idle.stored left present
  · rintro ⟨member, changed⟩
    exact (flushing.kept row member).resolve_right fun old => changed (List.mem_map_of_mem old)

namespace Command

/-- What a change makes of rows. -/
def change (rows : List Subscription) : Command → List Subscription
  | find _ | flush => rows
  | update row => Rows.put row rows
  | add row => rows ++ [row]
  | remove row => Rows.remove rows row.id

/-- A change that a store does not refuse. -/
def Allowed (ids : List String) : Command → Prop
  | update row => row.id ∈ ids
  | add row => row.id ∉ ids
  | find _ | remove _ | flush => True

/-- Changes make the same of rows that are the same, up to stamps. -/
theorem change_alike {one two : List Subscription} (same : one.map unstamped = two.map unstamped) (command : Command) :
    (command.change one).map unstamped = (command.change two).map unstamped := by
  -- Each change is one of rows without stamps.
  cases command with
  | find _ | flush => exact same
  | add row => simp only [change, List.map_append, same]
  | update row => exact Rows.put_alike same rfl
  | remove row => exact Rows.remove_alike same row.id

/-- What fits a unit is allowed among the rows that it expects. -/
theorem Fits.allowed {stored : List Subscription} {command : Command} (reflects : unit.Reflects stored)
    (fits : command.Fits unit stored room) : command.Allowed (Rows.ids (unit.expected stored)) := by
  -- What may be updated is tracked, and what may be added is neither stored nor tracked.
  cases command with
  | find _ | remove _ | flush => trivial
  | update row =>
    obtain ⟨-, tracked, member, named, -⟩ := fits
    rw [Allowed, ← named]
    exact reflects.id_mem_expected member
  | add row =>
    obtain ⟨-, unstored, untracked⟩ := fits
    simp only [Allowed, ids_expected, List.mem_append, not_or]
    exact ⟨unstored, fun new => untracked (unit.ids_pending_sublist.subset new)⟩

/-- A change that there is room for. -/
def Roomy (room : Subscription → Prop) : Command → Prop
  | update row | add row => room row
  | find _ | remove _ | flush => True

/-- There is room for what fits. -/
theorem Fits.roomy {stored : List Subscription} {command : Command} (fits : command.Fits unit stored room) :
    command.Roomy room := by
  -- Only updates and additions need room.
  cases command with
  | find _ | remove _ | flush => trivial
  | update row => exact fits.1
  | add row => exact fits.1

/-- Made at once, a change that is allowed makes what it makes of the rows. -/
theorem direct_ends (sound : store.Sound rows now room ready) (able : ready shadow)
    (distinct : (Rows.ids (rows shadow)).Nodup) {command : Command} (fits : command.Roomy room)
    (allowed : command.Allowed (Rows.ids (rows shadow))) :
    Ends (command.direct store) shadow fun _ last => ready last ∧
      (rows last).map unstamped = (command.change (rows shadow)).map unstamped := by
  -- The store does what is asked at once, and what it does is the change up to the stamp.
  cases command with
  | find _ | flush => exact Meets.pure ⟨able, rfl⟩
  | update row =>
    refine Meets.run_bind (sound.update_run able fits allowed) (Meets.pure ⟨(sound.update able fits allowed).2.2, ?_⟩)
    rw [sound.rows_update able fits distinct allowed]
    exact Rows.put_alike rfl (Subscription.unstamped_markSaved row _)
  | add row =>
    obtain ⟨-, added, further⟩ := sound.add able fits allowed
    refine Meets.run_bind (sound.add_run able fits allowed) (Meets.pure ⟨further, ?_⟩)
    rw [added]
    simp [change]
  | remove row =>
    obtain ⟨-, removed, further⟩ := sound.remove row able
    exact Meets.of_run (sound.remove_run able row) ⟨further, by rw [removed, change]⟩

end Command

/-- A unit that can go on: the store is ready, and has room for what the unit tracks, which reflects the rows. -/
structure Stands (rows : σ → List Subscription) (room : Subscription → Prop) (ready : σ → Prop) (unit : WorkUnit)
    (system : σ) : Prop extends Reflects unit (rows system) where
  able : ready system
  each : unit.Each room

/-- Made by a unit, a change makes it of the rows that are expected. -/
theorem Stands.perform (sound : store.Sound rows now room ready) (stands : unit.Stands rows room ready system)
    {command : Command} (fits : command.Fits unit (rows system) room) :
    Ends (command.perform store unit) system fun next after => next.Stands rows room ready after ∧
      (next.expected (rows after)).map unstamped = (command.change (unit.expected (rows system))).map unstamped := by
  obtain ⟨reflects, able, each⟩ := stands
  -- A removal is the only change that is not kept back, and a flush the only command that writes.
  cases command with
  | find criteria =>
    obtain ⟨-, found, further⟩ := sound.find criteria able
    have stored : ∀ row ∈ Rows.find (rows system) criteria, row ∈ rows system :=
      fun row member => (List.mem_filter.mp member).1
    obtain ⟨known, same⟩ := reflects.trackAll stored
    have tracked := (Each.trackAll _ each fun row member => sound.within able row (stored row member)).2
    refine Meets.run_bind (sound.find_run able unit criteria) (Meets.pure ⟨⟨found ▸ known, further, tracked⟩, ?_⟩)
    rw [found, same, Command.change]
  | update row =>
    obtain ⟨own, tracked, member, named, outlives⟩ := fits
    obtain ⟨next, draft, fields, same⟩ := reflects.update member named outlives
    refine Meets.pure ⟨⟨next, able, each.update (sound.stamped own)⟩, ?_⟩
    rw [same]
    exact Rows.put_alike rfl fields
  | add row =>
    obtain ⟨own, unstored, untracked⟩ := fits
    obtain ⟨next, same⟩ := reflects.add unstored untracked
    exact Meets.pure ⟨⟨next, able, each.add own⟩, by rw [same, Command.change]⟩
  | remove row =>
    obtain ⟨-, removed, further⟩ := sound.remove row able
    obtain ⟨next, same⟩ := reflects.forget row.id
    refine Meets.run_bind (sound.remove_run able row) (Meets.pure ⟨⟨removed ▸ next, further, ?_⟩, ?_⟩)
    · exact fun tracked member => each tracked (List.mem_of_mem_eraseP member)
    · rw [removed, same, Command.change]
  | flush =>
    refine (reflects.flush sound able each).bind fun flushed after ends => Meets.pure ?_
    obtain ⟨next, idle, further, saved⟩ := ends
    have tracked : flushed.2.Each room := fun tracked member => sound.within further _ (idle.stored next member)
    exact ⟨⟨next, further, tracked⟩, by rw [next.expected_idle idle, saved.same, Command.change]⟩

/-- A unit that can go on, and expects what the rows would be if all changes had been made at once. -/
structure Accords (rows : σ → List Subscription) (room : Subscription → Prop) (ready : σ → Prop) (unit : WorkUnit)
    (system shadow : σ) : Prop extends Stands rows room ready unit system where
  beside : ready shadow
  same : (unit.expected (rows system)).map unstamped = (rows shadow).map unstamped

/-- A command that fits is done by the unit and by direct writes, and they go on to accord. -/
theorem Accords.step (sound : store.Sound rows now room ready) (accords : unit.Accords rows room ready system shadow)
    {command : Command} (fits : command.Fits unit (rows system) room) :
    InStep (command.perform store unit) (command.direct store) system shadow fun next _ after last =>
      next.Accords rows room ready after last := by
  -- Direct writes have left the ids that the unit expects, so what fits is refused on neither side.
  have ids := Rows.ids_of_unstamped accords.same
  have allowed := fits.allowed accords.toReflects
  rw [ids] at allowed
  have distinct := accords.distinct_expected
  rw [ids] at distinct
  refine .of_ends (accords.toStands.perform sound fits)
    (Command.direct_ends sound accords.beside distinct fits.roomy allowed) ?_
  intro next _ after last ends wrote
  exact ⟨ends.1, wrote.1, ends.2.trans ((Command.change_alike accords.same command).trans wrote.2.symm)⟩

/-- What a unit comes to when it is told to do something, time after time, over a store that nobody else writes to; and
what direct writes come to that make each of the changes at once. -/
inductive Commanded (store : SubscriptionStore σ) (rows : σ → List Subscription) (room : Subscription → Prop)
    (begun : σ) : WorkUnit → σ → σ → Prop
  | start : Commanded store rows room begun {} begun begun
  | next {unit next : WorkUnit} {system after shadow last : σ}
      (past : Commanded store rows room begun unit system shadow) (command : Command)
      (fits : command.Fits unit (rows system) room) (performed : command.perform store unit system = .ok next after)
      (wrote : command.direct store shadow = .ok () last) : Commanded store rows room begun next after last

/-- Whatever a unit has been told to do, it accords with direct writes. -/
theorem Commanded.accords (sound : store.Sound rows now room ready) (able : ready begun)
    (distinct : (Rows.ids (rows begun)).Nodup) (commanded : Commanded store rows room begun unit system shadow) :
    unit.Accords rows room ready system shadow := by
  -- By induction on the commands; nothing is expected but the rows at the start.
  induction commanded with
  | start => exact ⟨⟨reflects_nothing distinct, able, by simp [Each]⟩, able, by rw [expected_nothing]⟩
  | next _ command fits performed wrote ih =>
    obtain ⟨next, _, after, last, run, answer, accords⟩ := ih.step sound fits
    obtain ⟨rfl, rfl⟩ : _ ∧ _ := by simpa [performed] using run
    obtain rfl : _ = last := by simpa [wrote] using answer
    exact accords

/-- A unit of work refines direct writes, whatever it has been told to do, over any store that can be relied on: every
command that fits is done, by it and by direct writes; and a flush leaves the rows that these have left, up to stamps,
saves the rows that differ and no other one, and is followed by a find that returns what the store finds. -/
theorem Commanded.refines_direct_writes (sound : store.Sound rows now room ready) (able : ready begun)
    (distinct : (Rows.ids (rows begun)).Nodup) (commanded : Commanded store rows room begun unit system shadow) :
    (∀ command : Command, command.Fits unit (rows system) room →
      InStep (command.perform store unit) (command.direct store) system shadow fun next _ after last =>
        Commanded store rows room begun next after last) ∧
    Ends (unit.flush store) system fun flushed after =>
      Flushed store rows now (rows shadow) system flushed.1 after ∧
      ∀ criteria, Ends (flushed.2.find store criteria) after fun found _ =>
        (store.find criteria after).1 = .ok found.1 := by
  -- The unit and the direct writes agree on what is stored up to now, and each half follows from that.
  have accords := commanded.accords sound able distinct
  refine ⟨fun command fits => ?_, ?_⟩
  · obtain ⟨next, _, after, last, run, answer, -⟩ := accords.step sound fits
    exact ⟨next, (), after, last, run, answer, commanded.next command fits run answer⟩
  · refine (accords.toReflects.flush sound accords.able accords.each).mono fun flushed after ends => ?_
    obtain ⟨reflects, idle, further, same, writes⟩ := ends
    refine ⟨⟨same.trans accords.same, writes⟩, fun criteria => ?_⟩
    -- A unit that has nothing to write gives stored rows as they are.
    have known := idle.trackAll reflects fun row (member : row ∈ Rows.find (rows after) criteria) =>
      (List.mem_filter.mp member).1
    refine Meets.of_run (sound.find_run further flushed.2 criteria) ?_
    rw [known]
    exact (sound.find criteria further).1

end WorkUnit

namespace World

open WorkUnit

/-- A store in memory with two subscriptions, one of which has been saved before. -/
def shelf : World := { rows := [{ id := "dropped" }, { id := "moved", lastSavedAt := some ⟨1⟩ }] }

/-- A unit that has found both of them, and was told to update one through a copy that has never been saved, to add a
third one, and to remove the other one. -/
def editing : WorkUnit :=
  ⟨[⟨{ id := "moved", position := 3, lastSavedAt := some ⟨1⟩ }, some { id := "moved", lastSavedAt := some ⟨1⟩ }⟩,
    ⟨{ id := "fresh" }, none⟩]⟩

/-- The store that has been left to the unit, and the one that direct writes would have left. -/
def halfway : World × World :=
  ({ rows := [{ id := "moved", lastSavedAt := some ⟨1⟩ }] },
    { rows := [{ id := "moved", position := 3, lastSavedAt := some ⟨0⟩ }, { id := "fresh", lastSavedAt := some ⟨0⟩ }] })

/-- The unit has come to that. -/
theorem editing_commanded :
    Commanded (.memory rowsPart now) rowsPart.read (fun _ => True) shelf editing halfway.1 halfway.2 := by
  -- Each command fits what the ones before it have left.
  have found : Commanded (.memory rowsPart now) rowsPart.read (fun _ => True) shelf _ _ _ :=
    .next .start (.find {}) trivial rfl rfl
  have updated := found.next (.update { id := "moved", position := 3 }) ⟨trivial, by decide⟩ rfl rfl
  have added := updated.next (.add { id := "fresh" }) ⟨trivial, by decide⟩ rfl rfl
  exact added.next (.remove { id := "dropped" }) trivial rfl rfl

/-- The two subscriptions in a file, -/
def cabinet : World := { disk := { folder := .present, contents := .file (FileFormat.encode shelf.rows) } }

/-- for which there is room, and for a third one. -/
def three : Quota := ⟨["dropped", "moved", "fresh"], 1000⟩

/-- The file can be read and written. -/
theorem cabinet_stocked : three.Roomy ∧ (diskPart.read cabinet).Stocked three 0 := by
  -- The subscriptions have short names and no failures, so there is room for all of them.
  refine ⟨⟨by decide, by decide⟩, shelf.rows, ⟨rfl, rfl⟩, by decide, fun row member => ?_⟩
  simp only [shelf, List.mem_cons, List.not_mem_nil, or_false] at member
  rcases member with rfl | rfl <;> exact ⟨by decide,
    ⟨by decide, by decide, by decide, by decide, fun _ own => by cases own⟩, by decide, fun _ own => (by cases own),
    by decide⟩

/-- A flush leaves what direct writes would have left; and so it would over a file, where whatever fits is done. -/
theorem editing_refines_direct_writes :
    ((Rows.ids shelf.rows).Nodup ∧ Ends (editing.flush (.memory rowsPart now)) halfway.1 fun flushed after =>
      flushed.1 = 2 ∧ after.rows.map unstamped = [{ id := "moved", position := 3 }, { id := "fresh" }] ∧
        Flushed (.memory rowsPart now) rowsPart.read now halfway.2.rows halfway.1 flushed.1 after) ∧
    ∀ command : Command, command.Fits {} (diskPart.read cabinet).rows (·.Fits three 0) →
      InStep (command.perform (.file diskPart now) {}) (command.direct (.file diskPart now)) cabinet cabinet
        fun next _ after last => Commanded (.file diskPart now) (fun world => (diskPart.read world).rows)
          (·.Fits three 0) cabinet next after last := by
  constructor
  · have distinct : (Rows.ids shelf.rows).Nodup := by decide
    have refines := editing_commanded.refines_direct_writes (SubscriptionStore.memory_sound now fun _ _ => rfl) trivial
      distinct
    have count : Ends (editing.flush (.memory rowsPart now)) halfway.1 fun flushed _ => flushed.1 = 2 :=
      Meets.of_run rfl rfl
    refine ⟨distinct, (refines.2.also count).mono fun flushed after ends => ?_⟩
    exact ⟨ends.2, ends.1.1.same, ends.1.1⟩
  · obtain ⟨roomy, stocked⟩ := cabinet_stocked
    exact (Commanded.start.refines_direct_writes (SubscriptionStore.file_sound now (fun _ _ => rfl) roomy) stocked
      (stocked.read roomy).2.2.1).1

end World

end EventFeed
