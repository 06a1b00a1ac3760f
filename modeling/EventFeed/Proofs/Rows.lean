import EventFeed.Store.Rows
import Mathlib.Data.List.Forall2
import Mathlib.Data.List.Nodup

/-! Laws of stored subscriptions as a list: replacing in place by id, and equality up to the stamp
of the last write. -/

namespace EventFeed

namespace Subscription

/-- The subscription without the stamp of its last write. -/
def unstamped (subscription : Subscription) : Subscription := { subscription with lastSavedAt := none }

@[simp] theorem unstamped_markSaved (subscription : Subscription) (now : Timestamp) :
    (subscription.markSaved now).unstamped = subscription.unstamped := rfl

@[simp] theorem unstamped_id (subscription : Subscription) :
    subscription.unstamped.id = subscription.id := rfl

/-- Subscriptions that differ in their stamps only have the same id. -/
theorem id_of_unstamped {one two : Subscription} (same : one.unstamped = two.unstamped) :
    one.id = two.id := by
  -- Taking the stamp away leaves the id.
  have ids := congrArg Subscription.id same
  exact ids

/-- Subscriptions that differ in their stamps only are the same in every other field. -/
theorem eq_of_unstamped {one two : Subscription} (same : one.unstamped = two.unstamped) :
    one = { two with lastSavedAt := one.lastSavedAt } := by
  -- Putting the stamp back undoes taking it away.
  have restored := congrArg (fun row => { row with lastSavedAt := one.lastSavedAt }) same
  exact restored

/-- Two subscriptions that are the same in every field but the stamp. -/
structure Alike (one two : Subscription) : Prop where
  id : one.id = two.id
  group : one.group = two.group
  runMode : one.runMode = two.runMode
  status : one.status = two.status
  position : one.position = two.position
  error : one.error = two.error
  retryAttempt : one.retryAttempt = two.retryAttempt

theorem alike_of_unstamped {one two : Subscription} (same : one.unstamped = two.unstamped) : Alike one two := by
  -- Equal rows up to the stamp are one row with two stamps.
  rw [eq_of_unstamped same]
  exact ⟨rfl, rfl, rfl, rfl, rfl, rfl, rfl⟩

end Subscription

/-- What stands in one of two related lists stands opposite to something in the other one. -/
theorem source_of_forall₂ {α β : Type} {relation : α → β → Prop} {one : List α} {two : List β}
    (related : List.Forall₂ relation one two) : ∀ next ∈ two, ∃ old ∈ one, relation old next := by
  -- Each member stands in the place of the one it comes from.
  induction related with
  | nil => simp
  | @cons old next one two own _ ih =>
    intro other member
    rcases List.mem_cons.mp member with rfl | later
    · exact ⟨old, by simp, own⟩
    · obtain ⟨source, present, further⟩ := ih other later
      exact ⟨source, by simp [present], further⟩

namespace Rows

open Subscription (unstamped)

/-- Puts a subscription in the place of every row with its id. -/
def put (subscription : Subscription) (rows : List Subscription) : List Subscription :=
  rows.map fun row => if row.id = subscription.id then subscription else row

/-- The ids of some rows. -/
def ids (rows : List Subscription) : List String := rows.map Subscription.id

@[simp] theorem ids_put (subscription : Subscription) (rows : List Subscription) :
    ids (put subscription rows) = ids rows := by
  -- A row is replaced by one of the same id only.
  simp only [ids, put, List.map_map]
  refine List.map_congr_left fun row _ => ?_
  by_cases same : row.id = subscription.id <;> simp [same]

@[simp] theorem ids_append (front back : List Subscription) :
    ids (front ++ back) = ids front ++ ids back := by simp [ids]

@[simp] theorem ids_cons (row : Subscription) (rest : List Subscription) :
    ids (row :: rest) = row.id :: ids rest := rfl

@[simp] theorem ids_nil : ids [] = [] := rfl

/-- A member of some rows has one of their ids. -/
theorem id_mem_ids {rows : List Subscription} {row : Subscription} (member : row ∈ rows) :
    row.id ∈ ids rows := List.mem_map_of_mem member

/-- Rows that differ in their stamps only have the same ids. -/
theorem ids_of_unstamped {one two : List Subscription}
    (same : one.map unstamped = two.map unstamped) : ids one = ids two := by
  -- Taking a stamp away leaves the id.
  have := congrArg (List.map Subscription.id) same
  simpa [ids, Function.comp_def] using this

/-- Rows that differ in their stamps only come from each other. -/
theorem source {one two : List Subscription} (same : one.map unstamped = two.map unstamped)
    {row : Subscription} (member : row ∈ one) : ∃ other ∈ two, other.unstamped = row.unstamped := by
  -- The lists are equal without the stamps.
  have present : row.unstamped ∈ two.map unstamped := same ▸ List.mem_map_of_mem member
  exact List.mem_map.mp present

/-- Among rows with distinct ids, an id belongs to one row. -/
theorem eq_of_id {rows : List Subscription} (distinct : (ids rows).Nodup) {one two : Subscription}
    (first : one ∈ rows) (second : two ∈ rows) (same : one.id = two.id) : one = two := by
  -- The ids are listed without repetition, so the map to ids is injective on the rows.
  exact List.inj_on_of_nodup_map distinct first second same

/-- Putting a row where no other row has its id changes nothing. -/
theorem put_of_mem {rows : List Subscription} (distinct : (ids rows).Nodup) {row : Subscription}
    (member : row ∈ rows) : put row rows = rows := by
  -- The only row that is replaced is replaced by itself.
  have fixed : ∀ other ∈ rows, (if other.id = row.id then row else other) = other := by
    intro other present
    by_cases same : other.id = row.id
    · simpa [same] using eq_of_id distinct member present same.symm
    · simp [same]
  simpa [put] using List.map_congr_left fixed

/-- Rows with other ids are left alone. -/
theorem put_of_not_mem {rows : List Subscription} {row : Subscription} (foreign : row.id ∉ ids rows) :
    put row rows = rows := by
  -- No row has the id of the one that is put.
  have fixed : ∀ other ∈ rows, (if other.id = row.id then row else other) = other := by
    intro other present
    have different : other.id ≠ row.id := fun same => foreign (same ▸ id_mem_ids present)
    simp [different]
  simpa [put] using List.map_congr_left fixed

/-- What is put in is there, or was there before under another id. -/
theorem mem_put {rows : List Subscription} {row other : Subscription} (member : other ∈ put row rows) :
    other = row ∨ other ∈ rows ∧ other.id ≠ row.id := by
  -- Each row of the result comes from one row, which was replaced or not.
  obtain ⟨source, present, shape⟩ := List.mem_map.mp member
  by_cases same : source.id = row.id
  · exact Or.inl (by simpa [same] using shape.symm)
  · simp only [if_neg same] at shape
    exact Or.inr ⟨shape ▸ present, shape ▸ same⟩

/-- Putting a row leaves those with other ids. -/
theorem mem_put_of_ne {rows : List Subscription} {row next : Subscription} (member : row ∈ rows)
    (other : row.id ≠ next.id) : row ∈ put next rows :=
  List.mem_map.mpr ⟨row, member, if_neg other⟩

/-- Deleting an id leaves the rows with other ids. -/
theorem mem_remove_of_ne {rows : List Subscription} {row : Subscription} {id : String} (member : row ∈ rows)
    (other : row.id ≠ id) : row ∈ remove rows id :=
  List.mem_filter.mpr ⟨member, by simpa using other⟩

/-- Deleting an id takes it from the ids, and no other one. -/
@[simp] theorem mem_ids_remove {rows : List Subscription} {id other : String} :
    other ∈ ids (remove rows id) ↔ other ∈ ids rows ∧ other ≠ id := by
  -- A row stays exactly when its id is another one.
  constructor
  · intro present
    obtain ⟨row, member, rfl⟩ := List.mem_map.mp present
    obtain ⟨old, different⟩ := List.mem_filter.mp member
    exact ⟨id_mem_ids old, by simpa using different⟩
  · intro ⟨present, different⟩
    obtain ⟨row, member, rfl⟩ := List.mem_map.mp present
    exact id_mem_ids (List.mem_filter.mpr ⟨member, by simpa using different⟩)

/-- What is put among rows is put among those in front and those behind. -/
theorem put_append (row : Subscription) (front back : List Subscription) :
    put row (front ++ back) = put row front ++ put row back := List.map_append

/-- A row that is put in the place of its id is there. -/
theorem mem_put_self {rows : List Subscription} {row : Subscription} (known : row.id ∈ ids rows) :
    row ∈ put row rows := by
  -- The row takes the place of the one that has its id.
  obtain ⟨place, present, same⟩ := List.mem_map.mp known
  exact List.mem_map.mpr ⟨place, present, if_pos same⟩

/-- In front of the place of the only row with its id, putting leaves
everything alone, and behind it too. -/
theorem put_middle {front back : List Subscription} {row next : Subscription} (same : next.id = row.id)
    (distinct : (ids (front ++ row :: back)).Nodup) :
    put next (front ++ row :: back) = front ++ next :: back := by
  -- Neither the rows in front nor those behind have the id.
  simp only [ids_append, ids_cons, List.nodup_append, List.nodup_cons] at distinct
  obtain ⟨-, ⟨notBack, -⟩, apart⟩ := distinct
  have notFront : next.id ∉ ids front := fun member => apart _ member _ (by simp) same
  have inFront := put_of_not_mem notFront
  have notBehind : next.id ∉ ids back := same ▸ notBack
  have inBack := put_of_not_mem notBehind
  unfold put at inFront inBack ⊢
  simp only [List.map_append, List.map_cons, if_pos same.symm, inFront, inBack]

/-- Replacing the only row with an id is putting. -/
theorem replace_eq_put {rows : List Subscription} (distinct : (ids rows).Nodup) (next : Subscription) :
    replace next rows = put next rows := by
  -- After the first row with the id, none has it.
  induction rows with
  | nil => rfl
  | cons row rest ih =>
    simp only [ids_cons, List.nodup_cons] at distinct
    by_cases same : row.id = next.id
    · have absent : next.id ∉ ids rest := same ▸ distinct.1
      have rest_same := put_of_not_mem absent
      unfold put at rest_same ⊢
      simp [replace, same, rest_same]
    · have step := ih distinct.2
      unfold put at step ⊢
      simp [replace, same, step]

/-- An id is held when it is listed. -/
theorem holds_iff {rows : List Subscription} {id : String} : holds rows id = true ↔ id ∈ ids rows := by
  -- Both say that some row has the id.
  simp [holds, ids]

/-- A row with a new id is added behind the others, -/
theorem add_of_not_mem {rows : List Subscription} {row : Subscription} (absent : row.id ∉ ids rows) :
    add rows row = .ok (rows ++ [row]) :=
  if_neg fun held => absent (holds_iff.mp held)

/-- and one with an id that is there takes the place of the other one. -/
theorem update_of_mem {rows : List Subscription} {row : Subscription} (present : row.id ∈ ids rows) :
    update rows row = .ok (replace row rows) :=
  if_pos (holds_iff.mpr present)

/-- Among rows with distinct ids, those with other ids than the found ones are those that are not meant. -/
theorem filter_found {rows : List Subscription} (distinct : (ids rows).Nodup) (wanted : SubscriptionCriteria) :
    rows.filter (fun row => decide (row.id ∉ ids (find rows wanted))) =
      rows.filter fun row => !wanted.admits row := by
  -- The id of a row is among the found ones exactly when the row itself was found.
  refine List.filter_congr fun row member => ?_
  have own : row.id ∈ ids (find rows wanted) ↔ wanted.admits row = true := by
    constructor
    · intro present
      obtain ⟨other, found, same⟩ := List.mem_map.mp present
      obtain ⟨stored, meant⟩ := List.mem_filter.mp found
      exact eq_of_id distinct stored member same ▸ meant
    · exact fun meant => id_mem_ids (List.mem_filter.mpr ⟨member, meant⟩)
  cases meant : wanted.admits row <;> simp [own, meant]

/-- Adding a row keeps all that were there. -/
theorem mem_of_add {rows next : List Subscription} {fresh : Subscription} (added : add rows fresh = .ok next)
    {row : Subscription} (member : row ∈ rows) : row ∈ next := by
  -- A row that is added goes to the end.
  unfold add at added
  split at added
  · cases added
  · cases added
    exact List.mem_append_left _ member

/-- Replacing a row keeps those with other ids. -/
theorem mem_replace {rows : List Subscription} {row changed : Subscription} (member : row ∈ rows)
    (other : row.id ≠ changed.id) : row ∈ replace changed rows := by
  -- On the way to the place of the changed row every row stays.
  induction rows with
  | nil => cases member
  | cons first rest ih =>
    unfold replace
    split
    · rename_i own
      rcases List.mem_cons.mp member with rfl | behind
      · exact absurd own other
      · exact List.mem_cons_of_mem _ behind
    · rcases List.mem_cons.mp member with rfl | behind
      · exact List.mem_cons_self
      · exact List.mem_cons_of_mem _ (ih behind)

/-- An update keeps the rows with other ids. -/
theorem mem_of_update {rows next : List Subscription} {changed : Subscription}
    (updated : update rows changed = .ok next) {row : Subscription} (member : row ∈ rows)
    (other : row.id ≠ changed.id) : row ∈ next := by
  -- An update that succeeds replaces the row with the id.
  unfold update at updated
  split at updated
  · cases updated
    exact mem_replace member other
  · cases updated

/-- Some rows, with other ones in the places of their ids. -/
def overlay (others rows : List Subscription) : List Subscription :=
  rows.map fun row => (get? others row.id).getD row

/-- A row is found under its id, when no other one has it. -/
theorem get?_of_mem {rows : List Subscription} (distinct : (ids rows).Nodup) {row : Subscription}
    (member : row ∈ rows) : get? rows row.id = some row := by
  -- Whatever is found has the id, and only the row has it.
  cases found : get? rows row.id with
  | none => simpa using List.find?_eq_none.mp found row member
  | some other =>
    have named : other.id = row.id := by simpa using List.find?_some found
    rw [eq_of_id distinct (List.mem_of_find?_eq_some found) member named]

/-- Nothing is found under an id that no row has. -/
theorem get?_of_not_mem {rows : List Subscription} {id : String} (absent : id ∉ ids rows) :
    get? rows id = none := by
  -- A row with the id would be listed.
  refine List.find?_eq_none.mpr fun row member => ?_
  have different : row.id ≠ id := fun same => absent (same ▸ id_mem_ids member)
  simpa using different

/-- What stands in a place has the id of the place. -/
theorem id_of_get? {others : List Subscription} (row : Subscription) :
    ((get? others row.id).getD row).id = row.id := by
  -- Either nothing is found, or something with the id.
  cases found : get? others row.id with
  | none => rfl
  | some other => simpa using List.find?_some found

@[simp] theorem ids_overlay (others rows : List Subscription) : ids (overlay others rows) = ids rows := by
  -- Every place keeps its id.
  simp [ids, overlay, Function.comp_def, id_of_get?]

@[simp] theorem overlay_nil (rows : List Subscription) : overlay [] rows = rows := by simp [overlay, get?]

/-- The first of some rows can be put in place before the others. -/
theorem overlay_cons {row : Subscription} {others : List Subscription} (absent : row.id ∉ ids others)
    (rows : List Subscription) : overlay (row :: others) rows = overlay others (put row rows) := by
  -- Where the first one belongs, none of the others does.
  simp only [overlay, put, List.map_map]
  refine List.map_congr_left fun place _ => ?_
  by_cases same : place.id = row.id
  · have nothing : others.find? (fun other => other.id == row.id) = none := get?_of_not_mem absent
    simp [get?, same, nothing]
  · simp [get?, same, Ne.symm same]

/-- The last of some rows can be put in place after the others. -/
theorem overlay_snoc {row : Subscription} {others : List Subscription} (absent : row.id ∉ ids others)
    (rows : List Subscription) : overlay (others ++ [row]) rows = put row (overlay others rows) := by
  -- Place by place: one that has the id of the last row gets it, and any other one does not see it.
  simp only [overlay, put, List.map_map]
  refine List.map_congr_left fun place _ => ?_
  simp only [Function.comp_apply, id_of_get?]
  by_cases own : place.id = row.id
  · -- No other one belongs there.
    have nothing : others.find? (fun other => other.id == row.id) = none := get?_of_not_mem absent
    simp [get?, own, List.find?_append, nothing]
  · simp [get?, own, List.find?_append, Ne.symm own]

/-- What belongs in a place of some rows is in its place. -/
theorem mem_overlay {others rows : List Subscription} (distinct : (ids others).Nodup) {row : Subscription}
    (member : row ∈ others) (known : row.id ∈ ids rows) : row ∈ overlay others rows := by
  -- The place is the one of the row's id.
  obtain ⟨place, present, same⟩ := List.mem_map.mp known
  exact List.mem_map.mpr ⟨place, present, by rw [same, get?_of_mem distinct member]; rfl⟩

/-- A row that is in its place as it was before can be put there again. -/
theorem mem_overlay_of_mem {others rows next : List Subscription} (distinct : (ids rows).Nodup) {row : Subscription}
    (known : row ∈ overlay others rows) (member : row ∈ rows) (kept : row ∈ next) : row ∈ overlay others next := by
  -- What is found for the place has its id, and so does the row.
  have place : (get? others row.id).getD row ∈ overlay others rows := List.mem_map.mpr ⟨row, member, rfl⟩
  have fixed : (get? others row.id).getD row = row :=
    eq_of_id (by rw [ids_overlay]; exact distinct) place known (id_of_get? row)
  exact List.mem_map.mpr ⟨row, kept, fixed⟩

/-- Rows that are there already change nothing. -/
theorem overlay_of_subset {others rows : List Subscription} (distinct : (ids rows).Nodup)
    (subset : ∀ row ∈ others, row ∈ rows) : overlay others rows = rows := by
  -- Whatever is found for a place is the row that has it.
  have fixed : ∀ row ∈ rows, (get? others row.id).getD row = row := by
    intro row member
    cases found : get? others row.id with
    | none => rfl
    | some other =>
      have named : other.id = row.id := by simpa using List.find?_some found
      exact eq_of_id distinct (subset other (List.mem_of_find?_eq_some found)) member named
  simpa [overlay] using List.map_congr_left fixed

/-- Changing one of the rows that are put in places changes its place. -/
theorem overlay_middle {front back rows : List Subscription} {row next : Subscription} (same : next.id = row.id)
    (distinct : (ids (front ++ row :: back)).Nodup) :
    overlay (front ++ next :: back) rows = put next (overlay (front ++ row :: back) rows) := by
  -- In the place of the row the next one is found, and everywhere else what was found before.
  have distinctNext : (ids (front ++ next :: back)).Nodup := by simpa [same] using distinct
  simp only [overlay, put, List.map_map]
  refine List.map_congr_left fun place _ => ?_
  simp only [Function.comp_apply, id_of_get?]
  by_cases own : place.id = next.id
  · rw [if_pos own, own, get?_of_mem distinctNext (by simp)]
    rfl
  · rw [if_neg own]
    simp [get?, List.find?_append, Ne.symm own, same ▸ Ne.symm own]

/-- Stamps of the places are stamps of the result. -/
theorem overlay_unstamped {one two : List Subscription} (others : List Subscription)
    (same : one.map unstamped = two.map unstamped) :
    (overlay others one).map unstamped = (overlay others two).map unstamped := by
  -- What is found for a place depends on its id only.
  have shape : ∀ rows : List Subscription, (overlay others rows).map unstamped =
      (rows.map unstamped).map fun row => ((get? others row.id).map unstamped).getD row := by
    intro rows
    simp only [overlay, List.map_map]
    refine List.map_congr_left fun row _ => ?_
    simp only [Function.comp_apply, Subscription.unstamped_id]
    cases get? others row.id <;> rfl
  rw [shape, shape, same]

/-- Rows that have been put in their places can be put there again. -/
theorem overlay_again {others rows next : List Subscription}
    (same : next.map unstamped = (overlay others rows).map unstamped) :
    (overlay others next).map unstamped = (overlay others rows).map unstamped := by
  -- What is found for a place is there already.
  rw [overlay_unstamped others same]
  congr 1
  simp only [overlay, List.map_map]
  refine List.map_congr_left fun row _ => ?_
  simp only [Function.comp_apply, id_of_get?]
  cases get? others row.id <;> rfl

/-- What is put in places twice is what is put there last. -/
theorem overlay_overlay {others first : List Subscription} (same : ids others = ids first)
    (rows : List Subscription) : overlay others (overlay first rows) = overlay others rows := by
  -- Place by place: where something is put the second time, it does not matter what was put there first.
  simp only [overlay, List.map_map]
  refine List.map_congr_left fun row _ => ?_
  simp only [Function.comp_apply, id_of_get?]
  by_cases present : row.id ∈ ids others
  · -- Whatever stands in the place gives way.
    obtain ⟨other, member, named⟩ := List.mem_map.mp present
    cases found : get? others row.id with
    | some _ => rfl
    | none => simpa [named] using List.find?_eq_none.mp found other member
  · have absent : row.id ∉ ids first := same ▸ present
    rw [get?_of_not_mem present, get?_of_not_mem absent]
    rfl

/-- Where something else belongs, nothing needs to be put before. -/
theorem overlay_put {others : List Subscription} {row : Subscription} (present : row.id ∈ ids others)
    (rows : List Subscription) : overlay others (put row rows) = overlay others rows := by
  -- Place by place: where the row would be put, something else is put afterwards.
  simp only [overlay, put, List.map_map]
  refine List.map_congr_left fun place _ => ?_
  by_cases own : place.id = row.id
  · obtain ⟨other, member, named⟩ := List.mem_map.mp present
    cases found : get? others row.id with
    | some _ => simp [own, found]
    | none => simpa [named] using List.find?_eq_none.mp found other member
  · simp [own]

/-- Deleting an id from the rows and from those that are put in their places deletes it from the result. -/
theorem overlay_remove (others rows : List Subscription) (id : String) :
    overlay (remove others id) (remove rows id) = remove (overlay others rows) id := by
  -- A place keeps its id, and what belongs in the places of other ids is found as before.
  have kept : ((fun row : Subscription => row.id != id) ∘ fun row => (get? others row.id).getD row) =
      fun row => row.id != id := by
    funext row
    simp only [Function.comp_apply, id_of_get?]
  simp only [overlay, remove, List.filter_map, kept]
  refine List.map_congr_left fun row member => ?_
  have other : row.id ≠ id := by simpa using (List.mem_filter.mp member).2
  have found : get? (others.filter fun row => row.id != id) row.id = get? others row.id := by
    rw [get?, List.find?_filter, get?]
    congr 1
    funext draft
    by_cases own : draft.id = row.id <;> simp [own, other]
  rw [found]

/-- Rows that agree up to stamps, but for the places of some ids. -/
def AgreeBut (places : List String) (one two : List Subscription) : Prop :=
  ∀ others, ids others = places → (overlay others one).map unstamped = (overlay others two).map unstamped

/-- Rows agree with themselves. -/
theorem AgreeBut.refl (places : List String) (rows : List Subscription) : AgreeBut places rows rows :=
  fun _ _ => rfl

/-- Rows that agree with the same rows agree. -/
theorem AgreeBut.trans {places : List String} {one two three : List Subscription}
    (first : AgreeBut places one two) (second : AgreeBut places two three) : AgreeBut places one three :=
  fun others same => (first others same).trans (second others same)

/-- Putting other rows in places changes those places only. -/
theorem agreeBut_overlay {others rows next : List Subscription}
    (fields : next.map unstamped = (overlay others rows).map unstamped) : AgreeBut (ids others) next rows := by
  -- What is put there next replaces what was put there.
  intro later same
  rw [overlay_unstamped later fields, overlay_overlay same]

end Rows

end EventFeed
