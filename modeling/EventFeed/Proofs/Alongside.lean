import EventFeed.Proofs.Action
import EventFeed.Proofs.Rows
import EventFeed.Engine.WorkUnit

/-! Two runs side by side: computations that end alike on systems that are related, and units of work that agree on
some of their subscriptions and have nothing to write of the others. -/

namespace EventFeed

namespace Action

variable {σ α β γ δ : Type} {bond : σ → σ → Prop}

/-- From systems that are related, two computations end alike: in values that are alike, or both early for the same
reason, and in systems that are related again. -/
def Alongside (bond : σ → σ → Prop) (alike : α → β → Prop) (one : Action σ α) (two : Action σ β) : Prop :=
  ∀ left right, bond left right →
    match one left, two right with
    | .ok first after, .ok second last => alike first second ∧ bond after last
    | .error abort after, .error other last => abort = other ∧ bond after last
    | _, _ => False

/-- Values that are alike are returned alike. -/
theorem Alongside.pure {alike : α → β → Prop} {first : α} {second : β} (same : alike first second) :
    Alongside bond alike (Pure.pure first) (Pure.pure second) :=
  fun _ _ related => ⟨same, related⟩

/-- Computations that go on alike. -/
theorem Alongside.bind {middle : α → β → Prop} {alike : γ → δ → Prop} {one : Action σ α} {two : Action σ β}
    {next : α → Action σ γ} {other : β → Action σ δ} (begins : Alongside bond middle one two)
    (goes : ∀ first second, middle first second → Alongside bond alike (next first) (other second)) :
    Alongside bond alike (one >>= next) (two >>= other) := by
  -- What is done next is decided by how the first computations have ended on either side.
  intro left right related
  have begun := begins left right related
  show match EStateM.bind one next left, EStateM.bind two other right with
    | .ok first after, .ok second last => alike first second ∧ bond after last
    | .error abort after, .error other last => abort = other ∧ bond after last
    | _, _ => False
  unfold EStateM.bind
  -- Both begin in the same way, or there is nothing to go on with.
  cases result : one left <;> cases answer : two right <;> simp only [result, answer] at begun ⊢
  · exact goes _ _ begun.1 _ _ begun.2
  · exact begun

/-- Looking at systems gives systems that are related. -/
theorem Alongside.get : Alongside bond bond (get : Action σ σ) get := fun _ _ related => ⟨related, related⟩

/-- Computations that only look at systems, and see what is alike. -/
theorem Alongside.look {alike : α → β → Prop} {one : Action σ α} {two : Action σ β}
    (looks : ∀ left right, bond left right → ∃ first second, one left = .ok first left ∧ two right = .ok second right ∧
      alike first second) : Alongside bond alike one two := by
  -- A look leaves both systems as they are, so the bond between them is kept.
  intro left right related
  obtain ⟨first, second, mine, yours, same⟩ := looks left right related
  rw [mine, yours]
  exact ⟨same, related⟩

/-- Folds over a list, whose steps keep states alike. -/
theorem Alongside.foldlM {step other : β → α → Action σ β} {alike : β → β → Prop} (items : List α)
    (steps : ∀ item ∈ items, ∀ first second, alike first second →
      Alongside bond alike (step first item) (other second item)) {first second : β} (same : alike first second) :
    Alongside bond alike (items.foldlM step first) (items.foldlM other second) := by
  -- The state is carried through the list, so the induction is over all states that are alike.
  induction items generalizing first second with
  | nil => exact .pure same
  | cons item rest ih =>
    rw [List.foldlM_cons, List.foldlM_cons]
    exact (steps item (by simp) first second same).bind fun next last further =>
      ih (fun item member => steps item (by simp [member])) further

/-- Maps over a list, each step of which gives the same, and something that is known. -/
theorem Alongside.mapM {step : α → Action σ β} {known : β → Prop} (items : List α)
    (steps : ∀ item ∈ items,
      Alongside bond (fun first second => first = second ∧ known first) (step item) (step item)) :
    Alongside bond (fun first second => first = second ∧ ∀ result ∈ first, known result) (items.mapM step)
      (items.mapM step) := by
  -- What is known of a result is collected along with the results, one step at a time.
  induction items with
  | nil =>
    rw [List.mapM_nil]
    exact .pure ⟨rfl, by simp⟩
  | cons item rest ih =>
    rw [List.mapM_cons]
    refine (steps item (by simp)).bind fun result _ same => ?_
    obtain ⟨rfl, own⟩ := same
    refine (ih fun item member => steps item (by simp [member])).bind fun results _ same => ?_
    obtain ⟨rfl, others⟩ := same
    exact .pure ⟨rfl, by simpa using ⟨own, others⟩⟩

/-- The outcomes of computations that run side by side. -/
theorem Alongside.outcome {one two : Action σ α} (runs : Alongside bond Eq one two) {left right : σ}
    (related : bond left right) :
    (one.outcome left).1 = (two.outcome right).1 ∧ bond (one.outcome left).2 (two.outcome right).2 := by
  -- Computations that run side by side end both well or both badly, and the other pairs of ends are ruled out.
  have ends := runs left right related
  unfold Action.outcome
  cases result : one left <;> cases answer : two right <;> simp only [result, answer] at ends ⊢
  · exact ⟨congrArg _ ends.1, ends.2⟩
  · exact ⟨congrArg _ ends.1, ends.2⟩

end Action

/-- Two lists with shared members in common, one after another, and idle members anywhere between them. -/
inductive Entwined {α : Type} (shared idle : α → Prop) : List α → List α → Prop
  | nil : Entwined shared idle [] []
  | both {item : α} {one two : List α} (common : shared item) (rest : Entwined shared idle one two) :
    Entwined shared idle (item :: one) (item :: two)
  | left {item : α} {one two : List α} (spare : idle item) (rest : Entwined shared idle one two) :
    Entwined shared idle (item :: one) two
  | right {item : α} {one two : List α} (spare : idle item) (rest : Entwined shared idle one two) :
    Entwined shared idle one (item :: two)

namespace Entwined

variable {α : Type} {shared idle : α → Prop} {one two : List α}

theorem append {three four : List α} (front : Entwined shared idle one two) (back : Entwined shared idle three four) :
    Entwined shared idle (one ++ three) (two ++ four) := by
  -- What entwines the first lists is gone through, and the other two follow at its end.
  induction front with
  | nil => exact back
  | both common _ ih => exact .both common ih
  | left spare _ ih => exact .left spare ih
  | right spare _ ih => exact .right spare ih

/-- Lists with the same members of a kind are entwined. -/
theorem of_filter {kind : α → Bool} (same : one.filter kind = two.filter kind) :
    Entwined (fun item => kind item = true) (fun item => kind item = false) one two := by
  -- The first list is gone through, and the other one is followed up to the member they have in common.
  induction one generalizing two with
  | nil =>
    -- The other list has none of that kind.
    have none : ∀ item ∈ two, kind item = false := by simpa [List.filter_eq_nil_iff] using same.symm
    clear same
    induction two with
    | nil => exact .nil
    | cons item rest ih => exact .right (none item (by simp)) (ih fun other member => none other (by simp [member]))
  | cons item rest ih =>
    cases chosen : kind item with
    | false => exact .left chosen (ih (by simpa [chosen] using same))
    | true =>
      -- Some members of the other list may precede the one in common.
      rw [List.filter_cons_of_pos chosen] at same
      induction two with
      | nil => simp at same
      | cons other others inner =>
        cases also : kind other with
        | false => exact .right also (inner (by simpa [also] using same))
        | true =>
          rw [List.filter_cons_of_pos also, List.cons.injEq] at same
          obtain ⟨rfl, same⟩ := same
          exact .both chosen (ih same)

end Entwined

namespace Rows

variable {meant : String → Bool} {one two rows : List Subscription} {row : Subscription}

/-- The rows whose ids are meant. -/
def within (meant : String → Bool) (rows : List Subscription) : List Subscription := rows.filter fun row => meant row.id

theorem mem_within : row ∈ within meant rows ↔ row ∈ rows ∧ meant row.id = true := List.mem_filter

/-- Which of the meant ids are there can be told from the rows that are meant. -/
theorem mem_ids_within {id : String} (own : meant id = true) : id ∈ ids (within meant rows) ↔ id ∈ ids rows := by
  -- The kind of a row is decided by its id alone.
  constructor
  · intro member
    obtain ⟨row, present, rfl⟩ := List.mem_map.mp member
    exact id_mem_ids (mem_within.mp present).1
  · intro member
    obtain ⟨row, present, rfl⟩ := List.mem_map.mp member
    exact id_mem_ids (mem_within.mpr ⟨present, own⟩)

/-- Criteria that mean only such rows find the same where those are the same. -/
theorem find_within {criteria : SubscriptionCriteria}
    (covers : ∀ row ∈ rows, criteria.admits row = true → meant row.id = true) :
    find (within meant rows) criteria = find rows criteria := by
  -- The criteria would refuse the rows that are left out anyway.
  rw [find, find, within, List.filter_filter]
  refine List.filter_congr fun row member => ?_
  cases admitted : criteria.admits row with
  | false => rfl
  | true => simp [covers row member admitted]

/-- Rows after a change to some that are meant: among those the same on both sides, and the others as they were. -/
structure Beside (meant : String → Bool) (one two next other : List Subscription) : Prop where
  same : one = two → next = other
  shared : within meant next = within meant other
  left : within (fun id => !meant id) next = within (fun id => !meant id) one
  right : within (fun id => !meant id) other = within (fun id => !meant id) two

/-- What a write comes to on both sides: rows that are changed alike, or the same error. -/
def Together (meant : String → Bool) (one two : List Subscription) :
    Except EngineError (List Subscription) → Except EngineError (List Subscription) → Prop
  | .ok next, .ok other => Beside meant one two next other
  | .error error, .error other => error = other
  | _, _ => False

theorem holds_within {id : String} (same : within meant one = within meant two) (own : meant id = true) :
    holds one id = holds two id := by
  rw [Bool.eq_iff_iff, holds_iff, holds_iff, ← mem_ids_within own, same, mem_ids_within own]

/-- A row that is put in the place of a meant one stays among those. -/
theorem within_replace (own : meant row.id = true) :
    within meant (replace row rows) = replace row (within meant rows) := by
  -- The row is looked for along the list; a row in its place has its id, and so is meant like it.
  induction rows with
  | nil => rfl
  | cons first rest ih =>
    by_cases same : first.id = row.id
    · simp [replace, within, same, own]
    · cases chosen : meant first.id <;> simp_all [replace, within]

theorem without_replace (own : meant row.id = true) :
    within (fun id => !meant id) (replace row rows) = within (fun id => !meant id) rows := by
  -- What is replaced is left out before and after.
  induction rows with
  | nil => rfl
  | cons first rest ih =>
    by_cases same : first.id = row.id
    · simp [replace, within, same, own]
    · cases chosen : meant first.id <;> simp_all [replace, within]

/-- A meant row is added on both sides, or on neither. -/
theorem add_beside (same : within meant one = within meant two) (own : meant row.id = true) :
    Together meant one two (add one row) (add two row) := by
  -- Whether the id is taken is told by the meant rows, which are the same on both sides.
  unfold add
  rw [holds_within same own]
  cases holds two row.id with
  | true => exact rfl
  | false =>
    refine ⟨fun equal => by rw [equal], ?_, ?_, ?_⟩
    · simpa [within] using same
    · simp [within, own]
    · simp [within, own]

/-- A meant row is replaced on both sides, or on neither. -/
theorem update_beside (same : within meant one = within meant two) (own : meant row.id = true) :
    Together meant one two (update one row) (update two row) := by
  -- Whether there is anything to replace is told by the meant rows, which are the same on both sides.
  unfold update
  rw [holds_within same own]
  cases holds two row.id with
  | false => exact rfl
  | true =>
    exact ⟨fun equal => by rw [equal], by rw [within_replace own, within_replace own, same], without_replace own,
      without_replace own⟩

/-- Meant rows are removed on both sides. -/
theorem remove_beside {id : String} (same : within meant one = within meant two) (own : meant id = true) :
    Beside meant one two (remove one id) (remove two id) := by
  -- A removal is a filter, and filters do not get in each other's way.
  have shared : ∀ rows, within meant (remove rows id) = remove (within meant rows) id := fun rows => List.filter_comm ..
  have others : ∀ rows, within (fun id => !meant id) (remove rows id) = within (fun id => !meant id) rows := by
    intro rows
    rw [remove, within, List.filter_filter]
    refine List.filter_congr fun row _ => ?_
    by_cases named : row.id = id
    · simp [named, own]
    · simp [named]
  exact ⟨fun equal => by rw [equal], by rw [shared, shared, same], others one, others two⟩

end Rows

namespace WorkUnit

variable {meant : String → Bool} {one two : WorkUnit}

/-- Units that know the same of the subscriptions that are meant, and have nothing to write of the others. -/
def Even (meant : String → Bool) (one two : WorkUnit) : Prop :=
  Entwined (fun row => meant row.current.id = true) (fun row => meant row.current.id = false ∧ row.isDirty = false)
    one.rows two.rows

/-- What is not meant has another id than what is. -/
theorem ne_of_meant {id other : String} (own : meant id = true) (foreign : meant other = false) : other ≠ id := by
  -- An id cannot be both.
  rintro rfl
  rw [own] at foreign
  cases foreign

/-- Units remain even when a meant row is changed, or added. -/
theorem upsert_even {id : String} (own : meant id = true) {change : TrackedRow → TrackedRow} {fresh : TrackedRow}
    (named : ∀ row, (change row).current.id = id) (new : fresh.current.id = id) {one two : List TrackedRow}
    (even : Even meant ⟨one⟩ ⟨two⟩) : Even meant ⟨upsert id change fresh one⟩ ⟨upsert id change fresh two⟩ := by
  -- The place of the change is found at the same point of both units, for idle rows have other ids.
  unfold Even at even ⊢
  simp only at even ⊢
  induction even with
  | nil => exact .both (by rw [new]; exact own) .nil
  | @both row one two common rest ih =>
    simp only [upsert]
    split
    · exact .both (by rw [named]; exact own) rest
    · exact .both common ih
  | left idle _ ih =>
    rw [upsert, if_neg (ne_of_meant own idle.1)]
    exact .left idle ih
  | right idle _ ih =>
    rw [upsert, if_neg (ne_of_meant own idle.1)]
    exact .right idle ih

namespace Even

variable {row : Subscription}

theorem add (even : Even meant one two) (own : meant row.id = true) : Even meant (one.add row) (two.add row) :=
  upsert_even own (fun _ => rfl) rfl even

theorem update (even : Even meant one two) (own : meant row.id = true) : Even meant (one.update row) (two.update row) :=
  upsert_even own (fun _ => rfl) rfl even

/-- What is known under a meant id is the same. -/
theorem get?_eq (even : Even meant one two) {id : String} (own : meant id = true) : one.get? id = two.get? id := by
  -- The search passes by the idle rows, and goes on alike in the common ones.
  have other : ∀ row : TrackedRow, meant row.current.id = false → (row.current.id == id) = false :=
    fun row idle => beq_eq_false_iff_ne.mpr (ne_of_meant own idle)
  obtain ⟨one⟩ := one
  obtain ⟨two⟩ := two
  unfold Even at even
  simp only [WorkUnit.get?] at even ⊢
  induction even with
  | nil => rfl
  | both _ _ ih => rw [List.find?_cons, List.find?_cons, ih]
  | left idle _ ih => rw [List.find?_cons, other _ idle.1, ih]
  | right idle _ ih => rw [List.find?_cons, other _ idle.1, ih]

/-- A meant subscription that is found is known to both, and the same. -/
theorem track (even : Even meant one two) (own : meant row.id = true) :
    (one.track row).1 = (two.track row).1 ∧ meant (one.track row).1.id = true ∧
      Even meant (one.track row).2 (two.track row).2 := by
  -- A row that is known already is given as it is known, and any other one joins both units.
  unfold WorkUnit.track
  rw [even.get?_eq own]
  cases found : two.get? row.id with
  | some tracked =>
    have named : tracked.current.id = row.id := by simpa using List.find?_some found
    exact ⟨rfl, by simpa [named] using own, even⟩
  | none => exact ⟨rfl, own, Entwined.append even (.both own .nil)⟩

/-- Meant subscriptions that are found are known to both, and the same. -/
theorem trackAll (even : Even meant one two) {rows : List Subscription} (own : ∀ row ∈ rows, meant row.id = true) :
    (one.trackAll rows).1 = (two.trackAll rows).1 ∧ (∀ row ∈ (one.trackAll rows).1, meant row.id = true) ∧
      Even meant (one.trackAll rows).2 (two.trackAll rows).2 := by
  -- Rows are looked up one after another, and each of them leaves the units even for the next.
  induction rows generalizing one two with
  | nil => exact ⟨rfl, by simp [WorkUnit.trackAll], even⟩
  | cons row rest ih =>
    obtain ⟨same, meant, even⟩ := even.track (own row (by simp))
    obtain ⟨others, alsoMeant, even⟩ := ih even fun other member => own other (by simp [member])
    refine ⟨?_, ?_, even⟩
    · simp only [WorkUnit.trackAll]
      rw [same, others]
    · simpa [WorkUnit.trackAll] using ⟨meant, alsoMeant⟩

/-- Units remain even when subscriptions are found that are the same as far as they are meant. -/
theorem trackSome (even : Even meant one two) {first second : List Subscription}
    (entwined : Entwined (fun row : Subscription => meant row.id = true) (fun row => meant row.id = false)
      first second) :
    Even meant (one.trackAll first).2 (two.trackAll second).2 := by
  -- A subscription that is not meant is tracked as it is stored, or was tracked before.
  have idle : ∀ (unit : WorkUnit) (row : Subscription), ∃ more, (unit.track row).2 = ⟨unit.rows ++ more⟩ ∧
      (more = [] ∨ more = [⟨row, some row⟩]) := by
    intro unit row
    unfold WorkUnit.track
    cases unit.get? row.id with
    | some tracked => exact ⟨[], by simp, Or.inl rfl⟩
    | none => exact ⟨_, rfl, Or.inr rfl⟩
  have clean : ∀ row : Subscription, (⟨row, some row⟩ : TrackedRow).isDirty = false := by simp [TrackedRow.isDirty]
  induction entwined generalizing one two with
  | nil => exact even
  | both own _ ih => exact ih (even.track own).2.2
  | @left row _ _ other _ ih =>
    obtain ⟨more, shape, none | some⟩ := idle one row
    · exact ih (show Even meant (one.track row).2 two by simpa [shape, none] using even)
    · have longer := Entwined.append even (.left ⟨other, clean row⟩ .nil)
      exact ih (show Even meant (one.track row).2 two by simpa [shape, some, Even] using longer)
  | @right row _ _ other _ ih =>
    obtain ⟨more, shape, none | some⟩ := idle two row
    · exact ih (show Even meant one (two.track row).2 by simpa [shape, none] using even)
    · have longer := Entwined.append even (.right ⟨other, clean row⟩ .nil)
      exact ih (show Even meant one (two.track row).2 by simpa [shape, some, Even] using longer)

/-- A meant subscription that is removed is forgotten on both sides. -/
theorem erase (even : Even meant one two) {id : String} (own : meant id = true) :
    Even meant ⟨one.rows.eraseP fun row => row.current.id == id⟩ ⟨two.rows.eraseP fun row => row.current.id == id⟩ := by
  -- The row is found at the same point of both units, and idle rows before it are passed by.
  have other : ∀ row : TrackedRow, meant row.current.id = false → (row.current.id == id) = false :=
    fun row idle => beq_eq_false_iff_ne.mpr (ne_of_meant own idle)
  obtain ⟨one⟩ := one
  obtain ⟨two⟩ := two
  unfold Even at even ⊢
  simp only at even ⊢
  induction even with
  | nil => exact .nil
  | @both row one two common rest ih =>
    rw [List.eraseP_cons, List.eraseP_cons]
    cases named : row.current.id == id with
    | true => exact rest
    | false => exact .both common ih
  | left idle _ ih =>
    rw [List.eraseP_cons, other _ idle.1]
    exact .left idle ih
  | right idle _ ih =>
    rw [List.eraseP_cons, other _ idle.1]
    exact .right idle ih

end Even

/-- Finding subscriptions changes no id. -/
theorem ids_trackAll (unit : WorkUnit) (rows : List Subscription) :
    Rows.ids (unit.trackAll rows).1 = Rows.ids rows := by
  -- A row that is known already was looked up by its id.
  induction rows generalizing unit with
  | nil => rfl
  | cons row rest ih =>
    have own : (unit.track row).1.id = row.id := by
      unfold WorkUnit.track
      cases found : unit.get? row.id with
      | none => rfl
      | some tracked => simpa using List.find?_some found
    simp only [trackAll, Rows.ids_cons]
    rw [own, ih]

end WorkUnit

end EventFeed
