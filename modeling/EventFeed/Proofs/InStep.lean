import EventFeed.Proofs.Delivery

/-! Runs in step: two computations that return from two systems, in values and systems that are related. Rows that are
the same but for the stamps of their last writes stay so in all that is done to them. -/

namespace EventFeed

open EventFeed.Action
open Subscription (unstamped)

namespace Action

variable {σ α β γ δ : Type} {one : Action σ α} {two : Action σ β} {left right : σ}

/-- A computation that returns has that outcome. -/
theorem outcome_of_run {system next : σ} {value : α} (run : one system = .ok value next) :
    one.outcome system = (.ok value, next) := by
  -- The outcome is read off the result of the run.
  unfold Action.outcome
  rw [run]

/-- Two computations return from two systems, and what is asked of both values and both systems holds. -/
def InStep (one : Action σ α) (two : Action σ β) (left right : σ) (post : α → β → σ → σ → Prop) : Prop :=
  ∃ first second after last, one left = .ok first after ∧ two right = .ok second last ∧ post first second after last

/-- Computations that return on their own are in step where their ends go together. -/
theorem InStep.of_ends {mine : α → σ → Prop} {yours : β → σ → Prop} {post : α → β → σ → σ → Prop}
    (ends : Ends one left mine) (other : Ends two right yours)
    (together : ∀ first second after last, mine first after → yours second last → post first second after last) :
    InStep one two left right post := by
  -- Each of them is run for itself, and their ends are put together.
  obtain ⟨first, after, run, own⟩ := ends.run
  obtain ⟨second, last, answer, theirs⟩ := other.run
  exact ⟨first, second, after, last, run, answer, together _ _ _ _ own theirs⟩

/-- What holds of both ends may be weakened. -/
theorem InStep.mono {post post' : α → β → σ → σ → Prop} (inStep : InStep one two left right post)
    (weaker : ∀ first second after last, post first second after last → post' first second after last) :
    InStep one two left right post' := by
  -- The two runs are the same, and less is said of their ends.
  obtain ⟨first, second, after, last, run, answer, holds⟩ := inStep
  exact ⟨first, second, after, last, run, answer, weaker _ _ _ _ holds⟩

/-- What holds of either end on its own holds as well. -/
theorem InStep.also {post : α → β → σ → σ → Prop} {mine : α → σ → Prop} {yours : β → σ → Prop}
    {early early' : Abort → σ → Prop} (inStep : InStep one two left right post) (first : Meets one left mine early)
    (second : Meets two right yours early') :
    InStep one two left right fun value result after last => post value result after last ∧ mine value after ∧
      yours result last := by
  -- The two runs are known, so what holds of either end holds of these.
  obtain ⟨value, result, after, last, run, answer, holds⟩ := inStep
  unfold Meets at first second
  rw [run] at first
  rw [answer] at second
  exact ⟨value, result, after, last, run, answer, holds, first, second⟩

/-- Returning values changes nothing. -/
theorem InStep.pure {post : α → β → σ → σ → Prop} {first : α} {second : β} (holds : post first second left right) :
    InStep (Pure.pure first) (Pure.pure second) left right post :=
  ⟨first, second, left, right, rfl, rfl, holds⟩

/-- Computations whose first parts are known go on from there. -/
theorem InStep.run_bind {next : α → Action σ γ} {other : β → Action σ δ} {post : γ → δ → σ → σ → Prop} {first : α}
    {second : β} {after last : σ} (run : one left = .ok first after) (answer : two right = .ok second last)
    (rest : InStep (next first) (other second) after last post) :
    InStep (one >>= next) (two >>= other) left right post := by
  -- The runs of the rest are put behind the runs of the first parts.
  obtain ⟨value, result, final, ending, runNext, answerNext, ends⟩ := rest
  refine ⟨value, result, final, ending, ?_, ?_, ends⟩
  · show EStateM.bind one next left = _
    simp only [EStateM.bind, run, runNext]
  · show EStateM.bind two other right = _
    simp only [EStateM.bind, answer, answerNext]

/-- Computations that go on in step. -/
theorem InStep.bind {next : α → Action σ γ} {other : β → Action σ δ} {middle : α → β → σ → σ → Prop}
    {post : γ → δ → σ → σ → Prop} (begins : InStep one two left right middle)
    (goes : ∀ first second after last, middle first second after last →
      InStep (next first) (other second) after last post) :
    InStep (one >>= next) (two >>= other) left right post := by
  -- The first parts are run, and then the rest goes on from where they end.
  obtain ⟨first, second, after, last, run, answer, holds⟩ := begins
  exact .run_bind run answer (goes _ _ _ _ holds)

/-- Computations that look at their systems go on with them. -/
theorem InStep.get_bind {next : σ → Action σ α} {other : σ → Action σ β} {post : α → β → σ → σ → Prop}
    (rest : InStep (next left) (other right) left right post) :
    InStep (get >>= next) (get >>= other) left right post := rest

/-- Folds over two lists, the members of which are related one by one. -/
theorem InStep.foldlM {step : γ → α → Action σ γ} {move : δ → β → Action σ δ} {related : α → β → Prop}
    {keeps : γ → δ → σ → σ → Prop}
    (steps : ∀ item other, related item other → ∀ first second left right, keeps first second left right →
      InStep (step first item) (move second other) left right keeps) {items : List α} {others : List β}
    (members : List.Forall₂ related items others) {first : γ} {second : δ} (holds : keeps first second left right) :
    InStep (items.foldlM step first) (others.foldlM move second) left right keeps := by
  -- The members are gone through in pairs.
  induction members generalizing first second left right with
  | nil => exact .pure holds
  | cons own _ ih =>
    rw [List.foldlM_cons, List.foldlM_cons]
    exact (steps _ _ own _ _ _ _ holds).bind fun _ _ _ _ kept => ih kept

/-- Maps over two such lists, whose results are related one by one again. -/
theorem InStep.mapM {step : α → Action σ γ} {move : β → Action σ δ} {related : α → β → Prop}
    {alike : γ → δ → Prop} {keeps : σ → σ → Prop}
    (steps : ∀ item other, related item other → ∀ left right, keeps left right →
      InStep (step item) (move other) left right fun result answer after last =>
        alike result answer ∧ keeps after last) {items : List α} {others : List β}
    (members : List.Forall₂ related items others) (holds : keeps left right) :
    InStep (items.mapM step) (others.mapM move) left right fun results answers after last =>
      List.Forall₂ alike results answers ∧ keeps after last := by
  -- The results are collected in pairs, in the order of the members.
  induction members generalizing left right with
  | nil =>
    rw [List.mapM_nil, List.mapM_nil]
    exact .pure ⟨.nil, holds⟩
  | cons own _ ih =>
    rw [List.mapM_cons, List.mapM_cons]
    refine (steps _ _ own _ _ holds).bind fun result answer after last ends => ?_
    refine (ih ends.2).bind fun results answers _ _ rest => ?_
    exact .pure ⟨.cons ends.1 rest.1, rest.2⟩

end Action

namespace Rows

variable {one two others shadows rows : List Subscription}

/-- Rows are the same but for stamps where they are so one by one. -/
theorem forall₂_unstamped :
    List.Forall₂ (fun row other => unstamped row = unstamped other) one two ↔
      one.map unstamped = two.map unstamped := by
  rw [← List.forall₂_eq_eq_eq, List.forall₂_map_left_iff, List.forall₂_map_right_iff]

/-- Among such rows the same ones are found. -/
theorem find_unstamped (same : one.map unstamped = two.map unstamped) (criteria : SubscriptionCriteria) :
    (find one criteria).map unstamped = (find two criteria).map unstamped := by
  -- Criteria do not look at stamps, so these may be taken away first.
  have shape : ∀ rows : List Subscription,
      (find rows criteria).map unstamped = (rows.map unstamped).filter criteria.admits := by
    intro rows
    rw [find, List.filter_map]
    rfl
  rw [shape, shape, same]

/-- Putting such rows in the place of their id comes to the same. -/
theorem put_alike (same : one.map unstamped = two.map unstamped) {row other : Subscription}
    (fields : row.unstamped = other.unstamped) : (put row one).map unstamped = (put other two).map unstamped := by
  -- Whether a row gives way depends on its id only.
  have shape : ∀ (row : Subscription) (rows : List Subscription), (put row rows).map unstamped =
      (rows.map unstamped).map fun old => if old.id = row.unstamped.id then row.unstamped else old := by
    intro row rows
    simp only [put, List.map_map]
    exact List.map_congr_left fun old _ => apply_ite unstamped _ _ _
  rw [shape, shape, same, fields]

/-- Deleting an id from them comes to the same. -/
theorem remove_alike (same : one.map unstamped = two.map unstamped) (id : String) :
    (remove one id).map unstamped = (remove two id).map unstamped := by
  -- A removal is a filter by ids, which stamps have nothing to do with.
  have shape : ∀ rows : List Subscription, (remove rows id).map unstamped =
      (rows.map unstamped).filter fun row => row.id != id := by
    intro rows
    rw [remove, List.filter_map]
    rfl
  rw [shape, shape, same]

/-- Putting such rows in places comes to the same. -/
theorem overlay_alike (same : others.map unstamped = shadows.map unstamped) :
    (overlay others rows).map unstamped = (overlay shadows rows).map unstamped := by
  -- What stands in a place is found under its id, which is no stamp.
  have found : ∀ (rows : List Subscription) id, (get? rows id).map unstamped = get? (rows.map unstamped) id := by
    intro rows id
    rw [get?, get?, List.find?_map]
    rfl
  simp only [overlay, List.map_map]
  refine List.map_congr_left fun row _ => ?_
  have equal : (get? others row.id).map unstamped = (get? shadows row.id).map unstamped := by
    rw [found, found, same]
  simp only [Function.comp_apply]
  cases mine : get? others row.id <;> cases yours : get? shadows row.id <;> simp_all

end Rows

namespace Subscription

variable {row other : Subscription}

/-- Rows that are the same but for stamps fail in the same way, -/
theorem fail_unstamped (same : row.unstamped = other.unstamped) (error : CapturedError) :
    (row.fail error).unstamped = (other.fail error).unstamped := by
  -- Two such rows are one row with two stamps.
  rw [eq_of_unstamped same]
  rfl

/-- go back from a failure in the same way, -/
theorem retry_unstamped (same : row.unstamped = other.unstamped) :
    row.retry.map unstamped = other.retry.map unstamped := by
  -- Two such rows are one row with two stamps, and a retry looks at the failure only.
  rw [eq_of_unstamped same]
  unfold retry
  cases other.error <;> rfl

end Subscription

end EventFeed
