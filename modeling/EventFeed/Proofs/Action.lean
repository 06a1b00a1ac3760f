import EventFeed.Action

/-! How computations over a system end: what holds of the value and the system, and what holds after
an early end. -/

namespace EventFeed

namespace Action

variable {σ α β : Type}

/-- Whichever way a computation ends, what is asked of that end holds. -/
def Meets (action : Action σ α) (system : σ) (ok : α → σ → Prop) (early : Abort → σ → Prop) : Prop :=
  match action system with
  | .ok value next => ok value next
  | .error abort next => early abort next

/-- A computation returns a value, and what is asked of the value and the system holds. -/
def Ends (action : Action σ α) (system : σ) (ok : α → σ → Prop) : Prop :=
  Meets action system ok fun _ _ => False

/-- A computation that returns can be run to its value and its system. -/
theorem Ends.run {action : Action σ α} {system : σ} {ok : α → σ → Prop}
    (ends : Ends action system ok) :
    ∃ value next, action system = .ok value next ∧ ok value next := by
  -- The other way to end is ruled out by the postcondition.
  unfold Ends Meets at ends
  cases result : action system with
  | ok value next => exact ⟨value, next, rfl, by simpa [result] using ends⟩
  | error abort next => simp [result] at ends

/-- A run that is known gives what is asked of it. -/
theorem Meets.of_run {action : Action σ α} {system next : σ} {value : α} {ok : α → σ → Prop}
    {early : Abort → σ → Prop} (run : action system = .ok value next) (holds : ok value next) :
    Meets action system ok early := by
  -- The run decides which of the two ends is meant.
  simpa [Meets, run] using holds

/-- What holds of an end may be weakened. -/
theorem Meets.weaken {action : Action σ α} {system : σ} {ok ok' : α → σ → Prop}
    {early early' : Abort → σ → Prop} (meets : Meets action system ok early)
    (weaker : ∀ value next, ok value next → ok' value next)
    (weakerEarly : ∀ abort next, early abort next → early' abort next) :
    Meets action system ok' early' := by
  -- Both ends are weakened where they occur.
  unfold Meets at meets ⊢
  cases result : action system with
  | ok value next => exact weaker _ _ (by simpa [result] using meets)
  | error abort next => exact weakerEarly _ _ (by simpa [result] using meets)

/-- What holds of an ordinary end may be weakened. -/
theorem Meets.mono {action : Action σ α} {system : σ} {ok ok' : α → σ → Prop}
    {early : Abort → σ → Prop} (meets : Meets action system ok early)
    (weaker : ∀ value next, ok value next → ok' value next) : Meets action system ok' early :=
  meets.weaken weaker fun _ _ holds => holds

/-- A computation that returns also meets any demand on early ends. -/
theorem Ends.meets {action : Action σ α} {system : σ} {ok : α → σ → Prop}
    {early : Abort → σ → Prop} (ends : Ends action system ok) : Meets action system ok early :=
  Meets.weaken ends (fun _ _ holds => holds) fun _ _ absurd => absurd.elim

/-- What holds after either end holds of the system that a computation leaves. -/
theorem Meets.outcome {action : Action σ α} {system : σ} {left : σ → Prop}
    (meets : Meets action system (fun _ next => left next) fun _ next => left next) :
    left (action.outcome system).2 := by
  -- The outcome forgets how the computation ended, so both ends are looked at.
  unfold Meets at meets
  unfold Action.outcome
  cases result : action system with
  | ok value next => simpa [result] using meets
  | error abort next => simpa [result] using meets

/-- Two things that hold of the ends of a computation hold together. -/
theorem Meets.both {action : Action σ α} {system : σ} {one two : α → σ → Prop}
    {early early' : Abort → σ → Prop} (first : Meets action system one early)
    (second : Meets action system two early') :
    Meets action system (fun value next => one value next ∧ two value next)
      (fun abort next => early abort next ∧ early' abort next) := by
  -- There is one end only.
  unfold Meets at first second ⊢
  cases result : action system with
  | ok value next => exact ⟨by simpa [result] using first, by simpa [result] using second⟩
  | error abort next => exact ⟨by simpa [result] using first, by simpa [result] using second⟩

/-- What holds of the ordinary ends of a computation that returns holds as well. -/
theorem Ends.also {action : Action σ α} {system : σ} {one two : α → σ → Prop} {early : Abort → σ → Prop}
    (ends : Ends action system one) (meets : Meets action system two early) :
    Ends action system fun value next => one value next ∧ two value next :=
  (Meets.both ends meets).weaken (fun _ _ holds => holds) fun _ _ absurd => absurd.1

/-- Returning a value changes nothing. -/
theorem Meets.pure {value : α} {system : σ} {ok : α → σ → Prop} {early : Abort → σ → Prop}
    (holds : ok value system) : Meets (Pure.pure value) system ok early := holds

/-- A computation that goes on from the value of another one. -/
theorem Meets.bind {action : Action σ α} {next : α → Action σ β} {system : σ}
    {mid : α → σ → Prop} {ok : β → σ → Prop} {early : Abort → σ → Prop}
    (first : Meets action system mid early)
    (rest : ∀ value after, mid value after → Meets (next value) after ok early) :
    Meets (action >>= next) system ok early := by
  -- An early end of the first part is the end of the whole.
  show Meets (EStateM.bind action next) system ok early
  unfold Meets at first
  unfold Meets EStateM.bind
  cases result : action system with
  | ok value after => exact rest value after (by simpa [result] using first)
  | error abort after => simpa [result] using first

/-- A computation that goes on from a known run. -/
theorem Meets.run_bind {action : Action σ α} {next : α → Action σ β} {system after : σ} {value : α}
    {ok : β → σ → Prop} {early : Abort → σ → Prop} (run : action system = .ok value after)
    (rest : Meets (next value) after ok early) : Meets (action >>= next) system ok early := by
  -- The run decides where the rest starts.
  show Meets (EStateM.bind action next) system ok early
  unfold Meets at rest ⊢
  simpa [EStateM.bind, run] using rest

/-- A computation that looks at the system goes on with it. -/
theorem Meets.get_bind {next : σ → Action σ α} {system : σ} {ok : α → σ → Prop}
    {early : Abort → σ → Prop} (rest : Meets (next system) system ok early) :
    Meets (get >>= next) system ok early := rest

/-- A fold over a list keeps what each of its steps keeps. -/
theorem Meets.foldlM {step : β → α → Action σ β} (keeps : β → List α → σ → Prop)
    {early : Abort → σ → Prop}
    (steps : ∀ state item rest system, keeps state (item :: rest) system →
      Meets (step state item) system (fun state next => keeps state rest next) early) :
    ∀ (items : List α) (state : β) (system : σ), keeps state items system →
      Meets (items.foldlM step state) system (fun state next => keeps state [] next) early := by
  -- The invariant speaks of the items that are left, so the induction follows them.
  intro items
  induction items with
  | nil => exact fun state system holds => holds
  | cons item rest ih =>
    intro state system holds
    rw [List.foldlM_cons]
    exact (steps state item rest system holds).bind fun next after kept => ih next after kept

/-- A map over a list keeps what each of its steps keeps. -/
theorem Meets.mapM {step : α → Action σ β} (keeps : List β → List α → σ → Prop)
    {early : Abort → σ → Prop}
    (steps : ∀ done item rest system, keeps done (item :: rest) system →
      Meets (step item) system (fun result next => keeps (done ++ [result]) rest next) early) :
    ∀ (items : List α) (done : List β) (system : σ), keeps done items system →
      Meets (items.mapM step) system (fun results next => keeps (done ++ results) [] next) early := by
  -- The results so far are put in front of what the rest of the map returns.
  intro items
  induction items with
  | nil =>
    intro done system holds
    simpa [Meets, Pure.pure, EStateM.pure] using holds
  | cons item rest ih =>
    intro done system holds
    rw [List.mapM_cons]
    refine (steps done item rest system holds).bind fun result after kept => ?_
    refine (ih (done ++ [result]) after kept).bind fun results last kept => ?_
    exact Meets.pure (by simpa using kept)

end Action

end EventFeed
