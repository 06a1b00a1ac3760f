import EventFeed.Subscriber.Declaration
import Mathlib.Data.List.Induction

/-! What declarations amount to: of several ids, groups or run modes the last one counts, a hook is declared once at
most, and handlers keep their order. -/

namespace EventFeed

variable {ι σ : Type}

/-- A profile says what was declared. -/
structure SubscriberProfile.Describes (profile : SubscriberProfile ι σ) (declarations : List (Declaration ι σ)) :
    Prop where
  id : (declarations.filterMap Declaration.id?).getLast? = some profile.id
  group : profile.group = (declarations.filterMap Declaration.group?).getLast?.getD "default"
  runMode : profile.runMode = (declarations.filterMap Declaration.runMode?).getLast?.getD .fromBeginning
  /-- There is one declaration of the setup hook if there is such a hook, and none otherwise. -/
  setup : declarations.filterMap Declaration.setup? = profile.setup.toList
  teardown : declarations.filterMap Declaration.teardown? = profile.teardown.toList
  handlers : profile.handlers = declarations.filterMap Declaration.entry?

/-- Nothing useful can be made of some declarations: there is no id among them, or a hook twice. -/
def Declaration.Faulty (declarations : List (Declaration ι σ)) : Prop :=
  declarations.filterMap id? = [] ∨ 2 ≤ (declarations.filterMap setup?).length ∨
    2 ≤ (declarations.filterMap teardown?).length

/-- A list with one element at most consists of its last one. -/
theorem eq_toList_getLast?_iff {α : Type} {listed : List α} : listed = listed.getLast?.toList ↔ ¬ 2 ≤ listed.length := by
  -- Two elements are one too many.
  match listed with
  | [] => simp
  | [only] => simp
  | first :: second :: rest =>
    have longer : first :: second :: rest ≠ (first :: second :: rest).getLast?.toList := by
      intro same
      have lengths := congrArg List.length same
      cases last : (first :: second :: rest).getLast? <;> simp [last] at lengths
    exact iff_of_false longer (not_not_intro (by simp))

namespace ProfileDraft

/-- A draft holds the last of what was declared, whether a hook was declared twice, and all handlers in order. -/
theorem ofDeclarations_eq (declarations : List (Declaration ι σ)) :
    ofDeclarations declarations =
      { id := (declarations.filterMap Declaration.id?).getLast?
        group := (declarations.filterMap Declaration.group?).getLast?
        runMode := (declarations.filterMap Declaration.runMode?).getLast?.getD .fromBeginning
        setup := (declarations.filterMap Declaration.setup?).getLast?
        teardown := (declarations.filterMap Declaration.teardown?).getLast?
        duplicateSetup := decide (2 ≤ (declarations.filterMap Declaration.setup?).length)
        duplicateTeardown := decide (2 ≤ (declarations.filterMap Declaration.teardown?).length)
        handlers := declarations.filterMap Declaration.entry? } := by
  -- The draft grows with the list, so the induction takes off its last declaration.
  induction declarations using List.reverseRecOn with
  | nil => rfl
  | append_singleton earlier last ih =>
    -- A hook is declared twice when it was before, or is declared now and was declared once before.
    have again : ∀ {α : Type} (found : List α),
        (decide (2 ≤ found.length) || found.getLast?.isSome) = decide (1 ≤ found.length) := by
      intro α found
      cases found <;> simp
    rw [ofDeclarations, List.foldl_append, ← ofDeclarations, ih]
    cases last <;>
      simp [declare, again, List.filterMap_cons, Declaration.id?, Declaration.group?, Declaration.runMode?,
        Declaration.setup?, Declaration.teardown?, Declaration.entry?, -List.getLast?_filterMap]

/-- A profile can be built unless the declarations are faulty. -/
theorem build_ofDeclarations (typeName : String) (declarations : List (Declaration ι σ)) :
    (∃ error, (ofDeclarations declarations).build typeName = .error error) ↔ Declaration.Faulty declarations := by
  rw [ofDeclarations_eq, Declaration.Faulty, build]
  -- The checks are made one after another.
  cases named : (declarations.filterMap Declaration.id?).getLast? with
  | none => simp [List.getLast?_eq_none_iff.mp named]
  | some id =>
    have present : declarations.filterMap Declaration.id? ≠ [] := by
      intro absent
      simp [absent] at named
    by_cases setups : 2 ≤ (declarations.filterMap Declaration.setup?).length
    · simp [setups]
    · by_cases teardowns : 2 ≤ (declarations.filterMap Declaration.teardown?).length
      · simp [setups, teardowns]
      · simp [setups, teardowns, present]

/-- A profile that could be built says what was declared. -/
theorem describes_of_build {typeName : String} {declarations : List (Declaration ι σ)}
    {profile : SubscriberProfile ι σ} (built : (ofDeclarations declarations).build typeName = .ok profile) :
    profile.Describes declarations := by
  rw [ofDeclarations_eq, build] at built
  -- All checks have been passed.
  cases named : (declarations.filterMap Declaration.id?).getLast? with
  | none => simp [named] at built
  | some id =>
    by_cases setups : 2 ≤ (declarations.filterMap Declaration.setup?).length
    · simp [named, setups] at built
    · by_cases teardowns : 2 ≤ (declarations.filterMap Declaration.teardown?).length
      · simp [named, setups, teardowns] at built
      · simp only [named, setups, teardowns, decide_false, Bool.false_eq_true, if_false, Except.ok.injEq] at built
        subst built
        exact ⟨named, rfl, rfl, eq_toList_getLast?_iff.mpr setups, eq_toList_getLast?_iff.mpr teardowns, rfl⟩

/-- Whether an id is taken is nothing that is found out when a profile is built. -/
theorem not_duplicate_of_build {typeName : String} {draft : ProfileDraft ι σ} {error : EngineError}
    (failed : draft.build typeName = .error error) (id : String) : error ≠ .duplicateSubscriber id := by
  -- The three errors of a build are other ones.
  rintro rfl
  unfold build at failed
  split at failed
  · cases failed
  · split at failed
    · cases failed
    · split at failed <;> cases failed

end ProfileDraft

end EventFeed
