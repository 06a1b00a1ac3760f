import EventFeed.Proofs.Declarations
import EventFeed.Subscriber.Registry
import Mathlib.Data.List.DropRight
import Mathlib.Data.List.Nodup
import Mathlib.Logic.Function.Basic

/-! Registrations: however registries share a cache of profiles, each of them holds subscribers with distinct ids in the
order of their registration, and a type is asked what it declares only until a profile could be built. -/

namespace EventFeed

variable {α β ι σ : Type}

/-- The error in an answer, if it is one. -/
def refusal : Except EngineError β → Option EngineError
  | .ok _ => none
  | .error error => some error

/-- A request to those who share a cache. -/
inductive Enrolment (ι : Type) where
  /-- For the profile of a type. -/
  | profile (typeName : String)
  /-- To register a subscriber of some type in the registry that has some number. -/
  | register (place : Nat) (typeName : String) (subscriber : ι)

/-- The type that a request is about. -/
def Enrolment.typeName : Enrolment ι → String
  | profile typeName => typeName
  | register _ typeName _ => typeName

/-- Registries with numbers that share one cache, and whatever types look at and change when they are asked. -/
structure Agency (α ι σ : Type) where
  cache : ProfileCache ι σ := {}
  registries : Nat → Registry σ := fun _ => {}
  outside : α

namespace Agency

/-- Serves one request, and tells what error it meets. A registry is used up by a registration that fails, and its number
is that of an empty one from then on. -/
def serve (configure : String → StateM α (List (Declaration ι σ))) (agency : Agency α ι σ) :
    Enrolment ι → Option EngineError × Agency α ι σ
  | .profile typeName =>
    let ((answer, cache), outside) :=
      (agency.cache.profile typeName (configure typeName)).run agency.outside
    (refusal answer, { agency with cache, outside })
  | .register place typeName subscriber =>
    let ((answer, cache), outside) :=
      ((agency.registries place).register agency.cache typeName (configure typeName) subscriber).run agency.outside
    (refusal answer,
      { cache, outside, registries := Function.update agency.registries place (answer.toOption.getD {}) })

/-- What is left after some requests have been served. -/
def after (configure : String → StateM α (List (Declaration ι σ))) (agency : Agency α ι σ)
    (requests : List (Enrolment ι)) : Agency α ι σ :=
  requests.foldl (fun agency request => (agency.serve configure request).2) agency

/-- Requests with the errors that they meet when they are served one after another. -/
def log (configure : String → StateM α (List (Declaration ι σ))) (agency : Agency α ι σ) :
    List (Enrolment ι) → List (Enrolment ι × Option EngineError)
  | [] => []
  | request :: rest =>
    let (error, next) := agency.serve configure request
    (request, error) :: next.log configure rest

end Agency

/-- The subscriber that a request has added to a registry, with its type. -/
def added? (place : Nat) : Enrolment ι × Option EngineError → Option (String × ι)
  | (.register number typeName subscriber, none) => if number = place then some (typeName, subscriber) else none
  | _ => none

/-- Whether a request has used a registry up. -/
def usesUp (place : Nat) : Enrolment ι × Option EngineError → Bool
  | (.register number _ _, some _) => number == place
  | _ => false

/-- The subscribers that have been registered since a registry was empty, with their types, in order. -/
def enrolled (place : Nat) (log : List (Enrolment ι × Option EngineError)) : List (String × ι) :=
  (log.rtakeWhile fun entry => !usesUp place entry).filterMap (added? place)

namespace ProfileCache

variable {cache : ProfileCache ι σ} {typeName other : String} {profile : SubscriberProfile ι σ}

/-- A cached profile is given without asking the type, whatever would come of it. -/
theorem profile_of_cached {m : Type → Type} [Monad m] (cached : cache.get? typeName = some profile)
    (configure : m (List (Declaration ι σ))) : cache.profile typeName configure = pure (.ok profile, cache) := by
  rw [ProfileCache.profile, cached]

/-- What comes of a profile that is built for a type: it is kept, and an error is passed on. -/
def keep (cache : ProfileCache ι σ) (typeName : String) :
    Except EngineError (SubscriberProfile ι σ) → Except EngineError (SubscriberProfile ι σ) × ProfileCache ι σ
  | .ok profile => (.ok profile, ⟨cache.profiles ++ [(typeName, profile)]⟩)
  | .error error => (.error error, cache)

/-- A type without a cached profile is asked once, and what it declares decides. -/
theorem profile_of_missing {m : Type → Type} [Monad m] (missing : cache.get? typeName = none)
    (configure : m (List (Declaration ι σ))) :
    cache.profile typeName configure =
      (configure >>= fun declarations =>
        pure (cache.keep typeName ((ProfileDraft.ofDeclarations declarations).build typeName))) := by
  -- The type is asked, and what is built of its answer is kept or refused.
  rw [ProfileCache.profile, missing]
  refine congrArg (configure >>= ·) (funext fun declarations => ?_)
  cases (ProfileDraft.ofDeclarations declarations).build typeName <;> rfl

/-- A new profile is found under the name of its type, and no other is lost. -/
theorem get?_append (missing : cache.get? typeName = none) (other : String) :
    get? ⟨cache.profiles ++ [(typeName, profile)]⟩ other =
      if other = typeName then some profile else cache.get? other := by
  -- A lookup comes to the end of the list only where no profile was kept before.
  unfold get? at missing ⊢
  rw [List.lookup_append]
  by_cases same : other = typeName
  · subst same
    simp [missing]
  · have apart : (other == typeName) = false := beq_false_of_ne same
    simp [same, List.lookup_cons, apart]

/-- What asking for a profile comes to, what it leaves in the cache, and what the type leaves behind when it is asked. -/
inductive Inquiry (cache : ProfileCache ι σ) (typeName : String) (configure : StateM α (List (Declaration ι σ)))
    (outside : α) : Except EngineError (SubscriberProfile ι σ) → ProfileCache ι σ → α → Prop where
  /-- The profile is known, and the type is not asked. -/
  | known (profile : SubscriberProfile ι σ) (cached : cache.get? typeName = some profile) :
    Inquiry cache typeName configure outside (.ok profile) cache outside
  /-- No profile can be built of what the type declares now. -/
  | refused (error : EngineError) (missing : cache.get? typeName = none)
    (faulty : Declaration.Faulty (configure.run outside).1) (other : ∀ id, error ≠ .duplicateSubscriber id) :
    Inquiry cache typeName configure outside (.error error) cache (configure.run outside).2
  /-- A profile is built of what the type declares now. -/
  | built (profile : SubscriberProfile ι σ) (missing : cache.get? typeName = none)
    (sound : ¬ Declaration.Faulty (configure.run outside).1) (describes : profile.Describes (configure.run outside).1) :
    Inquiry cache typeName configure outside (.ok profile) ⟨cache.profiles ++ [(typeName, profile)]⟩
      (configure.run outside).2

/-- Asking for a profile comes to one of these. -/
theorem profile_inquiry (cache : ProfileCache ι σ) (typeName : String) (configure : StateM α (List (Declaration ι σ)))
    (outside : α) : ∃ answer next left, (cache.profile typeName configure).run outside = ((answer, next), left) ∧
      Inquiry cache typeName configure outside answer next left := by
  -- The cache decides whether the type is asked at all, and what it declares is looked at only then.
  cases found : cache.get? typeName with
  | some profile =>
    rw [profile_of_cached found]
    exact ⟨_, _, _, rfl, .known profile found⟩
  | none =>
    have run : (cache.profile typeName configure).run outside =
        (cache.keep typeName ((ProfileDraft.ofDeclarations (configure.run outside).1).build typeName),
          (configure.run outside).2) := by
      rw [profile_of_missing found]
      rfl
    rw [run]
    cases result : (ProfileDraft.ofDeclarations (configure.run outside).1).build typeName with
    | error error =>
      have faulty := (ProfileDraft.build_ofDeclarations _ _).mp ⟨error, result⟩
      exact ⟨_, _, _, rfl, .refused error found faulty (ProfileDraft.not_duplicate_of_build result)⟩
    | ok profile =>
      refine ⟨_, _, _, rfl, .built profile found (fun faulty => ?_) (ProfileDraft.describes_of_build result)⟩
      obtain ⟨error, failed⟩ := (ProfileDraft.build_ofDeclarations typeName _).mpr faulty
      simp [result] at failed

/-- Asking for one profile loses no other, and does not change it. -/
theorem Inquiry.kept {configure : StateM α (List (Declaration ι σ))} {outside left : α}
    {answer : Except EngineError (SubscriberProfile ι σ)} {next : ProfileCache ι σ}
    (inquiry : Inquiry cache typeName configure outside answer next left) (cached : cache.get? other = some profile) :
    next.get? other = some profile := by
  -- Only a profile that was built changes the cache.
  cases inquiry with
  | known => exact cached
  | refused => exact cached
  | built built missing =>
    -- What is new is for a type that had no profile.
    have apart : other ≠ typeName := by
      rintro rfl
      simp [missing] at cached
    rw [get?_append missing, if_neg apart, cached]

/-- The profile that is given is in the cache afterwards. -/
theorem Inquiry.cached {configure : StateM α (List (Declaration ι σ))} {outside left : α} {next : ProfileCache ι σ}
    (inquiry : Inquiry cache typeName configure outside (.ok profile) next left) :
    next.get? typeName = some profile := by
  -- Either it was there, or it was added last.
  cases inquiry with
  | known _ cached => exact cached
  | built _ missing => rw [get?_append missing, if_pos rfl]

/-- A type whose profile is cached is not asked. -/
theorem Inquiry.of_cached {configure : StateM α (List (Declaration ι σ))} {outside left : α}
    {answer : Except EngineError (SubscriberProfile ι σ)} {next : ProfileCache ι σ}
    (inquiry : Inquiry cache typeName configure outside answer next left)
    (cached : cache.get? typeName = some profile) : answer = .ok profile ∧ next = cache ∧ left = outside := by
  -- The cached profile is the answer, so nothing is asked and nothing kept.
  cases inquiry with
  | known other found =>
    obtain rfl := Option.some.inj (cached.symm.trans found)
    exact ⟨rfl, rfl, rfl⟩
  | refused _ missing => simp [missing] at cached
  | built _ missing => simp [missing] at cached

end ProfileCache

namespace Registry

variable {registry : Registry σ} {subscriber : Subscriber σ}

/-- A subscriber is added at the end, unless its id is taken. -/
theorem add_eq (registry : Registry σ) (subscriber : Subscriber σ) :
    registry.add subscriber =
      if subscriber.id ∈ registry.subscribers.map Subscriber.id then .error (.duplicateSubscriber subscriber.id)
      else .ok ⟨registry.subscribers ++ [subscriber]⟩ := by
  simp [add, List.any_eq_true]

/-- Under distinct ids, each id leads to the subscriber that has it. -/
theorem get?_eq_some_iff (distinct : (registry.subscribers.map Subscriber.id).Nodup) (id : String) :
    registry.get? id = some subscriber ↔ subscriber ∈ registry.subscribers ∧ subscriber.id = id := by
  -- Whoever is found has the id, and the converse needs that the ids are distinct.
  unfold get?
  constructor
  · intro found
    exact ⟨List.mem_of_find?_eq_some found, by simpa using List.find?_some found⟩
  · rintro ⟨member, rfl⟩
    -- Somebody is found, and nobody else has the id.
    cases found : registry.subscribers.find? fun other => other.id == subscriber.id with
    | none => simpa using List.find?_eq_none.mp found subscriber member
    | some other =>
      have same : other.id = subscriber.id := by simpa using List.find?_some found
      rw [List.inj_on_of_nodup_map distinct (List.mem_of_find?_eq_some found) member same]

/-- What comes of adding a subscriber when the profile of its type was asked for. -/
def enter (registry : Registry σ) (subscriber : ι) (answer : Except EngineError (SubscriberProfile ι σ)) :
    Except EngineError (Registry σ) :=
  answer.bind fun profile => registry.add (ProfiledSubscriber.bind { subscriber, profile })

/-- A registration that has a profile fails on nothing but an id that is taken. -/
theorem refusal_enter (registry : Registry σ) (subscriber : ι) (profile : SubscriberProfile ι σ) :
    refusal (registry.enter subscriber (.ok profile)) =
      if profile.id ∈ registry.subscribers.map Subscriber.id then some (.duplicateSubscriber profile.id) else none := by
  -- The profile gives the subscriber its id, under which it is added.
  show refusal (registry.add (ProfiledSubscriber.bind { subscriber, profile })) = _
  rw [add_eq]
  exact apply_ite refusal _ _ _

/-- To register a subscriber is to ask for the profile of its type, and to add it. -/
theorem register_run {cache next : ProfileCache ι σ} {typeName : String} {configure : StateM α (List (Declaration ι σ))}
    {outside left : α} {answer : Except EngineError (SubscriberProfile ι σ)}
    (run : (cache.profile typeName configure).run outside = ((answer, next), left)) (registry : Registry σ)
    (subscriber : ι) :
    (registry.register cache typeName configure subscriber).run outside =
      ((registry.enter subscriber answer, next), left) := by
  -- The profile is asked for first, and its answer is what the registry goes by.
  rw [register, StateT.run_bind, run]
  cases answer <;> rfl

end Registry

/-- A registry holds some subscribers, each bound to the one profile that is cached for its type, in the same order; their
ids are distinct, and lead to them. -/
structure Registry.Lists (registry : Registry σ) (cache : ProfileCache ι σ) (members : List (String × ι)) : Prop where
  bound : List.Forall₂ (fun (typeName, subscriber) registered => ∃ profile, cache.get? typeName = some profile ∧
    registered = ProfiledSubscriber.bind { subscriber, profile }) members registry.subscribers
  distinct : (registry.subscribers.map Subscriber.id).Nodup
  found : ∀ id subscriber, registry.get? id = some subscriber ↔ subscriber ∈ registry.subscribers ∧ subscriber.id = id

namespace Registry.Lists

variable {registry next : Registry σ} {cache later : ProfileCache ι σ} {members : List (String × ι)}
  {typeName : String} {subscriber : ι} {profile : SubscriberProfile ι σ}

/-- An empty registry holds nobody. -/
theorem empty (cache : ProfileCache ι σ) : Lists ({} : Registry σ) cache [] :=
  ⟨.nil, List.nodup_nil, fun _ _ => by simp [get?]⟩

/-- A registry does not change when profiles are added to the cache. -/
theorem grow (lists : registry.Lists cache members)
    (kept : ∀ typeName profile, cache.get? typeName = some profile → later.get? typeName = some profile) :
    registry.Lists later members :=
  ⟨lists.bound.imp fun _ _ ⟨profile, cached, same⟩ => ⟨profile, kept _ profile cached, same⟩, lists.distinct, lists.found⟩

/-- A subscriber that is added comes last. -/
theorem add (lists : registry.Lists cache members) (cached : cache.get? typeName = some profile)
    (added : registry.add (ProfiledSubscriber.bind { subscriber, profile }) = .ok next) :
    next.Lists cache (members ++ [(typeName, subscriber)]) := by
  -- The registration was not refused, so the id was free.
  rw [add_eq] at added
  split at added
  · cases added
  · rename_i free
    obtain rfl := Except.ok.inj added
    -- The check for an id that is taken is what keeps them distinct.
    have distinct : ((registry.subscribers ++ [ProfiledSubscriber.bind { subscriber, profile }]).map
        Subscriber.id).Nodup := by
      rw [List.map_append, List.nodup_append_comm]
      exact List.nodup_cons.mpr ⟨free, lists.distinct⟩
    exact ⟨List.rel_append lists.bound (.cons ⟨profile, cached, rfl⟩ .nil), distinct,
      fun id _ => get?_eq_some_iff distinct id⟩

end Registry.Lists

/-- The subscribers of a registry after one more request. -/
theorem enrolled_append (place : Nat) (log : List (Enrolment ι × Option EngineError))
    (entry : Enrolment ι × Option EngineError) :
    enrolled place (log ++ [entry]) =
      if usesUp place entry then [] else enrolled place log ++ (added? place entry).toList := by
  -- Only the last entry is new, and the others are looked at as before.
  unfold enrolled
  rw [List.rtakeWhile_concat]
  cases usesUp place entry <;> cases found : added? place entry <;> simp [found]

namespace Agency

variable {configure : String → StateM α (List (Declaration ι σ))} {agency : Agency α ι σ} {typeName : String}
  {profile : SubscriberProfile ι σ}

/-- Requests that come one after another, the last of them apart. -/
theorem after_append (agency : Agency α ι σ) (requests : List (Enrolment ι)) (request : Enrolment ι) :
    agency.after configure (requests ++ [request]) = ((agency.after configure requests).serve configure request).2 := by
  simp [after]

theorem log_append (agency : Agency α ι σ) (requests : List (Enrolment ι)) (request : Enrolment ι) :
    agency.log configure (requests ++ [request]) =
      agency.log configure requests ++ [(request, ((agency.after configure requests).serve configure request).1)] := by
  -- The log is read from the front, so the last request is reached through all others.
  induction requests generalizing agency with
  | nil => rfl
  | cons first rest ih => simp only [List.cons_append, log, ih, after, List.foldl_cons]

section Served

variable {answer : Except EngineError (SubscriberProfile ι σ)} {next : ProfileCache ι σ} {left : α}
  (run : (agency.cache.profile typeName (configure typeName)).run agency.outside = ((answer, next), left))

include run

/-- A request for a profile changes the cache at most, and what the type changes itself. -/
theorem serve_profile :
    agency.serve configure (.profile typeName) = (refusal answer, { agency with cache := next, outside := left }) := by
  rw [serve, run]

/-- A registration does the same, and goes on from the profile. -/
theorem serve_register (place : Nat) (subscriber : ι) :
    agency.serve configure (.register place typeName subscriber) =
      (refusal ((agency.registries place).enter subscriber answer),
        { cache := next, outside := left, registries := Function.update agency.registries place
            (((agency.registries place).enter subscriber answer).toOption.getD {}) }) := by
  rw [serve, Registry.register_run run]

end Served

/-- What a request leaves of the cache and of what types change is what comes of asking for the profile of its type. -/
theorem serve_inquiry (agency : Agency α ι σ) (request : Enrolment ι) :
    ∃ answer, agency.cache.Inquiry request.typeName (configure request.typeName) agency.outside answer
      (agency.serve configure request).2.cache (agency.serve configure request).2.outside := by
  -- A registration begins with the same request for the profile.
  cases request with
  | profile typeName =>
    obtain ⟨answer, next, left, run, inquiry⟩ :=
      agency.cache.profile_inquiry typeName (configure typeName) agency.outside
    rw [serve_profile run]
    exact ⟨answer, inquiry⟩
  | register place typeName subscriber =>
    obtain ⟨answer, next, left, run, inquiry⟩ :=
      agency.cache.profile_inquiry typeName (configure typeName) agency.outside
    rw [serve_register run]
    exact ⟨answer, inquiry⟩

/-- No request loses or changes a profile. -/
theorem serve_kept (cached : agency.cache.get? typeName = some profile) (request : Enrolment ι) :
    (agency.serve configure request).2.cache.get? typeName = some profile := by
  -- A request is an inquiry about one type, and no inquiry loses a profile.
  obtain ⟨answer, inquiry⟩ := agency.serve_inquiry request
  exact inquiry.kept cached

/-- So it is after any requests. -/
theorem after_kept (cached : agency.cache.get? typeName = some profile) (requests : List (Enrolment ι)) :
    (agency.after configure requests).cache.get? typeName = some profile := by
  -- The induction is on the requests, whatever agency they begin with.
  induction requests generalizing agency with
  | nil => exact cached
  | cons request rest ih => exact ih (serve_kept cached request)

/-- A request for a profile that is cached changes nothing. -/
theorem serve_profile_cached (cached : agency.cache.get? typeName = some profile) :
    agency.serve configure (.profile typeName) = (none, agency) := by
  -- The cache answers, and nothing else is looked at.
  rw [serve, ProfileCache.profile_of_cached cached]
  rfl

/-- A request about a type whose profile is cached does not ask the type, and leaves the cache as it is. -/
theorem serve_cached {request : Enrolment ι} (cached : agency.cache.get? request.typeName = some profile) :
    (agency.serve configure request).2.cache = agency.cache ∧
      (agency.serve configure request).2.outside = agency.outside := by
  -- A request is an inquiry about its type, and this one is answered by the cache.
  obtain ⟨answer, inquiry⟩ := agency.serve_inquiry request
  exact (inquiry.of_cached cached).2

/-- Registries hold their subscribers in order, and one more request keeps them so. -/
theorem serve_lists {log : List (Enrolment ι × Option EngineError)}
    (lists : ∀ place, (agency.registries place).Lists agency.cache (enrolled place log)) (request : Enrolment ι)
    (place : Nat) :
    ((agency.serve configure request).2.registries place).Lists (agency.serve configure request).2.cache
      (enrolled place (log ++ [(request, (agency.serve configure request).1)])) := by
  -- Whoever was registered is still bound to the profile of its type, since the cache only grows.
  have grown : ∀ place, (agency.registries place).Lists (agency.serve configure request).2.cache (enrolled place log) :=
    fun place => (lists place).grow fun _ _ cached => serve_kept cached request
  rw [enrolled_append]
  cases request with
  | profile typeName =>
    obtain ⟨answer, next, left, run, -⟩ :=
      agency.cache.profile_inquiry typeName (configure typeName) agency.outside
    rw [serve_profile run] at grown ⊢
    simpa [usesUp, added?] using grown place
  | register number typeName subscriber =>
    obtain ⟨answer, next, left, run, inquiry⟩ :=
      agency.cache.profile_inquiry typeName (configure typeName) agency.outside
    rw [serve_register run] at grown ⊢
    by_cases same : number = place
    · subst same
      -- A failure uses the registry up, and a success adds to it.
      cases entered : (agency.registries number).enter subscriber answer with
      | error error => simpa [refusal, usesUp, Except.toOption] using Registry.Lists.empty next
      | ok registry =>
        cases answer with
        | error error => cases entered
        | ok profile =>
          simpa [refusal, usesUp, added?, Except.toOption] using (grown number).add inquiry.cached entered
    · -- Other registries are left alone.
      have others : ∀ error : Option EngineError, usesUp place (.register number typeName subscriber, error) = false ∧
          added? place (.register number typeName subscriber, error) = none := by
        intro error
        cases error <;> simp [usesUp, added?, same]
      simpa [others, Function.update_of_ne (Ne.symm same)] using grown place

/-- After any requests registries hold their subscribers in order. -/
theorem after_lists (outside : α) (requests : List (Enrolment ι)) (place : Nat) :
    let start : Agency α ι σ := { outside }
    ((start.after configure requests).registries place).Lists (start.after configure requests).cache
      (enrolled place (start.log configure requests)) := by
  intro start
  -- The invariant is about all registries at once, for the cache is one.
  induction requests using List.reverseRecOn generalizing place with
  | nil => exact Registry.Lists.empty _
  | append_singleton requests request ih =>
    rw [after_append, log_append]
    exact serve_lists ih request place

/-- A registration fails on an id that is taken, or as the request for the profile of its type does; either way it leaves
as much behind as this request. -/
theorem serve_register_refusal (agency : Agency α ι σ) (place : Nat) (typeName : String) (subscriber : ι) :
    let asked := agency.serve configure (.profile typeName)
    let registered := agency.serve configure (.register place typeName subscriber)
    let taken := (agency.registries place).subscribers.map Subscriber.id
    (∀ id, registered.1 = some (.duplicateSubscriber id) ↔ asked.1 = none ∧
      (asked.2.cache.get? typeName).map SubscriberProfile.id = some id ∧ id ∈ taken) ∧
    (∀ error, (∀ id, error ≠ .duplicateSubscriber id) → (registered.1 = some error ↔ asked.1 = some error)) ∧
    registered.2.cache = asked.2.cache ∧ registered.2.outside = asked.2.outside := by
  -- Both requests ask for the same profile, and what comes of that decides.
  intro asked registered taken
  obtain ⟨answer, next, left, run, inquiry⟩ := agency.cache.profile_inquiry typeName (configure typeName) agency.outside
  have asks : asked = (refusal answer, { agency with cache := next, outside := left }) := serve_profile run
  have registers : registered = _ := serve_register run place subscriber
  rw [asks, registers]
  cases answer with
  | error error =>
    -- The profile is missing, which is told as it is.
    have other : ∀ id, error ≠ .duplicateSubscriber id := by
      cases inquiry with
      | refused _ _ _ other => exact other
    exact ⟨fun id => by simp [refusal, Registry.enter, Except.bind, other], fun _ _ => .rfl, rfl, rfl⟩
  | ok profile =>
    -- The profile is there, and its id decides.
    rw [Registry.refusal_enter]
    refine ⟨fun id => ?_, fun error other => ?_, rfl, rfl⟩
    · simp only [inquiry.cached, refusal, Option.map_some, Option.some.injEq, true_and]
      split
      · rename_i member
        constructor
        · intro same
          cases same
          exact ⟨rfl, member⟩
        · rintro ⟨rfl, -⟩
          rfl
      · rename_i free
        simp only [reduceCtorEq, false_iff]
        rintro ⟨rfl, member⟩
        exact free member
    · split
      · simp [refusal, Ne.symm (other profile.id)]
      · simp [refusal]

/-- A type without a cached profile is asked, and its profile is cached unless what it declares is faulty. -/
theorem serve_missing (missing : agency.cache.get? typeName = none) :
    let asked := agency.serve configure (.profile typeName)
    let declared := (configure typeName).run agency.outside
    asked.2.outside = declared.2 ∧ (asked.1 ≠ none ↔ Declaration.Faulty declared.1) ∧
    (asked.1 ≠ none → asked.2.cache = agency.cache) ∧
    (asked.1 = none → ∃ profile, asked.2.cache.get? typeName = some profile ∧ profile.Describes declared.1) := by
  -- The answer of an inquiry says whether a profile could be built.
  intro asked declared
  obtain ⟨answer, next, left, run, inquiry⟩ := agency.cache.profile_inquiry typeName (configure typeName) agency.outside
  have asks : asked = (refusal answer, { agency with cache := next, outside := left }) := serve_profile run
  rw [asks]
  cases inquiry with
  | known profile cached => simp [missing] at cached
  | refused error _ faulty _ => exact ⟨rfl, iff_of_true (Option.some_ne_none error) faulty, fun _ => rfl, nofun⟩
  | built profile _ sound describes =>
    refine ⟨rfl, iff_of_false (· rfl) sound, (absurd rfl ·), fun _ => ⟨profile, ?_, describes⟩⟩
    rw [ProfileCache.get?_append missing, if_pos rfl]

/-- However registries share a cache, whatever types declare, and whether or not they declare the same each time: each
registry holds what was registered in it, in this order, under distinct ids that lead to it. A registration fails on an
id that is taken, and otherwise only as a request for the profile of its type does. Such a request fails exactly when
what the type declares is faulty, and then nothing is cached. A profile that is cached never changes, and its type is not
asked again. -/
theorem registers_unambiguously (configure : String → StateM α (List (Declaration ι σ))) (outside : α)
    (requests : List (Enrolment ι)) :
    let start : Agency α ι σ := { outside }
    let agency := start.after configure requests
    (∀ place, (agency.registries place).Lists agency.cache (enrolled place (start.log configure requests))) ∧
    (∀ place typeName subscriber,
      let asked := agency.serve configure (.profile typeName)
      let registered := agency.serve configure (.register place typeName subscriber)
      let taken := (agency.registries place).subscribers.map Subscriber.id
      (∀ id, registered.1 = some (.duplicateSubscriber id) ↔ asked.1 = none ∧
        (asked.2.cache.get? typeName).map SubscriberProfile.id = some id ∧ id ∈ taken) ∧
      (∀ error, (∀ id, error ≠ .duplicateSubscriber id) → (registered.1 = some error ↔ asked.1 = some error)) ∧
      registered.2.cache = asked.2.cache ∧ registered.2.outside = asked.2.outside) ∧
    (∀ typeName, agency.cache.get? typeName = none →
      let asked := agency.serve configure (.profile typeName)
      let declared := (configure typeName).run agency.outside
      asked.2.outside = declared.2 ∧ (asked.1 ≠ none ↔ Declaration.Faulty declared.1) ∧
      (asked.1 ≠ none → asked.2.cache = agency.cache) ∧
      (asked.1 = none → ∃ profile, asked.2.cache.get? typeName = some profile ∧ profile.Describes declared.1)) ∧
    ∀ typeName profile, agency.cache.get? typeName = some profile → ∀ later,
      let final := agency.after configure later
      final.cache.get? typeName = some profile ∧ final.serve configure (.profile typeName) = (none, final) ∧
      ∀ request, request.typeName = typeName →
        (final.serve configure request).2.cache = final.cache ∧
        (final.serve configure request).2.outside = final.outside := by
  -- The first part is kept by every request, the next two hold in any agency, and the last one follows the
  -- requests to come.
  intro start agency
  refine ⟨after_lists outside requests, agency.serve_register_refusal, fun _ => serve_missing, ?kept⟩
  case kept =>
    intro typeName profile cached later final
    -- A type that was not asked has changed nothing outside, whatever it would have done.
    have remains : final.cache.get? typeName = some profile := after_kept cached later
    refine ⟨remains, serve_profile_cached remains, ?_⟩
    rintro request rfl
    exact serve_cached remains

/-- Types that declare nothing the first time that one of them is asked, and later the same id, each time with another
group. -/
def fickle (_typeName : String) : StateM Nat (List (Declaration String Unit)) := do
  let earlier ← getModify (· + 1)
  return if earlier = 0 then [] else [.id "mail", .group (String.ofList (List.replicate earlier '+'))]

/-- Registrations of some of them. -/
def fickleRequests : List (Enrolment String) :=
  [.register 0 "Mail" "a", .register 0 "Mail" "b", .register 1 "Mail" "c", .register 0 "Copy" "d",
    .register 0 "Copy" "e"]

/-- A type is asked until something comes of it, and a registration that is rejected leaves the profile of its type
behind. -/
theorem fickle_registers_unambiguously :
    let start : Agency Nat String Unit := { outside := 0 }
    let agency := start.after fickle fickleRequests
    (start.log fickle fickleRequests).map Prod.snd =
      [some (.missingSubscriberId "Mail"), none, none, some (.duplicateSubscriber "mail"), none] ∧
    agency.outside = 3 ∧
    (agency.registries 0).Lists agency.cache [("Copy", "e")] ∧
    (agency.registries 1).Lists agency.cache [("Mail", "c")] ∧
    ∀ later, (agency.after fickle later).cache.get? "Copy" = agency.cache.get? "Copy" := by
  intro start agency
  -- What it comes to is computed.
  have errors : (start.log fickle fickleRequests).map Prod.snd =
      [some (.missingSubscriberId "Mail"), none, none, some (.duplicateSubscriber "mail"), none] := by decide +kernel
  have asked : agency.outside = 3 := by decide +kernel
  have first : enrolled 0 (start.log fickle fickleRequests) = [("Copy", "e")] := by decide +kernel
  have second : enrolled 1 (start.log fickle fickleRequests) = [("Mail", "c")] := by decide +kernel
  have known : (agency.cache.get? "Copy").isSome := by decide +kernel
  obtain ⟨lists, -, -, kept⟩ := registers_unambiguously fickle 0 fickleRequests
  subst agency start
  rw [← first, ← second]
  obtain ⟨profile, cached⟩ := Option.isSome_iff_exists.mp known
  refine ⟨errors, asked, lists 0, lists 1, fun later => ?_⟩
  rw [cached]
  exact (kept "Copy" profile cached later).1

end Agency

end EventFeed
