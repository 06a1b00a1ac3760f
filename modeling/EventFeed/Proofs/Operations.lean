import EventFeed.Proofs.Feeding

/-! Operations: what an engine can be asked to do, what each of them is meant for, and the discovery that each of
them starts with. -/

namespace EventFeed

open EventFeed.Action
open Subscription (unstamped)

/-- What an engine can be asked to do. -/
inductive Operation where
  | boot (criteria : FeedCriteria) (limit : Option Nat)
  | run (criteria : FeedCriteria) (limit : Option Nat)
  | teardown (criteria : FeedCriteria)
  | remove (criteria : FeedCriteria)
  | reactivate (criteria : FeedCriteria)
  | pause (criteria : FeedCriteria)
  | subscriptions (criteria : FeedCriteria)

/-- Does what an engine is asked to do, and drops what it returns. -/
def Operation.perform {σ : Type} (engine : Engine σ) : Operation → Action σ Unit
  | boot criteria limit => do let _ ← engine.boot criteria limit
  | run criteria limit => do let _ ← engine.run criteria limit
  | teardown criteria => do let _ ← engine.teardown criteria
  | remove criteria => do let _ ← engine.remove criteria
  | reactivate criteria => engine.reactivate criteria
  | pause criteria => engine.pause criteria
  | subscriptions criteria => do let _ ← engine.subscriptions criteria

namespace Operation

/-- The subscriptions that an operation is meant for. -/
def criteria : Operation → FeedCriteria
  | boot criteria _ | run criteria _ | teardown criteria | remove criteria | reactivate criteria
  | pause criteria | subscriptions criteria => criteria

/-- The statuses that failed subscriptions are put back into. -/
def retried : Operation → List Status
  | boot .. => [.new, .booting]
  | run .. => [.new, .booting, .active]
  | _ => []

/-- The statuses in which subscriptions are outdated when their subscribers are gone. -/
def detached : Operation → List Status
  | boot .. => [.new, .booting]
  | run .. => [.active, .paused, .error]
  | _ => []

/-- The status of the subscriptions that are fed with messages. -/
def fed : Operation → Option Status
  | boot .. => some .booting
  | run .. => some .active
  | _ => none

/-- Only subscriptions that catch up or keep up are fed. -/
theorem fed_cases {operation : Operation} {status : Status} (fed : operation.fed = some status) :
    status = .booting ∨ status = .active := by
  cases operation <;> cases fed <;> simp

end Operation

namespace Stage

variable {σ : Type} {stage : Stage σ} {engine : Engine σ} {criteria : FeedCriteria} {first : Ledger} {system : σ}

/-- A system that was reached by small steps, with distinct ids. -/
structure Traced (stage : Stage σ) (first : Ledger) (system : σ) : Prop where
  distinct : (Rows.ids (stage.rows.read system)).Nodup
  follows : Ledger.Follows first (stage.ledger (stage.rows.read system) system)

/-- What holds after a panic that nobody caught. -/
def Broken (stage : Stage σ) (engine : Engine σ) (first : Ledger) (abort : Abort) (after : σ) : Prop :=
  Panics engine abort ∧ ∃ known, Ledger.Follows first (stage.ledger known after)

/-- Every operation starts with discovery, under the lock of the store. -/
theorem Hosts.discovering {α : Type} (hosted : stage.Hosts engine) (traced : stage.Traced first system)
    {rest : WorkUnit → Action σ α} {ok : α → σ → Prop}
    (meets : ∀ after, stage.Discovered engine criteria first system (.clean (stage.rows.read after)) after →
      Meets (rest (.clean (stage.rows.read after))) after ok (stage.Broken engine first)) :
    Meets (engine.store.guarded do
      let unit ← engine.discover criteria {}
      rest unit) system ok (stage.Broken engine first) := by
  -- The unit that discovery leaves is clean.
  apply hosted.guarded_meets
  apply Meets.bind (hosted.discover_ends traced.distinct traced.follows).meets
  intro unit after discovered
  obtain rfl := discovered.clean
  exact meets after discovered

end Stage

end EventFeed
