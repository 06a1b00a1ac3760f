import EventFeed.Error
import EventFeed.Subscription.Failure

/-! Computations over a system that may end early, with an error or with a panic, and keep what they
did until then. -/

namespace EventFeed

/-- Why a computation ended early. -/
inductive Abort where
  /-- An error was returned. -/
  | failed (error : EngineError)
  /-- Subscriber code panicked, and nobody caught it. -/
  | panicked (payload : PanicPayload)
deriving DecidableEq

/-- A computation on a system of type `σ`; the system it reached outlives an early end. -/
abbrev Action (σ : Type) : Type → Type := EStateM Abort σ

namespace Action

variable {σ α : Type}

def fail (error : EngineError) : Action σ α := throw (.failed error)

/-- Goes on with a value, or ends with an error. -/
def ofExcept : Except EngineError α → Action σ α
  | .ok value => pure value
  | .error error => fail error

/-- A step on the system whose error ends the computation. -/
def ofStep (step : σ → Except EngineError α × σ) : Action σ α := fun system =>
  match step system with
  | (.ok value, next) => .ok value next
  | (.error error, next) => .error (.failed error) next

/-- How a computation ends, and the system it leaves. -/
def outcome (action : Action σ α) (system : σ) : Except Abort α × σ :=
  match action system with
  | .ok value next => (.ok value, next)
  | .error abort next => (.error abort, next)

end Action

/-- A part of a system that can be read and replaced. -/
structure Part (σ α : Type) where
  read : σ → α
  write : α → σ → σ

namespace Part

variable {σ α β : Type}

/-- Changes a part. -/
def modify (part : Part σ α) (change : α → α) (system : σ) : σ :=
  part.write (change (part.read system)) system

/-- Runs a step on a part. -/
def run (part : Part σ α) (step : α → β × α) (system : σ) : β × σ :=
  let (result, next) := step (part.read system)
  (result, part.write next system)

end Part

end EventFeed
