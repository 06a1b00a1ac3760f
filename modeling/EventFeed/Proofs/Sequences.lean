import EventFeed.Action

/-! Sequences of calls: pieces of code on a list are called one after another, up to the first that fails. -/

namespace EventFeed

variable {α ε σ : Type}

/-- One call: what was called, the system before and after it, and how it failed if it did. -/
structure Call (α ε σ : Type) where
  what : α
  before : σ
  failure : Option ε
  after : σ

/-- The calls that are made for a list on a system, how the whole of them fails if it does, and the system that they
leave. -/
structure InSequence (act : α → σ → Option ε × σ) (listed : List α) (system : σ) (calls : List (Call α ε σ))
    (failure : Option ε) (last : σ) : Prop where
  /-- Each call comes to what is called there. -/
  made : ∀ call ∈ calls, act call.what call.before = (call.failure, call.after)
  /-- The first call is made on the system, each other one on what the call before it left, and nothing happens
  besides. -/
  linked : system :: calls.map Call.after = calls.map Call.before ++ [last]
  /-- What is called is a beginning of the list, in its order, and each entry once. -/
  inOrder : calls.map Call.what <+: listed
  /-- Another call follows only one that succeeded. -/
  onward : calls.Pairwise fun earlier _ => earlier.failure = none
  /-- The whole succeeds exactly when all of the list was called, and each call succeeded. -/
  succeeds : failure = none ↔ calls.map Call.what = listed ∧ ∀ call ∈ calls, call.failure = none
  /-- The whole fails exactly as the one call that failed. -/
  fails : ∀ error, failure = some error ↔ ∃ call ∈ calls, call.failure = some error

namespace InSequence

variable {act : α → σ → Option ε × σ} {listed one two : List α} {what : α} {calls others : List (Call α ε σ)}
  {failure : Option ε} {error : ε} {system middle last : σ}

/-- For an empty list nothing is called. -/
theorem nil : InSequence act [] system [] none system := by
  constructor <;> simp

/-- For a single entry there is one call, and the whole ends as this call does. -/
theorem single (run : act what system = (failure, last)) :
    InSequence act [what] system [⟨what, system, failure, last⟩] failure last := by
  constructor <;> simp [run]

/-- After a list whose calls all succeed come the calls for the entries behind it. -/
theorem append (first : InSequence act one system calls none middle)
    (second : InSequence act two middle others failure last) :
    InSequence act (one ++ two) system (calls ++ others) failure last := by
  -- Each part follows from the same part of both lists.
  obtain ⟨whole, well⟩ := first.succeeds.mp rfl
  refine ⟨fun call member => ?made, ?linked, ?inOrder, ?onward, ?succeeds, fun error => ?fails⟩
  case made => exact (List.mem_append.mp member).elim (first.made call) (second.made call)
  case linked =>
    -- The second calls start from the system that the first ones leave.
    calc system :: (calls ++ others).map Call.after
        = (system :: calls.map Call.after) ++ others.map Call.after := by simp
      _ = calls.map Call.before ++ middle :: others.map Call.after := by simp [first.linked]
      _ = (calls ++ others).map Call.before ++ [last] := by simp [second.linked]
  case inOrder =>
    rw [List.map_append, whole]
    exact (List.prefix_append_right_inj one).mpr second.inOrder
  case onward =>
    exact List.pairwise_append.mpr ⟨first.onward, second.onward, fun call member _ _ => well call member⟩
  case succeeds =>
    rw [second.succeeds, List.map_append, whole, List.append_cancel_left_eq]
    exact and_congr_right fun _ => ⟨fun each call member => (List.mem_append.mp member).elim (well call) (each call),
      fun each call member => each call (List.mem_append_right calls member)⟩
  case fails =>
    -- A call that failed is not among the first ones.
    rw [second.fails]
    refine ⟨fun ⟨call, member, failed⟩ => ⟨call, List.mem_append_right calls member, failed⟩, ?_⟩
    rintro ⟨call, member, failed⟩
    rcases List.mem_append.mp member with early | late
    · simp [well call early] at failed
    · exact ⟨call, late, failed⟩

/-- After a list one of whose calls fails nothing more is called. -/
theorem halted (first : InSequence act one system calls (some error) last) :
    InSequence act (one ++ two) system calls (some error) last := by
  refine ⟨first.made, first.linked, first.inOrder.trans (List.prefix_append one two), first.onward, ?_, first.fails⟩
  -- The call that failed is still there.
  obtain ⟨call, member, failed⟩ := (first.fails error).mp rfl
  refine ⟨fun absurd => (by simp at absurd), fun ⟨_, each⟩ => ?_⟩
  simp [each call member] at failed

/-- A call behind some place of the list is made only after everything before that place was called and succeeded. -/
theorem passed (sequence : InSequence act listed system calls failure last) {place : Nat} (behind : place < calls.length) :
    (calls.take place).map Call.what = listed.take place ∧ ∀ call ∈ calls.take place, call.failure = none := by
  constructor
  · -- The calls follow the list.
    have listing := List.prefix_iff_eq_take.mp sequence.inOrder
    rw [List.map_take, listing, List.take_take, List.length_map, Nat.min_eq_left (Nat.le_of_lt behind)]
  · -- All of these calls are followed by the one behind.
    have split := sequence.onward
    rw [← List.take_append_drop place calls, List.pairwise_append] at split
    have later : calls[place] ∈ calls.drop place := by
      rw [List.drop_eq_getElem_cons behind]
      exact List.mem_cons_self
    exact fun call member => split.2.2 call member _ later

end InSequence

end EventFeed
