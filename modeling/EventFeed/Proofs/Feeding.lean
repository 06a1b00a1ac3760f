import EventFeed.Proofs.Delivery

/-! Feeding: the next message of a subscription is the first one that is left for it, however the log grows
on the way. -/

namespace EventFeed

open EventFeed.Action
open Subscription (unstamped)

variable {σ : Type}

/-- While a subscription is in a status, its next messages are those that are
left, and then those after them. -/
def Ready (log : List (Nat × Message)) (status : Status) (left : List Nat) (row : Subscription) : Prop :=
  row.status = status → ∀ index ∈ log.map Prod.fst, row.position < index →
    index ∈ left ∨ ∀ other ∈ left, other < index

/-- Indices in order, all of them in a log. -/
structure Listed (log : List (Nat × Message)) (left : List Nat) : Prop where
  ascending : left.Pairwise (· < ·)
  present : ∀ index ∈ left, index ∈ log.map Prod.fst

/-- Indices of a log stay listed while it grows. -/
theorem Listed.grow {log longer : List (Nat × Message)} {left : List Nat} (listed : Listed log left)
    (grown : log <+: longer) : Listed longer left :=
  ⟨listed.ascending, fun index member => (grown.map Prod.fst).subset (listed.present index member)⟩

/-- What is left after the first index is listed, too. -/
theorem Listed.tail {log : List (Nat × Message)} {index : Nat} {left : List Nat}
    (listed : Listed log (index :: left)) : Listed log left :=
  ⟨listed.ascending.of_cons, fun other member => listed.present other (by simp [member])⟩

/-- Messages that are appended come after everything that is left. -/
theorem Ready.grow {log longer : List (Nat × Message)} {status : Status} {left : List Nat}
    {row : Subscription} (ready : Ready log status left row) (listed : Listed log left)
    (grown : log <+: longer) (ascending : (longer.map Prod.fst).Pairwise (· < ·)) :
    Ready longer status left row := by
  -- An index is either old, or greater than every old one.
  intro current index member further
  obtain ⟨fresh, rfl⟩ := grown
  rw [List.map_append, List.mem_append] at member
  rcases member with old | new
  · exact ready current index old further
  · rw [List.map_append, List.pairwise_append] at ascending
    exact Or.inr fun other isLeft => ascending.2.2 other (listed.present other isLeft) index new

/-- The first index that is left is the next message of a subscription behind it. -/
theorem Ready.awaits {log : List (Nat × Message)} {status : Status} {index : Nat} {left : List Nat}
    {row : Subscription} (ready : Ready log status (index :: left) row) (listed : Listed log (index :: left))
    (current : row.status = status) (behind : row.position < index) : Awaits log row index := by
  -- Every other message above the position is left, too, or comes even later.
  refine ⟨⟨listed.present index (by simp), behind⟩, fun other ⟨member, further⟩ => ?_⟩
  rcases ready current other member further with isLeft | later
  · rcases List.mem_cons.mp isLeft with rfl | after
    · exact Nat.le_refl _
    · exact Nat.le_of_lt ((List.pairwise_cons.mp listed.ascending).1 other after)
  · exact Nat.le_of_lt (later index (by simp))

/-- A subscription that is past the first index, or no longer in the status, goes on with the others. -/
theorem Ready.next {log : List (Nat × Message)} {status : Status} {index : Nat} {left : List Nat}
    {row next : Subscription} (ready : Ready log status (index :: left) row)
    (past : next.status = status → row.status = status ∧ row.position ≤ next.position ∧
      index ≤ next.position) : Ready log status left next := by
  -- The first index is not above the new position.
  intro current other member further
  obtain ⟨was, onward, reached⟩ := past current
  rcases ready was other member (by omega) with isLeft | later
  · rcases List.mem_cons.mp isLeft with rfl | after
    · omega
    · exact Or.inl after
  · exact Or.inr fun another after => later another (by simp [after])

end EventFeed
