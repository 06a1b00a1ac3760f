import EventFeed.Proofs.Isolation

/-! Rounds over stored rows: delivery as a function of the rows, and why a window can be cut in two. -/

namespace EventFeed

variable {σ : Type}

/-- Who is fed for a row of an id and a group, if anybody is. -/
abbrev Casting (σ : Type) : Type := String → String → Option (Subscriber σ)

/-- What a message comes to for one row; a row without a subscriber is left alone. -/
def serveRow (verdict : Verdict) (cast : Casting σ) (status : Status) (entry : Nat × Message)
    (row : Subscription) (calls : List CallNote) :
    (Subscription × Option SubscriptionFailure) × List CallNote :=
  match cast row.id row.group with
  -- Rows whose subscriber is gone stay as they are.
  | none => ((row, none), [])
  | some subscriber =>
    let served := serve (verdict subscriber.id) status entry ⟨row, subscriber⟩ (callsOf subscriber.id calls)
    ((served.1.1.subscription, served.1.2), served.2)

/-- What a message comes to for some rows, one after another. -/
def serveRows (verdict : Verdict) (cast : Casting σ) (status : Status) (entry : Nat × Message) :
    List Subscription → List CallNote → List (Subscription × Option SubscriptionFailure) × List CallNote
  | [], _ => ([], [])
  | row :: rest, calls =>
    let (served, made) := serveRow verdict cast status entry row calls
    -- Later rows already see the calls that were made for this one.
    let (others, more) := serveRows verdict cast status entry rest (calls ++ made)
    (served :: others, made ++ more)

/-- All that delivery changes, as far as it is stored or noted. -/
structure Board where
  rows : List Subscription
  calls : List CallNote
  errors : List SubscriptionFailure

namespace Board

/-- The board after one more message. -/
def next (verdict : Verdict) (cast : Casting σ) (status : Status) (board : Board)
    (entry : Nat × Message) : Board :=
  -- Every row sees the message once, in the order of the rows.
  let (served, made) := serveRows verdict cast status entry board.rows board.calls
  { rows := served.map Prod.fst
    calls := board.calls ++ made
    errors := board.errors ++ served.filterMap Prod.snd }

/-- The board after some messages. -/
def play (verdict : Verdict) (cast : Casting σ) (status : Status) (board : Board)
    (entries : List (Nat × Message)) : Board := entries.foldl (next verdict cast status) board

/-- The board without stamps. -/
def unstamped (board : Board) : Board := { board with rows := board.rows.map Subscription.unstamped }

end Board

section Serving

variable {verdict : Verdict} {cast : Casting σ} {status : Status}

/-- How a row can change while messages are delivered: it moves forward, or it fails. -/
structure Advances (status : Status) (row next : Subscription) : Prop where
  id : next.id = row.id
  group : next.group = row.group
  position : row.position ≤ next.position
  status : next.status = row.status ∨ row.status = status ∧ next.status = .error

theorem Advances.refl (row : Subscription) : Advances status row row :=
  ⟨rfl, rfl, Nat.le_refl _, Or.inl rfl⟩

theorem Advances.trans {one two three : Subscription} (first : Advances status one two)
    (second : Advances status two three) : Advances status one three := by
  -- The id, the group and the position are clear, and only the status has cases.
  refine ⟨second.id.trans first.id, second.group.trans first.group,
    Nat.le_trans first.position second.position, ?_⟩
  -- A row that has failed does not leave its failure behind.
  rcases second.status with same | ⟨was, failed⟩
  · rw [same]
    exact first.status
  · rcases first.status with same | ⟨current, error⟩
    · exact Or.inr ⟨same ▸ was, failed⟩
    · exact Or.inr ⟨current, failed⟩

/-- A row that is in the status was in it before. -/
theorem Advances.was {row next : Subscription} (advances : Advances status row next)
    (current : next.status = status) : row.status = status := by
  -- A row does not come back into the status.
  rcases advances.status with same | ⟨was, failed⟩
  · exact same ▸ current
  · exact was

theorem serveRow_advances (entry : Nat × Message) (row : Subscription) (calls : List CallNote) :
    Advances status row (serveRow verdict cast status entry row calls).1.1 := by
  -- Nobody is fed, or the row waits elsewhere, or the answer moves it.
  unfold serveRow
  split
  · exact .refl row
  · unfold serve
    split
    · exact .refl row
    · rename_i working
      simp only [not_or, ne_eq, Decidable.not_not] at working
      split
      · -- A handled message moves the row, and a failed one leaves it where it is.
        exact ⟨rfl, rfl, Nat.le_max_left _ _, Or.inl rfl⟩
      · exact ⟨rfl, rfl, Nat.le_refl _, Or.inr ⟨working.1, rfl⟩⟩

/-- A row that somebody is fed for is served as the target it stands for. -/
theorem serveRow_fed {row : Subscription} {subscriber : Subscriber σ}
    (known : cast row.id row.group = some subscriber) (entry : Nat × Message) (calls : List CallNote) :
    serveRow verdict cast status entry row calls =
      let served := serve (verdict subscriber.id) status entry ⟨row, subscriber⟩
        (callsOf subscriber.id calls)
      ((served.1.1.subscription, served.1.2), served.2) := by
  -- The casting is asked once, and answers with the subscriber.
  unfold serveRow
  rw [known]

/-- After a message nobody who is fed in the status is behind it. -/
theorem serveRow_reached (unfailed : status ≠ .error) {entry : Nat × Message} {row : Subscription}
    {calls : List CallNote} (fed : cast row.id row.group ≠ none)
    (current : (serveRow verdict cast status entry row calls).1.1.status = status) :
    entry.1 ≤ (serveRow verdict cast status entry row calls).1.1.position := by
  -- The status that counts is the one after the message.
  revert current
  unfold serveRow
  split
  · rename_i nobody
    exact absurd nobody fed
  · unfold serve
    split
    · rename_i left
      -- A row that was left alone is elsewhere, or it is past the message.
      intro current
      rcases left with other | past
      · exact absurd current other
      · exact past
    · split
      · exact fun _ => Nat.le_max_right _ _
      · -- Whoever failed is not in the status any more.
        exact fun failed => absurd failed.symm unfailed

/-- A message that nobody is waiting for changes nothing. -/
theorem serveRow_idle {entry : Nat × Message} {row : Subscription} (calls : List CallNote)
    (idle : cast row.id row.group ≠ none → row.status = status → entry.1 ≤ row.position) :
    serveRow verdict cast status entry row calls = ((row, none), []) := by
  -- A row without a subscriber is not served, and one with a subscriber is past the message or not fed.
  unfold serveRow
  split
  · rfl
  · rename_i subscriber known
    -- Whoever is known and waits is already past the message.
    have left : row.status ≠ status ∨ entry.1 ≤ row.position := by
      by_cases current : row.status = status
      · exact Or.inr (idle (by simp [known]) current)
      · exact Or.inl current
    simp [serve, left]

/-- Stamps have no influence on what a message comes to. -/
theorem serveRow_unstamped (entry : Nat × Message) (row : Subscription) (calls : List CallNote) :
    serveRow verdict cast status entry row.unstamped calls =
      (((serveRow verdict cast status entry row calls).1.1.unstamped,
        (serveRow verdict cast status entry row calls).1.2),
        (serveRow verdict cast status entry row calls).2) := by
  -- The row is looked up by its id and its group, which a stamp does not touch.
  have id : row.unstamped.id = row.id := rfl
  have group : row.unstamped.group = row.group := rfl
  unfold serveRow
  rw [id, group]
  cases cast row.id row.group with
  | none => rfl
  | some subscriber =>
    unfold serve
    by_cases left : row.status ≠ status ∨ entry.1 ≤ row.position
    · have leftToo : row.unstamped.status ≠ status ∨ entry.1 ≤ row.unstamped.position := left
      simp only [if_pos left, if_pos leftToo]
    · have working : ¬ (row.unstamped.status ≠ status ∨ entry.1 ≤ row.unstamped.position) := left
      simp only [if_neg left, if_neg working]
      -- Neither the answer nor the move of the subscription looks at the stamp.
      cases answer (verdict subscriber.id) subscriber entry.2 (callsOf subscriber.id calls) with
      | mk made error => cases error <;> rfl

theorem advances_trans {one two three : List Subscription} (first : List.Forall₂ (Advances status) one two)
    (second : List.Forall₂ (Advances status) two three) : List.Forall₂ (Advances status) one three := by
  -- Both relate the rows place by place.
  induction first generalizing three with
  | nil => exact second
  | cons advances _ ih =>
    cases second with
    | cons further later => exact .cons (advances.trans further) (ih later)

theorem advances_ids {one two : List Subscription} (advances : List.Forall₂ (Advances status) one two) :
    Rows.ids two = Rows.ids one := by
  -- No row changes its id.
  induction advances with
  | nil => rfl
  | cons own _ ih => rw [Rows.ids_cons, Rows.ids_cons, own.id, ih]

theorem serveRows_advances (entry : Nat × Message) (rows : List Subscription) (calls : List CallNote) :
    List.Forall₂ (Advances status) rows
      ((serveRows verdict cast status entry rows calls).1.map Prod.fst) := by
  -- Each row advances on its own, whatever calls were made before it.
  induction rows generalizing calls with
  | nil => exact .nil
  | cons row rest ih => exact .cons (serveRow_advances entry row calls) (ih _)

theorem serveRows_reached (unfailed : status ≠ .error) (entry : Nat × Message) (rows : List Subscription)
    (calls : List CallNote) :
    ∀ row ∈ (serveRows verdict cast status entry rows calls).1.map Prod.fst,
      cast row.id row.group ≠ none → row.status = status → entry.1 ≤ row.position := by
  -- The induction is on the rows, with the calls that were made before each.
  induction rows generalizing calls with
  | nil => simp [serveRows]
  | cons row rest ih =>
    intro served member fed current
    rw [serveRows, List.map_cons, List.mem_cons] at member
    rcases member with rfl | later
    · -- The row is fed under the id and the group that it had before.
      have same : Advances status row (serveRow verdict cast status entry row calls).1.1 :=
        serveRow_advances entry row calls
      rw [same.id, same.group] at fed
      exact serveRow_reached unfailed fed current
    · exact ih _ served later fed current

theorem serveRows_idle {entry : Nat × Message} {rows : List Subscription} (calls : List CallNote)
    (idle : ∀ row ∈ rows, cast row.id row.group ≠ none → row.status = status → entry.1 ≤ row.position) :
    serveRows verdict cast status entry rows calls = (rows.map fun row => (row, none), []) := by
  -- The induction is on the rows, none of which makes a call.
  induction rows generalizing calls with
  | nil => rfl
  | cons row rest ih =>
    -- The first row makes no calls, so the rest starts from the same ones.
    have here : serveRow verdict cast status entry row calls = ((row, none), []) :=
      serveRow_idle calls (idle row (by simp))
    have later := ih calls fun other member => idle other (by simp [member])
    simp [serveRows, here, later]

theorem serveRows_unstamped (entry : Nat × Message) (rows : List Subscription) (calls : List CallNote) :
    serveRows verdict cast status entry (rows.map Subscription.unstamped) calls =
      ((serveRows verdict cast status entry rows calls).1.map fun served =>
        (served.1.unstamped, served.2), (serveRows verdict cast status entry rows calls).2) := by
  -- The calls that the rest sees are the same ones, stamps or not.
  induction rows generalizing calls with
  | nil => rfl
  | cons row rest ih => simp [serveRows, serveRow_unstamped, ih]

namespace Board

variable {board : Board}

/-- Whoever is fed in the status has everything up to an index behind it. -/
def Past (cast : Casting σ) (status : Status) (rows : List Subscription) (index : Nat) : Prop :=
  ∀ row ∈ rows, cast row.id row.group ≠ none → row.status = status → index ≤ row.position

theorem play_append (front back : List (Nat × Message)) :
    board.play verdict cast status (front ++ back) =
      (board.play verdict cast status front).play verdict cast status back := List.foldl_append

theorem next_advances (entry : Nat × Message) :
    List.Forall₂ (Advances status) board.rows (board.next verdict cast status entry).rows :=
  serveRows_advances entry board.rows board.calls

/-- Messages move rows forward, or make them fail. -/
theorem play_advances (entries : List (Nat × Message)) :
    List.Forall₂ (Advances status) board.rows (board.play verdict cast status entries).rows := by
  -- The induction is on the messages, from any board.
  induction entries generalizing board with
  | nil => exact List.forall₂_same.mpr fun row _ => .refl row
  | cons entry rest ih =>
    -- The rows after the first message advance further.
    exact advances_trans (next_advances entry) ih

/-- What is behind everybody stays behind everybody. -/
theorem Past.advance {one two : List Subscription} {index : Nat} (past : Past cast status one index)
    (advances : List.Forall₂ (Advances status) one two) : Past cast status two index := by
  -- Rows only move on, so what was behind them is still behind them.
  intro row member fed current
  obtain ⟨old, present, own⟩ := source_of_forall₂ advances row member
  -- The row is fed under the id and the group that it had before, and it was in the status then.
  rw [own.id, own.group] at fed
  exact Nat.le_trans (past old present fed (own.was current)) own.position

/-- A message that everybody has behind it changes nothing. -/
theorem next_idle {entry : Nat × Message} (past : Past cast status board.rows entry.1) :
    board.next verdict cast status entry = board := by
  -- No row changes, and no call is added.
  have idle : serveRows verdict cast status entry board.rows board.calls =
      (board.rows.map fun row => (row, none), []) := serveRows_idle board.calls past
  simp [next, idle, Function.comp_def]

/-- Messages that everybody has behind it can be left out. -/
theorem play_filter {wanted : Nat × Message → Bool}
    (past : ∀ entry, wanted entry = false → Past cast status board.rows entry.1)
    (entries : List (Nat × Message)) :
    board.play verdict cast status entries = board.play verdict cast status (entries.filter wanted) := by
  -- The induction is on the messages: a wanted one is kept on both sides, another one leaves the board alone.
  induction entries generalizing board with
  | nil => rfl
  | cons entry rest ih =>
    cases want : wanted entry with
    | true =>
      -- A wanted message moves the rows forward only, so the rest stays unwanted.
      rw [List.filter_cons_of_pos want]
      exact ih fun other unwanted => (past other unwanted).advance (next_advances entry)
    | false =>
      -- The message leaves the board as it is.
      have step : board.play verdict cast status (entry :: rest) = board.play verdict cast status rest := by
        show (board.next verdict cast status entry).play verdict cast status rest = _
        rw [next_idle (past entry want)]
      rw [List.filter_cons_of_neg (by simp [want]), step]
      exact ih past

/-- Nobody who is fed in the status is behind a message that was read. -/
theorem play_reached (unfailed : status ≠ .error) (entries : List (Nat × Message)) :
    ∀ entry ∈ entries, Past cast status (board.play verdict cast status entries).rows entry.1 := by
  -- Each message was reached when it was delivered, and nothing is undone afterwards.
  induction entries generalizing board with
  | nil => simp
  | cons head rest ih =>
    -- The message is this one, or one that is delivered later.
    intro entry member
    rcases List.mem_cons.mp member with rfl | later
    · have here : Past cast status (board.next verdict cast status entry).rows entry.1 :=
        serveRows_reached unfailed entry board.rows board.calls
      -- What the rows have reached they keep.
      exact here.advance (play_advances rest)
    · exact ih entry later

/-- Stamps have no influence on what messages come to. -/
theorem play_unstamped (entries : List (Nat × Message)) :
    board.unstamped.play verdict cast status entries =
      (board.play verdict cast status entries).unstamped := by
  -- The induction is on the messages, from any board.
  induction entries generalizing board with
  | nil => rfl
  | cons entry rest ih =>
    -- One message comes to the same, stamps or not.
    have step : board.unstamped.next verdict cast status entry =
        (board.next verdict cast status entry).unstamped := by
      simp only [next, unstamped, serveRows_unstamped, List.map_map, List.filterMap_map]
      rfl
    show (board.unstamped.next verdict cast status entry).play verdict cast status rest = _
    rw [step]
    exact ih

/-- Earlier failures have no influence on what messages come to. -/
theorem play_errors (entries : List (Nat × Message)) (rows : List Subscription) (calls : List CallNote)
    (errors more : List SubscriptionFailure) :
    (Board.mk rows calls (errors ++ more)).play verdict cast status entries =
      { (Board.mk rows calls more).play verdict cast status entries with
        errors := errors ++ ((Board.mk rows calls more).play verdict cast status entries).errors } := by
  -- The induction is on the messages, and the earlier failures only stand in front.
  induction entries generalizing rows calls more with
  | nil => rfl
  | cons entry rest ih =>
    -- The failures of the first message come after the earlier ones.
    show ((Board.mk rows calls (errors ++ more)).next verdict cast status entry).play verdict cast status
      rest = _
    simp only [next, List.append_assoc]
    exact ih _ _ _

/-- Whether somebody who is fed in the status is behind an index. -/
def awaited (cast : Casting σ) (status : Status) (rows : List Subscription) (index : Nat) : Bool :=
  rows.any fun row => (cast row.id row.group).isSome && decide (row.status = status ∧ row.position < index)

/-- The messages that somebody who is fed in the status is waiting for. -/
def pending (cast : Casting σ) (status : Status) (rows : List Subscription) (log : List (Nat × Message)) :
    List (Nat × Message) := log.filter fun entry => awaited cast status rows entry.1

theorem past_of_awaited {rows : List Subscription} {index : Nat}
    (nobody : awaited cast status rows index = false) : Past cast status rows index := by
  -- Whoever were behind the index would be found among the rows.
  intro row member fed current
  apply Nat.le_of_not_lt
  intro behind
  have some := List.any_eq_false.mp nobody row member
  simp [Option.isSome_iff_ne_none.mpr fed, current, behind] at some

theorem awaited_of_past {rows : List Subscription} {index : Nat} (past : Past cast status rows index) :
    awaited cast status rows index = false := by
  -- No row passes the test.
  apply List.any_eq_false.mpr
  intro row member
  simp only [Bool.and_eq_true, decide_eq_true_eq, not_and, Option.isSome_iff_ne_none]
  intro fed current behind
  exact absurd behind (Nat.not_lt.mpr (past row member fed current))

/-- A window leaves the pending messages behind it that somebody still waits for, and no others. -/
theorem pending_play (unfailed : status ≠ .error) (count : Nat) (log : List (Nat × Message)) :
    pending cast status
        (board.play verdict cast status ((pending cast status board.rows log).take count)).rows log =
      pending cast status
        (board.play verdict cast status ((pending cast status board.rows log).take count)).rows
        ((pending cast status board.rows log).drop count) := by
  -- What is pending is narrowed twice: to what was pending before the window, and to what it has not read.
  generalize window : (pending cast status board.rows log).take count = front
  generalize reached : board.play verdict cast status front = next
  have advances : List.Forall₂ (Advances status) board.rows next.rows := reached ▸ play_advances front
  -- Whoever waits now was waiting before the window.
  have narrowed : pending cast status next.rows log =
      pending cast status next.rows (pending cast status board.rows log) := by
    simp only [pending, List.filter_filter]
    apply List.filter_congr
    intro entry _
    cases before : awaited cast status board.rows entry.1 with
    | true => simp
    | false =>
      have past : Past cast status next.rows entry.1 := (past_of_awaited before).advance advances
      simp [awaited_of_past past]
  -- Nobody waits for a message that was read.
  have behind : pending cast status next.rows front = [] := by
    apply List.filter_eq_nil_iff.mpr
    intro entry member
    have past : Past cast status next.rows entry.1 := reached ▸ play_reached unfailed front entry member
    simp [awaited_of_past past]
  have split : pending cast status board.rows log =
      front ++ (pending cast status board.rows log).drop count := by
    rw [← window, List.take_append_drop]
  -- Of what was pending, only what the window did not take is left to look at.
  rw [narrowed]
  conv => lhs; rw [split]
  simp only [pending, List.filter_append] at behind ⊢
  rw [behind, List.nil_append]

/-- A window makes the pending messages fewer. -/
theorem pending_length (unfailed : status ≠ .error) (count : Nat) (log : List (Nat × Message)) :
    (pending cast status
      (board.play verdict cast status ((pending cast status board.rows log).take count)).rows log).length ≤
    (pending cast status board.rows log).length - count := by
  -- What is pending then was left by the window.
  rw [pending_play unfailed, ← List.length_drop]
  exact List.length_filter_le _ _

/-- A window and what is pending after it come to what everything pending comes to. -/
theorem play_pending (unfailed : status ≠ .error) (count : Nat) (log : List (Nat × Message)) :
    (board.play verdict cast status ((pending cast status board.rows log).take count)).play verdict cast
        status (pending cast status
          (board.play verdict cast status ((pending cast status board.rows log).take count)).rows log) =
      board.play verdict cast status (pending cast status board.rows log) := by
  -- The window has read a part of what is pending, and what it left out of the rest nobody waits for.
  rw [pending_play unfailed]
  generalize pending cast status board.rows log = waiting
  generalize reached : board.play verdict cast status (waiting.take count) = next
  -- Leaving out the messages that nobody waits for makes no difference.
  have unread : next.play verdict cast status (waiting.drop count) =
      next.play verdict cast status (pending cast status next.rows (waiting.drop count)) :=
    play_filter (fun entry => past_of_awaited) (waiting.drop count)
  rw [← unread, ← reached, ← play_append, List.take_append_drop]

end Board

end Serving

end EventFeed
