import EventFeed.Proofs.Courses
import EventFeed.Proofs.WellFormed
import EventFeed.Proofs.Windows
import Mathlib.Data.List.Induction

/-! Setbacks: where a panic of a handler breaks a window off, what is stored of the targets is what they had come to
when positions were written last, and few messages have to be seen again. -/

namespace EventFeed

open EventFeed.Action
open Subscription (unstamped)

variable {σ α β : Type}

/-- A computation that returns has got through its first part. -/
theorem Action.exists_of_bind {action : Action σ α} {next : α → Action σ β} {system last : σ} {result : β}
    (run : (action >>= next) system = .ok result last) :
    ∃ value middle, action system = .ok value middle ∧ next value middle = .ok result last := by
  -- Sequencing looks at the first result, which must have been a success.
  change EStateM.bind action next system = _ at run
  unfold EStateM.bind at run
  cases first : action system with
  | ok value middle => exact ⟨value, middle, rfl, by simpa [first] using run⟩
  | error abort middle => simp [first] at run

/-- A computation whose outcome is an early end has that end. -/
theorem Action.run_of_outcome {action : Action σ α} {system : σ} {abort : Abort}
    (broken : (action.outcome system).1 = .error abort) : action system = .error abort (action.outcome system).2 := by
  -- The outcome is read off the result.
  unfold Action.outcome at broken ⊢
  cases run : action system with
  | ok value next => simp [run] at broken
  | error reason next =>
    rw [run] at broken
    rw [Except.error.inj broken]

/-- What a computation meets holds of the run that it has. -/
theorem Action.Meets.of_ok {action : Action σ α} {system next : σ} {value : α} {ok : α → σ → Prop}
    {early : Abort → σ → Prop} (meets : Meets action system ok early) (run : action system = .ok value next) :
    ok value next := by
  simpa [Meets, run] using meets

/-- It holds of the early end that it has, too. -/
theorem Action.Meets.of_error {action : Action σ α} {system next : σ} {abort : Abort} {ok : α → σ → Prop}
    {early : Abort → σ → Prop} (meets : Meets action system ok early) (run : action system = .error abort next) :
    early abort next := by
  simpa [Meets, run] using meets

/-- How many of some messages had been read when positions were written last; an interval of zero counts as one. -/
def checkpoint (interval : Option Nat) (count : Nat) : Nat :=
  match interval with
  | none => 0
  | some interval => max 1 interval * (count / max 1 interval)

section Checkpoints

variable {interval : Option Nat} {count : Nat}

theorem checkpoint_le (interval : Option Nat) (count : Nat) : checkpoint interval count ≤ count := by
  -- A multiple of the interval, rounded down.
  unfold checkpoint
  split
  · exact Nat.zero_le _
  · exact Nat.mul_div_le ..

/-- When a write is due after one more message, that message is the last one before it. -/
theorem checkpoint_due
    (due : interval.any (fun bound => decide (bound ≤ count - checkpoint interval count + 1)) = true) :
    checkpoint interval (count + 1) = count + 1 := by
  -- With the last message a multiple of the interval is reached.
  obtain ⟨bound, rfl, due⟩ : ∃ bound, interval = some bound ∧ bound ≤ count - checkpoint interval count + 1 := by
    simpa [Option.any_eq_true] using due
  simp only [checkpoint, ← Nat.mod_def] at due ⊢
  -- The messages since the last write fill the interval.
  have below : count % max 1 bound < max 1 bound := Nat.mod_lt _ (by omega)
  have full : count % max 1 bound + 1 = max 1 bound := by omega
  have parts := Nat.div_add_mod count (max 1 bound)
  have whole : count + 1 = max 1 bound * (count / max 1 bound + 1) := by
    rw [Nat.mul_add_one]
    omega
  exact Nat.mul_div_cancel' ⟨_, whole⟩

/-- When no write is due, the last one stays the last one. -/
theorem checkpoint_wait
    (wait : ¬ interval.any (fun bound => decide (bound ≤ count - checkpoint interval count + 1)) = true) :
    checkpoint interval (count + 1) = checkpoint interval count := by
  -- Without a multiple of the interval in between, the last one stays what it was.
  cases interval with
  | none => rfl
  | some bound =>
    simp only [checkpoint, ← Nat.mod_def, Option.any_some, decide_eq_true_eq] at wait ⊢
    -- The interval is not full, so it does not divide the messages.
    have below : count % max 1 bound < max 1 bound := Nat.mod_lt _ (by omega)
    have parts := Nat.div_add_mod count (max 1 bound)
    have rest : (count + 1) % max 1 bound ≠ 0 := by
      have sum : count + 1 = (count % max 1 bound + 1) + max 1 bound * (count / max 1 bound) := by omega
      rw [sum, Nat.add_mul_mod_self_left, Nat.mod_eq_of_lt (by omega)]
      omega
    rw [Nat.succ_div_of_not_dvd (mt Nat.mod_eq_zero_of_dvd rest)]

/-- Fewer messages than the interval has come after the last write. -/
theorem sub_checkpoint_le (bound count : Nat) : count - checkpoint (some bound) count ≤ bound - 1 := by
  -- What is left of the count after the last multiple is the remainder.
  have below := Nat.mod_lt count (show max 1 bound > 0 by omega)
  simp only [checkpoint, ← Nat.mod_def]
  omega

end Checkpoints

namespace Engine

/-- One turn of a window: a message is offered to every target, and then a write may be due. -/
def turn (engine : Engine σ) (status : Status) (window : Window σ) (entry : Nat × Message) :
    Action σ (Window σ) := do
  let window ← engine.offerAll status entry.1 entry.2 window
  engine.flushWhenDue window

/-- What a window comes to with some messages. -/
def turns (engine : Engine σ) (status : Status) (window : Window σ) (entries : List (Nat × Message)) :
    Action σ (Window σ) :=
  entries.foldlM (engine.turn status) window

/-- The delivery of messages takes its turns until a limit is reached. -/
theorem deliver_cons (engine : Engine σ) (status : Status) (limit : Option Nat) (window : Window σ)
    (entry : Nat × Message) (rest : List LogItem) :
    engine.deliver status limit window (.ok entry :: rest) = (do
      let window ← engine.turn status window entry
      if limit.any fun limit => decide (limit ≤ window.processed) then
        engine.persistWindow window
      else engine.deliver status limit window rest) := by
  -- A turn is what the loop does with one message, written in one piece.
  simp only [deliver, turn, bind_assoc]
  rfl

end Engine

/-- A subscription that is still fed is past all messages that were read. -/
def Passed (status : Status) (read : List (Nat × Message)) (row : Subscription) : Prop :=
  row.status = status → ∀ entry ∈ read, entry.1 ≤ row.position

/-- A later state of a subscription: it has the same id, and it is the same if it was no longer fed. -/
def Remains (status : Status) (row next : Subscription) : Prop :=
  next.id = row.id ∧ (row.status ≠ status → next = row)

section Responses

variable {status : Status} {entry : Nat × Message} {read : List (Nat × Message)} {notices : List Notice}
  {row current next : Subscription}

/-- A subscription that is offered one more message is past it, too, or is no longer fed. -/
theorem Passed.offered (passed : Passed status read row) (working : status ≠ .error)
    (response : Response status entry row notices next) : Passed status (read ++ [entry]) next := by
  -- The message is one of those before, or this one; either way the cases are those of the response.
  intro fed other member
  rcases List.mem_append.mp member with before | last
  · cases response with
    | other | past => exact passed fed other before
    | handled current => exact Nat.le_trans (passed current other before) (Nat.le_max_left ..)
    | failed => exact absurd fed.symm working
  · obtain rfl := List.mem_singleton.mp last
    cases response with
    | other other => exact absurd fed other
    | past _ past => exact past
    | handled => exact Nat.le_max_right ..
    | failed => exact absurd fed.symm working

/-- Offers do not reach a subscription that is no longer fed. -/
theorem Remains.offered (remains : Remains status row current) (response : Response status entry current notices next) :
    Remains status row next := by
  -- Only a subscription that is fed responds with anything else than itself.
  refine ⟨response.id_eq.trans remains.1, fun stopped => ?_⟩
  obtain rfl := remains.2 stopped
  cases response with
  | other => rfl
  | past fed | handled fed | failed fed => exact absurd fed stopped

end Responses

namespace Stage

variable {stage : Stage σ} {engine : Engine σ} {status : Status}

/-- What a round of offers leaves where no panic escapes. -/
structure Polled (stage : Stage σ) (status : Status) (entry : Nat × Message) (before : Window σ) (start : σ)
    (window : Window σ) (after : σ) : Prop where
  isOpen : stage.Open window after
  calm : ∀ target ∈ window.targets, stage.Behaves target.subscriber
  ids : Rows.ids (Target.all window.targets) = Rows.ids (Target.all before.targets)
  rows : stage.rows.read after = stage.rows.read start
  sinceFlush : window.sinceFlush = before.sinceFlush + 1
  responses : ∀ next ∈ window.targets, ∃ target ∈ before.targets, ∃ notices,
    Response status entry target.subscription notices next.subscription

/-- Every target responds to the message of a round, unless a panic escapes. -/
theorem Hosts.offerAll_polls (hosted : stage.Hosts engine) {window : Window σ} {system : σ}
    (isOpen : stage.Open window system) (calm : ∀ target ∈ window.targets, stage.Behaves target.subscriber)
    (entry : Nat × Message) :
    Meets (engine.offerAll status entry.1 entry.2 window) system (stage.Polled status entry window system)
      fun abort after => Panics engine abort ∧ stage.rows.read after = stage.rows.read system := by
  -- The targets in front have responded, and the others are as they were.
  refine Meets.bind (Meets.mapM (fun done left between => stage.rows.read between = stage.rows.read system ∧
      (∀ target ∈ left, target ∈ window.targets) ∧
      Rows.ids (Target.all (done.map Prod.fst ++ left)) = Rows.ids (Target.all window.targets) ∧
      ∀ next ∈ done.map Prod.fst, stage.Behaves next.subscriber ∧ ∃ target ∈ window.targets, ∃ notices,
        Response status entry target.subscription notices next.subscription)
    ?_ window.targets [] system ⟨rfl, fun _ member => member, rfl, by simp⟩) ?_
  · intro done target rest between ends
    obtain ⟨rows, left, ids, responses⟩ := ends
    have member := left target (by simp)
    refine (hosted.offer_answers (calm target member) entry between).weaken ?_
      fun _ _ early => ⟨early.1, early.2.trans rows⟩
    intro offered after responded
    obtain ⟨subscriber, same, -, notices, -, response⟩ := responded
    refine ⟨same.trans rows, fun other present => left other (by simp [present]), ?_, fun next present => ?_⟩
    · rw [← ids]
      simp [Target.all, response.id_eq]
    · rw [List.map_append, List.mem_append] at present
      rcases present with earlier | here
      · exact responses next earlier
      · obtain rfl := List.mem_singleton.mp here
        exact ⟨subscriber ▸ calm target member, target, member, notices, response⟩
  · intro offered after ends
    obtain ⟨rows, -, ids, responses⟩ := ends
    rw [List.append_nil, List.nil_append] at ids
    rw [List.nil_append] at responses
    have inHandNext : stage.InHand (offered.map Prod.fst) after := isOpen.inHand.of_ids ids (by rw [rows])
    exact Meets.pure ⟨⟨by rw [rows]; exact isOpen.clean, inHandNext, isOpen.unfinished⟩,
      fun next member => (responses next member).1, ids, rows, rfl, fun next member => (responses next member).2⟩

/-- A write that is due stores the targets and starts the count of messages anew, and nothing happens where none is. -/
theorem Hosts.flushWhenDue_writes (hosted : stage.Hosts engine) {window : Window σ} {system : σ}
    (isOpen : stage.Open window system) :
    Ends (engine.flushWhenDue window) system fun next after => next.targets = window.targets ∧ stage.Open next after ∧
      if engine.config.flushInterval.any fun interval => decide (interval ≤ window.sinceFlush) then
        next.sinceFlush = 0 ∧ stage.Stored window.targets system after
      else next.sinceFlush = window.sinceFlush ∧ after = system := by
  -- Whether the write is due is the same condition as in the statement.
  unfold Engine.flushWhenDue
  split
  · apply (hosted.persistWindow_ends isOpen).bind
    intro saved after ends
    obtain ⟨rfl, isOpenSaved, stored⟩ := ends
    exact Meets.pure ⟨rfl, ⟨rfl, isOpenSaved.inHand, isOpen.unfinished⟩, rfl, stored⟩
  · exact Meets.pure ⟨rfl, isOpen, rfl, rfl⟩

/-- A window that some messages have been read of: what is stored of its targets is what they had come to when positions
were written last, and those that were no longer fed then have stayed. -/
structure Underway (stage : Stage σ) (engine : Engine σ) (status : Status) (start : Window σ) (begun : σ)
    (front : List (Nat × Message)) (window : Window σ) (system : σ) : Prop where
  isOpen : stage.Open window system
  calm : ∀ target ∈ window.targets, stage.Behaves target.subscriber
  ids : Rows.ids (Target.all window.targets) = Rows.ids (Target.all start.targets)
  waiting : window.sinceFlush = front.length - checkpoint engine.config.flushInterval front.length
  passed : ∀ target ∈ window.targets, Passed status front target.subscription
  saved : ∃ saved middle,
    engine.turns status start (front.take (checkpoint engine.config.flushInterval front.length)) begun =
      .ok saved middle ∧ Rows.ids (Target.all saved.targets) = Rows.ids (Target.all start.targets) ∧
    (∀ target ∈ saved.targets, target.subscription.unstamped ∈ (stage.rows.read system).map unstamped ∧
      Passed status (front.take (checkpoint engine.config.flushInterval front.length)) target.subscription) ∧
    ∀ target ∈ window.targets, ∃ old ∈ saved.targets, Remains status old.subscription target.subscription

section Turns

variable {start window next : Window σ} {begun system after : σ} {front : List (Nat × Message)}
  {entry : Nat × Message}

/-- Where all targets are written as they are, they are what is stored. -/
theorem underway_written (isOpen : stage.Open window system)
    (calm : ∀ target ∈ window.targets, stage.Behaves target.subscriber)
    (ids : Rows.ids (Target.all window.targets) = Rows.ids (Target.all start.targets))
    (passed : ∀ target ∈ window.targets, Passed status front target.subscription)
    (whole : engine.turns status start front begun = .ok window system)
    (here : checkpoint engine.config.flushInterval front.length = front.length) (anew : window.sinceFlush = 0)
    (stored : ∀ target ∈ window.targets, target.subscription.unstamped ∈ (stage.rows.read system).map unstamped) :
    stage.Underway engine status start begun front window system := by
  -- The window itself is the one that is stored, as nothing has happened since.
  refine ⟨isOpen, calm, ids, by rw [here, anew, Nat.sub_self], passed, window, system, ?_, ids,
    fun target member => ⟨stored target member, ?_⟩, fun target member => ⟨target, member, rfl, fun _ => rfl⟩⟩
  · rw [here, List.take_length]
    exact whole
  · rw [here, List.take_length]
    exact passed target member

/-- Targets that are found among the rows are stored as they are when their window is opened. -/
theorem underway_start (isOpen : stage.Open start begun)
    (calm : ∀ target ∈ start.targets, stage.Behaves target.subscriber) (unread : start.sinceFlush = 0)
    (stored : ∀ target ∈ start.targets, target.subscription ∈ stage.rows.read begun) :
    stage.Underway engine status start begun [] start begun :=
  underway_written isOpen calm rfl (fun _ _ _ => by simp) rfl (Nat.le_zero.mp (checkpoint_le ..)) unread
    fun target member => List.mem_map_of_mem (stored target member)

/-- One more turn keeps what is stored within reach. -/
theorem Hosts.turn_underway (hosted : stage.Hosts engine) (working : status ≠ .error)
    (underway : stage.Underway engine status start begun front window system)
    (whole : engine.turns status start (front ++ [entry]) begun = .ok next after)
    (run : engine.turn status window entry system = .ok next after) :
    stage.Underway engine status start begun (front ++ [entry]) next after := by
  -- The turn offers the message and then writes or does not, which decides which window is the stored one.
  obtain ⟨isOpen, calm, ids, waiting, passed, saved, middle, reached, savedIds, kept, remains⟩ := underway
  obtain ⟨offered, between, offers, flush⟩ := exists_of_bind run
  obtain ⟨isOpenOffered, calmOffered, idsOffered, rows, count, responses⟩ :=
    (hosted.offerAll_polls isOpen calm entry).of_ok offers
  obtain ⟨targets, isOpenNext, written⟩ := (hosted.flushWhenDue_writes isOpenOffered).of_ok flush
  rw [count, waiting] at written
  have idsNext : Rows.ids (Target.all next.targets) = Rows.ids (Target.all start.targets) := by
    rw [targets, idsOffered, ids]
  have passedNext : ∀ target ∈ next.targets, Passed status (front ++ [entry]) target.subscription := by
    intro target member
    obtain ⟨old, present, notices, response⟩ := responses target (targets ▸ member)
    exact (passed old present).offered working response
  split at written
  · -- The write that is due stores what has been reached.
    rename_i due
    obtain ⟨anew, stored⟩ := written
    have here : checkpoint engine.config.flushInterval (front ++ [entry]).length = (front ++ [entry]).length := by
      rw [List.length_append]
      exact checkpoint_due due
    refine underway_written isOpenNext (targets ▸ calmOffered) idsNext passedNext whole here anew
      fun target member => ?_
    rw [stored.fields]
    have listed : target.subscription ∈ Target.all offered.targets := List.mem_map_of_mem (targets ▸ member)
    exact List.mem_map_of_mem (Rows.mem_overlay isOpenOffered.inHand.distinct listed
      (isOpenOffered.inHand.known _ (Rows.id_mem_ids listed)))
  · -- Without a write, what is stored stays.
    rename_i wait
    obtain ⟨same, rfl⟩ := written
    have stays : checkpoint engine.config.flushInterval (front ++ [entry]).length =
        checkpoint engine.config.flushInterval front.length := by
      rw [List.length_append]
      exact checkpoint_wait wait
    have within := checkpoint_le engine.config.flushInterval front.length
    have part : (front ++ [entry]).take (checkpoint engine.config.flushInterval front.length) =
        front.take (checkpoint engine.config.flushInterval front.length) := List.take_append_of_le_length within
    refine ⟨isOpenNext, targets ▸ calmOffered, idsNext, ?_, passedNext, saved, middle, ?_, savedIds, ?_,
      fun target member => ?_⟩
    · rw [same, stays, List.length_append, List.length_singleton]
      omega
    · rw [stays, part]
      exact reached
    · rw [stays, part, rows]
      exact kept
    · obtain ⟨current, present, notices, response⟩ := responses target (targets ▸ member)
      obtain ⟨old, listed, remain⟩ := remains current present
      exact ⟨old, listed, remain.offered response⟩

/-- Whatever messages have been read, what is stored is what the targets had come to when positions were written
last. -/
theorem Hosts.turns_underway (hosted : stage.Hosts engine) (working : status ≠ .error)
    (first : stage.Underway engine status start begun [] start begun)
    (run : engine.turns status start front begun = .ok window system) :
    stage.Underway engine status start begun front window system := by
  -- The last message comes after all others.
  induction front using List.reverseRecOn generalizing window system with
  | nil =>
    obtain ⟨rfl, rfl⟩ : start = window ∧ begun = system := by
      simpa [Engine.turns, pure, EStateM.pure] using run
    exact first
  | append_singleton front entry ih =>
    have whole := run
    rw [Engine.turns, List.foldlM_append] at run
    obtain ⟨before, middle, earlier, last⟩ := exists_of_bind run
    rw [List.foldlM_cons] at last
    obtain ⟨next, after, turn, rest⟩ := exists_of_bind last
    obtain ⟨rfl, rfl⟩ : next = window ∧ after = system := by
      simpa [pure, EStateM.pure] using rest
    exact hosted.turn_underway working (ih earlier) whole turn

end Turns

/-- Where the delivery of messages breaks off: some have been read, and the offer of the next one panicked. -/
structure BreaksOff (engine : Engine σ) (status : Status) (start : Window σ) (begun : σ) (abort : Abort) (last : σ)
    (front : List (Nat × Message)) (entry : Nat × Message) (window : Window σ) (system : σ) : Prop where
  read : engine.turns status start front begun = .ok window system
  broke : engine.offerAll status entry.1 entry.2 window system = .error abort last

/-- Delivery returns, or breaks off at one of the messages. -/
theorem Hosts.deliver_breaks (hosted : stage.Hosts engine) {limit : Option Nat} :
    ∀ (entries : List (Nat × Message)) {window : Window σ} {system : σ}, stage.Open window system →
      (∀ target ∈ window.targets, stage.Behaves target.subscriber) →
      Meets (engine.deliver status limit window (entries.map .ok)) system
        (fun final after => final.unit = .clean (stage.rows.read after) ∧ stage.InHand final.targets after)
        fun abort last => ∃ front entry back reached before, entries = front ++ entry :: back ∧
          BreaksOff engine status window system abort last front entry reached before := by
  -- The message breaks it off, or the limit ends it, or the rest is delivered.
  intro entries
  induction entries with
  | nil => exact fun isOpen _ => Meets.pure ⟨isOpen.clean, isOpen.inHand⟩
  | cons entry rest ih =>
    intro window system isOpen calm
    rw [List.map_cons, Engine.deliver_cons]
    have polls : Meets (engine.offerAll status entry.1 entry.2 window) system (stage.Polled status entry window system)
      fun abort after => Panics engine abort ∧ stage.rows.read after = stage.rows.read system :=
      hosted.offerAll_polls isOpen calm entry
    cases offers : engine.offerAll status entry.1 entry.2 window system with
    | error abort last =>
      have broke : engine.turn status window entry system = .error abort last := by
        simp [Engine.turn, bind, EStateM.bind, offers]
      simp only [Meets, bind, EStateM.bind, broke]
      exact ⟨[], entry, rest, window, system, rfl, rfl, offers⟩
    | ok offered middle =>
      have polled := polls.of_ok offers
      obtain ⟨next, after, flush, targets, isOpenNext, -⟩ := (hosted.flushWhenDue_writes polled.isOpen).run
      have turn : engine.turn status window entry system = .ok next after := by
        simp [Engine.turn, bind, EStateM.bind, offers, flush]
      apply Meets.run_bind turn
      split
      · apply Meets.mono (hosted.persistWindow_ends isOpenNext).meets
        intro saved last ends
        obtain ⟨rfl, isOpenSaved, -⟩ := ends
        exact ⟨rfl, isOpenSaved.inHand⟩
      · refine (ih isOpenNext (targets ▸ polled.calm)).weaken (fun _ _ ends => ends) fun abort last ends => ?_
        obtain ⟨front, other, back, reached, before, rfl, read, broke⟩ := ends
        refine ⟨entry :: front, other, back, reached, before, rfl, ?_, broke⟩
        rw [Engine.turns, List.foldlM_cons]
        simp only [bind, EStateM.bind, turn]
        exact read

/-- The window in which some targets are fed, before any message. -/
def opening (stage : Stage σ) (errors : List SubscriptionFailure) (targets : List (Target σ)) (system : σ) : Window σ :=
  { unit := .clean (stage.rows.read system), targets, errors }

/-- The system once it is reported that messages are loaded for some targets. -/
def loading (stage : Stage σ) (targets : List (Target σ)) (system : σ) : σ :=
  stage.observe (.loading (Engine.lowestPosition targets) targets.length) system

/-- Feeding returns, or breaks off at one of the messages that are loaded. -/
theorem Hosts.feed_breaks (hosted : stage.Hosts engine) {limit : Option Nat} {idle : Notice}
    {change : Subscription → Action σ Subscription} {settled : Subscription → Subscription}
    (settles : stage.Settles change settled) (named : ∀ row, (settled row).id = row.id)
    {targets : List (Target σ)} {errors : List SubscriptionFailure} {system : σ}
    (inHand : stage.InHand targets system) (calm : ∀ target ∈ targets, stage.Behaves target.subscriber) :
    Meets (engine.feed status limit idle change errors targets (.clean (stage.rows.read system))) system
      (fun _ _ => True) fun abort last => ∃ front entry back window before,
        stage.ahead targets system = front ++ entry :: back ∧
          BreaksOff engine status (stage.opening errors targets system) (stage.loading targets system) abort last front
            entry window before := by
  -- Without a target it returns; else it opens a window, and only the delivery of its messages can break off.
  by_cases nobody : targets = []
  · subst nobody
    exact Meets.of_run (hosted.feed_idle system) trivial
  have somebody : targets.isEmpty = false := by simpa using nobody
  simp only [Engine.feed, somebody, Bool.false_eq_true, if_false]
  -- The window is opened, and its messages are delivered.
  have rows : stage.rows.read (stage.loading targets system) = stage.rows.read system := stage.read_observe ..
  have isOpen : stage.Open (stage.opening errors targets system) (stage.loading targets system) :=
    ⟨by rw [rows]; rfl, inHand.of_ids rfl (by rw [rows]), rfl⟩
  have messages : stage.above (Engine.lowestPosition targets) (stage.loading targets system) =
      stage.ahead targets system := by simp [above, ahead, loading]
  have processed : Meets (engine.process status limit (stage.opening errors targets system)) system
      (fun final after => final.unit = .clean (stage.rows.read after) ∧ stage.InHand final.targets after)
      fun abort last => ∃ front entry back window before, stage.ahead targets system = front ++ entry :: back ∧
        BreaksOff engine status (stage.opening errors targets system) (stage.loading targets system) abort last front
          entry window before := by
    refine hosted.note_meets (Meets.run_bind (hosted.load_run _ _) ?_)
    have delivered := @Hosts.deliver_breaks _ stage engine status hosted limit (stage.ahead targets system) _ _ isOpen
      calm
    rw [← messages] at delivered ⊢
    exact delivered
  refine processed.bind fun window middle ends => ?_
  obtain ⟨clean, inHand⟩ := ends
  split
  · -- At the end of the log nothing can break off any more.
    refine Ends.meets (Meets.bind (settleTargets_ends settles window.targets middle) fun next last ends => ?_)
    obtain ⟨rfl, -, rows⟩ := ends
    rw [clean, ← rows]
    refine Meets.bind (hosted.persist_ends (inHand.of_ids (ids_settled named _) (by rw [rows]))) fun _ _ _ => ?_
    exact Meets.pure trivial
  · exact Meets.pure trivial

/-- What a panic in a handler leaves, while the message after some others is offered: what is stored of every target is
what it had come to when positions were written last. -/
structure Setback (stage : Stage σ) (engine : Engine σ) (status : Status) (start : Window σ) (begun : σ) (abort : Abort)
    (last : σ) (front : List (Nat × Message)) (entry : Nat × Message) : Prop where
  uncaught : Panics engine abort
  saved : ∃ saved middle,
    engine.turns status start (front.take (checkpoint engine.config.flushInterval front.length)) begun =
      .ok saved middle ∧ Rows.ids (Target.all saved.targets) = Rows.ids (Target.all start.targets) ∧
    ∀ target ∈ saved.targets, (Rows.get? (stage.rows.read last) target.subscription.id).map unstamped =
      some target.subscription.unstamped
  /-- Only a subscription that is still fed as it is stored has lost anything. -/
  reached : ∃ window before, BreaksOff engine status start begun abort last front entry window before ∧
    ∀ target ∈ window.targets, ∀ row ∈ stage.rows.read last, row.id = target.subscription.id → row.status ≠ status →
      row.unstamped = target.subscription.unstamped
  /-- Of the messages before the one that broke off, few are to be seen again. -/
  again : ∀ interval, engine.config.flushInterval = some interval → ∀ target ∈ start.targets,
    ∀ row ∈ stage.rows.read last, row.id = target.subscription.id → row.status = status →
      (front.countP fun other => decide (row.position < other.1)) ≤ interval - 1

/-- Where delivery breaks off, a setback is all that is left of it. -/
theorem Hosts.breaksOff_setback (hosted : stage.Hosts engine) (working : status ≠ .error) {start window : Window σ}
    {begun last before : σ} {abort : Abort} {front : List (Nat × Message)} {entry : Nat × Message}
    (first : stage.Underway engine status start begun [] start begun)
    (breaks : BreaksOff engine status start begun abort last front entry window before) :
    stage.Setback engine status start begun abort last front entry := by
  -- The window that was written last says what is stored, and the offer that broke off stored nothing.
  obtain ⟨isOpen, calm, ids, -, -, saved, middle, run, savedIds, kept, remains⟩ :=
    hosted.turns_underway working first breaks.read
  obtain ⟨uncaught, rows⟩ := (hosted.offerAll_polls isOpen calm entry).of_error breaks.broke
  rw [← rows] at kept
  have distinct : (Rows.ids (stage.rows.read last)).Nodup := rows ▸ isOpen.inHand.stored
  -- The row that is stored under the id of a target is the one that was written of it.
  have stored : ∀ target ∈ saved.targets, ∀ row ∈ stage.rows.read last, row.id = target.subscription.id →
      row.unstamped = target.subscription.unstamped := by
    intro target member row present same
    obtain ⟨other, listed, stamped⟩ := List.mem_map.mp (kept target member).1
    have own : other = row :=
      Rows.eq_of_id distinct listed present ((Subscription.id_of_unstamped stamped).trans same.symm)
    exact own ▸ stamped
  refine ⟨uncaught, ⟨saved, middle, run, savedIds, fun target member => ?_⟩,
    ⟨window, before, breaks, fun target member row present same stopped => ?_⟩,
    fun interval set target member row present same fed => ?_⟩
  · obtain ⟨row, listed, stamped⟩ := List.mem_map.mp (kept target member).1
    rw [← Subscription.id_of_unstamped stamped, Rows.get?_of_mem distinct listed, Option.map_some, stamped]
  · -- A subscription that was no longer fed when it was written has stayed.
    obtain ⟨old, listed, own, stays⟩ := remains target member
    have written := stored old listed row present (same.trans own)
    rw [written, stays fun current => stopped ((Subscription.alike_of_unstamped written).status.trans current)]
  · -- A subscription that was fed then is past all messages before that.
    have listed : target.subscription.id ∈ Rows.ids (Target.all saved.targets) :=
      savedIds ▸ Rows.id_mem_ids (List.mem_map_of_mem member)
    obtain ⟨subscription, inAll, own⟩ := List.mem_map.mp listed
    obtain ⟨old, inSaved, rfl⟩ := List.mem_map.mp inAll
    have alike := Subscription.alike_of_unstamped (stored old inSaved row present (same.trans own.symm))
    have past := (kept old inSaved).2 (alike.status.symm.trans fed)
    rw [← alike.position] at past
    have none : (front.take (checkpoint engine.config.flushInterval front.length)).countP
        (fun other => decide (row.position < other.1)) = 0 :=
      List.countP_eq_zero.mpr fun other read => by simpa using past other read
    -- The others are those since the last write.
    have rest := List.countP_le_length (p := fun other : Nat × Message => decide (row.position < other.1))
      (l := front.drop (checkpoint engine.config.flushInterval front.length))
    have few := sub_checkpoint_le interval front.length
    rw [List.length_drop, set] at rest
    rw [← List.take_append_drop (checkpoint engine.config.flushInterval front.length) front, List.countP_append, none,
      Nat.zero_add, set]
    exact Nat.le_trans rest few

end Stage

/-- What comes before the messages of a boot or a run: subscriptions are found, retried and detached, and a boot sets up
the new ones. -/
def Operation.prelude (engine : Engine σ) : Operation → Action σ (List SubscriptionFailure × WorkUnit)
  | boot criteria _ => engine.prepare criteria
  | operation => do
    let unit ← engine.discover operation.criteria {}
    let unit ← engine.retry operation.criteria operation.retried unit
    let unit ← engine.markDetached operation.criteria operation.detached unit
    return ([], unit)

namespace Stage

variable {stage : Stage σ} {engine : Engine σ} {status : Status} {operation : Operation}

/-- What comes before the messages leaves a clean unit, or a setup hook panics. -/
theorem Hosts.prelude_meets (hosted : stage.Hosts engine)
    (behaves : ∀ subscriber ∈ engine.registry.subscribers, stage.Behaves subscriber)
    (fed : operation.fed = some status) {system : σ} (distinct : (Rows.ids (stage.rows.read system)).Nodup) :
    Meets (operation.prelude engine) system (fun result opened => result.2 = .clean (stage.rows.read opened) ∧
      (Rows.ids (stage.rows.read opened)).Nodup) fun abort _ => Panics engine abort := by
  -- A boot also sets up, and only the hooks of that can panic.
  cases operation with
  | boot criteria limit =>
    apply Meets.bind (hosted.discover_ends distinct (.refl _)).meets
    intro unit one discovered
    obtain rfl := discovered.clean
    apply Meets.bind (hosted.retry_ends discovered.distinct discovered.follows).meets
    intro unit two retried
    obtain rfl := retried.unit
    apply Meets.bind (hosted.markDetached_ends (by simp) retried.distinct retried.follows).meets
    intro unit three marked
    obtain rfl := marked.unit
    exact (hosted.setupNew_meets behaves marked.distinct marked.follows).weaken
      (fun _ _ prepared => ⟨prepared.clean, prepared.distinct⟩) fun _ _ early => early.1
  | run criteria limit =>
    -- Nothing is set up in a run.
    apply Meets.bind (hosted.discover_ends distinct (.refl _)).meets
    intro unit one discovered
    obtain rfl := discovered.clean
    apply Meets.bind (hosted.retry_ends discovered.distinct discovered.follows).meets
    intro unit two retried
    obtain rfl := retried.unit
    apply Meets.bind (hosted.markDetached_ends (by simp [Operation.detached]) retried.distinct retried.follows).meets
    intro unit three marked
    obtain rfl := marked.unit
    exact Meets.pure ⟨rfl, marked.distinct⟩
  | _ => cases fed

/-- After what comes before, a boot or a run feeds its targets. -/
theorem Hosts.perform_feeds (hosted : stage.Hosts engine) (fed : operation.fed = some status) {system : σ}
    {left : σ → Prop} {early : Abort → σ → Prop}
    (meets : ∀ limit idle change settled, stage.Settles change settled → (∀ row, (settled row).id = row.id) →
      Meets (do
        let (errors, unit) ← operation.prelude engine
        let (targets, unit) ← engine.targets operation.criteria status unit
        engine.feed status limit idle change errors targets unit) system (fun _ after => left after) early) :
    Meets (operation.perform engine) system (fun _ after => left after) early := by
  -- Only a boot and a run feed anybody, each in the lock of the store.
  cases operation with
  | boot criteria limit =>
    cases fed
    refine Meets.bind ?_ fun _ _ holds => Meets.pure holds
    rw [Engine.boot_eq]
    exact hosted.guarded_meets (meets limit _ _ caughtUp hosted.caughtUp_settles caughtUp_id)
  | run criteria limit =>
    cases fed
    refine Meets.bind ?_ fun _ _ holds => Meets.pure holds
    have fed := meets limit .nothingActive engine.keptUp keptUp hosted.keptUp_settles keptUp_id
    simp only [Operation.prelude, bind_assoc, pure_bind] at fed
    exact hosted.guarded_meets fed
  | _ => cases fed

/-- How a boot or a run breaks off on a panic that nobody caught. -/
inductive Disrupted (stage : Stage σ) (engine : Engine σ) (status : Status) (operation : Operation) (system : σ)
    (abort : Abort) (last : σ) : Prop
  /-- A setup hook panicked, before any message was loaded. -/
  | setup (broke : operation.prelude engine system = .error abort last)
  /-- A handler panicked, after some of the messages that had been loaded were dispatched. -/
  | handler (errors : List SubscriptionFailure) (targets : List (Target σ)) (opened : σ)
    (front : List (Nat × Message)) (entry : Nat × Message) (back : List (Nat × Message))
    (ready : operation.prelude engine system = .ok (errors, .clean (stage.rows.read opened)) opened)
    (found : targets = targetsIn engine operation.criteria status (stage.rows.read opened))
    (loaded : stage.ahead targets opened = front ++ entry :: back)
    (setback : stage.Setback engine status (stage.opening errors targets opened) (stage.loading targets opened) abort
      last front entry)

/-- Where a boot or a run breaks off while a message is dispatched, what is stored of every target is, but for its
stamp, what it had come to after those of the messages before that one which a write came after: all up to the last
multiple of the interval, and none without an interval. So few of them have to be seen again. -/
theorem Hosts.perform_disrupted (hosted : stage.Hosts engine)
    (behaves : ∀ subscriber ∈ engine.registry.subscribers, stage.Behaves subscriber)
    (fed : operation.fed = some status) {system last : σ} {abort : Abort}
    (distinct : (Rows.ids (stage.rows.read system)).Nodup)
    (broken : operation.perform engine system = .error abort last) :
    stage.Disrupted engine status operation system abort last := by
  -- It breaks off in what comes before the messages, or at one of them.
  have working : status ≠ .error := by rcases Operation.fed_cases fed with works | works <;> simp [works]
  have prelude := hosted.prelude_meets behaves fed distinct
  refine Meets.of_error (?_ : Meets _ system (fun _ _ => True)
    fun abort last => stage.Disrupted engine status operation system abort last) broken
  refine hosted.perform_feeds fed fun limit idle change settled settles named => ?_
  cases run : operation.prelude engine system with
  | error reason middle =>
    simp only [Meets, bind, EStateM.bind, run]
    exact .setup run
  | ok result opened =>
    obtain ⟨errors, unit⟩ := result
    obtain ⟨clean, distinct⟩ := prelude.of_ok run
    simp only at clean
    subst clean
    apply Meets.run_bind run
    apply Meets.run_bind (hosted.targets_run distinct)
    have calm : ∀ target ∈ targetsIn engine operation.criteria status (stage.rows.read opened),
        stage.Behaves target.subscriber := fun target member => behaves _ (registered_of_targetsIn target member)
    refine (hosted.feed_breaks settles named (inHand_targetsIn distinct) calm).weaken (fun _ _ _ => trivial) ?_
    intro reason final breaks
    obtain ⟨front, entry, back, window, before, ahead, breaks⟩ := breaks
    refine .handler errors _ opened front entry back run rfl ahead (hosted.breaksOff_setback working ?_ breaks)
    -- The targets are found as they are stored.
    have rows : stage.rows.read (stage.loading (targetsIn engine operation.criteria status (stage.rows.read opened))
      opened) = stage.rows.read opened := stage.read_observe ..
    exact underway_start ⟨by rw [rows]; rfl, (inHand_targetsIn distinct).of_ids rfl (by rw [rows]), rfl⟩ calm rfl
      fun target member => by rw [rows]; exact (mem_targetsIn.mp member).1

end Stage

namespace World

/-- How calls of a fragile subscriber end: from its fourth message on, each in a panic. -/
def fragile (calls : List CallNote) : HandlerOutcome :=
  if 4 ≤ (calls.filter fun note => decide (note.hook = .handler 0)).length then .panicked (.text "torn") else .done

/-- An engine that feeds a steady subscriber and a fragile one, writes after every second message, and catches no
panic. -/
def paired : Engine World :=
  feeder [reacting "steady" fun _ => .done, reacting "fragile" fragile] .never
    { flushInterval := some 2, catchPanics := false }

/-- A boot of that engine over five messages. -/
def ragged : Except Abort Unit × World :=
  ((Operation.boot {} none).perform paired).outcome (telling ["a", "b", "c", "d", "e"])

/-- It breaks off at the fourth message, and the first two are stored as handled. -/
theorem ragged_disrupted :
    ragged.1 = .error (.panicked (.text "torn")) ∧
      (stage.rows.read ragged.2).map (fun row => (row.id, row.position)) = [("steady", 2), ("fragile", 2)] ∧
      stage.Disrupted paired .booting (.boot {} none) (telling ["a", "b", "c", "d", "e"]) (.panicked (.text "torn"))
        ragged.2 := by
  -- The outcome is computed, and the general theorem says what it means for the rows.
  have behaves : ∀ subscriber ∈ paired.registry.subscribers, stage.Behaves subscriber := by
    intro subscriber member
    rcases List.mem_pair.mp member with rfl | rfl <;> exact (reacting_contained ..).behaves
  have broke : ragged.1 = .error (.panicked (.text "torn")) := by decide +kernel
  exact ⟨broke, by decide +kernel,
    Stage.Hosts.perform_disrupted (hosts ..) behaves rfl (by decide +kernel) (Action.run_of_outcome broke)⟩

end World

end EventFeed
