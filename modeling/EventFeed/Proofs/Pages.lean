import EventFeed.Proofs.World
import Mathlib.Data.List.Forall2

/-! A log in memory from outside: how its messages are numbered, read page by page, counted and archived. -/

namespace EventFeed

/-- What is asked of a log that changes it. -/
inductive LogRequest where
  /-- Messages are appended at some time. -/
  | append (now : Timestamp) (messages : List Message)
  /-- The live messages of an aggregate with a playhead below a bound are archived. -/
  | archive (name id : String) (bound : Nat)

namespace LogRequest

/-- The log after a request. -/
def perform (log : EventLog) : LogRequest → EventLog
  | append now messages => log.append now messages
  | archive name id bound => log.archive name id bound

/-- The messages that a request brings, with their stamps. -/
def brings : LogRequest → List Message
  | append now messages => messages.map (·.stamp now)
  | archive .. => []

end LogRequest

/-- The messages that are live among those of an aggregate. -/
def LogCriteria.live (name id : String) : LogCriteria :=
  { aggregateName := some name, aggregateId := some id, archived := some false }

/-- A message is live, belongs to an aggregate, and has a playhead below a bound. -/
def Message.Archivable (name id : String) (bound : Nat) (message : Message) : Prop :=
  message.headers.archived = false ∧ message.headers.aggregateName = some name ∧
    message.headers.aggregateId = some id ∧ ∃ playhead < bound, message.headers.playhead = some playhead

namespace EventLog

/-- The log after some requests. -/
def serve (log : EventLog) (requests : List LogRequest) : EventLog := requests.foldl LogRequest.perform log

/-- What the first pages of some length give together, one after another. -/
def pages (log : EventLog) (criteria : LogCriteria) (backwards : Bool) (length count : Nat) : List (Nat × Message) :=
  (List.range count).flatMap fun page =>
    log.load criteria { limit := some length, offset := some (page * length), backwards }

/-- A log holds the messages that were appended, in order but for their archiving, under the indices from one on; and
the next messages get the indices that are answered. -/
structure Numbers (log : EventLog) (appended : List Message) : Prop where
  indices : log.entries.map Prod.fst = List.range' 1 log.size
  messages : log.entries.map (·.2.withArchived false) = appended.map (·.withArchived false)
  answered : ∀ now messages, ∃ added, (log.append now messages).entries = log.entries ++ added ∧
    added.map Prod.fst = log.nextIndices messages ∧ added.map Prod.snd = messages.map (·.stamp now)

/-- A load gives the messages that are meant, each once and in order, as many as are counted; backwards it gives the
same ones the other way around; and in both directions the pages of any length give them all. -/
structure Reads (log : EventLog) (criteria : LogCriteria) : Prop where
  meant : ∀ entry, entry ∈ log.load criteria {} ↔ entry ∈ log.entries ∧ criteria.admits entry.1 entry.2 = true
  once : ((log.load criteria {}).map Prod.fst).Pairwise (· < ·)
  counted : log.count criteria = (log.load criteria {}).length
  reversed : log.load criteria { backwards := true } = (log.load criteria {}).reverse
  paged : ∀ backwards length count,
    log.pages criteria backwards length count = (log.load criteria { backwards }).take (count * length)
  whole : ∀ backwards length, 0 < length → ∀ count, log.count criteria ≤ count * length →
    log.pages criteria backwards length count = log.load criteria { backwards }

/-- An archiving flags the live messages of an aggregate with a playhead below a bound, and changes nothing else; it
answers how many it has changed, which is by how many the live messages of the aggregate have become fewer; and when
it is repeated it finds nothing to change. -/
structure Archives (log : EventLog) (name id : String) (bound : Nat) : Prop where
  flagged : List.Forall₂ (fun old new => new.1 = old.1 ∧
      (Message.Archivable name id bound old.2 ∧ new.2 = old.2.withArchived true ∨
        ¬ Message.Archivable name id bound old.2 ∧ new.2 = old.2))
    log.entries (log.archive name id bound).entries
  answered : log.archivableCount name id bound =
    (log.messages.zip (log.archive name id bound).messages).countP fun (old, new) =>
      old.headers.archived != new.headers.archived
  fewer : log.count (.live name id) =
    (log.archive name id bound).count (.live name id) + log.archivableCount name id bound
  repeated : (log.archive name id bound).archivableCount name id bound = 0 ∧
    (log.archive name id bound).archive name id bound = log.archive name id bound

variable {log : EventLog} {criteria : LogCriteria} {name id : String} {bound : Nat} {message : Message}

section Numbers

@[simp] theorem map_snd_entries (log : EventLog) : log.entries.map Prod.snd = log.messages := by
  simp [entries, Function.comp_def, List.zipIdx_map_fst]

/-- Appended messages follow the others, under the indices that are answered. -/
theorem entries_append (log : EventLog) (now : Timestamp) (messages : List Message) :
    ∃ added, (log.append now messages).entries = log.entries ++ added ∧
      added.map Prod.fst = log.nextIndices messages ∧ added.map Prod.snd = messages.map (·.stamp now) := by
  -- What is added are the stamped messages, numbered from the size of the log on.
  refine ⟨((messages.map (·.stamp now)).zipIdx (1 + log.size)).map Prod.swap, ?_, ?_, ?_⟩
  · simp [entries, append, size, List.zipIdx_append]
  · simp [nextIndices, Function.comp_def, Nat.add_comm]
  · simp [Function.comp_def, List.zipIdx_map_fst]

/-- But for their archiving, a request keeps the messages and adds those that it brings. -/
theorem messages_perform (log : EventLog) (request : LogRequest) :
    (request.perform log).messages.map (·.withArchived false) =
      (log.messages ++ request.brings).map (·.withArchived false) := by
  -- Appending adds to the list, and archiving sets flags in it.
  cases request with
  | append now messages => rfl
  | archive name id bound =>
    -- A message differs from an archived one in nothing else.
    simp only [LogRequest.perform, archive, LogRequest.brings, List.append_nil, List.map_map]
    refine List.map_congr_left fun message _ => ?_
    simp only [Function.comp_apply]
    split <;> rfl

/-- But for their archiving, requests keep the messages and add those that they bring. -/
theorem messages_serve (requests : List LogRequest) : ∀ log : EventLog,
    (log.serve requests).messages.map (·.withArchived false) =
      (log.messages ++ requests.flatMap LogRequest.brings).map (·.withArchived false) := by
  -- The induction is on the requests, over every log that they may meet.
  induction requests with
  | nil => simp [serve]
  | cons request requests ih =>
    intro log
    have rest := ih (request.perform log)
    rw [List.map_append, messages_perform] at rest
    simpa [serve] using rest

/-- Messages that were appended to an empty log are numbered in order. -/
theorem serve_numbers (requests : List LogRequest) :
    (serve {} requests).Numbers (requests.flatMap LogRequest.brings) where
  indices := indices_eq _
  messages := by
    have kept := messages_serve requests {}
    rw [← map_snd_entries, List.map_map] at kept
    exact kept
  answered := entries_append _

end Numbers

section Reads

/-- The pages of a list are its parts, one after another. -/
theorem flatMap_pages {α : Type} (items : List α) (length count : Nat) :
    ((List.range count).flatMap fun page => (items.drop (page * length)).take length) =
      items.take (count * length) := by
  -- One more page takes the next part.
  induction count with
  | zero => simp
  | succ count ih => rw [List.range_succ, List.flatMap_append, ih, Nat.succ_mul, List.take_add]; simp

/-- A load in one go gives what is meant, in one direction. -/
theorem load_whole (log : EventLog) (criteria : LogCriteria) (backwards : Bool) :
    log.load criteria { backwards } = if backwards then (log.select criteria).reverse else log.select criteria := rfl

/-- As many messages are loaded as are meant. -/
theorem length_load_whole (log : EventLog) (criteria : LogCriteria) (backwards : Bool) :
    (log.load criteria { backwards }).length = log.count criteria := by
  -- Reading backwards only reverses what is loaded.
  rw [load_whole, count]
  split
  · exact List.length_reverse
  · rfl

/-- The first pages give as many of the messages as they have room for. -/
theorem pages_eq_take (log : EventLog) (criteria : LogCriteria) (backwards : Bool) (length count : Nat) :
    log.pages criteria backwards length count = (log.load criteria { backwards }).take (count * length) :=
  flatMap_pages (log.load criteria { backwards }) length count

/-- Every log is read as it should be, whatever is meant. -/
theorem reads (log : EventLog) (criteria : LogCriteria) : log.Reads criteria where
  meant entry := List.mem_filter
  once := log.ascending.sublist (List.filter_sublist.map _)
  counted := rfl
  reversed := rfl
  paged := log.pages_eq_take criteria
  whole backwards length _ count room := by
    rw [pages_eq_take, List.take_of_length_le]
    rwa [length_load_whole]

/-- The last message is the one with the greatest index. -/
theorem load_latest_eq_singleton (log : EventLog) (entry : Nat × Message) :
    log.load {} .latest = [entry] ↔ entry ∈ log.entries ∧ ∀ other ∈ log.entries, other.1 ≤ entry.1 := by
  -- The entries ascend, so the last one of them is the greatest.
  have all : log.select {} = log.entries := List.filter_eq_self.mpr fun _ _ => rfl
  have loaded : log.load {} .latest = log.entries.getLast?.toList := by
    simp [load, LoadOptions.latest, LoadOptions.page, all, List.take_one]
  have ordered : log.entries.Pairwise (·.1 < ·.1) := List.pairwise_map.mp log.ascending
  rw [loaded]
  constructor
  · intro last
    obtain ⟨front, split⟩ := List.getLast?_eq_some_iff.mp (Option.toList_eq_singleton_iff.mp last)
    rw [split] at ordered ⊢
    obtain ⟨-, -, below⟩ := List.pairwise_append.mp ordered
    refine ⟨by simp, fun other member => ?_⟩
    rcases List.mem_append.mp member with before | same
    · exact Nat.le_of_lt (below other before entry (List.mem_singleton_self _))
    · exact Nat.le_of_eq (congrArg Prod.fst (List.mem_singleton.mp same))
  · rintro ⟨member, greatest⟩
    obtain ⟨front, back, split⟩ := List.append_of_mem member
    rw [split] at ordered greatest ⊢
    -- Nothing comes after the greatest index.
    obtain ⟨-, after, -⟩ := List.pairwise_append.mp ordered
    have none : back = [] := List.eq_nil_iff_forall_not_mem.mpr fun other behind =>
      Nat.not_lt.mpr (greatest other (by simp [behind])) ((List.pairwise_cons.mp after).1 other behind)
    simp [none]

end Reads

section Archives

/-- The messages that an archiving looks for are those that can be archived. -/
theorem archivable_iff : archivable name id bound message = true ↔ message.Archivable name id bound := by
  simp [archivable, Message.Archivable, and_assoc, Option.any_eq_true, and_comm]

/-- The live messages of an aggregate are counted wherever they are. -/
theorem count_live (log : EventLog) (name id : String) :
    log.count (.live name id) = log.messages.countP ((LogCriteria.live name id).admits 0) := by
  -- Nothing in the criteria depends on the index.
  rw [← map_snd_entries log, List.countP_map, count, select, ← List.countP_eq_length_filter]
  rfl

/-- One message after an archiving. -/
def flag (name id : String) (bound : Nat) (message : Message) : Message :=
  if archivable name id bound message then message.withArchived true else message

@[simp] theorem messages_archive (log : EventLog) (name id : String) (bound : Nat) :
    (log.archive name id bound).messages = log.messages.map (flag name id bound) := rfl

/-- A message that was looked at is not archived again. -/
theorem archivable_flag (name id : String) (bound : Nat) (message : Message) :
    archivable name id bound (flag name id bound message) = false := by
  -- An archived message is not live, and one that was not due is still not due.
  unfold flag
  split
  · simp [archivable, Message.withArchived]
  · rename_i spared
    simpa using spared

/-- A message that was looked at stays as it is. -/
theorem flag_comp_flag (name id : String) (bound : Nat) :
    flag name id bound ∘ flag name id bound = flag name id bound := by
  -- After the first look nothing is due.
  funext message
  rw [Function.comp_apply, flag, if_neg (by simp [archivable_flag])]

/-- The entries of an archived log are those of the log, each archived where it can be. -/
theorem entries_archive (log : EventLog) (name id : String) (bound : Nat) :
    (log.archive name id bound).entries =
      log.entries.map fun (index, message) => (index, flag name id bound message) := by
  simp [entries, List.zipIdx_map, Function.comp_def]

/-- Every log is archived as it should be. -/
theorem archives (log : EventLog) (name id : String) (bound : Nat) : log.Archives name id bound where
  flagged := by
    -- Each message keeps its index, and is flagged or left.
    rw [entries_archive, List.forall₂_map_right_iff]
    refine List.forall₂_same.mpr fun (index, message) _ => ⟨rfl, ?_⟩
    by_cases due : archivable name id bound message = true
    · exact Or.inl ⟨archivable_iff.mp due, if_pos due⟩
    · exact Or.inr ⟨fun meant => due (archivable_iff.mpr meant), if_neg due⟩
  answered := by
    rw [messages_archive, archivableCount]
    induction log.messages with
    | nil => rfl
    | cons message messages ih =>
      rw [List.map_cons, List.zip_cons_cons, List.countP_cons, List.countP_cons, ih]
      by_cases due : archivable name id bound message = true
      · simp [flag, due, (archivable_iff.mp due).1, Message.withArchived]
      · simp [flag, due]
  fewer := by
    rw [count_live, count_live, messages_archive, archivableCount]
    induction log.messages with
    | nil => rfl
    | cons message messages ih =>
      simp only [List.map_cons, List.countP_cons, ih]
      by_cases due : archivable name id bound message = true
      · obtain ⟨live, own, same, -⟩ := archivable_iff.mp due
        simp [flag, due, LogCriteria.admits, LogCriteria.live, live, own, same, Message.withArchived]
        omega
      · simp [flag, due]
        omega
  repeated := by
    refine ⟨?_, ?_⟩
    · simp [archivableCount, archivable_flag]
    · show (⟨(log.messages.map (flag name id bound)).map (flag name id bound)⟩ : EventLog) =
        ⟨log.messages.map (flag name id bound)⟩
      rw [List.map_map, flag_comp_flag]

end Archives

/-- After any requests a log holds what was appended, in order and under the indices from one on; whatever is meant is
read in both directions, in one go or page by page, and counted; the last message is the one with the greatest index;
and any aggregate is archived up to any playhead. -/
theorem serve_consistent (requests : List LogRequest) :
    let log := serve {} requests
    log.Numbers (requests.flatMap LogRequest.brings) ∧ (∀ criteria, log.Reads criteria) ∧
      (∀ entry, log.load {} .latest = [entry] ↔ entry ∈ log.entries ∧ ∀ other ∈ log.entries, other.1 ≤ entry.1) ∧
      ∀ name id bound, log.Archives name id bound :=
  ⟨serve_numbers requests, reads _, load_latest_eq_singleton _, archives _⟩

/-- Two messages of one aggregate, the first of them archived in between, are read backwards in pages of one message;
another archiving up to the same playhead finds nothing, and one up to a later playhead finds the other message. -/
theorem shelved_serve_consistent :
    let requests : List LogRequest :=
      [.append .epoch [(World.plainMessage "a").withAggregate "profile" "1" 1], .archive "profile" "1" 2,
        .append .latest [(World.plainMessage "b").withAggregate "profile" "1" 2]]
    let log := serve {} requests
    log.pages {} true 1 2 = log.load {} { backwards := true } ∧ log.count {} = 2 ∧
      log.count (.live "profile" "1") = 1 ∧ log.archivableCount "profile" "1" 2 = 0 ∧
      log.archivableCount "profile" "1" 3 = 1 ∧ (log.archive "profile" "1" 3).count (.live "profile" "1") = 0 := by
  intro requests log
  -- What the log holds is computed, and the general theorem says what the pages and the archiving make of it.
  obtain ⟨-, read, -, archived⟩ := serve_consistent requests
  have live : log.count (.live "profile" "1") = 1 := by decide
  have found : log.archivableCount "profile" "1" 3 = 1 := by decide
  have fewer : log.count (.live "profile" "1") =
      (log.archive "profile" "1" 3).count (.live "profile" "1") + log.archivableCount "profile" "1" 3 :=
    (archived "profile" "1" 3).fewer
  exact ⟨(read {}).whole true 1 (by decide) 2 (by decide), by decide, live, by decide, found, by omega⟩

end EventLog
end EventFeed
