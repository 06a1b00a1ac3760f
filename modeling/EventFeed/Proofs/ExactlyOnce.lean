import EventFeed.Proofs.Chronicles
import EventFeed.Proofs.Progress
import EventFeed.Proofs.World

/-! Exactly once: in every state that can be reached, each subscriber has handled all messages up to
its position, in order. -/

namespace EventFeed

open EventFeed.Action

namespace Stage

variable {σ : Type} {stage : Stage σ}

/-- The states that can be reached from an empty store while every panic is caught. -/
inductive Reachable (stage : Stage σ) : σ → Prop where
  /-- Nothing is stored at the beginning. -/
  | start {system : σ} (empty : stage.rows.read system = []) : Reachable stage system
  /-- Some engine is asked to do something. -/
  | operate {system : σ} {engine : Engine σ} (reachable : Reachable stage system)
    (hosted : stage.Hosts engine) (caught : engine.config.catchPanics = true)
    (behaves : ∀ subscriber ∈ engine.registry.subscribers, stage.Behaves subscriber)
    (operation : Operation) : Reachable stage ((operation.perform engine).outcome system).2
  /-- Between two operations messages may be appended. -/
  | meanwhile {system next : σ} (reachable : Reachable stage system) (onward : stage.Onward system next) :
    Reachable stage next

/-- In every state that can be reached, ids are distinct, and every row fits what was reported of it. -/
theorem Reachable.progressing {system : σ} (reachable : stage.Reachable system) :
    (Rows.ids (stage.rows.read system)).Nodup ∧
      Progressing (fun _ => {}) [] (stage.ledger (stage.rows.read system) system) := by
  -- A state is reached by operations and by messages that are appended.
  induction reachable with
  | @start system empty =>
    -- Without rows there is nothing to fit.
    rw [empty]
    exact ⟨List.nodup_nil, stage.ascending system, stage.journal system, rfl, by simp [ledger]⟩
  | @operate system engine _ hosted caught behaves operation ih =>
    -- A caught panic is no early end, so the operation is a sequence of small steps.
    obtain ⟨distinct, progressing⟩ := ih
    obtain ⟨_, after, run, traced⟩ :=
      (ends_of_caught caught (hosted.perform_traced behaves ⟨distinct, .refl _⟩ operation)).run
    have reached : ((operation.perform engine).outcome system).2 = after := by simp [outcome, run]
    rw [reached]
    exact ⟨traced.distinct, progressing.follows traced.follows⟩
  | @meanwhile system next _ onward ih =>
    obtain ⟨distinct, progressing⟩ := ih
    rw [onward.rows]
    exact ⟨distinct, progressing.follows (onward.follows (.refl _))⟩

/-- Every subscriber has handled the messages from its start up to its position, each once and in
order, and failed on next ones only. -/
theorem Reachable.completed_once {system : σ} (reachable : stage.Reachable system) :
    ∀ row ∈ stage.rows.read system,
      let tally := ({} : Tally).noteAll row.id (stage.journal system)
      tally.completed.Pairwise (· < ·) ∧
      tally.completed = (stage.indices system).filter
        (fun index => decide (tally.start < index ∧ index ≤ row.position)) ∧
      ∀ failure ∈ tally.failures,
        IsLeast {index | index ∈ stage.indices system ∧ failure.2 < index} failure.1 := by
  -- The handled indices are a part of the log's, and so they are in its order.
  intro row member tally
  obtain ⟨ascending, notices, journal, fits⟩ := reachable.progressing.2
  obtain rfl : stage.journal system = notices := journal
  have own := fits row member
  refine ⟨?_, own.completed, own.failures⟩
  have shape : tally.completed = between (stage.log system) tally.start row.position := own.completed
  rw [shape]
  exact ascending.filter _

end Stage

namespace World

/-- Two messages are fed to a shaky subscriber and to a steady one, and a
third message after a retry. -/
def rehearsed : World :=
  let engine := feeder pair .always
  let first := (((Operation.boot {} none).perform engine).outcome (telling ["a", "b"])).2
  (((Operation.boot {} (some 5)).perform engine).outcome (first.append [plainMessage "c"])).2

/-- A subscriber that failed once has handled every message once. -/
theorem rehearsed_completed : ∃ row ∈ stage.rows.read rehearsed,
    let tally := ({} : Tally).noteAll row.id (stage.journal rehearsed)
    row.position = 3 ∧ tally.failures = [(2, 1)] ∧ tally.completed.Pairwise (· < ·) ∧
    tally.completed = (stage.indices rehearsed).filter
      (fun index => decide (tally.start < index ∧ index ≤ row.position)) ∧
    ∀ failure ∈ tally.failures,
      IsLeast {index | index ∈ stage.indices rehearsed ∧ failure.2 < index} failure.1 := by
  -- Two engines are asked to boot, and a message is appended in between.
  have behaves : ∀ subscriber ∈ pair, stage.Behaves subscriber :=
    fun subscriber member => (pair_contained subscriber member).behaves
  have reachable : stage.Reachable rehearsed :=
    .operate (.meanwhile (.operate (.start rfl) (hosts ..) rfl behaves (.boot {} none)) (append_onward ..))
      (hosts ..) rfl behaves (.boot {} (some 5))
  have stored : (stage.rows.read rehearsed).map (fun row => (row.id, row.position)) =
      [("steady", 2), ("shaky", 3)] := by decide +kernel
  obtain ⟨row, member, shape⟩ : ∃ row ∈ stage.rows.read rehearsed, (row.id, row.position) = ("shaky", 3) :=
    List.mem_map.mp (stored ▸ by simp)
  have failed : (({} : Tally).noteAll "shaky" (stage.journal rehearsed)).failures = [(2, 1)] := by
    decide +kernel
  obtain ⟨id, position⟩ := Prod.mk.inj shape
  exact ⟨row, member, position, id ▸ failed, Stage.Reachable.completed_once reachable row member⟩

end World

end EventFeed
