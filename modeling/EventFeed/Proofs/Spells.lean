import EventFeed.Proofs.History

/-! Spells: histories in which engines are asked only for what they are allowed to do, and what lasts through
them. -/

namespace EventFeed

open EventFeed.Action

namespace Stage

variable {σ : Type} {stage : Stage σ}

/-- The systems that come after a first one, when engines are asked only for what they are allowed to do: each
operation returns or breaks off on a panic that nobody caught. -/
inductive Spell (stage : Stage σ) (allowed : Engine σ → Operation → Prop) (first : σ) : σ → Prop where
  /-- Nothing has happened yet. -/
  | start : Spell stage allowed first first
  /-- Some engine is asked to do something that is allowed, and does it, or breaks off in the middle. -/
  | operate {system : σ} {engine : Engine σ} {operation : Operation} (spell : Spell stage allowed first system)
    (hosted : stage.Hosts engine)
    (behaves : ∀ subscriber ∈ engine.registry.subscribers, stage.Behaves subscriber)
    (permitted : allowed engine operation) : Spell stage allowed first ((operation.perform engine).outcome system).2
  /-- Between two operations messages may be appended. -/
  | meanwhile {system next : σ} (spell : Spell stage allowed first system)
    (onward : stage.Onward system next) : Spell stage allowed first next

variable {allowed : Engine σ → Operation → Prop} {start last : σ}

/-- What is allowed is a history. -/
theorem Spell.history (spell : stage.Spell allowed start last) : stage.History start last := by
  -- Step by step, what it was allowed by is left out.
  induction spell with
  | start => exact .start
  | operate _ hosted behaves _ ih => exact .operate ih hosted behaves _
  | meanwhile _ onward ih => exact .meanwhile ih onward

/-- What every small step of an allowed operation keeps lasts, if it also outlasts messages that are appended
between operations, and the loss of what was not stored when an operation broke off. -/
theorem Spell.keeps (spell : stage.Spell allowed start last) (holds : Chronicle → Prop)
    (steps : ∀ {engine operation one two}, allowed engine operation → holds one →
      Chronicle.Step engine operation one two → holds two)
    (grows : ∀ {chronicle : Chronicle} {log}, holds chronicle → chronicle.log <+: log → holds { chronicle with log })
    (forgets : ∀ {engine operation} {chronicle : Chronicle}, allowed engine operation →
      engine.config.catchPanics = false → holds chronicle → holds { chronicle with known := chronicle.stored })
    (distinct : (Rows.ids (stage.rows.read start)).Nodup)
    (first : holds (stage.chronicle [] (stage.rows.read start) start)) :
    ∃ loaded, holds (stage.chronicle loaded (stage.rows.read last) last) := by
  induction spell with
  | start => exact ⟨[], first⟩
  | @operate system engine operation before hosted behaves permitted ih =>
    obtain ⟨loaded, here⟩ := ih
    have single := (before.history.turns distinct).2
    have entered : stage.Entered engine operation (stage.chronicle loaded (stage.rows.read system) system) loaded
        system := ⟨single, .refl⟩
    have performed := hosted.perform_enters behaves entered
    unfold Meets at performed
    unfold outcome
    cases run : operation.perform engine system with
    | ok value after =>
      rw [run] at performed
      obtain ⟨read, entered⟩ := performed
      exact ⟨read, entered.recorded.keeps (fun holds step => steps permitted holds step) here⟩
    | error abort after =>
      -- What was known when the panic came, and is not stored, is forgotten.
      rw [run] at performed
      obtain ⟨⟨uncaught, -⟩, read, known, recorded⟩ := performed
      exact ⟨read, forgets permitted uncaught (recorded.keeps (fun holds step => steps permitted holds step) here)⟩
  | @meanwhile system next _ onward ih =>
    -- The rows stay, and only the log gets longer.
    obtain ⟨loaded, here⟩ := ih
    refine ⟨loaded, ?_⟩
    have grown := grows here onward.log
    simpa [chronicle, onward.rows, onward.journal] using grown

/-- What holds of the reports since the start and of the moment they lead to, and is kept in the same way, holds of
all reports since the start. -/
theorem Spell.tells (spell : stage.Spell allowed start last) (holds : List Notice → Chronicle → Prop)
    (steps : ∀ {engine operation notices one two}, allowed engine operation → holds notices one →
      Chronicle.Step engine operation one two →
      ∃ more, two.journal = one.journal ++ more ∧ holds (notices ++ more) two)
    (grows : ∀ {notices} {chronicle : Chronicle} {log}, holds notices chronicle → chronicle.log <+: log →
      holds notices { chronicle with log })
    (forgets : ∀ {engine operation notices} {chronicle : Chronicle}, allowed engine operation →
      engine.config.catchPanics = false → holds notices chronicle →
      holds notices { chronicle with known := chronicle.stored })
    (distinct : (Rows.ids (stage.rows.read start)).Nodup)
    (first : holds [] (stage.chronicle [] (stage.rows.read start) start)) :
    ∃ notices, stage.journal last = stage.journal start ++ notices ∧
      ∃ loaded, holds notices (stage.chronicle loaded (stage.rows.read last) last) := by
  -- What is kept is that there are such reports.
  obtain ⟨loaded, notices, journal, here⟩ := spell.keeps
    (fun chronicle => ∃ notices, chronicle.journal = stage.journal start ++ notices ∧ holds notices chronicle)
    (fun permitted before step => by
      obtain ⟨notices, journal, here⟩ := before
      obtain ⟨more, further, there⟩ := steps permitted here step
      exact ⟨notices ++ more, by rw [further, journal, List.append_assoc], there⟩)
    (fun before longer => by
      obtain ⟨notices, journal, here⟩ := before
      exact ⟨notices, journal, grows here longer⟩)
    (fun permitted uncaught before => by
      obtain ⟨notices, journal, here⟩ := before
      exact ⟨notices, journal, forgets permitted uncaught here⟩)
    distinct ⟨[], by simp [chronicle], first⟩
  exact ⟨notices, journal, loaded, here⟩

end Stage

end EventFeed
