import EventFeed.Subscription.Failure

/-! Causes: what is captured of an error holds the texts of the error and of everything that led to it, in order. -/

namespace EventFeed

/-- The texts of an error and of what led to it, the nearest first. -/
def ErrorChain.texts (error : ErrorChain) : List String := error.message :: error.sources

namespace CapturedError

/-- The outermost error is the first of its chain. -/
theorem level_mem_chain (error : CapturedError) : error.level ∈ error.chain := by
  cases error <;> simp [level, chain]

/-- The text of a captured error puts colons between the messages of its chain. -/
theorem text_eq (error : CapturedError) : error.text = ": ".intercalate (error.chain.map ErrorLevel.message) := by
  -- The chain and the text follow the same causes.
  induction error with
  | root level => simp [text, chain]
  | caused level cause ih =>
    -- A cause has a message of its own, so there is something behind the colon.
    obtain ⟨next, rest, split⟩ : ∃ next rest, cause.chain = next :: rest := by cases cause <;> exact ⟨_, _, rfl⟩
    rw [text, ih, chain, split]
    simp [String.append_assoc]

/-- A chain of messages is captured with nothing besides. -/
theorem chain_ofMessages (message : String) (sources : List String) :
    (ofMessages message sources).chain = (message :: sources).map fun text => { message := text } := by
  -- The message that is captured next is part of what the induction has to be about.
  induction sources generalizing message with
  | nil => rfl
  | cons source rest ih => simp only [ofMessages, chain, ih, List.map_cons]

/-- Only the first error of a chain is affected when another level is put in the outermost place. -/
theorem chain_withLevel (level : ErrorLevel) (error : CapturedError) :
    (error.withLevel level).chain = level :: error.chain.tail := by
  cases error <;> rfl

/-- The chain of a captured error: one error of the handler, and one for each of its causes. -/
theorem chain_ofHandler (error : HandlerError) :
    (ofHandler error).chain = ⟨error.text, error.code, error.location, error.trace⟩ ::
      error.error.sources.map fun source => { message := source } := by
  rw [ofHandler, chain_withLevel, ofError, chain_ofMessages, List.map_cons, List.tail_cons, HandlerError.text]

/-- Whatever a handler fails with is captured as a whole: the chain has the text of the error and of each of its
sources, in order and each once, and reads as these texts with colons between them; code, place and trace are those of
the outermost error, and no cause has any; and a subscription keeps this very value, under the text of the error. -/
theorem captures_causes (error : HandlerError) :
    let captured := ofHandler error
    captured.chain.map ErrorLevel.message = error.error.texts ∧
    captured.text = ": ".intercalate error.error.texts ∧
    (captured.level.code = error.code ∧ captured.level.location = error.location ∧
      captured.level.trace = error.trace) ∧
    (∀ cause ∈ captured.chain.tail, cause.code = none ∧ cause.location = none ∧ cause.trace = none) ∧
    ∀ previous, SubscriptionError.ofCaptured previous captured =
      { message := error.error.message, previous, context := some captured } := by
  -- All of it is read off the one equation for the chain.
  intro captured
  have chain : captured.chain = ⟨error.text, error.code, error.location, error.trace⟩ ::
      error.error.sources.map fun source => { message := source } := chain_ofHandler error
  have messages : captured.chain.map ErrorLevel.message = error.error.texts := by
    simp [chain, ErrorChain.texts, HandlerError.text, Function.comp_def]
  have outermost : captured.level = ⟨error.text, error.code, error.location, error.trace⟩ := by
    -- The chain begins with the outermost error.
    have first : captured.chain.head? = some captured.level := by cases captured <;> rfl
    rw [chain] at first
    exact (Option.some.inj first).symm
  refine ⟨messages, by rw [text_eq, messages], by simp [outermost], fun cause member => ?_, fun previous => ?_⟩
  · -- Causes have been captured with their texts alone.
    rw [chain, List.tail_cons] at member
    obtain ⟨source, -, rfl⟩ := List.mem_map.mp member
    exact ⟨rfl, rfl, rfl⟩
  · rw [SubscriptionError.ofCaptured, message, outermost, HandlerError.text]

end CapturedError

end EventFeed
