import EventFeed.Retry

/-! Delays on a clock that ends: where a span of time leads to, and from when on a retry is due. -/

namespace EventFeed

/-- A whole number that is no less than all 64-bit numbers is cut off at the greatest one. -/
theorem toInt_ofIntClamp_of_minValue_le {value : Int} (least : Int64.minValue.toInt ≤ value) :
    (Int64.ofIntClamp value).toInt = min value Int64.maxValue.toInt := by
  -- Above the greatest number the clamp is reached, and up to there it is not.
  rcases Int.le_total value Int64.maxValue.toInt with fits | above
  · rw [Int64.toInt_ofIntClamp least fits, Int.min_eq_left fits]
  · rw [Int.min_eq_right above]
    unfold Int64.ofIntClamp
    rw [dif_pos least]
    split
    · rename_i fits
      rw [Int64.toInt_ofIntLE]
      exact Int.le_antisymm fits above
    · rfl

namespace Timestamp

/-- The time at which a span is over that starts at some point: the sum in whole microseconds, or the end of time. -/
def passed (start : Timestamp) (span : Duration) : Int :=
  min (start.micros.toInt + span.micros) latest.micros.toInt

/-- The time at which a span is taken to be over: it counts as no longer than the time after the epoch. -/
def reached (start : Timestamp) (span : Duration) : Int :=
  min (start.micros.toInt + min (span.micros : Int) latest.micros.toInt) latest.micros.toInt

variable {start : Timestamp} {span : Duration}

/-- Shifting a point by a span leads to the time at which the span is taken to be over. -/
theorem micros_add (start : Timestamp) (span : Duration) : (start.add span).micros.toInt = start.reached span := by
  -- Neither the span nor the sum lies below the first point in time.
  have earliest : Int64.minValue.toInt ≤ 0 := by decide
  have latest_pos : 0 ≤ Int64.maxValue.toInt := by decide
  have start_in : Int64.minValue.toInt ≤ start.micros.toInt := Int64.minValue_le_toInt _
  have span_in : Int64.minValue.toInt ≤ (span.micros : Int) := Int.le_trans earliest (Int.natCast_nonneg _)
  unfold add reached latest
  rw [toInt_ofIntClamp_of_minValue_le, toInt_ofIntClamp_of_minValue_le span_in]
  rw [toInt_ofIntClamp_of_minValue_le span_in]
  omega

/-- No span is taken to be over too late. -/
theorem reached_le_passed (start : Timestamp) (span : Duration) : start.reached span ≤ start.passed span := by
  -- The cut can only make the end earlier.
  unfold reached passed
  omega

/-- A span is over when it is taken to be, unless it starts before the epoch and is longer than the time after it. -/
theorem reached_eq_passed_iff :
    start.reached span = start.passed span ↔ 0 ≤ start.micros.toInt ∨ (span.micros : Int) ≤ latest.micros.toInt := by
  -- The cut is reached just when the span is longer than the time after the epoch.
  unfold reached passed
  omega

/-- One point is not after another if its microseconds are not. -/
theorem notAfter_iff {left right : Timestamp} :
    left.notAfter right = true ↔ left.micros.toInt ≤ right.micros.toInt := by
  rw [notAfter, decide_eq_true_iff, Int64.le_iff_toInt_le]

end Timestamp

namespace Backoff

variable {backoff : Backoff} {now later : Timestamp} {row : Subscription}

/-- A retry is due when some are left, and the delay since the last write is taken to be over. -/
theorem isDue_iff :
    backoff.isDue now row = true ↔
      row.retryAttempt < backoff.maxAttempts ∧
        ∃ saved, row.lastSavedAt = some saved ∧ saved.reached (backoff.delay row.retryAttempt) ≤ now.micros.toInt := by
  -- The attempts are checked before the stamp is.
  unfold isDue
  split
  · rename_i spent
    simp [Nat.not_lt.mpr spent]
  · rename_i left
    cases stamp : row.lastSavedAt with
    | none => simp
    | some saved => simp [Timestamp.notAfter_iff, Timestamp.micros_add, Nat.lt_of_not_le left]

/-- A retry that is due stays due. -/
theorem isDue_mono (due : backoff.isDue now row = true) (onward : now.notAfter later = true) :
    backoff.isDue later row = true := by
  -- The clock has moved past the same point.
  obtain ⟨left, saved, stamp, passed⟩ := isDue_iff.mp due
  exact isDue_iff.mpr ⟨left, saved, stamp, Int.le_trans passed (Timestamp.notAfter_iff.mp onward)⟩

/-- Time is reckoned exactly but for one cut: a span that is longer than the time after the epoch counts as that time,
which brings the end forward just for a start before the epoch. A retry is approved exactly when some are left, the
subscription was written, and by this reckoning the delay since then is over; and an approval is never withdrawn. -/
theorem reckons_time (backoff : Backoff) :
    (∀ start span, (Timestamp.add start span).micros.toInt = start.reached span ∧
      start.reached span ≤ start.passed span ∧
      (start.reached span = start.passed span ↔
        0 ≤ start.micros.toInt ∨ (span.micros : Int) ≤ Timestamp.latest.micros.toInt)) ∧
    (∀ now row, (RetryStrategy.delayed backoff).approves now row = true ↔
      row.retryAttempt < backoff.maxAttempts ∧
        ∃ saved, row.lastSavedAt = some saved ∧ saved.reached (backoff.delay row.retryAttempt) ≤ now.micros.toInt) ∧
    ∀ now later row, (RetryStrategy.delayed backoff).approves now row = true → now.notAfter later = true →
      (RetryStrategy.delayed backoff).approves later row = true := by
  -- Spans, approvals and the passing of time are one lemma each.
  refine ⟨fun start span => ?reckoned, fun now row => ?approved, fun now later row due onward => ?kept⟩
  case reckoned => exact ⟨Timestamp.micros_add start span, Timestamp.reached_le_passed start span,
    Timestamp.reached_eq_passed_iff⟩
  case approved => exact isDue_iff
  case kept => exact isDue_mono due onward

/-- A subscription that was retried once and written at the epoch waits ten seconds, and is then approved for good. -/
theorem usual_reckons_time :
    let row : Subscription := { id := "mail", retryAttempt := 1, lastSavedAt := some .epoch }
    let usual := RetryStrategy.delayed {}
    usual.approves ⟨9999999⟩ row = false ∧ usual.approves ⟨10000000⟩ row = true ∧
      usual.approves .latest row = true := by
  -- The retry is due at ten seconds, and from there the general theorem goes on.
  intro row usual
  have due : usual.approves ⟨10000000⟩ row = true := by decide +kernel
  exact ⟨by decide +kernel, due, (reckons_time {}).2.2 ⟨10000000⟩ .latest row due (by decide)⟩

/-- A subscription that was written a microsecond before the epoch is to wait for 2 ^ 63 microseconds or more, which
are over at the last point in time; but its retry is approved a microsecond before. -/
theorem endless_approved_early :
    let saved : Timestamp := ⟨-1⟩
    let span : Duration := ⟨9223372036854775808000, by decide⟩
    let endless : Backoff := { baseDelay := Duration.longest, delayFactor := 1.0 }
    let row : Subscription := { id := "mail", lastSavedAt := some saved }
    let now : Timestamp := ⟨Int64.maxValue - 1⟩
    (saved.add span).micros.toInt = 9223372036854775806 ∧ saved.passed span = 9223372036854775807 ∧
      (RetryStrategy.delayed endless).approves now row = true ∧
      now.micros.toInt < saved.passed (endless.delay row.retryAttempt) := by
  decide +kernel

end Backoff
end EventFeed
