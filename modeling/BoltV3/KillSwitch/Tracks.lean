import BoltV3.KillSwitch.Accounting
import BoltV3.Lib.Cumulative

/-!
# Positions as tracks

The two maps of cumulative observations hold one `Track` for each position: `live` where the
position is open, `closed` where it is closed. Booking an observation is a step of its track.
-/

namespace BoltV3.KillSwitch

open Lib Cumulative

/-- The reading of a cumulative observation. -/
def PositionRealizedPnlObservation.reading (observation : PositionRealizedPnlObservation) :
    Reading ℚ Nat :=
  ⟨observation.observed.realizedPnl.value, observation.observed.observedAtUnixNanos,
    observation.closesPosition⟩

namespace LossState

/-- The track of a position. -/
def track (loss : LossState) (positionId : String) : Track ℚ Nat :=
  match loss.cumulativePositionPnl[positionId]?, loss.closedPositionPnl[positionId]? with
  | some entry, _ => .live entry.realizedPnl.value entry.lastObservedAtUnixNanos
  | none, some entry => .closed entry.realizedPnl.value entry.lastObservedAtUnixNanos
  | none, none => .unseen

variable {loss : LossState} {observation : PositionRealizedPnlObservation}

/-- The track of the observed position has its reading. -/
theorem track_place_self (loss : LossState) (observation : PositionRealizedPnlObservation) :
    (loss.place observation).track observation.positionId =
      if observation.closesPosition then
        .closed observation.reading.value observation.reading.time
      else .live observation.reading.value observation.reading.time := by
  obtain ⟨hopen, hclosed⟩ := getElem?_place loss observation observation.positionId
  unfold track
  rw [hopen, hclosed, if_pos rfl, if_pos rfl]
  cases observation.closesPosition <;> rfl

theorem track_place_of_ne {positionId : String} (h : observation.positionId ≠ positionId) :
    (loss.place observation).track positionId = loss.track positionId := by
  obtain ⟨hopen, hclosed⟩ := getElem?_place loss observation positionId
  rw [if_neg h] at hopen hclosed
  unfold track
  rw [hopen, hclosed]

/-- An observation repeats an entry when its reading does. -/
theorem repeats_iff (entry : CumulativePositionPnl) : observation.repeats entry = true ↔
      observation.reading.repeats entry.realizedPnl.value entry.lastObservedAtUnixNanos := by
  unfold PositionRealizedPnlObservation.repeats Reading.repeats
  simp only [Bool.or_eq_true, decide_eq_true_eq, Bool.and_eq_true, beq_iff_eq,
    Decimal.numEq_iff_value]
  rfl

/-- **The track takes an observation that is not ignored**, and counts what is new of it. -/
theorem take_track (hdisjoint : loss.Disjoint) :
    (loss.track observation.positionId).take observation.reading =
      if loss.ignores observation then none
      else some ((loss.place observation).track observation.positionId,
        observation.reading.value - ((loss.counted observation).map Decimal.value).getD 0) := by
  have hclosing : observation.reading.closing = observation.closesPosition := rfl
  rw [track_place_self]
  unfold ignores track counted Track.take
  rcases hopen : loss.cumulativePositionPnl[observation.positionId]? with _ | entry
  · rcases hclosed : loss.closedPositionPnl[observation.positionId]? with _ | entry
    · cases hcloses : observation.closesPosition <;> simp [hclosing, hcloses]
    · cases hcloses : observation.closesPosition with
      | true =>
        simp only [hclosing, hcloses, if_true, Bool.or_eq_true, decide_eq_true_eq,
          Decimal.numEq_iff_value]
        rfl
      | false =>
        simp [hclosing, hcloses, repeats_iff]
  · -- an open position is not closed
    have hmem := SortedMap.mem_iff_getElem?.mpr ⟨entry, hopen⟩
    rw [SortedMap.notMem_iff_getElem?.mp (hdisjoint _ hmem)]
    cases hcloses : observation.closesPosition with
    | true =>
      simp only [hclosing, hcloses, if_true, decide_eq_true_eq]
      rfl
    | false => simp [hclosing, hcloses, repeats_iff]

theorem step_of_ignores (hdisjoint : loss.Disjoint) (h : loss.ignores observation = true) :
    (loss.track observation.positionId).step observation.reading =
      (loss.track observation.positionId, 0) := by
  unfold Track.step
  rw [take_track hdisjoint, h]
  rfl

theorem step_of_not_ignores (hdisjoint : loss.Disjoint) (h : loss.ignores observation = false) :
    (loss.track observation.positionId).step observation.reading =
      ((loss.place observation).track observation.positionId,
        observation.reading.value - ((loss.counted observation).map Decimal.value).getD 0) := by
  unfold Track.step
  rw [take_track hdisjoint, h]
  rfl

/-- A close that has nothing new was counted with its value. -/
theorem counted_of_moved (h : loss.ignores observation = false)
    (hcloses : observation.closesPosition = true)
    (hmoved : (loss.cumulativePositionPnl[observation.positionId]?).any observation.repeats =
      true) :
    ((loss.counted observation).map Decimal.value).getD 0 = observation.reading.value := by
  unfold ignores at h
  rw [if_pos hcloses] at h
  unfold counted
  rcases hopen : loss.cumulativePositionPnl[observation.positionId]? with _ | entry
  · rw [hopen] at hmoved
    cases hmoved
  · rw [hopen] at h hmoved
    have htime := of_decide_eq_false h
    exact ((repeats_iff entry).mp hmoved).resolve_left htime |>.2.symm

section

variable [arith : DecimalArith] {after : LossState}

theorem bookCumulative_track (hdisjoint : loss.Disjoint)
    (happlied : (loss.bookCumulative observation).applied loss = some after) :
    after.track observation.positionId =
      ((loss.track observation.positionId).step observation.reading).1 ∧
    ∀ positionId, observation.positionId ≠ positionId →
      after.track positionId = loss.track positionId := by
  unfold bookCumulative at happlied
  cases hignores : loss.ignores observation with
  | true =>
    rw [if_pos hignores] at happlied
    cases happlied
    rw [step_of_ignores hdisjoint hignores]
    exact ⟨rfl, fun _ _ => rfl⟩
  | false =>
    rw [if_neg (by simp [hignores])] at happlied
    rw [step_of_not_ignores hdisjoint hignores]
    -- every other booking places the position
    have hplaced : after.track = (loss.place observation).track := by
      split_ifs at happlied
      · cases happlied
        rfl
      · split at happlied
        · obtain ⟨total, -, rfl⟩ := Option.map_eq_some_iff.mp happlied
          rfl
        · split at happlied
          · cases happlied
          · obtain ⟨total, -, rfl⟩ := Option.map_eq_some_iff.mp happlied
            rfl
    rw [hplaced]
    exact ⟨rfl, fun _ h => track_place_of_ne h⟩

/-- **A cumulative observation is a step of its track**, and adds to the daily total what is new,
where neither of them is rounded. -/
theorem book_track {fits : ℚ → Prop} (exact : arith.ExactOn fits) (hdisjoint : loss.Disjoint)
    (hcumulative : observation.cumulativeRealizedPnl = true)
    (happlied : (loss.book observation).applied loss = some after)
    (hnew : fits ((loss.track observation.positionId).step observation.reading).2)
    (htotal : fits (loss.dailyRealizedPnl.value +
      ((loss.track observation.positionId).step observation.reading).2)) :
    after.track observation.positionId =
      ((loss.track observation.positionId).step observation.reading).1 ∧
    (∀ positionId, observation.positionId ≠ positionId →
      after.track positionId = loss.track positionId) ∧
    after.dailyRealizedPnl.value = loss.dailyRealizedPnl.value +
      ((loss.track observation.positionId).step observation.reading).2 := by
  unfold book at happlied
  rw [if_pos hcumulative] at happlied
  obtain ⟨hself, hother⟩ := bookCumulative_track hdisjoint happlied
  refine ⟨hself, hother, ?_⟩
  obtain ⟨-, -, -, hdaily⟩ := loss.place_kept observation
  have hbooked : ∀ {realizedPnl : Decimal},
      (Booking.booked (loss.place observation) realizedPnl).applied loss = some after →
      fits (loss.dailyRealizedPnl.value + realizedPnl.value) →
      after.dailyRealizedPnl.value = loss.dailyRealizedPnl.value + realizedPnl.value := by
    intro realizedPnl h hfits
    obtain ⟨total, hadd, rfl⟩ := Option.map_eq_some_iff.mp h
    rw [← hdaily] at hfits ⊢
    exact checkedAs_value (exact.add _ _ hfits) hadd
  unfold bookCumulative at happlied
  cases hignores : loss.ignores observation with
  | true =>
    rw [if_pos hignores] at happlied
    cases happlied
    rw [step_of_ignores hdisjoint hignores]
    exact (add_zero _).symm
  | false =>
    rw [if_neg (by simp [hignores])] at happlied
    rw [step_of_not_ignores hdisjoint hignores] at hnew htotal ⊢
    split_ifs at happlied with hmoved
    · cases happlied
      obtain ⟨hcloses, hmoved⟩ := Bool.and_eq_true_iff.mp hmoved
      rw [counted_of_moved hignores hcloses hmoved, sub_self, add_zero, hdaily]
    · split at happlied
      · rename_i hcounted
        rw [hcounted, Option.map_none, Option.getD_none, sub_zero] at htotal ⊢
        exact hbooked happlied htotal
      · rename_i previous hcounted
        split at happlied
        · cases happlied
        · rename_i realizedPnl hsub
          rw [hcounted] at hnew htotal ⊢
          have hvalue := checkedAs_value (exact.sub _ _ hnew) hsub
          rw [hbooked happlied (hvalue ▸ htotal), hvalue]
          rfl

/-- An adjustment is no reading of a track. -/
theorem book_track_adjusted (hadjusted : observation.cumulativeRealizedPnl = false)
    (happlied : (loss.book observation).applied loss = some after) : after.track = loss.track := by
  unfold book at happlied
  rw [if_neg (by simp [hadjusted])] at happlied
  split at happlied
  · cases happlied
  · split_ifs at happlied
    · cases happlied
      rfl
    · obtain ⟨total, -, rfl⟩ := Option.map_eq_some_iff.mp happlied
      rfl

end

end LossState

end BoltV3.KillSwitch
