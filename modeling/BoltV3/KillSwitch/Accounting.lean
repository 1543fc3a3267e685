import BoltV3.KillSwitch.Writes

/-!
# The accounting of position observations

`record_position_realized_pnl` interleaves what an observation does to the loss state with writes
and early returns. Here the first is a function of the loss state and the observation,
`LossState.book`, and the rest is the method that records a `Booking`.

* A position is in one of the two maps at most, so the removals the methods make where there is
  nothing to remove do not show: every observation that counts puts the position in the map it
  belongs to and takes it out of the other (`LossState.place`).
* A loss state is `Coherent` when the entries of its maps are dated no later than its bucket. In
  such a state an observation that is ignored changes nothing, although the bucket, the pruning and
  the settlement currency come before the decision to ignore it.
-/

namespace BoltV3.KillSwitch

open Lib Loss LossState SortedMap
open Lib.Action (Ends)
open Std (ExtTreeMap)

/-! ## Bookings -/

/-- What an observation of a position comes to. -/
inductive Booking
  /-- It is old or repeats what is known. -/
  | ignored
  /-- It is an adjustment without an event id. -/
  | unidentified
  /-- What is new of it cannot be represented. -/
  | overflow (loss : LossState)
  /-- It closes a position without anything new. -/
  | moved (loss : LossState)
  | booked (loss : LossState) (realizedPnl : Decimal)

/-- The state after a booking that is written. -/
def Booking.loss? : Booking → Option LossState
  | .moved loss | .booked loss _ => some loss
  | .ignored | .unidentified | .overflow _ => none

namespace LossState

variable (loss : LossState)

/-- `guard_settlement_currency`, where it does not fail. -/
def settle (currency : String) : Option LossState :=
  match loss.settlementCurrency with
  | none => some { loss with settlementCurrency := some currency }
  | some existing => if existing = currency then some loss else none

/-- The loss state in the bucket and the currency of an observation. -/
def prepare (observedAtUnixNanos : Nat) (currency : String) : Option LossState :=
  (loss.acceptObservationBucket observedAtUnixNanos).bind (·.settle currency)

variable (observation : PositionRealizedPnlObservation)

/-- The observed position in the map it belongs to. -/
def place : LossState :=
  if observation.closesPosition then
    { loss.withClosed observation with
      cumulativePositionPnl := loss.cumulativePositionPnl.erase observation.positionId }
  else
    { loss with
      cumulativePositionPnl :=
        loss.cumulativePositionPnl.insert observation.positionId observation.entry
      closedPositionPnl := loss.closedPositionPnl.erase observation.positionId }

/-- Whether a cumulative observation is ignored. -/
def ignores : Bool :=
  if observation.closesPosition then
    match loss.cumulativePositionPnl[observation.positionId]?,
      loss.closedPositionPnl[observation.positionId]? with
    | some previous, _ =>
      decide (observation.observed.observedAtUnixNanos < previous.lastObservedAtUnixNanos)
    | none, some previous =>
      decide (observation.observed.observedAtUnixNanos < previous.lastObservedAtUnixNanos) ||
        decide (observation.observed.realizedPnl.NumEq previous.realizedPnl)
    | none, none => false
  else
    (loss.closedPositionPnl[observation.positionId]?).any observation.repeats ||
      (loss.cumulativePositionPnl[observation.positionId]?).any observation.repeats

/-- What has been counted of the position, against which the observation is new. -/
def counted : Option Decimal :=
  match loss.cumulativePositionPnl[observation.positionId]? with
  | some previous => some previous.realizedPnl
  | none =>
    if observation.closesPosition then
      (loss.closedPositionPnl[observation.positionId]?).map (·.realizedPnl)
    else some .zero

section

variable [DecimalArith]

/-- A cumulative observation in its bucket. -/
def bookCumulative (loss : LossState) (observation : PositionRealizedPnlObservation) : Booking :=
  if loss.ignores observation then .ignored
  else if observation.closesPosition &&
      (loss.cumulativePositionPnl[observation.positionId]?).any observation.repeats then
    .moved (loss.place observation)
  else
    match loss.counted observation with
    | none => .booked (loss.place observation) observation.observed.realizedPnl
    | some previous =>
      match DecimalArith.checkedSub observation.observed.realizedPnl previous with
      | none => .overflow (loss.place observation)
      | some realizedPnl => .booked (loss.place observation) realizedPnl

/-- A position observation in its bucket. -/
def book (loss : LossState) (observation : PositionRealizedPnlObservation) : Booking :=
  if observation.cumulativeRealizedPnl then loss.bookCumulative observation
  else
    match observation.eventId with
    | none => .unidentified
    | some key =>
      if loss.adjustedPositionPnl.contains key then .ignored
      else
        .booked
          { loss with adjustedPositionPnl := loss.adjustedPositionPnl.insert key observation.entry }
          observation.observed.realizedPnl

end

/-- A position is open or closed, not both. -/
def Disjoint (loss : LossState) : Prop :=
  ∀ positionId ∈ loss.cumulativePositionPnl, positionId ∉ loss.closedPositionPnl

end LossState

/-! ## The methods record bookings -/

section

variable [DecimalArith] [HaltIds] [codec : StateCodec]
  (observation : PositionRealizedPnlObservation)

/-- The rest of `record_position_realized_pnl`, given what the observation comes to. -/
def Booking.record :
    Booking → Act (Option KillSwitchState)
  | .ignored => pure none
  | .unidentified => do
    let s ← get
    let reason := "adjusted position realized-PnL observation missing event_id"
    failClosed (failedFrom s.protection.state reason) reason
  | .overflow loss => do
    updateLoss fun _ => loss
    throw .panic
  | .moved loss => do
    updateLoss fun _ => loss
    persistRuntimeSnapshotOrFailClosed
    pure none
  | .booked loss realizedPnl => do
    updateLoss fun _ => loss
    recordCurrentBucketRealizedPnl { observation.observed with realizedPnl := realizedPnl }

/-- What is new of an observation, recorded. -/
def recordNew : Act (Option KillSwitchState) := do
  match ← newRealizedPnl observation with
  | none => pure none
  | some observed => recordCurrentBucketRealizedPnl observed

/-- What is new, if anything, is recorded. -/
abbrev recordSome : Option RealizedPnlObservation → Act (Option KillSwitchState)
  | none => pure none
  | some observed => recordCurrentBucketRealizedPnl observed

variable {observation} {s : Session}

/-- The session with another loss state. -/
def Session.withLoss (s : Session) (loss : LossState) : Session :=
  { s with protection := { s.protection with loss := loss } }

theorem exec_newPart (s : Session) (observation : PositionRealizedPnlObservation)
    (previous : Decimal) (loss : LossState) :
    (newPart observation previous >>= recordSome).exec (s.withLoss loss) =
    (Booking.record observation
      (match DecimalArith.checkedSub observation.observed.realizedPnl previous with
        | none => .overflow loss
        | some realizedPnl => .booked loss realizedPnl)).exec s := by
  unfold newPart
  rcases DecimalArith.checkedSub observation.observed.realizedPnl previous with _ | realizedPnl
  · rfl
  · rfl

theorem exec_bookClosed (hcloses : observation.closesPosition = true) :
    (recordClosedPositionObservation observation >>= recordSome).exec s =
    (Booking.record observation (s.protection.loss.bookCumulative observation)).exec s := by
  unfold recordClosedPositionObservation bookCumulative ignores
    counted place
  rw [bind_assoc, Action.exec_get_bind]
  rcases hopen : s.protection.loss.cumulativePositionPnl[observation.positionId]? with _ | previous
  · have herase := erase_eq_self hopen
    rcases hclosed : s.protection.loss.closedPositionPnl[observation.positionId]? with _ | previous
    · simp only [hcloses, herase, if_true, Option.any_none, Bool.and_false, Bool.false_eq_true,
        if_false, Option.map_none]
      rfl
    · simp only [hcloses, herase, if_true, Option.any_none, Bool.and_false, Bool.false_eq_true,
        if_false, Option.map_some, Bool.or_eq_true, decide_eq_true_eq]
      by_cases htime : observation.observed.observedAtUnixNanos < previous.lastObservedAtUnixNanos
      · simp only [htime, if_true, true_or]
        rfl
      by_cases hpnl : observation.observed.realizedPnl.NumEq previous.realizedPnl
      · simp only [htime, hpnl, if_true, if_false, or_true]
        rfl
      · simp only [htime, hpnl, if_false, or_false, bind_assoc]
        exact exec_newPart s observation _ _
  · simp only [hcloses, if_true, decide_eq_true_eq, Option.any_some, Bool.true_and]
    by_cases htime : observation.observed.observedAtUnixNanos < previous.lastObservedAtUnixNanos
    · simp only [htime, if_true]
      rfl
    have hrepeats : observation.repeats previous = true ↔
        observation.observed.observedAtUnixNanos = previous.lastObservedAtUnixNanos ∧
          observation.observed.realizedPnl.NumEq previous.realizedPnl := by
      simp [PositionRealizedPnlObservation.repeats, htime]
    by_cases hsame : observation.observed.observedAtUnixNanos = previous.lastObservedAtUnixNanos ∧
        observation.observed.realizedPnl.NumEq previous.realizedPnl
    · simp only [if_neg htime, if_pos (hrepeats.mpr hsame), if_pos hsame, bind_assoc, pure_bind]
      rfl
    · simp only [if_neg htime, if_neg (mt hrepeats.mp hsame), if_neg hsame, bind_assoc]
      exact exec_newPart s observation _ _

theorem exec_bookOpen (hdisjoint : s.protection.loss.Disjoint)
    (hopens : observation.closesPosition = false) :
    (recordCumulativePositionObservation observation >>= recordSome).exec s =
    (Booking.record observation (s.protection.loss.bookCumulative observation)).exec s := by
  unfold recordCumulativePositionObservation bookCumulative ignores
    counted place
  simp only [hopens, Bool.false_eq_true, if_false, Bool.false_and, bind_assoc, Action.exec_get_bind]
  by_cases hclosed :
    (s.protection.loss.closedPositionPnl[observation.positionId]?).any observation.repeats = true
  · simp only [hclosed, if_true, Bool.true_or]
    rfl
  by_cases hopen :
    (s.protection.loss.cumulativePositionPnl[observation.positionId]?).any
      observation.repeats = true
  · -- the position is open, so nothing was removed from the closed ones
    have hmem : observation.positionId ∈ s.protection.loss.cumulativePositionPnl := by
      rw [mem_iff_getElem?]
      cases hsome : s.protection.loss.cumulativePositionPnl[observation.positionId]? with
      | none => simp [hsome] at hopen
      | some previous => exact ⟨previous, rfl⟩
    have herase := erase_eq_self (notMem_iff_getElem?.mp (hdisjoint _ hmem))
    simp only [hclosed, hopen, if_true, if_false, Bool.or_true, Bool.false_eq_true, bind_assoc]
    unfold updateLoss
    rw [exec_update_bind]
    dsimp only
    rw [herase]
    rfl
  · simp only [hclosed, hopen, if_false, Bool.or_false, Bool.false_eq_true, bind_assoc]
    unfold updateLoss
    rw [exec_update_bind, exec_update_bind]
    have hpart := fun previous => exec_newPart s observation previous
      { s.protection.loss with
        cumulativePositionPnl :=
          s.protection.loss.cumulativePositionPnl.insert observation.positionId observation.entry
        closedPositionPnl := s.protection.loss.closedPositionPnl.erase observation.positionId }
    cases s.protection.loss.cumulativePositionPnl[observation.positionId]? with
    | none => exact hpart .zero
    | some previous => exact hpart previous.realizedPnl

omit [HaltIds] in
theorem exec_failClosed_bind {α β : Type} (failed : KillSwitchState) (reason : String)
    (f : α → Act β) :
    (failClosed failed reason >>= f).exec s = (failClosed failed reason : Act β).exec s := by
  unfold failClosed
  simp only [bind_assoc]
  rfl

/-- **After the bucket and the currency the method records the booking.** -/
theorem exec_book (hdisjoint : s.protection.loss.Disjoint) : (recordNew observation).exec s =
      (Booking.record observation (s.protection.loss.book observation)).exec s := by
  unfold recordNew newRealizedPnl book
  split_ifs with hcumulative
  · cases hcloses : observation.closesPosition with
    | false => exact exec_bookOpen hdisjoint hcloses
    | true =>
      unfold recordCumulativePositionObservation
      rw [if_pos hcloses]
      exact exec_bookClosed hcloses
  · unfold isDuplicateAdjustedPositionObservation
    simp only [bind_assoc, Action.exec_get_bind]
    rcases hid : observation.eventId with _ | key
    · exact exec_failClosed_bind _ _ _
    · dsimp only
      split_ifs
      · rfl
      · rfl

omit [HaltIds] in
/-- The bucket and the currency of an observation: it is past, its currency is another one, or it is
recorded in the prepared state. -/
theorem exec_prepare_cases (s : Session) (time : Nat) (currency : String)
    (k : Act (Option KillSwitchState)) :
    let run := (match s.protection.loss.acceptObservationBucket time with
      | none => pure none
      | some loss => do
        updateLoss fun _ => loss
        guardSettlementCurrency currency
        k : Act (Option KillSwitchState)).exec s
    (run = (.ok none, s) ∧ s.protection.loss.acceptObservationBucket time = none) ∨
    (∃ accepted reason, run =
      (failClosed (failedFrom s.protection.state reason) reason : Act (Option KillSwitchState)).exec
        (s.withLoss accepted)) ∨
    ∃ prepared, s.protection.loss.prepare time currency = some prepared ∧
      run = k.exec (s.withLoss prepared) := by
  unfold prepare settle
  rcases s.protection.loss.acceptObservationBucket time with _ | accepted
  · exact .inl ⟨rfl, rfl⟩
  right
  unfold updateLoss guardSettlementCurrency
  rw [exec_update_bind, bind_assoc, Action.exec_get_bind, Option.bind_some]
  rcases hcurrency : accepted.settlementCurrency with _ | existing
  · exact .inr ⟨_, rfl, rfl⟩
  · dsimp only
    split_ifs
    · exact .inr ⟨accepted, rfl, rfl⟩
    · exact .inl ⟨accepted, _, exec_failClosed_bind _ _ _⟩

end

/-! ## Coherent states -/

namespace LossState

/-- The entry is of the day of the bucket or of an earlier one. -/
def Dated (loss : LossState) (entry : CumulativePositionPnl) : Prop :=
  ∃ bucket, loss.dailyBucket = some bucket ∧
    entry.lastObservedAtUnixNanos / nanosPerUtcDay ≤ bucket

/-- The entry is one of those of the day: of a closed position, or of an adjustment. -/
def Daily (loss : LossState) (entry : CumulativePositionPnl) : Prop :=
  (∃ positionId : String, loss.closedPositionPnl[positionId]? = some entry) ∨
    ∃ key : String, loss.adjustedPositionPnl[key]? = some entry

/-- The entry is in one of the three maps. -/
def Has (loss : LossState) (entry : CumulativePositionPnl) : Prop :=
  (∃ positionId : String, loss.cumulativePositionPnl[positionId]? = some entry) ∨ loss.Daily entry

/-- No entry is dated after the bucket. -/
def Dates (loss : LossState) : Prop := ∀ entry, loss.Has entry → loss.Dated entry

/-- Positions are open or closed, no entry is dated after the bucket, and where there is an entry
there is a currency. -/
structure Coherent (loss : LossState) : Prop where
  dates : loss.Dates
  disjoint : loss.Disjoint
  currency : loss.settlementCurrency = none → ∀ entry, ¬loss.Has entry

variable {loss prepared : LossState} {time : Nat} {currency : String}

theorem not_has_initial (entry : CumulativePositionPnl) : ¬initial.Has entry := by
  simp [Has, Daily, initial]

theorem initial_coherent : initial.Coherent where
  dates entry hentry := absurd hentry (not_has_initial entry)
  disjoint _ hmem := absurd hmem ExtTreeMap.not_mem_empty
  currency _ := not_has_initial

variable {accepted settled : LossState} {bucket : Nat} {entry : CumulativePositionPnl}

/-- The three ways an observation finds its bucket. -/
theorem accept_cases (h : loss.acceptObservationBucket time = some accepted) :
    (loss.dailyBucket = none ∧ accepted =
      { loss with dailyBucket := some (time / nanosPerUtcDay), dailyRealizedPnl := .zero }) ∨
    (∃ current, loss.dailyBucket = some current ∧ current < time / nanosPerUtcDay ∧
      accepted = prune { loss with
        dailyBucket := some (time / nanosPerUtcDay), dailyRealizedPnl := .zero }
        (time / nanosPerUtcDay)) ∨
    loss.dailyBucket = some (time / nanosPerUtcDay) ∧ accepted = loss := by
  unfold acceptObservationBucket at h
  dsimp only at h
  split at h
  · rename_i hbucket
    exact .inl ⟨hbucket, (Option.some.inj h).symm⟩
  · rename_i current hbucket
    split_ifs at h with hlater hsame
    · exact .inr (.inl ⟨current, hbucket, hlater, (Option.some.inj h).symm⟩)
    · exact .inr (.inr ⟨hsame ▸ hbucket, (Option.some.inj h).symm⟩)

/-- The currency of a loss state is set once. -/
theorem settle_cases (h : loss.settle currency = some settled) : (loss.settlementCurrency = none ∧
      settled = { loss with settlementCurrency := some currency }) ∨
    loss.settlementCurrency = some currency ∧ settled = loss := by
  unfold settle at h
  split at h
  · rename_i hnone
    exact .inl ⟨hnone, (Option.some.inj h).symm⟩
  · rename_i existing hsome
    split_ifs at h with hsame
    exact .inr ⟨hsame ▸ hsome, (Option.some.inj h).symm⟩

theorem getElem?_filter_prune {map : ExtTreeMap String CumulativePositionPnl} {key : String}
    (h : (map.filter fun _ value =>
      bucket ≤ value.lastObservedAtUnixNanos / nanosPerUtcDay)[key]? = some entry) :
    map[key]? = some entry ∧ bucket ≤ entry.lastObservedAtUnixNanos / nanosPerUtcDay := by
  simpa using h

theorem daily_prune (h : (prune loss bucket).Daily entry) :
    loss.Daily entry ∧ bucket ≤ entry.lastObservedAtUnixNanos / nanosPerUtcDay := by
  rcases h with ⟨positionId, hclosed⟩ | ⟨key, hadjusted⟩
  · obtain ⟨hclosed, hle⟩ := getElem?_filter_prune hclosed
    exact ⟨.inl ⟨positionId, hclosed⟩, hle⟩
  · obtain ⟨hadjusted, hle⟩ := getElem?_filter_prune hadjusted
    exact ⟨.inr ⟨key, hadjusted⟩, hle⟩

/-- An observation moves the bucket forward, and no entry is new. -/
theorem accept_kept (h : loss.acceptObservationBucket time = some accepted) :
    accepted.dailyBucket = some (time / nanosPerUtcDay) ∧
      (∀ current, loss.dailyBucket = some current → current ≤ time / nanosPerUtcDay) ∧
      accepted.settlementCurrency = loss.settlementCurrency ∧
      ∀ entry, accepted.Has entry → loss.Has entry := by
  rcases accept_cases h with ⟨hnone, rfl⟩ | ⟨current, hsome, hlater, rfl⟩ | ⟨hsome, rfl⟩
  · exact ⟨rfl, by simp [hnone], rfl, fun _ => id⟩
  · refine ⟨rfl, by simp [hsome, hlater.le], rfl, ?_⟩
    rintro entry (hopen | hdaily)
    · exact .inl hopen
    · exact .inr (daily_prune hdaily).1
  · exact ⟨hsome, by simp [hsome], rfl, fun _ => id⟩

/-- The prepared state is in the bucket and the currency of the observation. -/
theorem prepare_bucket (hprepare : loss.prepare time currency = some prepared) :
    prepared.dailyBucket = some (time / nanosPerUtcDay) ∧
      prepared.settlementCurrency = some currency := by
  obtain ⟨accepted, haccept, hsettle⟩ := Option.bind_eq_some_iff.mp hprepare
  obtain ⟨hbucket, -⟩ := accept_kept haccept
  rcases settle_cases hsettle with ⟨-, rfl⟩ | ⟨hcurrency, rfl⟩
  · exact ⟨hbucket, rfl⟩
  · exact ⟨hbucket, hcurrency⟩

variable {observation : PositionRealizedPnlObservation}

/-- The observed position where it was placed, and every other where it was. -/
theorem getElem?_place (loss : LossState) (observation : PositionRealizedPnlObservation)
    (positionId : String) :
    (loss.place observation).cumulativePositionPnl[positionId]? =
      (if observation.positionId = positionId then
        if observation.closesPosition then none else some observation.entry
      else loss.cumulativePositionPnl[positionId]?) ∧
    (loss.place observation).closedPositionPnl[positionId]? =
      if observation.positionId = positionId then
        if observation.closesPosition then some observation.entry else none
      else loss.closedPositionPnl[positionId]? := by
  unfold place withClosed
  split_ifs <;> simp_all [getElem?_insert, getElem?_erase]

/-- The rest of the state is kept. -/
theorem place_kept (loss : LossState) (observation : PositionRealizedPnlObservation) :
    (loss.place observation).dailyBucket = loss.dailyBucket ∧
      (loss.place observation).adjustedPositionPnl = loss.adjustedPositionPnl ∧
      (loss.place observation).settlementCurrency = loss.settlementCurrency ∧
      (loss.place observation).dailyRealizedPnl = loss.dailyRealizedPnl := by
  unfold place
  split_ifs <;> exact ⟨rfl, rfl, rfl, rfl⟩

section

variable (h : loss.Disjoint)

include h

theorem Disjoint.accept (haccept : loss.acceptObservationBucket time = some accepted) :
    accepted.Disjoint := by
  rcases accept_cases haccept with ⟨-, rfl⟩ | ⟨current, -, -, rfl⟩ | ⟨-, rfl⟩
  · exact h
  · intro p hp hclosed
    obtain ⟨entry, hentry⟩ := mem_iff_getElem?.mp hclosed
    exact h p hp (mem_iff_getElem?.mpr ⟨entry, (getElem?_filter_prune hentry).1⟩)
  · exact h

theorem Disjoint.prepare (hprepare : loss.prepare time currency = some prepared) :
    prepared.Disjoint := by
  obtain ⟨accepted, haccept, hsettle⟩ := Option.bind_eq_some_iff.mp hprepare
  have haccepted := h.accept haccept
  rcases settle_cases hsettle with ⟨-, rfl⟩ | ⟨-, rfl⟩
  · exact haccepted
  · exact haccepted

theorem Disjoint.place : (loss.place observation).Disjoint := by
  intro p hp
  have hget := getElem?_place loss observation p
  rw [mem_iff_getElem?, hget.1] at hp
  rw [notMem_iff_getElem?, hget.2]
  by_cases hsame : observation.positionId = p
  · cases hcloses : observation.closesPosition <;> simp_all
  · rw [if_neg hsame] at hp ⊢
    exact notMem_iff_getElem?.mp (h p (mem_iff_getElem?.mpr hp))

end

section

variable (h : loss.Coherent)

include h

theorem Coherent.accept
    (haccept : loss.acceptObservationBucket time = some accepted) : accepted.Coherent := by
  obtain ⟨hbucket, hle, hcurrency, hkept⟩ := accept_kept haccept
  refine ⟨fun entry hentry => ?_, h.disjoint.accept haccept, fun hnone entry hentry => ?_⟩
  · obtain ⟨current, hcurrent, hdated⟩ := h.dates entry (hkept entry hentry)
    exact ⟨_, hbucket, hdated.trans (hle current hcurrent)⟩
  · exact h.currency (hcurrency.symm.trans hnone) entry (hkept entry hentry)

theorem Coherent.settle (hsettle : loss.settle currency = some settled) : settled.Coherent := by
  rcases settle_cases hsettle with ⟨-, rfl⟩ | ⟨-, rfl⟩
  · exact ⟨h.dates, h.disjoint, nofun⟩
  · exact h

/-- **The bucket and the currency of an observation keep the state coherent.** -/
theorem Coherent.prepare (hprepare : loss.prepare time currency = some prepared) :
    prepared.Coherent := by
  obtain ⟨accepted, haccept, hsettle⟩ := Option.bind_eq_some_iff.mp hprepare
  exact (h.accept haccept).settle hsettle

/-- The total does not matter. -/
theorem Coherent.total (total : Decimal) : Coherent { loss with dailyRealizedPnl := total } :=
  ⟨h.dates, h.disjoint, h.currency⟩

end

section

variable [DecimalArith] {booked : LossState}

/-- A booking that is written places the position, or adds the adjustment. -/
theorem book_loss? (h : (loss.book observation).loss? = some booked) :
    booked = loss.place observation ∨
    ∃ key, booked = { loss with
      adjustedPositionPnl := loss.adjustedPositionPnl.insert key observation.entry } := by
  unfold book bookCumulative at h
  split_ifs at h
  · cases h
  · exact .inl (Option.some.inj h).symm
  · left
    split at h
    · exact (Option.some.inj h).symm
    · split at h
      · cases h
      · exact (Option.some.inj h).symm
  · right
    split at h
    · cases h
    · rename_i key _
      split_ifs at h
      · cases h
      · exact ⟨key, (Option.some.inj h).symm⟩

/-- A booking that is written keeps the bucket, the currency and the total, and its only new entry
is that of the observation. -/
theorem book_kept (h : (loss.book observation).loss? = some booked) :
    booked.dailyBucket = loss.dailyBucket ∧ booked.settlementCurrency = loss.settlementCurrency ∧
      booked.dailyRealizedPnl = loss.dailyRealizedPnl ∧
      ∀ entry, booked.Has entry → entry = observation.entry ∨ loss.Has entry := by
  rcases book_loss? h with rfl | ⟨key, rfl⟩
  · obtain ⟨hbucket, hadjusted, hcurrency, hdaily⟩ := place_kept loss observation
    refine ⟨hbucket, hcurrency, hdaily, ?_⟩
    rintro entry (⟨positionId, hentry⟩ | ⟨positionId, hentry⟩ | hentry)
    · rw [(getElem?_place loss observation positionId).1] at hentry
      split_ifs at hentry
      · exact .inl (Option.some.inj hentry).symm
      · exact .inr (.inl ⟨positionId, hentry⟩)
    · rw [(getElem?_place loss observation positionId).2] at hentry
      split_ifs at hentry
      · exact .inl (Option.some.inj hentry).symm
      · exact .inr (.inr (.inl ⟨positionId, hentry⟩))
    · rw [hadjusted] at hentry
      exact .inr (.inr (.inr hentry))
  · refine ⟨rfl, rfl, rfl, ?_⟩
    rintro entry (hentry | hentry | ⟨other, hentry⟩)
    · exact .inr (.inl hentry)
    · exact .inr (.inr (.inl hentry))
    · dsimp only at hentry
      rw [getElem?_insert] at hentry
      split_ifs at hentry
      · exact .inl (Option.some.inj hentry).symm
      · exact .inr (.inr (.inr ⟨other, hentry⟩))

theorem Disjoint.book (h : loss.Disjoint) (hbooked : (loss.book observation).loss? = some booked) :
    booked.Disjoint := by
  rcases book_loss? hbooked with rfl | ⟨key, rfl⟩
  · exact h.place
  · exact h

/-- **What is booked keeps the state coherent.** -/
theorem Coherent.book (h : loss.Coherent) (hdated : loss.Dated observation.entry)
    (hcurrency : loss.settlementCurrency ≠ none)
    (hbooked : (loss.book observation).loss? = some booked) : booked.Coherent := by
  obtain ⟨hbucket, hsame, -, hentries⟩ := book_kept hbooked
  refine ⟨fun entry hentry => ?_, h.disjoint.book hbooked, fun hnone => ?_⟩
  · unfold Dated
    rw [hbucket]
    rcases hentries entry hentry with rfl | hentry
    · exact hdated
    · exact h.dates entry hentry
  · exact absurd (hsame.symm.trans hnone) hcurrency

omit [DecimalArith] in
theorem le_of_any_repeats {found : Option CumulativePositionPnl}
    (h : found.any observation.repeats = true) : ∃ entry, found = some entry ∧
      observation.observed.observedAtUnixNanos ≤ entry.lastObservedAtUnixNanos := by
  rcases found with _ | entry
  · cases h
  refine ⟨entry, rfl, ?_⟩
  rw [Option.any_some, PositionRealizedPnlObservation.repeats] at h
  simp only [Bool.or_eq_true, decide_eq_true_eq, Bool.and_eq_true, beq_iff_eq] at h
  omega

/-- An observation is ignored because of an entry that is not older, or of one of the day. -/
theorem book_ignored (h : loss.book observation = .ignored) : ∃ entry, loss.Has entry ∧
    (observation.observed.observedAtUnixNanos ≤ entry.lastObservedAtUnixNanos ∨
      loss.Daily entry) := by
  have hdaily : ∀ {entry}, loss.Daily entry → ∃ entry, loss.Has entry ∧
      (observation.observed.observedAtUnixNanos ≤ entry.lastObservedAtUnixNanos ∨
        loss.Daily entry) := fun h => ⟨_, .inr h, .inr h⟩
  unfold book bookCumulative at h
  split_ifs at h with hcumulative hignores hmoves
  · unfold ignores at hignores
    split_ifs at hignores
    · split at hignores
      · rename_i _ entry hopen
        exact ⟨entry, .inl ⟨_, hopen⟩, .inl (of_decide_eq_true hignores).le⟩
      · rename_i entry hopen hclosed
        exact hdaily (.inl ⟨_, hclosed⟩)
      · cases hignores
    · rcases Bool.or_eq_true_iff.mp hignores with hclosed | hopen
      · obtain ⟨entry, hentry, -⟩ := le_of_any_repeats hclosed
        exact hdaily (.inl ⟨_, hentry⟩)
      · obtain ⟨entry, hentry, hle⟩ := le_of_any_repeats hopen
        exact ⟨entry, .inl ⟨_, hentry⟩, .inl hle⟩
  · split at h
    · cases h
    · split at h <;> cases h
  · split at h
    · cases h
    · rename_i key _
      split_ifs at h with hcontains
      obtain ⟨entry, hentry⟩ := mem_iff_getElem?.mp (ExtTreeMap.contains_iff_mem.mp hcontains)
      exact hdaily (.inr ⟨key, hentry⟩)

/-- **An observation that is ignored leaves a coherent state.** -/
theorem Coherent.prepare_ignored (h : loss.Coherent)
    (hprepare : loss.prepare observation.observed.observedAtUnixNanos currency = some prepared)
    (hignored : prepared.book observation = .ignored) : prepared = loss := by
  obtain ⟨accepted, haccept, hsettle⟩ := Option.bind_eq_some_iff.mp hprepare
  obtain ⟨entry, hentry, hrecent⟩ := book_ignored hignored
  obtain rfl : prepared = accepted := by
    rcases settle_cases hsettle with ⟨hnone, rfl⟩ | ⟨-, hsettled⟩
    · exact absurd hentry ((h.accept haccept).currency hnone entry)
    · exact hsettled
  -- there is an entry, so there is a bucket, and the entry is no older than the observation's
  obtain ⟨-, -, -, hkept⟩ := accept_kept haccept
  obtain ⟨bucket, hbucket, hdated⟩ := h.dates entry (hkept entry hentry)
  rcases accept_cases haccept with ⟨hnone, -⟩ | ⟨current, hsome, hlater, rfl⟩ | ⟨-, rfl⟩
  · cases hnone.symm.trans hbucket
  · cases hsome.symm.trans hbucket
    have hday : observation.observed.observedAtUnixNanos / nanosPerUtcDay ≤
        entry.lastObservedAtUnixNanos / nanosPerUtcDay := by
      rcases hrecent with hle | hdaily
      · exact Nat.div_le_div_right hle
      · exact (daily_prune hdaily).2
    omega
  · rfl

end

end LossState

/-! ## Observations of an armed switch -/

section

variable [DecimalArith]

/-- The loss state after a booking, unless the method fails or panics. -/
def Booking.applied (prepared : LossState) : Booking → Option LossState
  | .ignored => some prepared
  | .unidentified | .overflow _ => none
  | .moved placed => some placed
  | .booked placed realizedPnl =>
    (DecimalArith.checkedAdd placed.dailyRealizedPnl realizedPnl).map fun total =>
      { placed with dailyRealizedPnl := total }

variable {after loss : LossState} {observation : PositionRealizedPnlObservation}

/-- A booking leaves the state, or the one that is written with some total. -/
theorem Booking.applied_cases {booking : Booking} {prepared : LossState}
    (h : booking.applied prepared = some after) :
    (booking = .ignored ∧ after = prepared) ∨
    ∃ placed total, booking.loss? = some placed ∧
      after = { placed with dailyRealizedPnl := total } := by
  rcases booking with _ | _ | placed | placed | ⟨placed, realizedPnl⟩
  · exact .inl ⟨rfl, (Option.some.inj h).symm⟩
  · cases h
  · cases h
  · exact .inr ⟨placed, placed.dailyRealizedPnl, rfl, (Option.some.inj h).symm⟩
  · obtain ⟨total, -, rfl⟩ := Option.map_eq_some_iff.mp h
    exact .inr ⟨placed, total, rfl, rfl⟩

/-- A booking keeps the bucket and the currency. -/
theorem LossState.book_bucket (h : (loss.book observation).applied loss = some after) :
    after.dailyBucket = loss.dailyBucket ∧ after.settlementCurrency = loss.settlementCurrency := by
  rcases Booking.applied_cases h with ⟨-, rfl⟩ | ⟨placed, total, hplaced, rfl⟩
  · exact ⟨rfl, rfl⟩
  · obtain ⟨hbucket, hcurrency, -⟩ := book_kept hplaced
    exact ⟨hbucket, hcurrency⟩

/-- The loss state after an observation that leaves the switch armed. -/
def LossState.observe (loss : LossState) (observation : PositionRealizedPnlObservation) :
    Option LossState :=
  match loss.acceptObservationBucket observation.observed.observedAtUnixNanos with
  | none => some loss
  | some accepted =>
    (accepted.settle observation.observed.settlementCurrency).bind fun prepared =>
      (prepared.book observation).applied prepared

/-- The loss state after an observation that is booked in the prepared state. -/
def LossState.Books (loss : LossState) (observation : PositionRealizedPnlObservation)
    (after : LossState) : Prop :=
  ∃ prepared, loss.prepare observation.observed.observedAtUnixNanos
      observation.observed.settlementCurrency = some prepared ∧
    (prepared.book observation).applied prepared = some after

theorem LossState.Books.observe (h : loss.Books observation after) :
    loss.observe observation = some after := by
  obtain ⟨prepared, hprepare, happlied⟩ := h
  obtain ⟨accepted, haccept, hsettle⟩ := Option.bind_eq_some_iff.mp hprepare
  unfold LossState.observe
  rw [haccept]
  dsimp only
  rw [hsettle]
  exact happlied

/-- An observation is past, or it is booked in the prepared state. -/
theorem LossState.observe_cases (h : loss.observe observation = some after) :
    (loss.acceptObservationBucket observation.observed.observedAtUnixNanos = none ∧ after = loss) ∨
    loss.Books observation after := by
  unfold observe at h
  split at h
  · exact .inl ⟨‹_›, (Option.some.inj h).symm⟩
  · obtain ⟨prepared, hsettle, happlied⟩ := Option.bind_eq_some_iff.mp h
    exact .inr ⟨prepared, Option.bind_eq_some_iff.mpr ⟨_, ‹_›, hsettle⟩, happlied⟩

theorem LossState.Disjoint.observe (h : loss.Disjoint)
    (hobserve : loss.observe observation = some after) : after.Disjoint := by
  rcases observe_cases hobserve with ⟨-, rfl⟩ | ⟨prepared, hprepare, happlied⟩
  · exact h
  · have hprepared := h.prepare hprepare
    rcases Booking.applied_cases happlied with ⟨-, rfl⟩ | ⟨placed, total, hplaced, rfl⟩
    · exact hprepared
    · have hbooked := hprepared.book hplaced
      exact hbooked

/-- **An observation keeps the state coherent.** -/
theorem LossState.Coherent.observe (h : loss.Coherent)
    (hobserve : loss.observe observation = some after) : after.Coherent := by
  rcases observe_cases hobserve with ⟨-, rfl⟩ | ⟨prepared, hprepare, happlied⟩
  · exact h
  · have hcoherent := h.prepare hprepare
    obtain ⟨hbucket, hcurrency⟩ := prepare_bucket hprepare
    have hbooked : ∀ {booked}, (prepared.book observation).loss? = some booked →
        booked.Coherent :=
      hcoherent.book ⟨_, hbucket, le_rfl⟩ (by simp [hcurrency])
    rcases Booking.applied_cases happlied with ⟨-, rfl⟩ | ⟨placed, total, hplaced, rfl⟩
    · exact hcoherent
    · exact (hbooked hplaced).total total

omit [DecimalArith] in
/-- The bucket and the currency of an observation leave a switch below its limit. -/
theorem KillSwitchLossProtection.Below.prepare {protection : KillSwitchLossProtection}
    (h : protection.Below) {prepared : LossState} {time : Nat} {currency : String}
    (hprepare : protection.loss.prepare time currency = some prepared) :
    Below { protection with loss := prepared } := by
  obtain ⟨accepted, haccept, hsettle⟩ := Option.bind_eq_some_iff.mp hprepare
  have haccepted := h.acceptBucket haccept
  rcases settle_cases hsettle with ⟨-, rfl⟩ | ⟨-, rfl⟩
  · exact haccepted.updateLoss rfl
  · exact haccepted

/-- The loss state after a position observation that is not recorded. -/
inductive Passes (protection : KillSwitchLossProtection)
    (observation : PositionRealizedPnlObservation) : LossState → Prop
  | unobserved (unobserved : protection.observes observation = false) :
      Passes protection observation protection.loss
  | past (past : protection.loss.acceptObservationBucket
      observation.observed.observedAtUnixNanos = none) :
      Passes protection observation protection.loss
  | ignored {prepared : LossState} (prepare : protection.loss.prepare
        observation.observed.observedAtUnixNanos observation.observed.settlementCurrency =
          some prepared)
      (ignored : prepared.book observation = .ignored) : Passes protection observation prepared

section

variable {protection : KillSwitchLossProtection} {prepared : LossState}
  (h : Passes protection observation prepared)

include h

theorem Passes.eq_loss (hcoherent : protection.loss.Coherent) : prepared = protection.loss := by
  cases h with
  | unobserved | past => rfl
  | ignored prepare ignored => exact hcoherent.prepare_ignored prepare ignored

theorem Passes.observe (hobserves : protection.observes observation = true) :
    protection.loss.observe observation = some prepared := by
  cases h with
  | unobserved unobserved => cases unobserved.symm.trans hobserves
  | past past =>
    unfold LossState.observe
    rw [past]
  | ignored prepare ignored => exact Books.observe ⟨prepared, prepare, by rw [ignored]; rfl⟩

end

variable [HaltIds] [codec : StateCodec]

/-- What is recorded of an observation: the object with a loss state, below its limit where it was
before, or a halt. -/
inductive Records (before : KillSwitchLossProtection) (loss : LossState)
    (protection : KillSwitchLossProtection) : Prop
  | kept (same : protection = { before with loss := loss })
      (below : before.Below → protection.Below)
  | halted (halts : Halts loss protection)

/-- **What an observation leaves of an armed switch.** -/
inductive Observed (s : Session) (passes books : LossState → Prop)
    (run : Except Failure (Option KillSwitchState) × Session) : Prop
  | passed {prepared : LossState} (passes : passes prepared) (same : run.2 = s.withLoss prepared)
  | panicked (panic : run.1 = .error .panic) (disk : run.2.disk = s.disk)
  | recorded (leaves : Leaves s (fun protection => ∃ loss, books loss ∧
      Records s.protection loss protection) run.2)

section

variable {s : Session} {passes books : LossState → Prop}

omit [HaltIds]

/-- A failure of the integrity of the state. -/
theorem failClosed_observed (accepted : LossState) (reason : String) :
    Observed s passes books ((failClosed (failedFrom s.protection.state reason) reason :
      Act (Option KillSwitchState)).exec (s.withLoss accepted)) :=
  .recorded (Ends.exec (failClosed_leaves rfl reason) ⟨⟨rfl, rfl, rfl⟩, .inr rfl⟩)

/-- A snapshot is persisted. -/
theorem persist_observed (hbooks : books loss)
    (hbelow : s.protection.Below → (s.withLoss loss).protection.Below) :
    Observed s passes books ((persistRuntimeSnapshotOrFailClosed >>= fun _ => pure none :
      Act (Option KillSwitchState)).exec (s.withLoss loss)) := by
  refine .recorded
    (Ends.exec (Ends.then_pure ((persistRuntime_leaves (s.withLoss loss).protection).mono
    (fun _ h => h.1) fun _ h => h)) ?_)
  exact ⟨⟨rfl, rfl, rfl⟩, rfl, loss, hbooks, .kept rfl hbelow⟩

end

section

variable {s : Session} {passes books : LossState → Prop}

/-- What is new is added to the total. -/
theorem recordCurrentBucket_observed {observation : RealizedPnlObservation} {placed : LossState}
    (hbooks : ∀ total, DecimalArith.checkedAdd placed.dailyRealizedPnl observation.realizedPnl =
      some total → books { placed with dailyRealizedPnl := total }) :
    Observed s passes books
      ((recordCurrentBucketRealizedPnl observation).exec (s.withLoss placed)) := by
  unfold recordCurrentBucketRealizedPnl updateLoss
  rw [Action.exec_get_bind]
  split
  · exact .panicked rfl rfl
  rename_i total hadd
  rw [exec_update_bind, Action.exec_get_bind]
  split_ifs with hbreached
  · refine .recorded ((Ends.exec (Action.Yields.mono (haltForRealizedLossBreach_leaves _ _)
      (fun _ _ h => h.1) fun _ h => h) ?_).mono fun protection h =>
        ⟨_, hbooks total hadd, .halted h⟩)
    exact ⟨⟨rfl, rfl, rfl⟩, .inr rfl, rfl⟩
  · exact persist_observed (hbooks total hadd) fun h =>
      ⟨h.1, Bool.eq_false_of_not_eq_true hbreached⟩

/-- **An observation of a position is past or ignored, or it is recorded.** -/
theorem recordPosition_observed (harmed : s.protection.state = .armed)
    (hdisjoint : s.protection.loss.Disjoint) (observation : PositionRealizedPnlObservation) :
    Observed s (Passes s.protection observation) (s.protection.loss.Books observation)
      ((recordPositionRealizedPnl observation).exec s) := by
  unfold recordPositionRealizedPnl
  rw [Action.exec_get_bind, if_neg (not_not.mpr harmed)]
  split_ifs with hobserves
  · exact .passed (.unobserved (by simpa using hobserves)) rfl
  rcases exec_prepare_cases s observation.observed.observedAtUnixNanos
    observation.observed.settlementCurrency (recordNew observation) with
    ⟨hpast, haccept⟩ | ⟨accepted, reason, hmixed⟩ | ⟨prepared, hprepare, hrecord⟩
  · exact .passed (.past haccept) (congrArg Prod.snd hpast)
  · exact hmixed ▸ failClosed_observed accepted reason
  have hrecord : _ = (Booking.record observation (prepared.book observation)).exec
    (s.withLoss prepared) := hrecord.trans (exec_book (hdisjoint.prepare hprepare))
  refine hrecord ▸ ?_
  have hbooks : ∀ {loss}, (prepared.book observation).applied prepared = some loss →
    s.protection.loss.Books observation loss := fun happlied => ⟨prepared, hprepare, happlied⟩
  rcases hcase : prepared.book observation with _ | _ | loss | loss | ⟨loss, realizedPnl⟩ <;>
    rw [hcase] at hbooks
  · exact .passed (.ignored hprepare hcase) rfl
  · exact failClosed_observed prepared _
  · exact .panicked rfl rfl
  · refine persist_observed (hbooks rfl) fun h => (h.prepare hprepare).updateLoss ?_
    exact (book_kept (congrArg Booking.loss? hcase)).2.2.1
  · refine recordCurrentBucket_observed fun total hadd => hbooks ?_
    exact Option.map_eq_some_iff.mpr ⟨total, hadd, rfl⟩

theorem recordRealizedPnl_observed (harmed : s.protection.state = .armed)
    (observation : RealizedPnlObservation) :
    Observed s (· = s.protection.loss)
      (fun loss => ∃ prepared total, s.protection.loss.prepare observation.observedAtUnixNanos
        observation.settlementCurrency = some prepared ∧
          loss = { prepared with dailyRealizedPnl := total })
      ((recordRealizedPnl observation).exec s) := by
  unfold recordRealizedPnl
  rw [Action.exec_get_bind, if_neg (not_not.mpr harmed)]
  rcases exec_prepare_cases s observation.observedAtUnixNanos observation.settlementCurrency
    (recordCurrentBucketRealizedPnl observation) with
    ⟨hpast, -⟩ | ⟨accepted, reason, hmixed⟩ | ⟨prepared, hprepare, hrecord⟩
  · exact .passed rfl (congrArg Prod.snd hpast)
  · exact hmixed ▸ failClosed_observed accepted reason
  · exact hrecord ▸ recordCurrentBucket_observed fun total _ => ⟨prepared, total, hprepare, rfl⟩

end

/-- **What an observation leaves of an armed switch that stays armed.** Either nothing has changed,
or the file has what the object has. -/
theorem recordPosition_stays {s s' : Session} {result : Except Failure (Option KillSwitchState)}
    (hcoherent : s.protection.loss.Coherent)
    (harmed : s.protection.state = .armed) (hobserves : s.protection.observes observation = true)
    (hrun : (recordPositionRealizedPnl observation).exec s = (result, s'))
    (hpanic : result ≠ .error .panic) (hstays : s'.protection.state = .armed) :
    ∃ loss, s.protection.loss.observe observation = some loss ∧
      s'.protection = { s.protection with loss := loss } ∧ (s' = s ∨ s'.Written) := by
  have hobserved := recordPosition_observed harmed hcoherent.disjoint observation
  rw [hrun] at hobserved
  rcases hobserved with ⟨hpasses, rfl⟩ | ⟨hpanics, -⟩ | hleaves
  · obtain rfl := hpasses.eq_loss hcoherent
    exact ⟨_, hpasses.observe hobserves, rfl, .inl rfl⟩
  · exact absurd hpanics hpanic
  · rcases hleaves with ⟨-, ⟨loss, hbooks, hrecords⟩, hwritten⟩ | ⟨-, hfailed⟩
    · rcases hrecords with ⟨hsame, -⟩ | hhalts
      · exact ⟨loss, hbooks.observe, hsame, .inr hwritten⟩
      · exact absurd hstays hhalts.unarmed
    · rw [hstays] at hfailed
      cases hfailed

end

end BoltV3.KillSwitch
