import BoltV3.Submit.State

/-!
# Capital admission inside submit admission

`bolt_v3_submit_admission.rs`: the functions on `BoltV3SubmitCapitalAdmissionState`. An entry order
is checked, its liability reserved in the ledger, and a record of it entered in the client-order
index; `evaluate_capital_admission_submit` does both or neither. The NautilusTrader state is
recomposed from components whenever the ledger or the projection changes.

* `next_sequence += 1` wraps in the release profile, so the sequence is taken modulo `2⁶⁴`.
* The checks before the reservation are split off as `capitalAdmissionChecks`.
-/

namespace BoltV3.Submit

open Lib Loss Capital Evidence Std

/-- `advance_capital_admission_state_revision`, and every `checked_add(1)` on the revision. -/
def nextRevision (revision : Nat) : Option Nat := checkedAdd u64Max revision 1

/-! ## Composing the state -/

def composeCapitalAdmissionStateFromComponents (components : SubmitCapitalAdmissionNtComponents)
    (gateReconciled : Bool) (latestReservationMutationObservedAtNs : Option Nat) :
    NtDerivedCapitalAdmissionState :=
  let reservationObservedAtNs := latestReservationMutationObservedAtNs.elim components.observedAtNs
    (Nat.max components.observedAtNs)
  { components with
    observedAtNs := Nat.max components.observedAtNs reservationObservedAtNs
    reservationSnapshot :=
      { source := "bolt_reservation_ledger", observedAtNs := reservationObservedAtNs
        allLiveReservationsAttributed := gateReconciled } }

def ntComponentsFromExistingCapitalAdmissionState (state : NtDerivedCapitalAdmissionState) :
    SubmitCapitalAdmissionNtComponents :=
  let observedAtNs := Nat.max (Nat.max (Nat.max state.portfolio.observedAtNs
    state.providerCollateralAllowance.observedAtNs) state.orderLifecycle.observedAtNs)
    state.productState.product.observedAtNs
  { state.toSubmitCapitalAdmissionNtComponents with
    observedAtNs := state.lossSnapshot.elim observedAtNs fun loss =>
      Nat.max observedAtNs loss.observedAtNs }

/-- The state after a mutation of the ledger seen at `observedAtNs`. -/
def stateAfterReservationMutation (observedAtNs : Nat) (source : String)
    (allLiveReservationsAttributed : Bool) (current : NtDerivedCapitalAdmissionState) :
    NtDerivedCapitalAdmissionState :=
  let composed := composeCapitalAdmissionStateFromComponents
    (ntComponentsFromExistingCapitalAdmissionState current) allLiveReservationsAttributed
    (some observedAtNs)
  { composed with
    reservationSnapshot := ⟨source, observedAtNs, allLiveReservationsAttributed⟩
    observedAtNs := Nat.max composed.observedAtNs observedAtNs }

namespace SubmitCapitalAdmissionState

/-- `gate.invalidate_reconciliation()`. -/
def invalidateReconciliation (capital : SubmitCapitalAdmissionState) :
    SubmitCapitalAdmissionState :=
  { capital with gate := capital.gate.invalidateReconciliation }

variable (capital : SubmitCapitalAdmissionState) (observedAtNs : Nat)

/-- `refresh_capital_admission_reservation_snapshot_with_source`. -/
def refreshReservationSnapshotWithSource (source : String) (allLiveReservationsAttributed : Bool) :
    SubmitCapitalAdmissionState :=
  { capital with
    latestReservationMutationObservedAtNs := some observedAtNs
    state := capital.state.map
      (stateAfterReservationMutation observedAtNs source allLiveReservationsAttributed) }

/-- A refresh is about the same market. -/
theorem market_refreshed (source : String) (allLiveReservationsAttributed : Bool) :
    (capital.refreshReservationSnapshotWithSource observedAtNs source
      allLiveReservationsAttributed).market = capital.market := by
  unfold refreshReservationSnapshotWithSource market
  rw [Option.map_map]
  rfl

/-- `refresh_capital_admission_reservation_snapshot`. -/
def refreshReservationSnapshot : SubmitCapitalAdmissionState :=
  capital.refreshReservationSnapshotWithSource observedAtNs "bolt_reservation_ledger"
    capital.gate.isReconciled

variable (components : SubmitCapitalAdmissionNtComponents)

/-- The gate after `refresh_capital_admission_state_from_components`: closed by a failed fill
integrity, or by open orders that are not attributed. -/
def gateFromComponents : ReservationLedger :=
  let gate := if capital.fillEvidenceIntegrityFailed then capital.gate.invalidateReconciliation
    else capital.gate
  if gate.isReconciled && decide (0 < components.orderLifecycle.openOrderCount) &&
      !components.orderLifecycle.allOpenOrdersAttributed then
    gate.invalidateReconciliation
  else gate

/-- `refresh_capital_admission_state_from_components`. -/
def refreshStateFromComponents : SubmitCapitalAdmissionState :=
  let gate := capital.gateFromComponents components
  let state := composeCapitalAdmissionStateFromComponents components
    (gate.isReconciled && capital.captureFailureSource.isNone)
    capital.latestReservationMutationObservedAtNs
  { capital with
    gate := gate
    capitalPool :=
      { capital.capitalPool with
        source := state.portfolio.source, observedAtNs := state.portfolio.observedAtNs }
    state := some state }

/-- `fail_capital_admission_fill_evidence_integrity`. -/
def failFillEvidenceIntegrity : SubmitCapitalAdmissionState :=
  ({ capital with
      fillEvidenceIntegrityFailed := true, gate := capital.gate.invalidateReconciliation } :
    SubmitCapitalAdmissionState).refreshReservationSnapshot observedAtNs

end SubmitCapitalAdmissionState

def unresolvedReservationCounts (records : ExtTreeMap String SubmitReservationRecord) : Nat × Nat :=
  let counted := fun phase => (records.toList.filter fun (_, record) =>
    record.unresolvedInProjection && record.phase == phase).length
  (counted .sinkInvoked, counted .observedOpen)

def applyRebuildOrderLifecycle (rebuilt : OrderLifecycleCapitalAdmissionSnapshot)
    (state : NtDerivedCapitalAdmissionState) : NtDerivedCapitalAdmissionState :=
  { state with
    observedAtNs := Nat.max state.observedAtNs rebuilt.observedAtNs, orderLifecycle := rebuilt }

/-! ## Reserving an entry order -/

/-- `BoltV3CapitalAdmissionReservationRollback`. -/
structure CapitalAdmissionReservationRollback where
  (clientOrderId submitReservationId poolId : String)
  observedAtNs : Nat

/-- `BoltV3CapitalAdmissionAcceptance`. -/
structure CapitalAdmissionAcceptance where
  rollback : Option CapitalAdmissionReservationRollback
  reservationAttribution : Option ReservationAttribution

/-- `BoltV3CapitalAdmissionSubmitDecision`. -/
inductive CapitalAdmissionSubmitDecision
  | accepted (acceptance : CapitalAdmissionAcceptance)
  | rejected (reason : CapitalAdmissionRejectReason)
  | invariant (invariant : SubmitAdmissionInvariant)

inductive ValidatedCapitalAdmissionDecision
  | accepted (acceptedQuantity reservedLiability : Decimal)
  | rejected (reason : CapitalAdmissionRejectReason)

def acceptedWithoutReservation : CapitalAdmissionSubmitDecision := .accepted ⟨none, none⟩

def mapCapitalAdmissionRejection :
    List CapitalAdmissionReason → Except SubmitAdmissionInvariant CapitalAdmissionRejectReason
  | [] => .error .missingCapitalAdmissionRejectionReason
  | [.missingNtState] => .ok .missingNtState
  | [.staleNtState _] => .ok .staleNtState
  | [.unattributedNtState _] => .ok .unattributedNtState
  | [.reservation .reconciliationRequired] => .ok .reconciliationRequired
  | [.reservation .overBudget] => .ok .overBudget
  | [.reservation reason] => .ok (.reservation reason)
  | [.liability reason] => .ok (.liability reason)
  | [.loss reason] => .ok (.loss reason)
  | [.invariant _] => .error .invalidCapitalAdmissionDecisionContext
  | _ :: _ :: _ => .error .invalidCapitalAdmissionDecisionContext

/-- Numeric equality of optional decimals, `Option<Decimal>` equality in the source. -/
def optionNumEq : Option Decimal → Option Decimal → Bool
  | none, none => true
  | some a, some b => decide (a.NumEq b)
  | _, _ => false

variable (decision : CapitalAdmissionDecision)

/-- Whether a refusal carries a liability in the decision and the same one in its evidence, or in
neither. -/
def liabilityContextIsConsistent : Bool :=
  match decision.calculatedLiability, decision.reservedLiability,
    decision.evidence.acceptedQuantity, decision.evidence.calculatedLiability,
    decision.evidence.reservedLiability with
  | none, none, none, none, none => true
  | some calculated, some reserved, some _, some evidenceCalculated, some evidenceReserved =>
    decide (calculated.NumEq evidenceCalculated) && decide (reserved.NumEq evidenceReserved)
  | _, _, _, _, _ => false

def validateCapitalAdmissionDecision :
    Except SubmitAdmissionInvariant ValidatedCapitalAdmissionDecision :=
  if decision.accepted then
    match decision.acceptedQuantity, decision.calculatedLiability, decision.reservedLiability with
    | some acceptedQuantity, some calculatedLiability, some reservedLiability =>
      if !decision.reasons.isEmpty ||
          !decide (decision.evidence.originalQuantity.NumEq decision.originalQuantity) ||
          !optionNumEq decision.evidence.acceptedQuantity (some acceptedQuantity) ||
          !optionNumEq decision.evidence.calculatedLiability (some calculatedLiability) ||
          !optionNumEq decision.evidence.reservedLiability (some reservedLiability) then
        .error .invalidCapitalAdmissionDecisionContext
      else .ok (.accepted acceptedQuantity reservedLiability)
    | _, _, _ => .error .invalidCapitalAdmissionDecisionContext
  else if decision.acceptedQuantity.isSome ||
      !decide (decision.evidence.originalQuantity.NumEq decision.originalQuantity) then
    .error .invalidCapitalAdmissionDecisionContext
  else if !liabilityContextIsConsistent decision then
    .error .invalidCapitalAdmissionDecisionContext
  else (mapCapitalAdmissionRejection decision.reasons).map .rejected

/-- The instrument and the position of an outcome. -/
def outcomeInstrument (product : PredictionMarketAdmissionSnapshot) :
    PredictionMarketOutcomeSide → String × Decimal
  | .yes => (product.yesInstrumentId, product.yesPosition)
  | .no => (product.noInstrumentId, product.noPosition)

/-- The checks of `evaluate_capital_admission_submit` before a reservation, in the source's order.
They yield the order's evidence, the NautilusTrader state and the position in its instrument. -/
def capitalAdmissionChecks (capital : SubmitCapitalAdmissionState)
    (request : SubmitAdmissionRequest) :
    Except CapitalAdmissionRejectReason
      (CompiledOrderAdmissionEvidence × NtDerivedCapitalAdmissionState × Decimal) :=
  match request.admissionEvidence with
  | none => .error .missingAdmissionEvidence
  | some evidence =>
    match firstRefusal
      [(evidence.venueId != capital.venueId, .venueMismatch),
        (evidence.productKind.toCapitalAdmission != capital.productKind, .productKindMismatch),
        (evidence.productKind.toCapitalAdmission != .predictionMarketBinary,
          .unsupportedProductKind),
        (!compiledOrderSideMatchesRequest evidence.side request.orderSide ||
          !decide (evidence.quantity.NumEq request.orderQuantity), .orderShapeMismatch),
        (capital.clientOrderReservations.contains request.clientOrderId, .duplicateClientOrderId),
        (capital.captureFailureSource.isSome, .reconciliationRequired)] with
    | some reason => .error reason
    | none =>
      match capital.state with
      | none => .error .missingNtState
      | some state =>
        match firstRefusal
          [(state.portfolio.venueId != capital.venueId, .venueMismatch),
            (state.portfolio.accountId != capital.accountId, .accountMismatch),
            (state.portfolio.collateralCurrency != capital.collateralCurrency,
              .collateralCurrencyMismatch),
            (!capital.gate.isReconciled, .reconciliationRequired)] with
        | some reason => .error reason
        | none =>
          match evidence.predictionMarketOutcome with
          | none => .error .missingPredictionMarketOutcome
          | some outcome =>
            let instrument := outcomeInstrument state.productState.product outcome
            if request.instrumentId = instrument.1 then .ok (evidence, state, instrument.2)
            else .error .outcomeInstrumentMismatch

section

variable [DecimalArith]

def checkedAdditiveLiability (policy : CapitalAdmissionPolicy) : Option Decimal :=
  match policy.feeSlippagePolicy with
  | some policy => DecimalArith.checkedAdd policy.maxFeeLiability policy.maxSlippageLiability
  | none => some .zero

def checkedLifecycleLiability (quantity liabilityFactor additiveLiability : Decimal) :
    Option Decimal :=
  match DecimalArith.checkedMul quantity liabilityFactor with
  | none => none
  | some liability => DecimalArith.checkedAdd liability additiveLiability

/-- The liability per unit: the price of a buy, nothing for a sell. -/
def liabilityFactor (side : IntentSide) (price : Decimal) : Decimal :=
  match side with
  | .buy => price
  | .sell => .zero

variable (capital : SubmitCapitalAdmissionState) (revision reservationRevision : Nat)
  (request : SubmitAdmissionRequest) (evidence : CompiledOrderAdmissionEvidence)
  (state : NtDerivedCapitalAdmissionState)

/-- The request a submitted entry makes of the gate. -/
def gateRequest (submitReservationId : String) (nowNs : Nat) : CapitalAdmissionRequest :=
  { intentId := submitReservationId, strategyId := request.strategyId
    instrumentId := request.instrumentId, poolId := capital.capitalPool.poolId
    productKind := evidence.productKind.toCapitalAdmission, side := evidence.side.toCapitalAdmission
    quantity := evidence.quantity, limitPrice := evidence.effectivePrice
    orderKind := evidence.orderKind.toCapitalAdmission
    liquidity := evidence.liquidity.toCapitalAdmission, quoteSetId := evidence.quoteSetId
    nowNs := nowNs }

/-- The attribution recorded for a reserved entry. -/
def reservationAttributionOf (state : NtDerivedCapitalAdmissionState) (submitReservationId : String)
    (admittedQuantity additiveLiability reservedLiability : Decimal) (nowNs : Nat) :
    ReservationAttribution :=
  { clientOrderId := request.clientOrderId, submitReservationId := submitReservationId
    venueId := capital.venueId, accountId := capital.accountId
    productKind := reservationProductKind evidence.productKind
    collateralCurrency := capital.collateralCurrency, capitalPoolId := capital.capitalPool.poolId
    collateralGroupId := state.productState.product.collateralCoupledGroupId
    instrumentId := request.instrumentId, side := evidenceOrderSide evidence.side
    submittedQuantity := DecimalArith.toText admittedQuantity
    liabilityFactor := DecimalArith.toText
      (liabilityFactor evidence.side.toCapitalAdmission evidence.effectivePrice)
    additiveLiability := DecimalArith.toText additiveLiability
    reservedLiability := DecimalArith.toText reservedLiability, observedAtNs := nowNs }

/-- The record entered in the client-order index with a new reservation. -/
def reservedRecord (attribution : ReservationAttribution) (revision : Nat) (instrumentId : String)
    (side : CompiledOrderSide) : SubmitReservationRecord :=
  { attribution := attribution, phase := .reserved, phaseRevision := revision
    unresolvedInProjection := false, fillMetadata := some ⟨instrumentId, side⟩ }

/-- `gate.rollback_uncommitted_reservation(&pool_id, &submit_reservation_id)`. -/
def SubmitCapitalAdmissionState.rollbackUncommitted (capital : SubmitCapitalAdmissionState)
    (submitReservationId : String) : SubmitCapitalAdmissionState :=
  { capital with
    gate := (capital.gate.rollbackUncommitted capital.capitalPool.poolId submitReservationId).1 }

/-- The reservation id an entry takes: its client order id and the sequence number. -/
def reservationIdOf : String := request.clientOrderId ++ "#" ++ toString capital.nextSequence

/-- The end of `evaluate_capital_admission_submit`, from the gate's decision on. -/
def enterReservation (nowNs : Nat) (evaluation : ReservationLedger × CapitalAdmissionDecision) :
    SubmitCapitalAdmissionState × Nat × CapitalAdmissionSubmitDecision :=
  let submitReservationId := reservationIdOf capital request
  let evaluated := { capital with gate := evaluation.1 }
  match validateCapitalAdmissionDecision evaluation.2 with
  | .error invariant =>
    (evaluated.rollbackUncommitted submitReservationId, revision, .invariant invariant)
  | .ok (.rejected reason) => (evaluated, revision, .rejected reason)
  | .ok (.accepted admittedQuantity reservedLiability) =>
    if ¬ admittedQuantity.NumEq evidence.quantity then
      (evaluated.rollbackUncommitted submitReservationId, revision,
        .rejected .acceptedQuantityMismatch)
    else
      match checkedAdditiveLiability capital.policy with
      | none =>
        (evaluated.rollbackUncommitted submitReservationId, revision,
          .rejected (.liability .arithmeticOverflow))
      | some additiveLiability =>
        let attribution := reservationAttributionOf capital request evidence state
          submitReservationId admittedQuantity additiveLiability reservedLiability nowNs
        ({ evaluated with
            clientOrderReservations := evaluated.clientOrderReservations.insert
              request.clientOrderId
              (reservedRecord attribution reservationRevision request.instrumentId evidence.side) },
          reservationRevision,
          .accepted
            { rollback := some
                { clientOrderId := request.clientOrderId, submitReservationId := submitReservationId
                  poolId := capital.capitalPool.poolId, observedAtNs := nowNs }
              reservationAttribution := some attribution })

/-- The reserving part of `evaluate_capital_admission_submit`, for an entry at a revision that has
a successor. `capital` already carries the new sequence number. -/
def reserveEntry (nowNs : Nat) :
    SubmitCapitalAdmissionState × Nat × CapitalAdmissionSubmitDecision :=
  enterReservation capital revision reservationRevision request evidence state nowNs
    ((evaluateCapitalAdmission
      (gateRequest capital request evidence (reservationIdOf capital request) nowNs) (some state)
      capital.policy none capital.capitalPool capital.gate).get
      (evaluateCapitalAdmission_isSome _ _ _ _ _))

/-- The state in which an entry has taken the next sequence number. -/
def SubmitCapitalAdmissionState.sequenced : SubmitCapitalAdmissionState :=
  { capital with nextSequence := (capital.nextSequence + 1) % (u64Max + 1) }

/-- `evaluate_capital_admission_submit` where capital admission is configured. -/
def evaluateCapital (revision : Nat) (request : SubmitAdmissionRequest) (nowNs : Nat) :
    SubmitCapitalAdmissionState × Nat × CapitalAdmissionSubmitDecision :=
  match capitalAdmissionChecks capital request with
  | .error reason => (capital, revision, .rejected reason)
  | .ok (evidence, state, position) =>
    if request.intentKind = .riskReducingExit then
      if evidence.side = .sell ∧ evidence.quantity ≤ position then
        (capital, revision, acceptedWithoutReservation)
      else (capital, revision, .rejected (.liability .insufficientInventory))
    else
      match nextRevision revision with
      | none => (capital.invalidateReconciliation, revision, .rejected .reconciliationRequired)
      | some reservationRevision =>
        reserveEntry capital.sequenced revision reservationRevision request evidence state nowNs

def evaluateCapitalAdmissionSubmit (inner : Inner) (request : SubmitAdmissionRequest)
    (nowNs : Nat) : Inner × CapitalAdmissionSubmitDecision :=
  match inner.capitalAdmission with
  | none => (inner, acceptedWithoutReservation)
  | some capital =>
    let (capital, revision, decision) :=
      evaluateCapital capital inner.capitalAdmissionStateRevision request nowNs
    ({ inner with
        capitalAdmission := some capital, capitalAdmissionStateRevision := revision }, decision)

end

/-! ## What the evaluation can do -/

theorem nextRevision_eq_some {revision next : Nat} :
    nextRevision revision = some next ↔ revision + 1 ≤ u64Max ∧ next = revision + 1 :=
  checkedAdd_eq_some

theorem nextRevision_eq_none {revision : Nat} : nextRevision revision = none ↔ u64Max ≤ revision :=
  checkedAdd_eq_none.trans Nat.lt_succ_iff

/-- What the checks before a reservation have established. -/
structure CheckedOrder (capital : SubmitCapitalAdmissionState) (request : SubmitAdmissionRequest)
    (evidence : CompiledOrderAdmissionEvidence) (state : NtDerivedCapitalAdmissionState)
    (position : Decimal) : Prop where
  evidence_eq : request.admissionEvidence = some evidence
  state_eq : capital.state = some state
  fresh : capital.clientOrderReservations[request.clientOrderId]? = none
  captured : capital.captureFailureSource = none
  reconciled : capital.gate.reconciliationComplete = true
  instrument : request.instrumentId = state.productState.product.yesInstrumentId ∨
    request.instrumentId = state.productState.product.noInstrumentId

theorem capitalAdmissionChecks_eq_ok {capital : SubmitCapitalAdmissionState}
    {request : SubmitAdmissionRequest} {evidence : CompiledOrderAdmissionEvidence}
    {state : NtDerivedCapitalAdmissionState} {position : Decimal}
    (h : capitalAdmissionChecks capital request = .ok (evidence, state, position)) :
    CheckedOrder capital request evidence state position := by
  unfold capitalAdmissionChecks at h
  split at h; · cases h
  rename_i found hevidence
  split at h; · cases h
  rename_i horder
  split at h; · cases h
  rename_i st hstate
  split at h; · cases h
  rename_i haccount
  split at h; · cases h
  rename_i outcome houtcome
  dsimp only at h
  split at h
  · rename_i hinstrument
    cases h
    simp only [firstRefusal_eq_none, List.mem_cons, List.not_mem_nil, or_false, forall_eq_or_imp,
      forall_eq, bne_eq_false_iff_eq, Bool.not_eq_false'] at horder haccount
    obtain ⟨-, -, -, -, hfresh, hcapture⟩ := horder
    rw [← Bool.not_eq_true, ExtTreeMap.contains_iff_mem, SortedMap.notMem_iff_getElem?] at hfresh
    refine
      { evidence_eq := hevidence, state_eq := hstate, fresh := hfresh
        captured := by simpa using hcapture
        reconciled := haccount.2.2.2, instrument := ?_ }
    cases outcome with
    | yes => exact .inl hinstrument
    | no => exact .inr hinstrument
  · cases h

theorem mapCapitalAdmissionRejection_single {reason : CapitalAdmissionReason}
    (h : ∀ i, reason ≠ .invariant i) :
    ∃ mapped, mapCapitalAdmissionRejection [reason] = .ok mapped := by
  cases reason with
  | invariant i => exact absurd rfl (h i)
  | reservation reason => cases reason <;> exact ⟨_, rfl⟩
  | _ => exact ⟨_, rfl⟩

variable {request : CapitalAdmissionRequest}

/-- A refusal of the gate is a refusal, never an invariant violation. -/
theorem validateCapitalAdmissionDecision_refusal
    {decision : CapitalAdmissionDecision} (h : Refusal request decision) :
    ∃ reason, validateCapitalAdmissionDecision decision = .ok (.rejected reason) := by
  cases h with
  | early reason hreason =>
    obtain ⟨mapped, hmapped⟩ := mapCapitalAdmissionRejection_single hreason
    refine ⟨mapped, ?_⟩
    simp [validateCapitalAdmissionDecision, rejectedCapitalAdmission, emptyEvidence,
      liabilityContextIsConsistent, hmapped, Except.map]
  | priced quote sources reason hreason hquantity =>
    obtain ⟨mapped, hmapped⟩ := mapCapitalAdmissionRejection_single hreason
    refine ⟨mapped, ?_⟩
    simp [validateCapitalAdmissionDecision, rejectedCapitalAdmissionWithLiability,
      rejectedCapitalAdmission, admissionEvidence, liabilityContextIsConsistent, hmapped, hquantity,
      Except.map]

theorem validateCapitalAdmissionDecision_accepted
    {sources : List CapitalAdmissionStateEvidenceSource} {quote : LiabilityQuote}
    (h : quote.originalQuantity = request.quantity) :
    validateCapitalAdmissionDecision (acceptedAdmission request sources quote) =
      .ok (.accepted quote.acceptedQuantity quote.reservedLiability) := by
  simp [validateCapitalAdmissionDecision, acceptedAdmission, admissionEvidence, optionNumEq, h]

section

variable [DecimalArith] (capital : SubmitCapitalAdmissionState) (revision : Nat)
  (request : SubmitAdmissionRequest) (evidence : CompiledOrderAdmissionEvidence)
  (state : NtDerivedCapitalAdmissionState) (quote : LiabilityQuote)

/-- The ledger request of an entry with its quoted liability. -/
def entryRequest (nowNs : Nat) : ReservationRequest :=
  reservationRequestOf
    (gateRequest capital request evidence (reservationIdOf capital request) nowNs)
    state.productState.product.collateralCoupledGroupId quote

/-- The attribution of a reserved entry. -/
def entryAttribution (additive : Decimal) (nowNs : Nat) : ReservationAttribution :=
  reservationAttributionOf capital request evidence state (reservationIdOf capital request)
    quote.acceptedQuantity additive quote.reservedLiability nowNs

/-- The capital state after an entry is reserved. -/
def reservedState (additive : Decimal) (nowNs : Nat) : SubmitCapitalAdmissionState :=
  { capital with
    gate := { capital.gate with
      liveReservations := capital.gate.liveReservations ++
        [ReservationLedger.entryOf (entryRequest capital request evidence state quote nowNs)] }
    clientOrderReservations := capital.clientOrderReservations.insert request.clientOrderId
      (reservedRecord (entryAttribution capital request evidence state quote additive nowNs)
        (revision + 1) request.instrumentId evidence.side) }

/-- The acceptance of a reserved entry. -/
def reservedAcceptance (additive : Decimal) (nowNs : Nat) : CapitalAdmissionAcceptance :=
  { rollback := some
      { clientOrderId := request.clientOrderId
        submitReservationId := reservationIdOf capital request, poolId := capital.capitalPool.poolId
        observedAtNs := nowNs }
    reservationAttribution :=
      some (entryAttribution capital request evidence state quote additive nowNs) }

/-- Taking back the entry a reservation just pushed restores the gate. -/
theorem rollbackUncommitted_evaluated {capital : SubmitCapitalAdmissionState}
    {request : ReservationRequest} {before : Decimal}
    (h : capital.gate.Reservable capital.capitalPool request before) :
    SubmitCapitalAdmissionState.rollbackUncommitted
      { capital with
        gate := { capital.gate with
          liveReservations := capital.gate.liveReservations ++
            [ReservationLedger.entryOf request] } }
      request.requestId = capital := by
  have hpool := h.pool_eq
  have hpush :=
    ReservationLedger.rollbackUncommitted_push (ReservationLedger.entryOf request) h.fresh
  unfold SubmitCapitalAdmissionState.rollbackUncommitted
  rw [hpool]
  exact congrArg (fun gate => { capital with gate := gate }) (congrArg Prod.fst hpush)

/-- What an entry's reservation rests on: its quoted liability, the guards of the ledger and the
additive part of the liability. -/
structure Reserves (capital : SubmitCapitalAdmissionState) (request : SubmitAdmissionRequest)
    (nowNs : Nat) (evidence : CompiledOrderAdmissionEvidence)
    (state : NtDerivedCapitalAdmissionState) (quote : LiabilityQuote)
    (additive before : Decimal) : Prop where
  quoted : worstCaseLiability
    (gateRequest capital request evidence (reservationIdOf capital request) nowNs)
    state.productState capital.policy = .ok quote
  reservable : capital.gate.Reservable capital.capitalPool
    (entryRequest capital request evidence state quote nowNs) before
  additive_eq : checkedAdditiveLiability capital.policy = some additive

/-- An entry was reserved: what was checked of it, and the attribution and liability it got. -/
def EntryReserved (inner : Inner) (request : SubmitAdmissionRequest) (nowNs : Nat)
    (attribution : ReservationAttribution) (liability : Decimal) : Prop :=
  ∃ capital evidence state position quote additive before,
    inner.capitalAdmission = some capital ∧
      CheckedOrder capital request evidence state position ∧
      Reserves capital.sequenced request nowNs evidence state quote additive before ∧
      attribution = entryAttribution capital.sequenced request evidence state quote additive nowNs ∧
      liability = quote.reservedLiability

/-- **The reserving step refuses and leaves ledger and index as they were, or enters one
reservation in both.** -/
theorem reserveEntry_cases (evidence : CompiledOrderAdmissionEvidence)
    (state : NtDerivedCapitalAdmissionState) (nowNs : Nat) :
    (∃ reason, reserveEntry capital revision (revision + 1) request evidence state nowNs =
        (capital, revision, .rejected reason)) ∨
      ∃ quote additive before, Reserves capital request nowNs evidence state quote additive before ∧
        reserveEntry capital revision (revision + 1) request evidence state nowNs =
          (reservedState capital revision request evidence state quote additive nowNs, revision + 1,
            .accepted
              (reservedAcceptance capital request evidence state quote additive nowNs)) := by
  unfold reserveEntry
  rcases evaluateCapitalAdmission_cases
      (gateRequest capital request evidence (reservationIdOf capital request) nowNs) (some state)
      capital.policy capital.capitalPool capital.gate with
    ⟨decision, hrefusal, heval⟩ | ⟨st, sources, quote, before, hst, hquote, hok, heval⟩
  · obtain ⟨reason, hreason⟩ := validateCapitalAdmissionDecision_refusal hrefusal
    refine .inl ⟨reason, ?_⟩
    simp only [heval, Option.get_some, enterReservation, hreason]
  · cases hst
    obtain ⟨_, -, hquotes⟩ := worstCaseLiability_eq_ok hquote
    have hquantity : ¬ ¬ quote.acceptedQuantity.NumEq evidence.quantity := by
      rw [hquotes.accepted, not_not]
      exact Decimal.numEq_refl _
    simp only [heval, Option.get_some, enterReservation,
      validateCapitalAdmissionDecision_accepted hquotes.original, if_neg hquantity]
    cases hadditive : checkedAdditiveLiability capital.policy with
    | none =>
      -- The pushed entry is the only one of its name, so the rollback restores the ledger.
      exact .inl ⟨_, Prod.ext (rollbackUncommitted_evaluated hok) rfl⟩
    | some additive => exact .inr ⟨quote, additive, before, ⟨hquote, hok, hadditive⟩, rfl⟩

/-- **Evaluating an order's capital** leaves the state as it was, closes the gate at an exhausted
revision, takes a sequence number and refuses, or reserves the entry. -/
theorem evaluateCapital_cases (nowNs : Nat) :
    (∃ decision, evaluateCapital capital revision request nowNs = (capital, revision, decision) ∧
        (decision = acceptedWithoutReservation ∧ request.intentKind = .riskReducingExit ∨
          ∃ reason, decision = .rejected reason)) ∨
      (u64Max ≤ revision ∧ capital.gate.reconciliationComplete = true ∧
        evaluateCapital capital revision request nowNs =
          (capital.invalidateReconciliation, revision, .rejected .reconciliationRequired)) ∨
      (∃ reason, evaluateCapital capital revision request nowNs =
        (capital.sequenced, revision, .rejected reason)) ∨
      ∃ evidence state position quote additive before,
        CheckedOrder capital request evidence state position ∧ request.intentKind = .entry ∧
        revision + 1 ≤ u64Max ∧
        Reserves capital.sequenced request nowNs evidence state quote additive before ∧
        evaluateCapital capital revision request nowNs =
          (reservedState capital.sequenced revision request evidence state quote additive nowNs,
            revision + 1,
            .accepted (reservedAcceptance capital.sequenced request evidence state quote additive
              nowNs)) := by
  unfold evaluateCapital
  cases hchecks : capitalAdmissionChecks capital request with
  | error reason => exact .inl ⟨_, rfl, .inr ⟨reason, rfl⟩⟩
  | ok checked =>
    obtain ⟨evidence, state, position⟩ := checked
    have hchecked := capitalAdmissionChecks_eq_ok hchecks
    dsimp only
    cases hkind : request.intentKind with
    | riskReducingExit =>
      rw [if_pos rfl]
      split
      · exact .inl ⟨_, rfl, .inl ⟨rfl, rfl⟩⟩
      · exact .inl ⟨_, rfl, .inr ⟨_, rfl⟩⟩
    | entry =>
      cases hnext : nextRevision revision with
      | none => exact .inr (.inl ⟨nextRevision_eq_none.mp hnext, hchecked.reconciled, rfl⟩)
      | some next =>
        obtain ⟨hheadroom, rfl⟩ := nextRevision_eq_some.mp hnext
        rcases reserveEntry_cases capital.sequenced revision request evidence state nowNs with
          ⟨reason, hresult⟩ | ⟨quote, additive, before, hreserves, hresult⟩
        · exact .inr (.inr (.inl ⟨reason, hresult⟩))
        · exact .inr (.inr (.inr ⟨evidence, state, position, quote, additive, before, hchecked,
            rfl, hheadroom, hreserves, hresult⟩))

end

end BoltV3.Submit
