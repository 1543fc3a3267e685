import BoltV3.Capital.Admission
import BoltV3.Evidence.Recovery

/-!
# The state of submit admission

`bolt_v3_submit_admission.rs`: what the mutex of `BoltV3SubmitAdmissionState` protects, the requests
and permits that go in and out, and the errors. Every operation is a function on `Inner`, the value
under the mutex, since the lock is held from its first read to its last write.

* `u32` counters and the `u64` revision are `Nat`s with the checked operations of the source.
* The kill switch is its `kind()`; the halt ids and triggers of its states are not read here.
* `reject_episodes` and `loss_freshness` only shape evidence that is emitted and never read back,
  and are left out.
-/

namespace BoltV3.Submit

open Lib Loss Capital Evidence Std

/-! ## Orders and requests -/

/-- `OrderSide` of NautilusTrader. -/
inductive OrderSide
  | noOrderSide | buy | sell
deriving DecidableEq

/-- `PositionSide` of NautilusTrader. -/
inductive PositionSide
  | noPositionSide | flat | long | short

/-- Whether an order opens risk or reduces it. -/
inductive SubmitIntentKind
  | entry | riskReducingExit
deriving DecidableEq

/-- The product of a compiled order. -/
inductive CompiledProductKind
  | predictionMarketBinary

/-- The side of a compiled order. -/
inductive CompiledOrderSide
  | buy | sell
deriving DecidableEq

/-- The kind of a compiled order. -/
inductive CompiledOrderKind
  | limit | market

/-- Whether a compiled order makes or takes. -/
inductive CompiledOrderLiquidity
  | restingMaker | taker

/-- The outcome that is traded. -/
inductive PredictionMarketOutcomeSide
  | yes | no

/-- The product as the gate names it. -/
def CompiledProductKind.toCapitalAdmission : CompiledProductKind → ProductKind
  | predictionMarketBinary => .predictionMarketBinary

/-- The side as the gate names it. -/
def CompiledOrderSide.toCapitalAdmission : CompiledOrderSide → IntentSide
  | buy => .buy
  | sell => .sell

/-- The kind as the gate names it. -/
def CompiledOrderKind.toCapitalAdmission : CompiledOrderKind → IntentOrderKind
  | limit => .limit
  | market => .market

/-- The liquidity as the gate names it. -/
def CompiledOrderLiquidity.toCapitalAdmission : CompiledOrderLiquidity → IntentLiquidity
  | restingMaker => .restingMaker
  | taker => .taker

/-- The product as the evidence names it. -/
def reservationProductKind : CompiledProductKind → ReservationProductKind
  | .predictionMarketBinary => .predictionMarketBinary

/-- The same, of the product of the configuration. -/
def reservationProductKindFromCapital : ProductKind → ReservationProductKind
  | .predictionMarketBinary => .predictionMarketBinary

/-- The side as the evidence names it. -/
def evidenceOrderSide : CompiledOrderSide → EvidenceOrderSide
  | .buy => .buy
  | .sell => .sell

/-- The compiled side is that of the request. -/
def compiledOrderSideMatchesRequest : CompiledOrderSide → OrderSide → Bool
  | .buy, .buy => true
  | .sell, .sell => true
  | _, _ => false

/-- The position that an exit reduces. -/
structure RiskReducingExitProof where
  (positionId instrumentId : String)
  positionSide : PositionSide
  exitOrderSide : OrderSide
  (positionQuantity exitQuantity : Decimal)

/-- The proof is of this order, and the order does not exceed the position. -/
def RiskReducingExitProof.isValidForShape (proof : RiskReducingExitProof) (instrumentId : String)
    (orderSide : OrderSide) (orderQuantity : Decimal) : Bool :=
  proof.instrumentId == instrumentId && proof.exitOrderSide == orderSide &&
    decide (proof.exitQuantity.NumEq orderQuantity) &&
    decide (.zero < proof.positionQuantity) && decide (.zero < proof.exitQuantity) &&
    decide (proof.exitQuantity ≤ proof.positionQuantity) &&
    match proof.positionSide, orderSide with
    | .long, .sell => true
    | .short, .buy => true
    | _, _ => false

/-- What capital admission reads of a compiled order. -/
structure CompiledOrderAdmissionEvidence where
  venueId : String
  productKind : CompiledProductKind
  side : CompiledOrderSide
  (quantity effectivePrice : Decimal)
  orderKind : CompiledOrderKind
  liquidity : CompiledOrderLiquidity
  quoteSetId : Option String
  predictionMarketOutcome : Option PredictionMarketOutcomeSide

/-- `BoltV3BasketSubmitSlotClaim`. -/
structure BasketSubmitSlotClaim where
  (clientOrderId instrumentId : String)
  notional : Decimal
  orderSide : OrderSide
  orderQuantity : Decimal
  intentKind : SubmitIntentKind
  riskReducingExitProof : Option RiskReducingExitProof
  admissionEvidence : Option CompiledOrderAdmissionEvidence

/-- An order that asks to be admitted: it has the fields of a claim. -/
structure SubmitAdmissionRequest extends BasketSubmitSlotClaim where
  (strategyId executionClientId : String)

/-- What an admission reads of its sealed economics: until when the required capability is valid,
and whether its details can be written into the evidence. -/
structure EconomicsAdmission where
  requiredValidUntilNs : Nat
  details : Except String Unit

/-! ## Errors -/

/-- The state of the kill switch, without its data. -/
inductive KillSwitchStateKind
  | armed | halting | halted | cancelling | flattening | flat | failedManualIntervention
deriving DecidableEq

/-- Why capital admission refuses. -/
inductive CapitalAdmissionRejectReason
  | missingAdmissionEvidence | venueMismatch | accountMismatch | productKindMismatch
  | collateralCurrencyMismatch | unsupportedProductKind | missingPredictionMarketOutcome
  | outcomeInstrumentMismatch | duplicateClientOrderId | orderShapeMismatch | missingNtState
  | staleNtState | unattributedNtState | reconciliationRequired | overBudget
  | reservation (reason : ReservationRejectionReason)
  | liability (error : LiabilityError)
  | loss (reason : LossHaltReason)
  | acceptedQuantityMismatch

/-- The contradictions that the admission reports. -/
inductive SubmitAdmissionInvariant
  | admittedSubmitMissingEvidenceAuthority | acceptedCapitalAdmissionRebuildHasRejectionReason
  | contradictoryAdmissionDecisionContext | expectedRejectedOutcome
  | invalidCapitalAdmissionDecisionContext
  | invalidCapitalAdmissionRebuildReservationDecision (invariant : CapitalAdmissionInvariant)
  | killSwitchForcedReductionReachedNormalAdmission | missingAdmittedCounterUpdate
  | missingCapitalAdmissionRebuildRejectionReason | missingCapitalAdmissionRejectionReason
  | missingLossHaltReasons | missingStaleLossReason | rollbackOwnershipLost

/-- Why `record_admission_decision` fails: the evaluation contradicts itself, the economics cannot
be written, the recovery index refuses the event, or the append fails. -/
inductive EvidenceFailure
  | invalidEvaluation (invariant : SubmitAdmissionInvariant)
  | economics (reason : String)
  | recovery (reason : String)
  | append (reason : String)

/-- `BoltV3SubmitAdmissionError`, the variants that the admission state returns. -/
inductive SubmitAdmissionError
  | killSwitchLatched (state : KillSwitchStateKind)
  | lossGovernorHalted (reasons : List LossHaltReason)
  | countCapExhausted | nonPositiveNotional | notionalCapExceeded | clientOrderAlreadyAuthorized
  | invalidRiskReducingExitProof
  | economicsUnavailable (validUntilNs : Nat)
  | capitalAdmissionRejected (reason : CapitalAdmissionRejectReason)
  | invariantViolation (invariant : SubmitAdmissionInvariant)
  | economicsSealRejected
  | evidenceWriteFailed (failure : EvidenceFailure)
  -- not an error of the source: the loss governor has panicked
  | panicked

/-! ## The protected state -/

/-- How far the order of a reservation is. -/
inductive SubmitReservationPhase
  | reserved | sinkInvoked | observedOpen
deriving DecidableEq

/-- What a fill is checked against. -/
structure SubmitReservationFillMetadata where
  instrumentId : String
  side : CompiledOrderSide

/-- The entry of a client order in the reservation index. -/
structure SubmitReservationRecord where
  attribution : ReservationAttribution
  phase : SubmitReservationPhase
  phaseRevision : Nat
  unresolvedInProjection : Bool
  fillMetadata : Option SubmitReservationFillMetadata

/-- How far an order without evidence and reservation is. -/
inductive EvidenceFreeNonReservationPhase
  | permitHeld | sinkInvoked
deriving DecidableEq

/-- The caps of an execution client. -/
structure LiveSubmitApprovalLimits where
  maxOrderCount : Nat
  maxOrderNotional : Decimal

/-- The halts of a strategy since the first one. -/
structure LossHaltEpisode where
  (count firstHaltNs : Nat)

/-- The configuration of capital admission. -/
structure SubmitCapitalAdmissionConfig where
  (venueId accountId : String)
  productKind : ProductKind
  collateralCurrency : String
  capitalPool : CapitalPoolSnapshot
  policy : CapitalAdmissionPolicy

/-- The gate, its index, and the state last projected. -/
structure SubmitCapitalAdmissionState extends SubmitCapitalAdmissionConfig where
  state : Option NtDerivedCapitalAdmissionState
  latestReservationMutationObservedAtNs : Option Nat
  captureFailureSource : Option String
  captureFailureObservedAtNs : Option Nat
  gate : ReservationLedger
  nextSequence : Nat
  clientOrderReservations : ExtTreeMap String SubmitReservationRecord
  unresolvedLifecycleReservations : Nat × Nat
  fillEvidenceIntegrityFailed : Bool

/-- `BoltV3SubmitAdmissionInner`. -/
structure Inner where
  killSwitchState : KillSwitchStateKind
  liveSubmitApprovalLimits : ExtTreeMap String LiveSubmitApprovalLimits
  admittedOrderCount : Nat
  admittedOrderCountByExecutionClient : ExtTreeMap String Nat
  rollbackOwnershipLatch : Option SubmitAdmissionInvariant
  capitalAdmissionStateRevision : Nat
  evidenceFreeNonReservationAdmissions : ExtTreeMap String EvidenceFreeNonReservationPhase
  committedAdmissionAuthority : ReservationRecoveryFacts
  lossPolicy : Option LossGovernorPolicy
  lossSnapshot : Option LossSnapshot
  lossSourceObservations : LossSourceObservationTimestamps
  lossHaltEpisodes : ExtTreeMap String LossHaltEpisode
  capitalAdmission : Option SubmitCapitalAdmissionState

/-- The capital admission of a configuration, before any projection. -/
def SubmitCapitalAdmissionConfig.initial (config : SubmitCapitalAdmissionConfig) :
    SubmitCapitalAdmissionState :=
  { config with
    state := none, latestReservationMutationObservedAtNs := none, captureFailureSource := none
    captureFailureObservedAtNs := none, gate := .unreconciled, nextSequence := 0
    clientOrderReservations := ∅, unresolvedLifecycleReservations := (0, 0)
    fillEvidenceIntegrityFailed := false }

/-- The state of a new admission. -/
def Inner.newWithOptionalControls (limits : ExtTreeMap String LiveSubmitApprovalLimits)
    (lossPolicy : Option LossGovernorPolicy)
    (capitalAdmission : Option SubmitCapitalAdmissionConfig) : Inner :=
  { killSwitchState := .armed, liveSubmitApprovalLimits := limits, admittedOrderCount := 0
    admittedOrderCountByExecutionClient := ∅, rollbackOwnershipLatch := none
    capitalAdmissionStateRevision := 0, evidenceFreeNonReservationAdmissions := ∅
    committedAdmissionAuthority := .empty, lossPolicy := lossPolicy, lossSnapshot := none
    lossSourceObservations := .unobserved, lossHaltEpisodes := ∅
    capitalAdmission := capitalAdmission.map SubmitCapitalAdmissionConfig.initial }

/-! ## The fixed part of the capital state -/

/-- What capital admission takes from its configuration and never changes. -/
structure CapitalTerms where
  (venueId accountId : String)
  productKind : ProductKind
  (collateralCurrency poolId : String)
  (maxPoolLiability committedLiability : Decimal)
  maxSnapshotAgeNs : Nat
  policy : CapitalAdmissionPolicy

variable (capital : SubmitCapitalAdmissionState)

/-- The fixed part. -/
def SubmitCapitalAdmissionState.terms : CapitalTerms :=
  { venueId := capital.venueId, accountId := capital.accountId, productKind := capital.productKind
    collateralCurrency := capital.collateralCurrency, poolId := capital.capitalPool.poolId
    maxPoolLiability := capital.capitalPool.maxPoolLiability
    committedLiability := capital.capitalPool.committedLiability
    maxSnapshotAgeNs := capital.capitalPool.maxSnapshotAgeNs, policy := capital.policy }

/-- The fixed part, with capital admission. -/
def Inner.terms (inner : Inner) : Option CapitalTerms := inner.capitalAdmission.map (·.terms)

/-- The market a projection is about, as its configuration names it. -/
structure Market where
  (yesInstrumentId noInstrumentId collateralCoupledGroupId : String)

/-- The market of a product snapshot. -/
def marketOf (product : PredictionMarketAdmissionSnapshot) : Market :=
  ⟨product.yesInstrumentId, product.noInstrumentId, product.collateralCoupledGroupId⟩

/-- The market of the last projection. -/
def SubmitCapitalAdmissionState.market : Option Market :=
  capital.state.map fun state => marketOf state.productState.product

/-- The market of the last projection, with capital admission. -/
def Inner.market (inner : Inner) : Option Market := inner.capitalAdmission.bind (·.market)

/-- What the pool may hold, `max_pool_liability - committed_liability`. -/
def CapitalTerms.budget (terms : CapitalTerms) : ℚ :=
  terms.maxPoolLiability.value - terms.committedLiability.value

end BoltV3.Submit
