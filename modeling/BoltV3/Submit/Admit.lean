import BoltV3.Submit.Permit

/-!
# Admission

`bolt_v3_submit_admission.rs`: `evaluate` decides about one order, `record_admission_decision`
writes the decision into the evidence and advances the committed authority, and `admit_at_inner`,
`evaluate_and_record_without_consuming_capacity_at` and `reserve_basket_submit_slots_with_evidence`
are the three ways an order, or the legs of a basket, go through them.

* Whether a durable append succeeds is an argument; `Outcome.recorded` lists the facts appended.
* The wall clock of a basket is an argument; its failure returns before anything is read.
* In the source an admitted order has its counter update computed by then, so
  `MissingAdmittedCounterUpdate` has no branch here.
-/

namespace BoltV3.Submit

open Lib Loss Capital Evidence Std

/-- The state an operation leaves, the facts it recorded durably, and what it returns. -/
structure Outcome (α : Type) where
  inner : Inner
  recorded : List ReservationRecoveryEvent
  result : α

/-! ## Evaluations -/

/-- `BoltV3SubmitAdmissionEvaluation`. -/
structure SubmitAdmissionEvaluation where
  outcome : AdmissionDecisionOutcome
  admissionNowNs : Nat
  lossHaltReasons : List LossHaltReason
  lossSnapshotDiagnostics : Option LossSnapshotDiagnostics
  capitalAdmissionRejection : Option CapitalAdmissionRejectReason
  rollback : Option CapitalAdmissionReservationRollback
  reservationAttribution : Option ReservationAttribution

namespace SubmitAdmissionEvaluation

variable (evaluation : SubmitAdmissionEvaluation)

/-- `validate`: the context of an evaluation fits its outcome. -/
def validate : Except SubmitAdmissionInvariant Unit :=
  let hasLossContext := !evaluation.lossHaltReasons.isEmpty
  let hasCapitalContext := evaluation.capitalAdmissionRejection.isSome
  let hasAdmittedContext := evaluation.rollback.isSome || evaluation.reservationAttribution.isSome
  match evaluation.outcome with
  | .admitted =>
    if !hasLossContext && !hasCapitalContext then .ok ()
    else .error .contradictoryAdmissionDecisionContext
  | .rejected .lossGovernorHalted =>
    if !hasLossContext then .error .missingLossHaltReasons
    else if !hasCapitalContext && !hasAdmittedContext then .ok ()
    else .error .contradictoryAdmissionDecisionContext
  | .rejected .capitalAdmission =>
    if !hasCapitalContext then .error .missingCapitalAdmissionRejectionReason
    else if !hasLossContext && !hasAdmittedContext then .ok ()
    else .error .contradictoryAdmissionDecisionContext
  | .rejected _ =>
    if !hasLossContext && !hasCapitalContext && !hasAdmittedContext then .ok ()
    else .error .contradictoryAdmissionDecisionContext

def withoutLossHalt (outcome : AdmissionDecisionOutcome) (admissionNowNs : Nat) :
    SubmitAdmissionEvaluation :=
  ⟨outcome, admissionNowNs, [], none, none, none, none⟩

def lossHalt (reasons : List LossHaltReason) (diagnostics : LossSnapshotDiagnostics) :
    SubmitAdmissionEvaluation :=
  ⟨.rejected .lossGovernorHalted, diagnostics.admissionNowNs, reasons, some diagnostics, none, none,
    none⟩

def capitalAdmissionRejected (reason : CapitalAdmissionRejectReason) (admissionNowNs : Nat) :
    SubmitAdmissionEvaluation :=
  ⟨.rejected .capitalAdmission, admissionNowNs, [], none, some reason, none, none⟩

def admittedWithRollback (rollback : Option CapitalAdmissionReservationRollback)
    (attribution : Option ReservationAttribution) (admissionNowNs : Nat) :
    SubmitAdmissionEvaluation :=
  ⟨.admitted, admissionNowNs, [], none, none, rollback, attribution⟩

def withLossSnapshotDiagnostics
    (diagnostics : Option LossSnapshotDiagnostics) : SubmitAdmissionEvaluation :=
  { evaluation with lossSnapshotDiagnostics := diagnostics.or evaluation.lossSnapshotDiagnostics }

end SubmitAdmissionEvaluation

open SubmitAdmissionEvaluation

def ensureEconomicsAvailable (economics : Option EconomicsAdmission) (nowNs : Nat) :
    Except SubmitAdmissionError Unit :=
  match economics with
  | none => .ok ()
  | some economics =>
    if economics.requiredValidUntilNs < nowNs then
      .error (.economicsUnavailable economics.requiredValidUntilNs)
    else .ok ()

def liveSubmitCountCapOutcome (currentCount claimCount maxOrderCount : Nat) :
    AdmissionDecisionOutcome :=
  match checkedAdd u32Max currentCount claimCount with
  | some total => if total ≤ maxOrderCount then .admitted else .rejected .countCapExhausted
  | none => .rejected .countCapExhausted

def staleLossReasonKey : LossSnapshotStaleReason → String
  | .missingSnapshot => "missing_snapshot"
  | .sourceEmpty => "source_empty"
  | .futureDated => "future_dated"
  | .ageExceeded => "age_exceeded"
  | .missingRequiredField => "missing_required_field"

def staleLossGovernorHaltReason (policy : LossGovernorPolicy) (snapshot : Option LossSnapshot)
    (nowNs : Nat) : Except SubmitAdmissionError LossSnapshotStaleReason :=
  match snapshot with
  | none => .ok .missingSnapshot
  | some snapshot =>
    match lossSnapshotStaleReason policy snapshot nowNs with
    | some reason => .ok reason
    | none => .error (.invariantViolation .missingStaleLossReason)

variable (inner : Inner)

/-- `record_stale_loss_governor_halt`: a halt is counted under its reason and source. -/
def recordStaleLossGovernorHalt (policy : LossGovernorPolicy) (nowNs : Nat) :
    Inner × Except SubmitAdmissionError Unit :=
  match staleLossGovernorHaltReason policy inner.lossSnapshot nowNs with
  | .error error => (inner, .error error)
  | .ok reason =>
    let source := (inner.lossSnapshot.bind (·.source)).elim "none" LossSnapshotSource.asStr
    let key := staleLossReasonKey reason ++ ":" ++ source
    let episode := match inner.lossHaltEpisodes[key]? with
      | some episode => { episode with count := Nat.min (episode.count + 1) u32Max }
      | none => ⟨1, nowNs⟩
    ({ inner with lossHaltEpisodes := inner.lossHaltEpisodes.insert key episode }, .ok ())

section

variable [DecimalArith]

/-- The loss governor's part of `evaluate`: it returns from `evaluate`, or yields the diagnostics
of a passed check. -/
def evaluateLoss (inner : Inner) (request : SubmitAdmissionRequest) (nowNs : Nat) :
    Inner × Except (Except SubmitAdmissionError SubmitAdmissionEvaluation)
      (Option LossSnapshotDiagnostics) :=
  match inner.lossPolicy, request.intentKind with
  | some policy, .entry =>
    match evaluateLossAdmissionWithObservations policy inner.lossSnapshot nowNs
      inner.lossSourceObservations with
    | none => (inner, .error (.error .panicked))
    | some decision =>
      if decision.accepted then
        ({ inner with lossHaltEpisodes := ∅ }, .ok (some decision.diagnostics))
      else if decision.haltReasons.contains .staleLossSnapshot then
        match recordStaleLossGovernorHalt inner policy nowNs with
        | (inner, .error error) => (inner, .error (.error error))
        | (inner, .ok ()) =>
          (inner, .error (.ok (lossHalt decision.haltReasons decision.diagnostics)))
      else (inner, .error (.ok (lossHalt decision.haltReasons decision.diagnostics)))
  | _, _ => (inner, .ok none)

end

variable (request : SubmitAdmissionRequest)

/-- The exit proof of a risk-reducing order fits it. -/
def exitProofInvalid : Bool :=
  match request.intentKind with
  | .entry => false
  | .riskReducingExit =>
    !request.riskReducingExitProof.any fun proof =>
      proof.isValidForShape request.instrumentId request.orderSide request.orderQuantity

/-- The checks of `evaluate` on the order itself: notional, live limits, exit proof. -/
def orderRefusal : Option AdmissionRejectionReason :=
  let limits := inner.liveSubmitApprovalLimits[request.executionClientId]?
  let count := inner.executionClientCount request.executionClientId
  firstRefusal
    [(decide (request.notional ≤ .zero), .nonPositiveNotional),
      (limits.any fun limits => decide (limits.maxOrderNotional < request.notional),
        .notionalCapExceeded),
      (limits.any fun limits =>
        liveSubmitCountCapOutcome count 1 limits.maxOrderCount == .rejected .countCapExhausted,
        .countCapExhausted),
      (exitProofInvalid request, .invalidRiskReducingExitProof)]

/-- The checks of `evaluate` before the loss governor: an order is authorised once, and only while
the kill switch is armed. -/
def authorityRefusal : Option AdmissionRejectionReason :=
  firstRefusal
    [(inner.committedAdmissionAuthority.authorizesOrder request.clientOrderId ||
        inner.evidenceFreeNonReservationAdmissions.contains request.clientOrderId,
        .clientOrderAlreadyAuthorized),
      (inner.killSwitchState != .armed, .killSwitchLatched)]

section

variable [DecimalArith]

/-- The capital part of `evaluate`. -/
def evaluateOrderCapital (nowNs : Nat) :
    Inner × Except SubmitAdmissionError SubmitAdmissionEvaluation :=
  if inner.capitalAdmission.isNone then (inner, .ok (withoutLossHalt .admitted nowNs))
  else
    match evaluateCapitalAdmissionSubmit inner request nowNs with
    | (inner, .rejected reason) => (inner, .ok (capitalAdmissionRejected reason nowNs))
    | (inner, .accepted acceptance) =>
      (inner,
        .ok (admittedWithRollback acceptance.rollback acceptance.reservationAttribution nowNs))
    | (inner, .invariant invariant) => (inner, .error (.invariantViolation invariant))

def evaluate (nowNs : Nat) : Inner × Except SubmitAdmissionError SubmitAdmissionEvaluation :=
  match inner.rollbackOwnershipLatch with
  | some invariant => (inner, .error (.invariantViolation invariant))
  | none =>
    match authorityRefusal inner request with
    | some reason => (inner, .ok (withoutLossHalt (.rejected reason) nowNs))
    | none =>
      match evaluateLoss inner request nowNs with
      | (inner, .error result) => (inner, result)
      | (inner, .ok diagnostics) =>
        match orderRefusal inner request with
        | some reason =>
          (inner, .ok
            ((withoutLossHalt (.rejected reason) nowNs).withLossSnapshotDiagnostics diagnostics))
        | none =>
          let (inner, result) := evaluateOrderCapital inner request nowNs
          (inner, result.map (·.withLossSnapshotDiagnostics diagnostics))

/-! ## Recording a decision -/

inductive RecordedAdmissionAuthority
  | committedEntry
  | riskReducing (evidenceCommitted : Bool)
  | noExternalActionAuthority
deriving DecidableEq

def RecordedAdmissionAuthority.intoSubmitAuthority :
    RecordedAdmissionAuthority → Except SubmitAdmissionError SubmitEvidenceAuthority
  | committedEntry => .ok .committedEntry
  | riskReducing _ => .ok .riskReducing
  | noExternalActionAuthority =>
    .error (.invariantViolation .admittedSubmitMissingEvidenceAuthority)

variable (evaluation : SubmitAdmissionEvaluation)

/-- The `AdmissionDetails` of a decision. -/
def admissionDetails : AdmissionDetails :=
  let diagnostics := evaluation.lossSnapshotDiagnostics
  { diagnostics.getD (.absent evaluation.admissionNowNs) with
    strategyId := request.strategyId, executionClientId := request.executionClientId
    clientOrderId := request.clientOrderId, instrumentId := request.instrumentId
    notional := DecimalArith.toText request.notional, lossHaltReasons := evaluation.lossHaltReasons
    lossSnapshotObservedAtNs := diagnostics.bind (·.snapshotObservedAtNs)
    lossEvalNowNs := diagnostics.map (·.admissionNowNs) }

/-- The state with a new committed authority. -/
def Inner.withAuthority (authority : ReservationRecoveryFacts) : Inner :=
  { inner with committedAdmissionAuthority := authority }

/-- An admitted entry: the authority advances only with the durable append. -/
def recordAdmittedEntry (fact : AdmittedEntryAdmissionFact)
    (append : Except String Unit) : Outcome (Except EvidenceFailure RecordedAdmissionAuthority) :=
  match inner.committedAdmissionAuthority.apply (.admittedEntry fact) with
  | .error reason => ⟨inner, [], .error (.recovery reason)⟩
  | .ok authority =>
    match append with
    | .error reason => ⟨inner, [], .error (.append reason)⟩
    | .ok () => ⟨inner.withAuthority authority, [.admittedEntry fact], .ok .committedEntry⟩

/-- A risk-reducing exit, admitted or not: its append may fail without failing the exit. -/
def recordRiskReducingExit (fact : RiskReducingExitAdmissionFact)
    (append : Except String Unit) : Outcome (Except EvidenceFailure RecordedAdmissionAuthority) :=
  let recorded := [ReservationRecoveryEvent.riskReducingExit fact]
  if fact.outcome = .admitted then
    match inner.committedAdmissionAuthority.apply (.riskReducingExit fact) with
    | .error reason => ⟨inner, [], .error (.recovery reason)⟩
    | .ok authority =>
      match append with
      | .error _ => ⟨inner, [], .ok (.riskReducing false)⟩
      | .ok () => ⟨inner.withAuthority authority, recorded, .ok (.riskReducing true)⟩
  else
    match append with
    | .error _ => ⟨inner, [], .ok (.riskReducing false)⟩
    | .ok () => ⟨inner, recorded, .ok (.riskReducing true)⟩

def recordAdmissionDecision (economics : Option EconomicsAdmission)
    (append : Except String Unit) : Outcome (Except EvidenceFailure RecordedAdmissionAuthority) :=
  match evaluation.validate with
  | .error invariant => ⟨inner, [], .error (.invalidEvaluation invariant)⟩
  | .ok () =>
    match economics.elim (.ok ()) (·.details) with
    | .error reason => ⟨inner, [], .error (.economics reason)⟩
    | .ok () =>
      let details := admissionDetails request evaluation
      match request.intentKind, evaluation.outcome with
      | .entry, .admitted =>
        recordAdmittedEntry inner ⟨details, evaluation.reservationAttribution⟩ append
      | .entry, .rejected _ => ⟨inner, [], .ok .noExternalActionAuthority⟩
      | .riskReducingExit, outcome => recordRiskReducingExit inner ⟨details, outcome⟩ append

end

def capitalAdmissionRejectionError (reason : Option CapitalAdmissionRejectReason) :
    SubmitAdmissionError :=
  match reason with
  | some reason => .capitalAdmissionRejected reason
  | none => .invariantViolation .missingCapitalAdmissionRejectionReason

def submitAdmissionErrorFromOutcome (killSwitchState : KillSwitchStateKind) :
    AdmissionDecisionOutcome → SubmitAdmissionError
  | .admitted => .invariantViolation .expectedRejectedOutcome
  | .rejected .killSwitchLatched => .killSwitchLatched killSwitchState
  | .rejected .lossGovernorHalted => .invariantViolation .missingLossHaltReasons
  | .rejected .nonPositiveNotional => .nonPositiveNotional
  | .rejected .notionalCapExceeded => .notionalCapExceeded
  | .rejected .clientOrderAlreadyAuthorized => .clientOrderAlreadyAuthorized
  | .rejected .invalidRiskReducingExitProof => .invalidRiskReducingExitProof
  | .rejected .countCapExhausted => .countCapExhausted
  | .rejected .capitalAdmission => capitalAdmissionRejectionError none
  | .rejected .killSwitchForcedReductionProofInvalid =>
    .invariantViolation .killSwitchForcedReductionReachedNormalAdmission
  | .rejected .killSwitchForcedReductionCapExceeded =>
    .invariantViolation .killSwitchForcedReductionReachedNormalAdmission
  | .rejected .economicsSealRejected => .economicsSealRejected

/-- The error of a rejected evaluation: the one of its outcome, with what the evaluation has of a
halt or of a capital rejection. -/
def rejectionError (inner : Inner) (evaluation : SubmitAdmissionEvaluation) :
    AdmissionRejectionReason → SubmitAdmissionError
  | .lossGovernorHalted => .lossGovernorHalted evaluation.lossHaltReasons
  | .capitalAdmission => capitalAdmissionRejectionError evaluation.capitalAdmissionRejection
  | reason => submitAdmissionErrorFromOutcome inner.killSwitchState (.rejected reason)

def admissionResult (inner : Inner) (evaluation : SubmitAdmissionEvaluation) :
    Except SubmitAdmissionError Unit :=
  match evaluation.validate with
  | .error invariant => .error (.invariantViolation invariant)
  | .ok () =>
    match evaluation.outcome with
    | .admitted => .ok ()
    | .rejected reason => .error (rejectionError inner evaluation reason)

section

variable [DecimalArith]

/-! ## Admitting one order -/

variable (executionClientId : String)

/-- The counters after an admission of `orderCount` orders. -/
def Inner.withCounters (values : SubmitAdmissionCounterValues) : Inner :=
  { inner with
    admittedOrderCount := values.admittedOrderCount
    admittedOrderCountByExecutionClient := inner.admittedOrderCountByExecutionClient.insert
      executionClientId values.executionClientOrderCount }

/-- The evidence-free orders a permit holds from now on. -/
def Inner.holdEvidenceFree (ids : List String) : Inner :=
  { inner with
    evidenceFreeNonReservationAdmissions :=
      ids.foldl (·.insert · .permitHeld) inner.evidenceFreeNonReservationAdmissions }

/-- The permit of admitted orders. -/
def grantPermit (orderCount : Nat)
    (values : SubmitAdmissionCounterValues) (evidenceFreeIds : List String)
    (rollbacks : List CapitalAdmissionReservationRollback) (authority : SubmitEvidenceAuthority) :
    Inner × SubmitAdmissionPermit :=
  ((inner.withCounters executionClientId values).holdEvidenceFree evidenceFreeIds,
    { rollbacks := rollbacks
      counterRollback := some
        { executionClientId := executionClientId, orderCount := orderCount
          uncommittedEvidenceFreeClientOrderIds := evidenceFreeIds }
      evidenceAuthority := some authority
      committed := false })

variable (evaluation : SubmitAdmissionEvaluation) (economics : Option EconomicsAdmission)
  (append : Except String Unit)

/-- `admit_at_inner` for an admitted evaluation whose counters have room. -/
def admitCounted (values : SubmitAdmissionCounterValues) :
    Outcome (Except SubmitAdmissionError SubmitAdmissionPermit) :=
  let recorded := recordAdmissionDecision inner request evaluation economics append
  match recorded.result with
  | .error failure =>
    ⟨rollbackIfReserved recorded.inner evaluation.rollback, recorded.recorded,
      .error (.evidenceWriteFailed failure)⟩
  | .ok authority =>
    match authority.intoSubmitAuthority with
    | .error error =>
      ⟨rollbackIfReserved recorded.inner evaluation.rollback, recorded.recorded, .error error⟩
    | .ok submitAuthority =>
      let evidenceFree :=
        if evaluation.reservationAttribution.isNone && authority == .riskReducing false then
          [request.clientOrderId]
        else []
      let granted := grantPermit recorded.inner request.executionClientId 1 values evidenceFree
        evaluation.rollback.toList submitAuthority
      ⟨granted.1, recorded.recorded, .ok granted.2⟩

/-- `admit_at_inner` for an admitted evaluation that would overflow a counter. -/
def admitCountCapExhausted : Outcome (Except SubmitAdmissionError SubmitAdmissionPermit) :=
  let rejected := (withoutLossHalt (.rejected .countCapExhausted)
    evaluation.admissionNowNs).withLossSnapshotDiagnostics evaluation.lossSnapshotDiagnostics
  let recorded := recordAdmissionDecision (rollbackIfReserved inner evaluation.rollback) request
    rejected economics append
  match recorded.result with
  | .error failure => ⟨recorded.inner, recorded.recorded, .error (.evidenceWriteFailed failure)⟩
  | .ok _ => ⟨recorded.inner, recorded.recorded, .error .countCapExhausted⟩

/-- `admit_at_inner` for a rejected evaluation. -/
def admitRejected (reason : AdmissionRejectionReason)
    (economics : Option EconomicsAdmission) (append : Except String Unit) :
    Outcome (Except SubmitAdmissionError SubmitAdmissionPermit) :=
  let recorded := recordAdmissionDecision inner request evaluation economics append
  match recorded.result with
  | .error failure =>
    ⟨rollbackIfReserved recorded.inner evaluation.rollback, recorded.recorded,
      .error (.evidenceWriteFailed failure)⟩
  | .ok _ =>
    ⟨recorded.inner, recorded.recorded, .error (rejectionError recorded.inner evaluation reason)⟩

/-- The common start of the two decisions about one order, up to a valid evaluation. -/
def withEvaluation {α : Type} (nowNs : Nat)
    (decided : Inner → SubmitAdmissionEvaluation → Outcome (Except SubmitAdmissionError α)) :
    Outcome (Except SubmitAdmissionError α) :=
  match ensureEconomicsAvailable economics nowNs with
  | .error error => ⟨inner, [], .error error⟩
  | .ok () =>
    match evaluate inner request nowNs with
    | (inner, .error error) => ⟨inner, [], .error error⟩
    | (inner, .ok evaluation) =>
      match evaluation.validate with
      | .error invariant =>
        ⟨rollbackIfReserved inner evaluation.rollback, [], .error (.invariantViolation invariant)⟩
      | .ok () => decided inner evaluation

def admitAtInner (nowNs : Nat) (append : Except String Unit) :
    Outcome (Except SubmitAdmissionError SubmitAdmissionPermit) :=
  withEvaluation inner request economics nowNs fun inner evaluation =>
    match evaluation.outcome with
    | .rejected reason => admitRejected inner request evaluation reason economics append
    | .admitted =>
      match checkedAdmissionCounterValues inner.admittedOrderCount
        (inner.executionClientCount request.executionClientId) 1 with
      | none => admitCountCapExhausted inner request evaluation economics append
      | some values => admitCounted inner request evaluation economics append values

def evaluateAndRecordWithoutConsumingCapacityAt (nowNs : Nat) (append : Except String Unit) :
    Outcome (Except SubmitAdmissionError Unit) :=
  withEvaluation inner request economics nowNs fun inner evaluation =>
    let recorded := recordAdmissionDecision inner request evaluation economics append
    let rolledBack := rollbackIfReserved recorded.inner evaluation.rollback
    match recorded.result with
    | .error failure => ⟨rolledBack, recorded.recorded, .error (.evidenceWriteFailed failure)⟩
    | .ok _ => ⟨rolledBack, recorded.recorded, admissionResult rolledBack evaluation⟩

/-! ## Admitting a basket -/

def basketSubmitRequest (strategyId executionClientId : String) (claim : BasketSubmitSlotClaim) :
    SubmitAdmissionRequest := ⟨claim, strategyId, executionClientId⟩

/-- The intent of a claim as the basket's evidence has it. -/
def basketIntentKind : SubmitIntentKind → BasketAdmissionIntentKind
  | .entry => .entry
  | .riskReducingExit => .riskReducingExit

/-- How the loop over the claims of a basket ends. -/
inductive BasketLoop
  | failed (inner : Inner) (error : SubmitAdmissionError)
  | rejected (inner : Inner) (rollbacks : List CapitalAdmissionReservationRollback)
      (evaluation : SubmitAdmissionEvaluation)
  | admitted (inner : Inner) (rollbacks : List CapitalAdmissionReservationRollback)
      (attributions : List (Option ReservationAttribution))

/-- The loop of `reserve_basket_submit_slots_with_evidence`: every claim is evaluated in turn, with
the reservations of the earlier ones in place. -/
def basketLoop (strategyId executionClientId : String) (nowNs : Nat) :
    Inner → List CapitalAdmissionReservationRollback → List (Option ReservationAttribution) →
      List BasketSubmitSlotClaim → BasketLoop
  | inner, rollbacks, attributions, [] => .admitted inner rollbacks attributions
  | inner, rollbacks, attributions, claim :: claims =>
    match evaluate inner (basketSubmitRequest strategyId executionClientId claim) nowNs with
    | (inner, .error error) => .failed (rollbackCapitalAdmissionReservations inner rollbacks) error
    | (inner, .ok evaluation) =>
      match evaluation.validate with
      | .error invariant =>
        .failed (rollbackCapitalAdmissionReservations inner
          (rollbacks ++ evaluation.rollback.toList)) (.invariantViolation invariant)
      | .ok () =>
        if evaluation.outcome = .admitted then
          basketLoop strategyId executionClientId nowNs inner
            (rollbacks ++ evaluation.rollback.toList)
            (attributions ++ [evaluation.reservationAttribution]) claims
        else .rejected inner rollbacks evaluation

variable (claims : List BasketSubmitSlotClaim)

/-- The legs of a granted basket. -/
def basketLegs (attributions : List (Option ReservationAttribution)) : List BasketAdmittedLeg :=
  (claims.zip attributions).map fun (claim, reservation) =>
    { clientOrderId := claim.clientOrderId, instrumentId := claim.instrumentId
      intentKind := basketIntentKind claim.intentKind, reservation := reservation }

/-- Every admitted leg is a risk-reducing exit. -/
def pureRiskReducing : Bool := claims.all (·.intentKind == .riskReducingExit)

variable (details : BasketAdmissionDetails)

/-- The end of `reserve_basket_submit_slots_with_evidence`, once the counters have room: the grant
is applied to the authority and recorded, or the reservations are rolled back. -/
def grantBasket (rollbacks : List CapitalAdmissionReservationRollback)
    (attributions : List (Option ReservationAttribution)) (values : SubmitAdmissionCounterValues)
    (append : Except String Unit) : Outcome (Except SubmitAdmissionError SubmitAdmissionPermit) :=
  let grant := ReservationRecoveryEvent.basketGranted ⟨details, basketLegs claims attributions⟩
  match inner.committedAdmissionAuthority.apply grant with
  | .error _ =>
    ⟨rollbackCapitalAdmissionReservations inner rollbacks, [], .error .clientOrderAlreadyAuthorized⟩
  | .ok authority =>
    match append with
    | .ok () =>
      let granted := grantPermit (inner.withAuthority authority) executionClientId claims.length
        values [] rollbacks .committedBasket
      ⟨granted.1, [grant], .ok granted.2⟩
    | .error reason =>
      if pureRiskReducing claims then
        let granted := grantPermit inner executionClientId claims.length values
          (claims.map (·.clientOrderId)) rollbacks .riskReducing
        ⟨granted.1, [], .ok granted.2⟩
      else
        ⟨rollbackCapitalAdmissionReservations inner rollbacks, [],
          .error (.evidenceWriteFailed (.append reason))⟩

def reserveBasketSubmitSlotsWithEvidence (nowNs : Nat)
    (append : Except String Unit) : Outcome (Except SubmitAdmissionError SubmitAdmissionPermit) :=
  if u32Max < claims.length then ⟨inner, [], .error .countCapExhausted⟩
  else if claims.isEmpty then ⟨inner, [], .error .nonPositiveNotional⟩
  else
    match basketLoop details.strategyId executionClientId nowNs inner [] [] claims with
    | .failed inner error => ⟨inner, [], .error error⟩
    | .rejected inner rollbacks evaluation =>
      let inner := rollbackCapitalAdmissionReservations inner rollbacks
      match admissionResult inner evaluation with
      | .error error => ⟨inner, [], .error error⟩
      | .ok () =>
        ⟨inner, [],
          .error (submitAdmissionErrorFromOutcome inner.killSwitchState evaluation.outcome)⟩
    | .admitted inner rollbacks attributions =>
      let currentCount := inner.executionClientCount executionClientId
      let outcome :=
        (inner.liveSubmitApprovalLimits[executionClientId]?).elim .admitted fun limits =>
        liveSubmitCountCapOutcome currentCount claims.length limits.maxOrderCount
      if outcome ≠ .admitted then
        let inner := rollbackCapitalAdmissionReservations inner rollbacks
        ⟨inner, [], .error (submitAdmissionErrorFromOutcome inner.killSwitchState outcome)⟩
      else
        match checkedAdmissionCounterValues inner.admittedOrderCount currentCount claims.length with
        | none =>
          ⟨rollbackCapitalAdmissionReservations inner rollbacks, [], .error .countCapExhausted⟩
        | some values =>
          grantBasket inner executionClientId claims details rollbacks attributions values append

end

end BoltV3.Submit
