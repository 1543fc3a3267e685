import BoltV3.Lib.Decimal
import BoltV3.Lib.Rust
import BoltV3.Lib.SortedMap
import Mathlib.Data.List.Basic

/-!
# Basket admission

`bolt_v3_basket_admission.rs`: the checks of a basket request, the open baskets behind their mutex,
and the permits.

* `admit` takes the lock twice: `reserve_open_basket` reserves the basket, then the submit slots are
  reserved outside the lock, and on failure `release_reserved_basket_after_failed_submit` takes the
  reservation back. So an admission is two steps here, and other calls may come in between. What the
  submit admission answers is an input of the second step.
* A permit has the basket id; an admission and its permit are told apart by a token, which the
  source does not have.
* A grouping proof is compared only, so its type is a parameter. Of a group, what its validation
  returns is an input.
* The evidence of grants and rejections is left out.
-/

namespace BoltV3.Basket

open Lib SortedMap
open Std (ExtTreeMap)

structure BoltV3BasketAdmissionLimits where
  maxBasketNotional : Decimal
  maxOpenBaskets : Nat
  minEdgeBps : Decimal
  (maxScannerEvidenceAgeMs maxSubmitRecheckAgeMs maxRetryCount : Nat)

inductive BoltV3BasketAdmissionError
  | basketNotionalCapExceeded | maxOpenBasketCapExceeded | staleScannerEvidence | staleSubmitRecheck
  | nonPositiveCandidateCost | nonPositiveEdge | edgeThreshold | submitClaimsMismatch
  | missingGroupingProof | groupingProofMismatch | missingSettlementRules | retryBudgetExceeded
  | basketAlreadyOpen | basketReservationMissing | stuckReservationHeld
  | submitAdmissionFailed (error : String)

inductive BoltV3BasketAdmissionReleaseReason
  | terminal | abort | reject | stuck
deriving DecidableEq

structure BoltV3BasketReservation where
  (strategyId groupId : String)
  totalNotional : Decimal
  releaseOnDrop : Bool

/-! ## Requests -/

structure OutcomeGroupLegScanEvidence where
  instrumentId : String
  totalAdjustedCost : Decimal
  observedUnixMs : Nat

structure BoltV3BasketSubmitSlotClaim where
  instrumentId : String
  notional : Decimal

section

variable (Proof : Type)

/-- The fields of `OutcomeGroup` that are read, and whether `ValidatedOutcomeGroup::validate`
accepts it. -/
structure OutcomeGroup where
  groupId : String
  groupingProof : Option Proof
  legInstrumentIds : List String
  validates : Bool

structure OutcomeGroupScanEvidence where
  groupId : String
  groupingProof : Option Proof
  legCosts : List OutcomeGroupLegScanEvidence
  (totalAdjustedCost absoluteEdge edgeBps : Decimal)
  (admissible isBlocked : Bool)

structure BoltV3BasketAdmissionRequest where
  (strategyId basketId : String)
  group : OutcomeGroup Proof
  scannerEvidence : OutcomeGroupScanEvidence Proof
  submitClaims : List BoltV3BasketSubmitSlotClaim
  (nowUnixMs submitRecheckObservedUnixMs retryCount : Nat)

end

def outcomeGroupObservationIsFresh (nowUnixMs observedUnixMs maxAgeMs : Nat)
    (maxClockSkewMs : Option Nat) : Bool :=
  if nowUnixMs < observedUnixMs then
    maxClockSkewMs.any fun skew => observedUnixMs - nowUnixMs ≤ skew
  else nowUnixMs - observedUnixMs ≤ maxAgeMs

section

variable {Proof : Type} [DecidableEq Proof] [arith : DecimalArith]

/-- The first loop of `validate_submit_claims_match_scanned_legs`: the costs by instrument. -/
def scannedNotionals (legInstrumentIds : List String) :
    ExtTreeMap String Decimal → List OutcomeGroupLegScanEvidence →
      Option (ExtTreeMap String Decimal)
  | scanned, [] => some scanned
  | scanned, leg :: rest =>
    if leg.instrumentId ∉ legInstrumentIds then none
    else if leg.instrumentId ∈ scanned then none
    else scannedNotionals legInstrumentIds (scanned.insert leg.instrumentId leg.totalAdjustedCost)
      rest

/-- The second loop: every claim is within the cost of its instrument. It returns the total and what
no claim was for. -/
def claimedNotional : ExtTreeMap String Decimal → Decimal → List BoltV3BasketSubmitSlotClaim →
    Except BoltV3BasketAdmissionError (Decimal × ExtTreeMap String Decimal)
  | scanned, total, [] => .ok (total, scanned)
  | scanned, total, claim :: rest =>
    match scanned[claim.instrumentId]? with
    | none => .error .submitClaimsMismatch
    | some scannedNotional =>
      if claim.notional ≤ Decimal.zero ∨ scannedNotional < claim.notional then
        .error .submitClaimsMismatch
      else
        match arith.checkedAdd total claim.notional with
        | none => .error .basketNotionalCapExceeded
        | some total => claimedNotional (scanned.erase claim.instrumentId) total rest

variable (limits : BoltV3BasketAdmissionLimits) (request : BoltV3BasketAdmissionRequest Proof)

def validateSubmitClaimsMatchScannedLegs : Except BoltV3BasketAdmissionError Unit :=
  if request.submitClaims.length ≠ request.scannerEvidence.legCosts.length then
    .error .submitClaimsMismatch
  else
    match scannedNotionals request.group.legInstrumentIds ∅ request.scannerEvidence.legCosts with
    | none => .error .submitClaimsMismatch
    | some scanned =>
      match claimedNotional scanned Decimal.zero request.submitClaims with
      | .error error => .error error
      | .ok (total, unclaimed) =>
        if !unclaimed.isEmpty then .error .submitClaimsMismatch
        else if limits.maxBasketNotional < total then .error .basketNotionalCapExceeded
        else .ok ()

def evaluateBasketRequest : Except BoltV3BasketAdmissionError Unit := do
  let evidence := request.scannerEvidence
  let some groupingProof := request.group.groupingProof | throw .missingGroupingProof
  let some scannerGroupingProof := evidence.groupingProof | throw .missingGroupingProof
  if evidence.groupId ≠ request.group.groupId ∨ scannerGroupingProof ≠ groupingProof then
    throw .groupingProofMismatch
  if !request.group.validates then throw .missingSettlementRules
  if limits.maxRetryCount < request.retryCount then throw .retryBudgetExceeded
  if evidence.totalAdjustedCost ≤ Decimal.zero ∨ request.submitClaims.isEmpty then
    throw .nonPositiveCandidateCost
  if limits.maxBasketNotional < evidence.totalAdjustedCost then throw .basketNotionalCapExceeded
  validateSubmitClaimsMatchScannedLegs limits request
  if !evidence.admissible || evidence.isBlocked then throw .nonPositiveCandidateCost
  if evidence.absoluteEdge ≤ Decimal.zero then throw .nonPositiveEdge
  if evidence.edgeBps < limits.minEdgeBps then throw .edgeThreshold
  if evidence.legCosts.any fun leg => !outcomeGroupObservationIsFresh request.nowUnixMs
      leg.observedUnixMs limits.maxScannerEvidenceAgeMs none then
    throw .staleScannerEvidence
  if !outcomeGroupObservationIsFresh request.nowUnixMs request.submitRecheckObservedUnixMs
      limits.maxSubmitRecheckAgeMs none then
    throw .staleSubmitRecheck

/-- `basket_admission_details`, of which only the count of the legs can fail. -/
def basketAdmissionDetails : Except BoltV3BasketAdmissionError Nat :=
  if u32Max < request.submitClaims.length then .error (.submitAdmissionFailed "CountCapExhausted")
  else .ok request.submitClaims.length

/-- The error that `admit` returns after `record_basket_rejection(..)?`. -/
def recordBasketRejection (error : BoltV3BasketAdmissionError) : BoltV3BasketAdmissionError :=
  match basketAdmissionDetails request with
  | .error failure => failure
  | .ok _ => error

end

/-! ## The open baskets -/

/-- `BoltV3BasketAdmissionInner`. -/
structure BoltV3BasketAdmissionInner where
  openBaskets : ExtTreeMap String BoltV3BasketReservation

namespace BoltV3BasketAdmissionInner

variable {Proof : Type} (inner : BoltV3BasketAdmissionInner)

def reserveOpenBasket (limits : BoltV3BasketAdmissionLimits)
    (request : BoltV3BasketAdmissionRequest Proof) :
    Except BoltV3BasketAdmissionError BoltV3BasketAdmissionInner :=
  if request.basketId ∈ inner.openBaskets then .error .basketAlreadyOpen
  else if u32Max < inner.openBaskets.size ∨ limits.maxOpenBaskets ≤ inner.openBaskets.size then
    .error .maxOpenBasketCapExceeded
  else
    .ok ⟨inner.openBaskets.insert request.basketId
      ⟨request.strategyId, request.group.groupId, request.scannerEvidence.totalAdjustedCost, true⟩⟩

variable (basketId : String)

def releaseReservedBasketAfterFailedSubmit : BoltV3BasketAdmissionInner :=
  ⟨inner.openBaskets.erase basketId⟩

def releaseBasket (reason : BoltV3BasketAdmissionReleaseReason) :
    Except BoltV3BasketAdmissionError Unit × BoltV3BasketAdmissionInner :=
  match inner.openBaskets[basketId]? with
  | none => (.error .basketReservationMissing, inner)
  | some reservation =>
    if reason = .stuck then
      (.error .stuckReservationHeld,
        ⟨inner.openBaskets.insert basketId { reservation with releaseOnDrop := false }⟩)
    else (.ok (), ⟨inner.openBaskets.erase basketId⟩)

/-- `BoltV3BasketAdmissionPermit::drop`. -/
def dropPermit : BoltV3BasketAdmissionInner :=
  if inner.openBaskets[basketId]?.any (·.releaseOnDrop) then ⟨inner.openBaskets.erase basketId⟩
  else inner

end BoltV3BasketAdmissionInner

/-! ## Interleavings -/

/-- `BoltV3BasketAdmissionPermit`, with the token of its admission; the submit permit is taken when
it is committed. -/
structure BoltV3BasketAdmissionPermit where
  token : Nat
  basketId : String
  submitPermit : Bool

inductive BasketOp (Proof : Type)
  | admitBasket (request : BoltV3BasketAdmissionRequest Proof)
  | submitSlots (token : Nat) (result : Except String Unit)
  | commit (token : Nat)
  | release (basketId : String) (reason : BoltV3BasketAdmissionReleaseReason)
  | drop (token : Nat)

/-- What a step answers: a token of an admission that was reserved, an error, or nothing. -/
inductive BasketOutput
  | reserved (token : Nat)
  | refused (error : BoltV3BasketAdmissionError)
  | permitted | done | absent

/-- The open baskets, the admissions between their two steps, and the live permits. -/
structure BasketAdmission where
  limits : BoltV3BasketAdmissionLimits
  inner : BoltV3BasketAdmissionInner
  pending : List (Nat × String)
  permits : List BoltV3BasketAdmissionPermit
  nextToken : Nat

namespace BasketAdmission

/-- `BoltV3BasketAdmissionState::new`. -/
def new (limits : BoltV3BasketAdmissionLimits) : BasketAdmission := ⟨limits, ⟨∅⟩, [], [], 0⟩

/-- The basket of an admission that waits for its submit slots. -/
def pendingBasket (s : BasketAdmission) (token : Nat) : Option String :=
  (s.pending.find? (·.1 = token)).map Prod.snd

/-- The permit with a token. -/
def permit (s : BasketAdmission) (token : Nat) : Option BoltV3BasketAdmissionPermit :=
  s.permits.find? (·.token = token)

section

variable {Proof : Type} [DecidableEq Proof] [arith : DecimalArith] (s : BasketAdmission)

/-- `admit` up to the submit slots. -/
def reserve (request : BoltV3BasketAdmissionRequest Proof) :
    Except BoltV3BasketAdmissionError BoltV3BasketAdmissionInner :=
  match evaluateBasketRequest s.limits request with
  | .error error => .error (recordBasketRejection request error)
  | .ok () =>
    match basketAdmissionDetails request with
    | .error error => .error error
    | .ok _ =>
      match s.inner.reserveOpenBasket s.limits request with
      | .error error => .error (recordBasketRejection request error)
      | .ok inner => .ok inner

def step : BasketOp Proof → BasketOutput × BasketAdmission
  | .admitBasket request =>
    match s.reserve request with
    | .error error => (.refused error, s)
    | .ok inner =>
      (.reserved s.nextToken, { s with
        inner := inner, pending := (s.nextToken, request.basketId) :: s.pending
        nextToken := s.nextToken + 1 })
  | .submitSlots token result =>
    match s.pendingBasket token with
    | none => (.absent, s)
    | some basketId =>
      let pending := s.pending.filter (·.1 ≠ token)
      match result with
      | .ok () => (.permitted, { s with
          pending := pending, permits := ⟨token, basketId, true⟩ :: s.permits })
      | .error error => (.refused (.submitAdmissionFailed error), { s with
          inner := s.inner.releaseReservedBasketAfterFailedSubmit basketId, pending := pending })
  | .commit token =>
    match s.permit token with
    | none => (.absent, s)
    | some _ => (.done, { s with
        permits := s.permits.map fun permit =>
          if permit.token = token then { permit with submitPermit := false } else permit })
  | .release basketId reason =>
    let (result, inner) := s.inner.releaseBasket basketId reason
    (match result with | .ok () => .done | .error error => .refused error,
      { s with inner := inner })
  | .drop token =>
    match s.permit token with
    | none => (.absent, s)
    | some permit => (.done, { s with
        inner := s.inner.dropPermit permit.basketId
        permits := s.permits.filter (·.token ≠ token) })

/-- A run: the calls with what they answer, and the state after them. -/
def run : BasketAdmission → List (BasketOp Proof) →
    List (BasketOp Proof × BasketOutput) × BasketAdmission
  | s, [] => ([], s)
  | s, op :: rest =>
    let (output, next) := s.step op
    let (trace, last) := run next rest
    ((op, output) :: trace, last)

/-! ## The cap -/

theorem reserve_ok {s : BasketAdmission} {request : BoltV3BasketAdmissionRequest Proof}
    {inner : BoltV3BasketAdmissionInner} (h : s.reserve request = .ok inner) :
    s.inner.openBaskets[request.basketId]? = none ∧
      s.inner.openBaskets.size < s.limits.maxOpenBaskets ∧
      inner = ⟨s.inner.openBaskets.insert request.basketId ⟨request.strategyId,
        request.group.groupId, request.scannerEvidence.totalAdjustedCost, true⟩⟩ := by
  have hreserved : s.inner.reserveOpenBasket s.limits request = .ok inner := by
    unfold reserve at h
    split at h
    · cases h
    · split at h
      · cases h
      · split at h
        · cases h
        · rename_i hopen
          exact hopen.trans h
  unfold BoltV3BasketAdmissionInner.reserveOpenBasket at hreserved
  split_ifs at hreserved with hmem hfull
  cases hreserved
  push Not at hfull
  exact ⟨notMem_iff_getElem?.mp hmem, hfull.2, rfl⟩

/-- The cap is kept: only a reservation adds an open basket, below the cap. -/
def WithinCap : Prop := s.inner.openBaskets.size ≤ s.limits.maxOpenBaskets

theorem step_size {s : BasketAdmission} (h : s.WithinCap) (op : BasketOp Proof) :
    (s.step op).2.WithinCap := by
  unfold WithinCap at *
  cases op with
  | admitBasket request =>
    simp only [step]
    rcases hreserve : s.reserve request with _ | inner
    · exact h
    · obtain ⟨-, hroom, rfl⟩ := reserve_ok hreserve
      exact ExtTreeMap.size_insert_le.trans hroom
  | submitSlots token result =>
    simp only [step]
    rcases s.pendingBasket token with _ | basketId
    · exact h
    · rcases result with error | _
      · exact ExtTreeMap.size_erase_le.trans h
      · exact h
  | commit token =>
    simp only [step]
    rcases s.permit token with _ | _
    · exact h
    · exact h
  | release basketId reason =>
    simp only [step, BoltV3BasketAdmissionInner.releaseBasket]
    rcases hopen : s.inner.openBaskets[basketId]? with _ | reservation
    · exact h
    · dsimp only
      by_cases hstuck : reason = .stuck
      · rw [if_pos hstuck]
        have hmem : basketId ∈ s.inner.openBaskets := mem_iff_getElem?.mpr ⟨_, hopen⟩
        rw [ExtTreeMap.size_insert, if_pos (ExtTreeMap.mem_iff_contains.mp hmem)]
        exact h
      · rw [if_neg hstuck]
        exact ExtTreeMap.size_erase_le.trans h
  | drop token =>
    simp only [step, BoltV3BasketAdmissionInner.dropPermit]
    rcases s.permit token with _ | permit
    · exact h
    · dsimp only
      split_ifs
      · exact ExtTreeMap.size_erase_le.trans h
      · exact h

theorem run_size {s : BasketAdmission} (h : s.WithinCap) (ops : List (BasketOp Proof)) :
    (s.run ops).2.WithinCap := by
  induction ops generalizing s with
  | nil => exact h
  | cons op rest ih => exact ih (step_size h op)

@[simp] theorem step_limits (op : BasketOp Proof) : (s.step op).2.limits = s.limits := by
  cases op with
  | submitSlots token result =>
    simp only [step]
    split
    · rfl
    · split <;> rfl
  | release basketId reason => rfl
  | _ =>
    simp only [step]
    split <;> rfl

theorem run_limits (ops : List (BasketOp Proof)) : (s.run ops).2.limits = s.limits := by
  induction ops generalizing s with
  | nil => rfl
  | cons op rest ih => exact (ih _).trans (step_limits s op)

end

end BasketAdmission

end BoltV3.Basket
