import BoltV3.Capital.AdmissionState

/-!
# Capital admission

`bolt_v3_capital_admission.rs`: the gate around the reservation ledger. `evaluate_capital_admission`
checks the NautilusTrader state, the loss limits and the worst-case liability of an order and then
reserves it; `rebuild_open_order_reservations` reconstructs a ledger on the side from the open
orders of a snapshot and the retained reservations of orders not seen in it.

* The gate owns nothing but its ledger, so its methods are modelled on the ledger.
* `rebuild_open_order_reservations_with` takes the reserving function as a parameter for tests; the
  model has the production instance, `ReservationLedger.reserve`.
-/

namespace BoltV3.Capital

open Lib Loss ReservationLedger

/-- The bounds of fee and slippage of an order. -/
structure FeeSlippagePolicy where
  (maxFeeLiability maxSlippageLiability : Decimal)

/-- The policy of the gate. -/
structure CapitalAdmissionPolicy where
  minRemainingPoolBalance : Option Decimal
  feeSlippagePolicy : Option FeeSlippagePolicy

/-- The side of an order. -/
inductive IntentSide
  | buy | sell

/-- The kind of an order. -/
inductive IntentOrderKind
  | limit | market

/-- Whether an order makes or takes. -/
inductive IntentLiquidity
  | taker | restingMaker
deriving DecidableEq

/-- The products that can be admitted. -/
inductive ProductKind
  | predictionMarketBinary
deriving DecidableEq

/-- What the gate is asked. -/
structure CapitalAdmissionRequest where
  (intentId strategyId instrumentId poolId : String)
  productKind : ProductKind
  side : IntentSide
  (quantity limitPrice : Decimal)
  orderKind : IntentOrderKind
  liquidity : IntentLiquidity
  quoteSetId : Option String
  nowNs : Nat

/-- The liability of an order. -/
structure LiabilityQuote where
  (originalQuantity acceptedQuantity calculatedLiability reservedLiability : Decimal)
  evidenceLabel : String

/-- Why there is no liability. -/
inductive LiabilityError
  | missingMarketState | missingFeePolicy | missingSlippagePolicy | invalidIntentPrice
  | invalidIntentQuantity | missingQuoteSetId | insufficientAllowance | insufficientInventory
  | arithmeticOverflow

/-- A decision of the ledger that contradicts itself. -/
inductive CapitalAdmissionInvariant
  | acceptedReservationHasRejectionReason | contradictoryReservationDecisionContext
  | missingReservationRejectionReason

/-- Why the gate refuses. -/
inductive CapitalAdmissionReason
  | loss (reason : LossHaltReason)
  | reservation (reason : ReservationRejectionReason)
  | liability (error : LiabilityError)
  | invariant (invariant : CapitalAdmissionInvariant)
  | missingNtState
  | staleNtState (kind : CapitalAdmissionStateEvidenceKind)
  | unattributedNtState (kind : CapitalAdmissionStateEvidenceKind)

/-- A decision of the ledger that is consistent. -/
inductive ValidatedReservationDecision
  | accepted
  | rejected (reason : ReservationRejectionReason)

/-- Exactly a refusal has a reason, and exactly an acceptance a balance. -/
def validateReservationDecision (decision : ReservationDecision) :
    Except CapitalAdmissionInvariant ValidatedReservationDecision :=
  match decision.accepted, decision.reason, decision.availableAfter with
  | true, none, some _ => .ok .accepted
  | false, some reason, none => .ok (.rejected reason)
  | false, none, _ => .error .missingReservationRejectionReason
  | true, some _, _ => .error .acceptedReservationHasRejectionReason
  | _, _, _ => .error .contradictoryReservationDecisionContext

/-- What a piece of evidence is of. -/
inductive CapitalAdmissionEvidenceKind
  | portfolio | providerCollateralAllowance | orderLifecycle | productState | reservationLedger
  | lossSnapshot | liabilityCalculator

/-- A source and when it was observed. -/
structure CapitalAdmissionEvidenceSource where
  kind : CapitalAdmissionEvidenceKind
  source : String
  observedAtNs : Nat

/-- What a decision rests on. -/
structure CapitalAdmissionEvidence where
  sources : List CapitalAdmissionEvidenceSource
  originalQuantity : Decimal
  (acceptedQuantity calculatedLiability reservedLiability : Option Decimal)

/-- The answer of the gate. -/
structure CapitalAdmissionDecision where
  accepted : Bool
  originalQuantity : Decimal
  (acceptedQuantity calculatedLiability reservedLiability : Option Decimal)
  poolId : String
  evidence : CapitalAdmissionEvidence
  reasons : List CapitalAdmissionReason

/-! ## The worst-case liability -/

variable (request : CapitalAdmissionRequest)

/-- The quantity is positive and the price between zero and one. -/
def validateRequest : Except LiabilityError Unit :=
  if request.quantity ≤ .zero then .error .invalidIntentQuantity
  else if request.limitPrice < .zero ∨ .one < request.limitPrice then .error .invalidIntentPrice
  else .ok ()

/-- A resting order has a quote set. -/
def validateLiquidity : Except LiabilityError Unit :=
  if request.liquidity = .restingMaker && request.quoteSetId.all String.isEmpty then
    .error .missingQuoteSetId
  else .ok ()

/-- The bounds are not negative. -/
def validateFeeSlippagePolicy (policy : FeeSlippagePolicy) : Except LiabilityError Unit :=
  if policy.maxFeeLiability < .zero then .error .missingFeePolicy
  else if policy.maxSlippageLiability < .zero then .error .missingSlippagePolicy
  else .ok ()

/-- The position in the instrument of a sell order, where it is one of the market's two. -/
def outcomePosition (snapshot : PredictionMarketAdmissionSnapshot) : Option Decimal :=
  if request.instrumentId = snapshot.yesInstrumentId then some snapshot.yesPosition
  else if request.instrumentId = snapshot.noInstrumentId then some snapshot.noPosition
  else none

section

variable [DecimalArith]

/-- The base liability of the order, the fee bound and the slippage bound, added in this order. -/
def checkedOrderLiability (feePolicy : FeeSlippagePolicy) : Option Decimal :=
  (match request.side with
    | .buy => DecimalArith.checkedMul request.quantity request.limitPrice
    | .sell => some .zero).bind fun base =>
  (DecimalArith.checkedAdd base feePolicy.maxFeeLiability).bind fun liability =>
  DecimalArith.checkedAdd liability feePolicy.maxSlippageLiability

/-- Whether the collateral allowance covers a buy, or the position a sell. -/
def coverageError (snapshot : PredictionMarketAdmissionSnapshot)
    (liability : Decimal) : Option LiabilityError :=
  match request.side with
  | .buy => if snapshot.collateralAllowance < liability then some .insufficientAllowance else none
  | .sell =>
    match outcomePosition request snapshot with
    | none => some .insufficientInventory
    | some position => if position < request.quantity then some .insufficientInventory else none

/-- The liability of an order that its account covers. -/
def worstCaseLiability (state : ProductAdmissionSnapshot)
    (policy : CapitalAdmissionPolicy) : Except LiabilityError LiabilityQuote := do
  let snapshot := state.product
  validateRequest request
  validateLiquidity request
  match policy.feeSlippagePolicy with
  | none => .error .missingFeePolicy
  | some feePolicy =>
    validateFeeSlippagePolicy feePolicy
    match checkedOrderLiability request feePolicy with
    | none => .error .arithmeticOverflow
    | some liability =>
      match coverageError request snapshot liability with
      | some error => .error error
      | none =>
        .ok
          { originalQuantity := request.quantity, acceptedQuantity := request.quantity
            calculatedLiability := liability, reservedLiability := liability
            evidenceLabel := snapshot.source }

/-! ## Evaluating one order -/

variable (originalQuantity : Decimal)

/-- Nothing was observed. -/
def emptyEvidence : CapitalAdmissionEvidence :=
  ⟨[], originalQuantity, none, none, none⟩

/-- A refusal before the liability is known. -/
def rejectedCapitalAdmission (poolId : String)
    (reasons : List CapitalAdmissionReason) : CapitalAdmissionDecision :=
  { accepted := false, originalQuantity := originalQuantity, acceptedQuantity := none
    calculatedLiability := none, reservedLiability := none, poolId := poolId
    evidence := emptyEvidence originalQuantity, reasons := reasons }

/-- The kind of a source of the state. -/
def capitalAdmissionEvidenceKind :
    CapitalAdmissionStateEvidenceKind → Option CapitalAdmissionEvidenceKind
  | .state => none
  | .portfolio => some .portfolio
  | .providerCollateralAllowance => some .providerCollateralAllowance
  | .orderLifecycle => some .orderLifecycle
  | .productState => some .productState
  | .reservationLedger => some .reservationLedger
  | .lossSnapshot => some .lossSnapshot

/-- The sources of the state, and the liability. -/
def admissionEvidence (stateSources : List CapitalAdmissionStateEvidenceSource)
    (liabilityObservedAtNs : Nat) (quote : LiabilityQuote) : CapitalAdmissionEvidence :=
  { sources :=
      (stateSources.filterMap fun source =>
        (capitalAdmissionEvidenceKind source.kind).map fun kind =>
          ⟨kind, source.source, source.observedAtNs⟩) ++
      [⟨.liabilityCalculator, quote.evidenceLabel, liabilityObservedAtNs⟩]
    originalQuantity := quote.originalQuantity
    acceptedQuantity := some quote.acceptedQuantity
    calculatedLiability := some quote.calculatedLiability
    reservedLiability := some quote.reservedLiability }

/-- A refusal with the liability. -/
def rejectedCapitalAdmissionWithLiability (poolId : String)
    (quote : LiabilityQuote) (evidence : CapitalAdmissionEvidence)
    (reasons : List CapitalAdmissionReason) : CapitalAdmissionDecision :=
  { rejectedCapitalAdmission originalQuantity poolId reasons with
    calculatedLiability := some quote.calculatedLiability
    reservedLiability := some quote.reservedLiability, evidence := evidence }

/-- Why a state is refused. -/
def stateErrorReason : CapitalAdmissionStateError → CapitalAdmissionReason
  | .missingNtState => .missingNtState
  | .staleNtState kind => .staleNtState kind
  | .unattributedState kind => .unattributedNtState kind

/-- The halt reasons of the loss governor, where a loss policy is given and it does not panic. -/
def lossReasons (lossPolicy : Option LossGovernorPolicy) (state : NtDerivedCapitalAdmissionState)
    (nowNs : Nat) : Option (Option (List LossHaltReason)) :=
  match lossPolicy with
  | none => some none
  | some policy =>
    (evaluateLossAdmission policy state.lossSnapshot nowNs).map fun decision =>
      if decision.accepted then none else some decision.haltReasons

/-- The ledger request of an order with its quoted liability. -/
def reservationRequestOf (collateralGroupId : String)
    (quote : LiabilityQuote) : ReservationRequest :=
  { requestId := request.intentId, poolId := request.poolId, collateralGroupId := collateralGroupId
    liability := quote.reservedLiability, observedAtNs := request.nowNs
    evidenceLabel := quote.evidenceLabel }

/-- The acceptance of an order with its quoted liability. -/
def acceptedAdmission
    (sources : List CapitalAdmissionStateEvidenceSource) (quote : LiabilityQuote) :
    CapitalAdmissionDecision :=
  { accepted := true, originalQuantity := request.quantity
    acceptedQuantity := some quote.acceptedQuantity
    calculatedLiability := some quote.calculatedLiability
    reservedLiability := some quote.reservedLiability, poolId := request.poolId
    evidence := admissionEvidence sources request.nowNs quote, reasons := [] }

/-- The last step of `evaluate_capital_admission`: reserve the quoted liability. -/
def reserveQuotedLiability (state : NtDerivedCapitalAdmissionState)
    (stateSources : List CapitalAdmissionStateEvidenceSource) (quote : LiabilityQuote)
    (policy : CapitalAdmissionPolicy) (pool : CapitalPoolSnapshot) (ledger : ReservationLedger) :
    ReservationLedger × CapitalAdmissionDecision :=
  let refused := rejectedCapitalAdmissionWithLiability request.quantity request.poolId quote
    (admissionEvidence stateSources request.nowNs quote)
  let (reserved, decision) := ledger.reserve pool
    (reservationRequestOf request state.productState.product.collateralCoupledGroupId quote)
    request.nowNs policy.minRemainingPoolBalance
  match validateReservationDecision decision with
  | .error invariant =>
    ((reserved.rollbackUncommitted request.poolId request.intentId).1,
      refused [.invariant invariant])
  | .ok (.rejected reason) => (reserved, refused [.reservation reason])
  | .ok .accepted => (reserved, acceptedAdmission request stateSources quote)

/-- `evaluate_capital_admission`; without a value the loss governor has panicked. -/
def evaluateCapitalAdmission
    (state : Option NtDerivedCapitalAdmissionState) (policy : CapitalAdmissionPolicy)
    (lossPolicy : Option LossGovernorPolicy) (pool : CapitalPoolSnapshot)
    (ledger : ReservationLedger) : Option (ReservationLedger × CapitalAdmissionDecision) :=
  let refused := fun reasons =>
    some (ledger, rejectedCapitalAdmission request.quantity request.poolId reasons)
  if pool.poolId ≠ request.poolId then refused [.reservation .poolMismatch]
  else
    match state with
    | none => refused [.missingNtState]
    | some state =>
      match validateNtDerivedCapitalAdmissionState (some state) request.nowNs
        pool.maxSnapshotAgeNs with
      | .error error => refused [stateErrorReason error]
      | .ok stateSources =>
        match lossReasons lossPolicy state request.nowNs with
        | none => none
        | some (some reasons) => refused (reasons.map .loss)
        | some none =>
          match worstCaseLiability request state.productState policy with
          | .error error => refused [.liability error]
          | .ok quote =>
            some (reserveQuotedLiability request state stateSources quote policy pool ledger)

/-! ## Rebuilding the ledger -/

/-- What a reservation is rebuilt from. -/
inductive CapitalAdmissionReservationEvidence
  | ntOpenOrder (request : ReservationRequest)
  | retainedLifecycleReservation (retained : LiveReservation)

/-- The answer of a rebuild. -/
structure CapitalAdmissionRebuildDecision where
  accepted : Bool
  reason : Option ReservationRejectionReason
  (attemptedReservationCount rebuiltReservationCount : Nat)
  liveReservedLiability : Decimal

/-- How the rebuild loop ends: a finished ledger, a refused candidate and its index, or a
contradictory decision of the ledger. -/
inductive RebuildLoop
  | rebuilt (ledger : ReservationLedger)
  | refused (reason : ReservationRejectionReason) (index : Nat)
  | contradictory (invariant : CapitalAdmissionInvariant)

/-- The loop of `rebuild_open_order_reservations_with`, from position `index` on. -/
def rebuildLoop (pool : CapitalPoolSnapshot) (nowNs : Nat)
    (minRemainingPoolBalance : Option Decimal) :
    Nat → ReservationLedger → List CapitalAdmissionReservationEvidence → RebuildLoop
  | _, rebuilt, [] => .rebuilt rebuilt
  | index, rebuilt, .ntOpenOrder request :: rest =>
    if pool.poolId ≠ request.poolId then .refused .poolMismatch index
    else
      let (reserved, decision) := rebuilt.reserve pool request nowNs minRemainingPoolBalance
      match validateReservationDecision decision with
      | .ok .accepted => rebuildLoop pool nowNs minRemainingPoolBalance (index + 1) reserved rest
      | .ok (.rejected reason) => .refused reason index
      | .error invariant => .contradictory invariant
  | index, rebuilt, .retainedLifecycleReservation retained :: rest =>
    match rebuilt.carryRetained pool.poolId retained with
    | .ok (carried, _) => rebuildLoop pool nowNs minRemainingPoolBalance (index + 1) carried rest
    | .error reason => .refused reason index

/-- The rebuilt ledger, or the old one without reconciliation. -/
def rebuildOpenOrderReservations (ledger : ReservationLedger) (pool : CapitalPoolSnapshot)
    (evidence : List CapitalAdmissionReservationEvidence) (nowNs : Nat)
    (minRemainingPoolBalance : Option Decimal) :
    ReservationLedger × Except CapitalAdmissionInvariant CapitalAdmissionRebuildDecision :=
  match rebuildLoop pool nowNs minRemainingPoolBalance 0 .reconciled evidence with
  | .contradictory invariant => (ledger.invalidateReconciliation, .error invariant)
  | .refused reason index =>
    (ledger.invalidateReconciliation,
      .ok
        { accepted := false, reason := some reason, attemptedReservationCount := index + 1
          rebuiltReservationCount := index
          liveReservedLiability :=
            ledger.invalidateReconciliation.liveReservedLiability pool.poolId })
  | .rebuilt rebuilt =>
    (rebuilt,
      .ok
        { accepted := true, reason := none, attemptedReservationCount := evidence.length
          rebuiltReservationCount := evidence.length
          liveReservedLiability := rebuilt.liveReservedLiability pool.poolId })

/-! ## What the gate can do -/

/-- A refusal as `evaluate_capital_admission` builds it: one reason, never an invariant. -/
inductive Refusal (request : CapitalAdmissionRequest) : CapitalAdmissionDecision → Prop
  | early (reason : CapitalAdmissionReason) (h : ∀ i, reason ≠ .invariant i) :
      Refusal request (rejectedCapitalAdmission request.quantity request.poolId [reason])
  | priced (quote : LiabilityQuote) (sources : List CapitalAdmissionStateEvidenceSource)
      (reason : CapitalAdmissionReason) (h : ∀ i, reason ≠ .invariant i)
      (hquantity : quote.originalQuantity = request.quantity) :
      Refusal request (rejectedCapitalAdmissionWithLiability request.quantity request.poolId quote
        (admissionEvidence sources request.nowNs quote) [reason])

/-- What a quote rests on: an order with a quantity and a price, and a fee policy. -/
structure Quotes (request : CapitalAdmissionRequest) (feePolicy : FeeSlippagePolicy)
    (quote : LiabilityQuote) : Prop where
  quantity : ¬ request.quantity ≤ .zero
  price : ¬ (request.limitPrice < .zero ∨ .one < request.limitPrice)
  fee : ¬ feePolicy.maxFeeLiability < .zero
  slippage : ¬ feePolicy.maxSlippageLiability < .zero
  liability : checkedOrderLiability request feePolicy = some quote.reservedLiability
  original : quote.originalQuantity = request.quantity
  accepted : quote.acceptedQuantity = request.quantity
  calculated : quote.calculatedLiability = quote.reservedLiability

variable {request} {u : Unit} {pool : CapitalPoolSnapshot} {nowNs : Nat} {minimum : Option Decimal}

omit [DecimalArith] in
theorem validateRequest_eq_ok (h : validateRequest request = .ok u) : ¬ request.quantity ≤ .zero ∧
      ¬ (request.limitPrice < .zero ∨ .one < request.limitPrice) := by
  unfold validateRequest at h
  split at h; · cases h
  rename_i hquantity
  split at h; · cases h
  rename_i hprice
  exact ⟨hquantity, hprice⟩

omit [DecimalArith] in
theorem validateFeeSlippagePolicy_eq_ok {policy : FeeSlippagePolicy}
    (h : validateFeeSlippagePolicy policy = .ok u) : ¬ policy.maxFeeLiability < .zero ∧
      ¬ policy.maxSlippageLiability < .zero := by
  unfold validateFeeSlippagePolicy at h
  split at h; · cases h
  rename_i hfee
  split at h; · cases h
  rename_i hslippage
  exact ⟨hfee, hslippage⟩

theorem worstCaseLiability_eq_ok
    {state : ProductAdmissionSnapshot} {policy : CapitalAdmissionPolicy} {quote : LiabilityQuote}
    (h : worstCaseLiability request state policy = .ok quote) :
    ∃ feePolicy, policy.feeSlippagePolicy = some feePolicy ∧ Quotes request feePolicy quote := by
  unfold worstCaseLiability at h
  cases hrequest : validateRequest request with
  | error e => simp [hrequest, bind, Except.bind] at h
  | ok _ =>
  cases hliquidity : validateLiquidity request with
  | error e => simp [hrequest, hliquidity, bind, Except.bind] at h
  | ok _ =>
  simp only [hrequest, hliquidity, bind, Except.bind] at h
  split at h; · cases h
  rename_i feePolicy hpolicy
  split at h; · cases h
  rename_i hfees
  split at h; · cases h
  rename_i liability hliability
  split at h; · cases h
  cases h
  obtain ⟨hquantity, hprice⟩ := validateRequest_eq_ok hrequest
  obtain ⟨hfee, hslippage⟩ := validateFeeSlippagePolicy_eq_ok hfees
  exact ⟨feePolicy, hpolicy, hquantity, hprice, hfee, hslippage, hliability, rfl, rfl, rfl⟩

/-- **Without a loss policy an order is refused with the ledger unchanged, or reserved with its
worst-case liability.** -/
theorem evaluateCapitalAdmission_cases (request : CapitalAdmissionRequest)
    (state : Option NtDerivedCapitalAdmissionState) (policy : CapitalAdmissionPolicy)
    (pool : CapitalPoolSnapshot) (ledger : ReservationLedger) :
    (∃ decision, Refusal request decision ∧
        evaluateCapitalAdmission request state policy none pool ledger = some (ledger, decision)) ∨
      ∃ st sources quote before, state = some st ∧
        worstCaseLiability request st.productState policy = .ok quote ∧
        ledger.Reservable pool (reservationRequestOf request
          st.productState.product.collateralCoupledGroupId quote) before ∧
        evaluateCapitalAdmission request state policy none pool ledger =
          some ({ ledger with
              liveReservations := ledger.liveReservations ++ [entryOf
                (reservationRequestOf request st.productState.product.collateralCoupledGroupId
                  quote)] },
            acceptedAdmission request sources quote) := by
  unfold evaluateCapitalAdmission
  split
  · exact .inl ⟨_, .early _ (by simp), rfl⟩
  split
  · exact .inl ⟨_, .early _ (by simp), rfl⟩
  rename_i st
  split
  · rename_i error _
    exact .inl ⟨_, .early _ (by cases error <;> simp [stateErrorReason]), rfl⟩
  rename_i sources _
  simp only [lossReasons]
  split
  · exact .inl ⟨_, .early _ (by simp), rfl⟩
  rename_i quote hquote
  unfold reserveQuotedLiability
  rcases ledger.reserve_cases pool (reservationRequestOf request
      st.productState.product.collateralCoupledGroupId quote) request.nowNs
      policy.minRemainingPoolBalance with
        ⟨reason, before, hreserve⟩ | ⟨before, after, hok, hreserve⟩
  · rw [hreserve]
    obtain ⟨_, -, hquotes⟩ := worstCaseLiability_eq_ok hquote
    exact .inl ⟨_, .priced quote sources (.reservation reason) (by simp) hquotes.original, rfl⟩
  · rw [hreserve]
    exact .inr ⟨st, sources, quote, before, rfl, hquote, hok, rfl⟩

theorem evaluateCapitalAdmission_isSome (request : CapitalAdmissionRequest)
    (state : Option NtDerivedCapitalAdmissionState) (policy : CapitalAdmissionPolicy)
    (pool : CapitalPoolSnapshot) (ledger : ReservationLedger) :
    (evaluateCapitalAdmission request state policy none pool ledger).isSome = true := by
  rcases evaluateCapitalAdmission_cases request state policy pool ledger with
    ⟨_, -, heval⟩ | ⟨_, _, _, _, -, -, -, heval⟩ <;> rw [heval] <;> rfl

/-- The ledger entry a piece of evidence stands for. -/
def CapitalAdmissionReservationEvidence.entry :
    CapitalAdmissionReservationEvidence → LiveReservation
  | ntOpenOrder request => entryOf request
  | retainedLifecycleReservation retained => retained

/-- One accepted piece of evidence: its entry is pushed under a fresh name, and an open order fits
the budget. -/
structure Admits (pool : CapitalPoolSnapshot) (ledger ledger' : ReservationLedger)
    (evidence : CapitalAdmissionReservationEvidence) : Prop where
  pushed : ledger' = { ledger with liveReservations := ledger.liveReservations ++ [evidence.entry] }
  pool_eq : evidence.entry.poolId = pool.poolId
  positive : ¬ evidence.entry.liability ≤ .zero
  fresh : ledger.duplicate evidence.entry.poolId evidence.entry.requestId = false
  reservable : ∀ request, evidence = .ntOpenOrder request →
    ∃ before, ledger.Reservable pool request before

/-- A finished loop admitted its evidence piece by piece. -/
theorem rebuildLoop_cons {index : Nat} {ledger final : ReservationLedger}
    {evidence : CapitalAdmissionReservationEvidence}
    {rest : List CapitalAdmissionReservationEvidence}
    (h : rebuildLoop pool nowNs minimum index ledger (evidence :: rest) = .rebuilt final) :
    ∃ next, Admits pool ledger next evidence ∧
      rebuildLoop pool nowNs minimum (index + 1) next rest = .rebuilt final := by
  cases evidence with
  | ntOpenOrder request =>
    unfold rebuildLoop at h
    split at h; · cases h
    rename_i hpool
    rcases ledger.reserve_cases pool request nowNs minimum with
      ⟨reason, before, hreserve⟩ | ⟨before, after, hok, hreserve⟩
    · rw [hreserve] at h
      cases h
    · rw [hreserve] at h
      refine ⟨_, ⟨rfl, (not_not.mp hpool).symm, hok.positive, hok.fresh, ?_⟩, h⟩
      rintro _ ⟨⟩
      exact ⟨before, hok⟩
  | retainedLifecycleReservation retained =>
    unfold rebuildLoop at h
    split at h
    · rename_i carried liability hcarry
      obtain ⟨hpool, hpositive, hfresh, rfl⟩ := carryRetained_eq_ok hcarry
      exact ⟨_, ⟨rfl, hpool, hpositive, hfresh, nofun⟩, h⟩
    · cases h

/-- **A finished loop appends exactly the entries of its evidence, under distinct names.** -/
theorem rebuildLoop_rebuilt : ∀ {evidence : List CapitalAdmissionReservationEvidence} {index : Nat}
      {ledger final : ReservationLedger},
      rebuildLoop pool nowNs minimum index ledger evidence = .rebuilt final →
      (ledger.liveReservations.map LiveReservation.key).Nodup →
      final = { ledger with
        liveReservations := ledger.liveReservations ++ evidence.map (·.entry) } ∧
      (final.liveReservations.map LiveReservation.key).Nodup ∧
      ∀ e ∈ evidence, e.entry.poolId = pool.poolId ∧ ¬ e.entry.liability ≤ .zero
  | [], _, ledger, _, h, hnodup => by
    cases h
    exact ⟨by simp, hnodup, by simp⟩
  | e :: rest, index, ledger, final, h, hnodup => by
    obtain ⟨next, hadmits, hrest⟩ := rebuildLoop_cons h
    have hnext : (next.liveReservations.map LiveReservation.key).Nodup := by
      rw [hadmits.pushed, List.map_append, List.nodup_append]
      refine ⟨hnodup, by simp, ?_⟩
      rintro key hkey _ hlast rfl
      rw [List.map_singleton, List.mem_singleton] at hlast
      rw [hlast] at hkey
      exact duplicate_eq_false.mp hadmits.fresh hkey
    obtain ⟨hfinal, hfinalNodup, hall⟩ := rebuildLoop_rebuilt hrest hnext
    refine ⟨by rw [hfinal, hadmits.pushed]; simp, hfinalNodup, ?_⟩
    exact List.forall_mem_cons.mpr ⟨⟨hadmits.pool_eq, hadmits.positive⟩, hall⟩

end

/-- **Open orders are rebuilt within the budget**: whatever evidence follows them. -/
theorem rebuildLoop_openOrders_budget [arith : DecimalArith] (exact : arith.Exact)
    {pool : CapitalPoolSnapshot} {nowNs : Nat} {minimum : Option Decimal}
    {retained : List CapitalAdmissionReservationEvidence} :
    ∀ {requests : List ReservationRequest} {index : Nat} {ledger final : ReservationLedger},
      rebuildLoop pool nowNs minimum index ledger
        (requests.map .ntOpenOrder ++ retained) = .rebuilt final →
      (∀ r ∈ ledger.liveReservations, r.poolId = pool.poolId ∧ 0 ≤ r.liability.value) →
      reservedValue ledger.liveReservations ≤ pool.budget →
      reservedValue (ledger.liveReservations ++ requests.map entryOf) ≤
        pool.budget
  | [], _, _, _, _, _, hbudget => by simpa using hbudget
  | request :: requests, index, ledger, final, h, hledger, _ => by
    obtain ⟨next, hadmits, hrest⟩ := rebuildLoop_cons h
    obtain ⟨before, hok⟩ := hadmits.reservable request rfl
    have hpool : ledger.liveReservations.filter (·.poolId == pool.poolId) =
        ledger.liveReservations :=
      List.filter_eq_self.mpr fun r hr => by simp [(hledger r hr).1]
    have hwithin := reserve_within_budget exact (fun r hr => (hledger r hr).2) hok
    rw [hpool] at hwithin
    have hpositive := hadmits.positive
    rw [Decimal.le_iff_value, Decimal.value_zero, not_le] at hpositive
    have hnext := rebuildLoop_openOrders_budget exact hrest
      (by
        rw [hadmits.pushed]
        refine List.forall_mem_append.mpr ⟨hledger, List.forall_mem_singleton.mpr ?_⟩
        exact ⟨hadmits.pool_eq, le_of_lt hpositive⟩)
      (by
        rw [hadmits.pushed, reservedValue_append]
        simpa [reservedValue, CapitalAdmissionReservationEvidence.entry,
          entryOf] using hwithin)
    rw [hadmits.pushed] at hnext
    simpa [CapitalAdmissionReservationEvidence.entry] using hnext

end BoltV3.Capital
