import BoltV3.Lib.Rust
import Mathlib.Algebra.Order.BigOperators.Group.Finset
import Mathlib.Algebra.Order.Ring.Rat
import Mathlib.Order.Interval.Finset.Nat
import Mathlib.Tactic.Linarith
import Mathlib.Tactic.Positivity
import Mathlib.Tactic.Ring

/-!
# The funding of a Hyperliquid position

`carry_effect` and `next_funding_at` of `bolt_v3_providers/hyperliquid/economics.rs`: the funding of
a position over its holding horizon, as a point estimate and as a debit bound.

* A decimal is a rational, and its arithmetic does not overflow. Times are `u64`s.
* Of the adapter what `carry_effect` reads is kept, with what `try_new` and `from_json` check of it.
  The kinds, scopes and units that only other components have are left out.
* `fundingInstants` and `fundingPaid` say what the venue does.
-/

namespace BoltV3.Hyperliquid

open Lib

/-! ## Effects -/

inductive HyperliquidEconomicsError
  | missingCarryContext | invalidProductMetadata | invalidCarryBound
  /-- `EconomicsError::ZeroNativeEffect`. -/
  | invalidEffect

abbrev Result := Except HyperliquidEconomicsError

inductive PositionSide
  | long | short

/-- The sign of a payment of the funding rate to the position. -/
def PositionSide.directionalRate (fundingRate : ℚ) : PositionSide → ℚ
  | .long => -fundingRate
  | .short => fundingRate

structure PositionContext where
  positionId : String
  side : PositionSide
  quantity : ℚ
  holdingHorizonNs : Nat

structure EconomicsQuoteRequest where
  position : Option PositionContext
  requestedAtNs : Nat

structure SignedNativeEffect where
  amount : ℚ
  currencyId : String

inductive PointEstimate
  | nonZero (effect : SignedNativeEffect)
  | provenZero (factorId : String)

inductive EconomicClass
  | charge | credit

inductive CarryKind
  | funding | borrowInterest | suppliedBalanceInterest

structure PositionInterval where
  positionId : String
  (startsAtNs endsAtNs : Nat)

inductive RiskBoundAuthority
  | venueMaximum | venueRateCapWithPriceStress | operatorRiskLimit

inductive AdmissionTreatment
  | guaranteedConditionalOnAction
  | riskBound (authority : RiskBoundAuthority)
  | forecastOnly

structure CalculationFactor where
  factorId : String
  value : ℚ

structure SourceValidity where
  (source snapshotId : String)
  (sourceAtNs fetchedAtNs validUntilNs : Nat)

structure EstimatedEffect where
  componentId : String
  class' : EconomicClass
  kind : CarryKind
  scope : PositionInterval
  pointEstimate : PointEstimate
  debitRiskBound : Option SignedNativeEffect
  admissionTreatment : AdmissionTreatment
  calculationFactors : List CalculationFactor
  formulaId : String
  source : SourceValidity

/-! ## The adapter -/

structure HyperliquidCarryPolicy where
  (componentId formulaId pointRateFactorId debitBoundRateFactorId oraclePriceFactorId : String)
  (eventCountFactorId priceStressFactorId nextFundingAtFactorId : String)
  stressArtifactVersion : Nat
  stressArtifactVersionFactorId : String
  (fundingIntervalNs fundingSchedulePhaseNs : Nat)
  (debitRateBoundPerInterval priceStressMultiplier : ℚ)

/-- The test of `try_new` on a carry policy. -/
def HyperliquidCarryPolicy.rejected (carry : HyperliquidCarryPolicy) : Bool :=
  carry.fundingIntervalNs = 0 || carry.fundingIntervalNs ≤ carry.fundingSchedulePhaseNs ||
    carry.debitRateBoundPerInterval ≤ 0 || carry.priceStressMultiplier < 1 ||
    carry.stressArtifactVersion = 0

structure HyperliquidPerpContextSnapshot where
  metadata : SourceValidity
  (fundingRate oraclePrice : ℚ)

structure HyperliquidEconomicsAdapter where
  settlementCurrency : String
  carry : Option HyperliquidCarryPolicy
  perpContext : Option HyperliquidPerpContextSnapshot
  carry_accepted : ∀ policy, carry = some policy → policy.rejected = false
  oraclePrice_pos : ∀ context, perpContext = some context → 0 < context.oraclePrice

/-! ## The effect -/

def SignedNativeEffect.currency (amount : ℚ) (currencyId : String) : Result SignedNativeEffect :=
  if amount = 0 then .error .invalidEffect else .ok ⟨amount, currencyId⟩

def nextFundingAt (requestedAtNs intervalNs phaseNs : Nat) : Result Nat :=
  if requestedAtNs < phaseNs then .ok phaseNs
  else okOr .invalidCarryBound do
    let elapsed ← checkedSub requestedAtNs phaseNs
    let period ← checkedDiv elapsed intervalNs
    let period ← checkedAdd u64Max period 1
    let offset ← checkedMul u64Max period intervalNs
    checkedAdd u64Max phaseNs offset

def eventCount (holdingUntilNs nextFundingAtNs intervalNs : Nat) : Result Nat :=
  if holdingUntilNs < nextFundingAtNs then .ok 0
  else okOr .invalidCarryBound do
    let elapsed ← checkedSub holdingUntilNs nextFundingAtNs
    let events ← checkedDiv elapsed intervalNs
    checkedAdd u64Max events 1

variable (adapter : HyperliquidEconomicsAdapter)

def carryPointEstimate (policy : HyperliquidCarryPolicy) (point : ℚ) : Result PointEstimate :=
  if point = 0 then .ok (.provenZero policy.pointRateFactorId)
  else return .nonZero (← SignedNativeEffect.currency point adapter.settlementCurrency)

variable (request : EconomicsQuoteRequest)

/-- The component of `carry_effect` for a positive number of funding events. -/
def carryComponent (position : PositionContext) (context : HyperliquidPerpContextSnapshot)
    (policy : HyperliquidCarryPolicy) (holdingUntilNs nextFundingAtNs count : Nat) :
    Result EstimatedEffect := do
  let positionNotional := position.quantity * context.oraclePrice
  let point := positionNotional * position.side.directionalRate context.fundingRate * count
  let debitBound :=
    positionNotional * policy.priceStressMultiplier * -policy.debitRateBoundPerInterval * count
  if 0 ≤ debitBound ∨ |debitBound| < |min point 0| then throw .invalidCarryBound
  else
    let pointEstimate ← carryPointEstimate adapter policy point
    let debitRiskBound ← SignedNativeEffect.currency debitBound adapter.settlementCurrency
    return {
      componentId := policy.componentId
      class' := if 0 ≤ point then .credit else .charge
      kind := .funding
      scope := ⟨position.positionId, request.requestedAtNs, holdingUntilNs⟩
      pointEstimate := pointEstimate
      debitRiskBound := some debitRiskBound
      admissionTreatment := .riskBound .venueRateCapWithPriceStress
      calculationFactors := [⟨policy.pointRateFactorId, context.fundingRate⟩,
        ⟨policy.debitBoundRateFactorId, policy.debitRateBoundPerInterval⟩,
        ⟨policy.oraclePriceFactorId, context.oraclePrice⟩, ⟨policy.eventCountFactorId, count⟩,
        ⟨policy.nextFundingAtFactorId, nextFundingAtNs⟩,
        ⟨policy.priceStressFactorId, policy.priceStressMultiplier⟩,
        ⟨policy.stressArtifactVersionFactorId, policy.stressArtifactVersion⟩]
      formulaId := policy.formulaId
      source := context.metadata }

def carryEffect :
    Result (Option EstimatedEffect) := do
  let position ← okOr .missingCarryContext request.position
  let context ← okOr .invalidProductMetadata adapter.perpContext
  let holdingUntilNs ←
    okOr .invalidCarryBound (checkedAdd u64Max request.requestedAtNs position.holdingHorizonNs)
  let policy ← okOr .invalidProductMetadata adapter.carry
  let nextFundingAtNs ←
    nextFundingAt request.requestedAtNs policy.fundingIntervalNs policy.fundingSchedulePhaseNs
  let count ← eventCount holdingUntilNs nextFundingAtNs policy.fundingIntervalNs
  if count = 0 then return none
  else
    let component ←
      carryComponent adapter request position context policy holdingUntilNs nextFundingAtNs count
    return some component

/-! ## Funding instants -/

open scoped Classical in
/-- The instants `phase + k * interval` after `start` and up to `until'`. -/
noncomputable def fundingInstants (phase interval start until' : Nat) : Finset Nat :=
  (Finset.Ioc start until').filter fun t => ∃ k, t = phase + k * interval

/-- What the position pays at a funding instant. -/
def fundingPaid (side : PositionSide) (quantity price rate : ℚ) : ℚ :=
  match side with
  | .long => quantity * price * rate
  | .short => -(quantity * price * rate)

section

variable {phase interval start until' next count k : Nat}

/-- The next funding is an instant of the schedule, and the first one after the request. -/
theorem nextFundingAt_spec (h : nextFundingAt start interval phase = .ok next)
    (hinterval : 0 < interval) :
    ∃ first, next = phase + first * interval ∧ ∀ k, start < phase + k * interval ↔ first ≤ k := by
  unfold nextFundingAt at h
  split_ifs at h with hbefore
  · cases h
    refine ⟨0, by simp, fun k => ?_⟩
    simp only [Nat.zero_le, iff_true]
    exact hbefore.trans_le (Nat.le_add_right _ _)
  · simp only [okOr_eq_ok, Option.bind_eq_bind, Option.bind_eq_some_iff, checkedSub_eq_some,
      checkedDiv_eq_some, checkedAdd_eq_some, checkedMul_eq_some] at h
    obtain ⟨_, ⟨hphase, rfl⟩, _, ⟨-, rfl⟩, _, ⟨-, rfl⟩, _, ⟨-, rfl⟩, -, rfl⟩ := h
    refine ⟨_, rfl, fun k => ?_⟩
    rw [Nat.succ_le_iff, Nat.div_lt_iff_lt_mul hinterval]
    omega

/-- The count is that of the instants from the next funding to the end. -/
theorem eventCount_spec (h : eventCount until' next interval = .ok count)
    (hinterval : 0 < interval) : next + k * interval ≤ until' ↔ k < count := by
  unfold eventCount at h
  split_ifs at h with hbefore
  · cases h
    simp only [Nat.not_lt_zero, iff_false, not_le]
    exact hbefore.trans_le (Nat.le_add_right _ _)
  · simp only [okOr_eq_ok, Option.bind_eq_bind, Option.bind_eq_some_iff, checkedSub_eq_some,
      checkedDiv_eq_some, checkedAdd_eq_some] at h
    obtain ⟨_, ⟨hnext, rfl⟩, _, ⟨-, rfl⟩, -, rfl⟩ := h
    rw [Nat.lt_succ_iff, Nat.le_div_iff_mul_le hinterval]
    omega

/-- **The event count is the number of funding instants of the horizon.** -/
theorem eventCount_eq_card (hnext : nextFundingAt start interval phase = .ok next)
    (hcount : eventCount until' next interval = .ok count) (hinterval : 0 < interval) :
    (fundingInstants phase interval start until').card = count := by
  obtain ⟨first, rfl, hfirst⟩ := nextFundingAt_spec hnext hinterval
  have himage : fundingInstants phase interval start until' =
      (Finset.range count).image fun k => phase + first * interval + k * interval := by
    ext t
    simp only [fundingInstants, Finset.mem_filter, Finset.mem_Ioc, Finset.mem_image,
      Finset.mem_range]
    constructor
    · rintro ⟨⟨hafter, huntil⟩, k, rfl⟩
      obtain ⟨j, rfl⟩ := Nat.exists_eq_add_of_le ((hfirst k).mp hafter)
      rw [Nat.add_mul, ← Nat.add_assoc] at huntil ⊢
      exact ⟨j, (eventCount_spec hcount hinterval).mp huntil, rfl⟩
    · rintro ⟨j, hj, rfl⟩
      have hinstant : phase + first * interval + j * interval = phase + (first + j) * interval := by
        rw [Nat.add_mul, Nat.add_assoc]
      refine ⟨⟨?_, (eventCount_spec hcount hinterval).mpr hj⟩, first + j, hinstant⟩
      rw [hinstant]
      exact (hfirst _).mpr (Nat.le_add_right first j)
  rw [himage, Finset.card_image_of_injective, Finset.card_range]
  intro j j' h
  exact Nat.eq_of_mul_eq_mul_right hinterval (Nat.add_left_cancel h)

end

/-! ## The debit bound -/

theorem fundingPaid_le {side : PositionSide} {quantity price rate priceBound rateBound : ℚ}
    (hquantity : 0 ≤ quantity) (hprice : 0 ≤ price) (hpriceBound : price ≤ priceBound)
    (hrate : |rate| ≤ rateBound) :
    fundingPaid side quantity price rate ≤ quantity * priceBound * rateBound := by
  have hpaid : fundingPaid side quantity price rate ≤ quantity * price * |rate| := by
    have hnotional : 0 ≤ quantity * price := mul_nonneg hquantity hprice
    cases side with
    | long => exact mul_le_mul_of_nonneg_left (le_abs_self rate) hnotional
    | short =>
      rw [fundingPaid, ← mul_neg]
      exact mul_le_mul_of_nonneg_left (neg_le_abs rate) hnotional
  have hbound : 0 ≤ quantity * priceBound := mul_nonneg hquantity (hprice.trans hpriceBound)
  calc fundingPaid side quantity price rate ≤ quantity * price * |rate| := hpaid
    _ ≤ quantity * priceBound * rateBound := by gcongr

section

variable {adapter request} {position : PositionContext} {context : HyperliquidPerpContextSnapshot}
  {policy : HyperliquidCarryPolicy} {effect : Option EstimatedEffect}

theorem carryComponent_spec {until' next count : Nat} {component : EstimatedEffect}
    (h : carryComponent adapter request position context policy until' next count =
      .ok component) : ∃ bound : ℚ, bound < 0 ∧
      bound = position.quantity * context.oraclePrice * policy.priceStressMultiplier *
        -policy.debitRateBoundPerInterval * count ∧
      component.calculationFactors[3]? = some ⟨policy.eventCountFactorId, count⟩ ∧
      component.debitRiskBound = some ⟨bound, adapter.settlementCurrency⟩ := by
  unfold carryComponent at h
  dsimp only at h
  split at h
  · cases h
  rename_i hbound
  obtain ⟨_, -, h⟩ := bind_eq_ok.mp h
  obtain ⟨debit, hdebit, h⟩ := bind_eq_ok.mp h
  cases h
  unfold SignedNativeEffect.currency at hdebit
  split_ifs at hdebit
  cases hdebit
  exact ⟨_, not_le.mp (not_or.mp hbound).1, rfl, rfl, rfl⟩

/-- **The debit bound covers the funding of the horizon**: the event count is the number of funding
instants after the request and up to the horizon, the component is absent if there is none, and at
rates within the bound and prices within the stress the position pays at most the debit bound. -/
theorem debit_bound_covers_funding (hposition : request.position = some position)
    (hpolicy : adapter.carry = some policy) (h : carryEffect adapter request = .ok effect) :
    let instants := fundingInstants policy.fundingSchedulePhaseNs policy.fundingIntervalNs
      request.requestedAtNs (request.requestedAtNs + position.holdingHorizonNs)
    (effect = none ↔ instants = ∅) ∧
    ∀ component, effect = some component → ∃ context bound, adapter.perpContext = some context ∧
      component.calculationFactors[3]? = some ⟨policy.eventCountFactorId, instants.card⟩ ∧
      component.debitRiskBound = some ⟨bound, adapter.settlementCurrency⟩ ∧
      ∀ rate price : Nat → ℚ, (∀ t ∈ instants, |rate t| ≤ policy.debitRateBoundPerInterval) →
        (∀ t ∈ instants, 0 ≤ price t ∧
          price t ≤ policy.priceStressMultiplier * context.oraclePrice) →
        ∑ t ∈ instants, fundingPaid position.side position.quantity (price t) (rate t) ≤
          -bound := by
  intro instants
  have haccepted := adapter.carry_accepted policy hpolicy
  simp only [HyperliquidCarryPolicy.rejected, Bool.or_eq_false_iff, decide_eq_false_iff_not,
    not_le, not_lt] at haccepted
  obtain ⟨⟨⟨⟨hinterval, -⟩, hrateBound⟩, hstress⟩, -⟩ := haccepted
  unfold carryEffect at h
  rw [hposition, hpolicy] at h
  simp only [bind_eq_ok, okOr_eq_ok, Option.some.injEq, checkedAdd_eq_some] at h
  obtain ⟨_, rfl, context, hcontext, _, ⟨-, rfl⟩, _, rfl, next, hnext, count, hcount, h⟩ := h
  have hcard : instants.card = count :=
    eventCount_eq_card hnext hcount (Nat.pos_of_ne_zero hinterval)
  split_ifs at h with hzero
  · cases h
    rw [hzero, Finset.card_eq_zero] at hcard
    simp [hcard]
  obtain ⟨component, hcomponent, h⟩ := bind_eq_ok.mp h
  cases h
  have hsome : instants ≠ ∅ := by
    rintro hempty
    rw [hempty] at hcard
    exact hzero hcard.symm
  refine ⟨by simp [hsome], ?_⟩
  rintro _ ⟨⟩
  obtain ⟨bound, hnegative, hbound, hfactor, hdebit⟩ := carryComponent_spec hcomponent
  refine ⟨context, bound, hcontext, hcard ▸ hfactor, hdebit, fun rate price hrate hprice => ?_⟩
  have horacle := adapter.oraclePrice_pos context hcontext
  have hquantity : 0 ≤ position.quantity := by
    by_contra hshort
    have hscale : 0 ≤ context.oraclePrice * policy.priceStressMultiplier *
        policy.debitRateBoundPerInterval * count := by positivity
    have := mul_nonneg (neg_nonneg.mpr (not_le.mp hshort).le) hscale
    linarith
  calc ∑ t ∈ instants, fundingPaid position.side position.quantity (price t) (rate t)
    _ ≤ instants.card • (position.quantity * (policy.priceStressMultiplier * context.oraclePrice) *
          policy.debitRateBoundPerInterval) :=
        Finset.sum_le_card_nsmul _ _ _ fun t ht =>
          fundingPaid_le hquantity (hprice t ht).1 (hprice t ht).2 (hrate t ht)
    _ = -bound := by
        rw [hcard, hbound, nsmul_eq_mul]
        ring

/-- A funding of every 10 ns from 3 ns on. -/
def everyTen : HyperliquidCarryPolicy :=
  ⟨"carry", "funding", "rate", "rate bound", "price", "count", "stress", "next", 1, "version", 10,
    3, 1 / 100, 2⟩

def everyTenNs : HyperliquidEconomicsAdapter where
  settlementCurrency := "USDC"
  carry := some everyTen
  perpContext := some ⟨⟨"venue", "snapshot", 4, 4, 100⟩, 1 / 1000, 50⟩
  carry_accepted := by
    rintro _ ⟨⟩
    decide +kernel
  oraclePrice_pos := by
    rintro _ ⟨⟩
    norm_num

/-- A long position that is held from 5 ns to 25 ns pays at 13 ns and at 23 ns. -/
theorem two_fundings_covered : ∃ component bound,
    carryEffect everyTenNs ⟨some ⟨"P", .long, 4, 20⟩, 5⟩ = .ok (some component) ∧
      component.debitRiskBound = some ⟨bound, "USDC"⟩ ∧ fundingInstants 3 10 5 25 ≠ ∅ := by
  have hsome : (carryEffect everyTenNs ⟨some ⟨"P", .long, 4, 20⟩, 5⟩).toOption.join.isSome := by
    decide +kernel
  obtain ⟨component, hjoin⟩ := Option.isSome_iff_exists.mp hsome
  have h := eq_ok_of_toOption (Option.join_eq_some_iff.mp hjoin)
  obtain ⟨hnone, hcovers⟩ := debit_bound_covers_funding rfl rfl h
  obtain ⟨_, bound, -, -, hbound, -⟩ := hcovers component rfl
  exact ⟨component, bound, h, hbound, fun hempty => by cases hnone.mpr hempty⟩

end

end BoltV3.Hyperliquid
