import BoltV3.Guarantees.Gate

/-!
# Rebuilds

Two sides of `rebuild_capital_admission_open_order_snapshot_with_projection`. What a refused rebuild
leaves behind: every check works on the candidate, so ledger and index stay as they were and the
live gate is closed, except that a commit whose epoch is stale returns before it touches anything.
And what a rebuild reads back: the attribution of an admitted entry goes through text into the
evidence, and `capital_admission_open_order_reservation_from_attribution` recomputes the liability
of what is still open with other code than the admission.

* An open order is observed under the identifiers of NautilusTrader and the label that
  `nt_open_order_evidence_from_order` writes; they are not blank (`ObservesOpen.identified`).
* The admission adds fee and slippage to the price of the quantity one after the other, the rebuild
  adds their sum; in exact arithmetic both are `Liability.reserved_eq`.
-/

namespace BoltV3.Submit

open Lib Loss Capital Evidence Decimal
open Std (ExtTreeMap)

/-! ## Refused rebuilds -/

instance (result : Except SubmitAdmissionError SubmitRebuildDecision) :
    Decidable (Refuses result) :=
  match result with
  | .error _ => isTrue nofun
  | .ok decision => decidable_of_iff (decision.accepted = false)
      ⟨by rintro h _ ⟨⟩; exact h, fun h => h decision rfl⟩

/-- The live reservations and the client-order index. -/
def Inner.reservations (inner : Inner) :
    Option (List LiveReservation × ExtTreeMap String SubmitReservationRecord) :=
  inner.capitalAdmission.map fun capital =>
    (capital.gate.liveReservations, capital.clientOrderReservations)

section

variable [DecimalArith]

/-- **A refused rebuild keeps ledger and index, and closes the gate unless its epoch was stale**;
then it changes nothing at all. -/
theorem refused_rebuild_keeps (inner : Inner) (snapshot : OpenOrderSnapshot) (nowNs : Nat)
    (expectedEpoch : Option Nat) (components : Option SubmitCapitalAdmissionNtComponents)
    (allowance : Option Nat) (append : Bool)
    (hrefuses : Refuses (rebuildCapitalAdmissionOpenOrderSnapshotWithProjection inner snapshot nowNs
      expectedEpoch components allowance append).2) :
    let inner' := (rebuildCapitalAdmissionOpenOrderSnapshotWithProjection inner snapshot nowNs
      expectedEpoch components allowance append).1
    inner'.reservations = inner.reservations ∧
      (inner'.reconciled = false ∨
        inner' = inner ∧ ∃ epoch, expectedEpoch = some epoch ∧
          epoch ≠ inner.capitalAdmissionStateRevision) := by
  intro inner'
  rcases rebuild_cases snapshot inner nowNs expectedEpoch components allowance append with
    ⟨epoch, hepoch, hstale, hinner, -⟩ | ⟨hinner, hnone⟩ | ⟨-, -, hinner⟩ | ⟨-, -, hinner⟩ |
    ⟨_, _, _, decision, -, -, -, -, -, haccepted, hout⟩
  · have hsame : inner' = inner := hinner
    exact ⟨by rw [hsame], .inr ⟨hsame, epoch, hepoch, hstale⟩⟩
  · have hsame : inner' = inner := hinner
    refine ⟨by rw [hsame], .inl ?_⟩
    rw [hsame, Inner.reconciled, hnone]
    rfl
  · have hclosed : inner' = _ := hinner
    rw [hclosed, Inner.reservations, Inner.reservations, Inner.reconciled]
    cases inner.capitalAdmission <;> exact ⟨rfl, .inl rfl⟩
  · have hclosed : inner' = _ := hinner
    rw [hclosed, Inner.reservations, Inner.reservations, Inner.reconciled]
    unfold invalidateCapitalAdmissionRebuild
    cases inner.capitalAdmission <;> exact ⟨rfl, .inl rfl⟩
  · rw [hrefuses decision (congrArg Prod.snd hout)] at haccepted
    cases haccepted

end

namespace PoolOf100

attribute [local instance] reference

/-- The reconciled state with an order that is shown and one that is not, and a commit to it, at a
given epoch, of a snapshot that shows the first. -/
def commitAt (epoch : Nat) (append : Bool) :
    Inner × Except SubmitAdmissionError SubmitRebuildDecision :=
  rebuildCapitalAdmissionOpenOrderSnapshotWithProjection (setup.start.run shown).inner
    shownAgain.snapshot 1 (some epoch) shownAgain.components (some 1) append
where
  shownAgain := projectionOf shown [(⟨"B", "YES", .buy, ⟨60, 0⟩, .one, 1, "open"⟩, recoveredOrder)]

set_option maxRecDepth 8000 in
/-- A rebuild whose outcome cannot be recorded is refused, and keeps the two reservations. -/
theorem unrecorded_rebuild_keeps :
    (setup.start.run shown).inner.reservations.map (fun r => (r.1.length, r.2.size)) = some (2, 2) ∧
    Refuses (commitAt 4 false).2 ∧
    (commitAt 4 false).1.reservations = (setup.start.run shown).inner.reservations :=
  ⟨by decide, by decide, (refused_rebuild_keeps _ _ _ _ _ _ _ (by decide)).1⟩

set_option maxRecDepth 8000 in
/-- **A commit at a stale epoch is refused and leaves the gate reconciled.** -/
theorem stale_commit_leaves_gate_reconciled :
    Refuses (commitAt 0 true).2 ∧ (commitAt 0 true).1.reconciled = true := by
  decide

end PoolOf100

/-! ## The liability of an order -/

/-- The numbers of an order that reserves capital. -/
structure Liability (quantity factor additive reserved : Decimal) : Prop where
  quantity_pos : 0 < quantity.value
  factor_nonneg : 0 ≤ factor.value
  factor_le_one : factor.value ≤ 1
  additive_nonneg : 0 ≤ additive.value
  reserved_pos : 0 < reserved.value
  reserved_eq : reserved.value = quantity.value * factor.value + additive.value
  reserved_le : reserved.value ≤ max.value

variable {quantity factor additive reserved : Decimal}

/-- Only the values of the numbers matter. -/
theorem Liability.congr (h : Liability quantity factor additive reserved)
    {quantity' factor' additive' reserved' : Decimal} (hquantity : quantity'.value = quantity.value)
    (hfactor : factor'.value = factor.value) (hadditive : additive'.value = additive.value)
    (hreserved : reserved'.value = reserved.value) :
    Liability quantity' factor' additive' reserved' := by
  constructor
  · rw [hquantity]
    exact h.quantity_pos
  · rw [hfactor]
    exact h.factor_nonneg
  · rw [hfactor]
    exact h.factor_le_one
  · rw [hadditive]
    exact h.additive_nonneg
  · rw [hreserved]
    exact h.reserved_pos
  · rw [hreserved, hquantity, hfactor, hadditive]
    exact h.reserved_eq
  · rw [hreserved]
    exact h.reserved_le

/-- A part of the quantity has a part of the liability. -/
theorem Liability.open_le (h : Liability quantity factor additive reserved) {remaining : Decimal}
    (hremaining : remaining.value ≤ quantity.value) :
    remaining.value * factor.value + additive.value ≤ reserved.value := by
  rw [h.reserved_eq]
  have := mul_le_mul_of_nonneg_right hremaining h.factor_nonneg
  linarith

section

variable [arith : DecimalArith] {submitted : Decimal} {capital : SubmitCapitalAdmissionState}
  {request : SubmitAdmissionRequest} {nowNs : Nat} {evidence : CompiledOrderAdmissionEvidence}
  {state : NtDerivedCapitalAdmissionState} {attribution : ReservationAttribution}
  {observed : OpenOrderEvidence} {inner : Inner}

/-- `checked_lifecycle_liability` is exact, and does not overflow in range. -/
theorem checkedLifecycleLiability_exists (exact : arith.Exact) {quantity : Decimal}
    (hquantity : 0 ≤ quantity.value) (hfactor : 0 ≤ factor.value) (hadditive : 0 ≤ additive.value)
    (hrange : quantity.value * factor.value + additive.value ≤ max.value) :
    ∃ liability, checkedLifecycleLiability quantity factor additive = some liability ∧
      liability.value = quantity.value * factor.value + additive.value := by
  have hbase : 0 ≤ quantity.value * factor.value := mul_nonneg hquantity hfactor
  obtain ⟨base, hmul, hvalue⟩ := checkedAs_exists (exact.mul quantity factor trivial)
    (by rw [abs_of_nonneg hbase]; linarith)
  obtain ⟨liability, hadd, hliability⟩ := checkedAs_exists (exact.add base additive trivial)
    (by rw [hvalue, abs_of_nonneg (add_nonneg hbase hadditive)]; exact hrange)
  refine ⟨liability, ?_, by rw [hliability, hvalue]⟩
  unfold checkedLifecycleLiability
  rw [hmul]
  exact hadd

theorem checkedOrderLiability_value (exact : arith.Exact) {request : CapitalAdmissionRequest}
    {feePolicy : FeeSlippagePolicy} {liability : Decimal}
    (h : checkedOrderLiability request feePolicy = some liability) :
    liability.value = request.quantity.value *
        (liabilityFactor request.side request.limitPrice).value +
      (feePolicy.maxFeeLiability.value + feePolicy.maxSlippageLiability.value) ∧
    liability.value ≤ max.value := by
  unfold checkedOrderLiability at h
  obtain ⟨base, hbase, h⟩ := Option.bind_eq_some_iff.mp h
  obtain ⟨next, hnext, h⟩ := Option.bind_eq_some_iff.mp h
  have hvalue : base.value = request.quantity.value *
      (liabilityFactor request.side request.limitPrice).value := by
    cases hside : request.side with
    | buy =>
      rw [hside] at hbase
      exact checkedAs_value (exact.mul _ _ trivial) hbase
    | sell =>
      rw [hside] at hbase
      cases hbase
      simp [liabilityFactor]
  refine ⟨?_, (le_abs_self _).trans (checkedAs_range (exact.add _ _ trivial) h)⟩
  rw [checkedAs_value (exact.add _ _ trivial) h, checkedAs_value (exact.add _ _ trivial) hnext,
    hvalue, add_assoc]

/-- **An admitted entry has a liability**, at the price of a buy and nothing for a sell. -/
theorem Reserves.liability (exact : arith.Exact) {quote : LiabilityQuote} {before : Decimal}
    (h : Reserves capital request nowNs evidence state quote additive before) :
    Liability evidence.quantity
      (liabilityFactor evidence.side.toCapitalAdmission evidence.effectivePrice) additive
      quote.reservedLiability ∧
    quote.acceptedQuantity = evidence.quantity ∧
    0 ≤ evidence.effectivePrice.value ∧ evidence.effectivePrice.value ≤ 1 := by
  obtain ⟨feePolicy, hpolicy, hquotes⟩ := worstCaseLiability_eq_ok h.quoted
  obtain ⟨hliability, hrange⟩ := checkedOrderLiability_value exact hquotes.liability
  have hadditive := h.additive_eq
  unfold checkedAdditiveLiability at hadditive
  rw [hpolicy] at hadditive
  have hsum := checkedAs_value (exact.add _ _ trivial) hadditive
  have hquantity := hquotes.quantity
  have hprice := hquotes.price
  have hfee := hquotes.fee
  have hslippage := hquotes.slippage
  have hpositive := h.reservable.positive
  simp only [le_iff_value, lt_iff_value, value_zero, value_one,
    not_le, not_lt, not_or] at hquantity hprice hfee hslippage hpositive
  have hfactor : ∀ side, 0 ≤ (liabilityFactor side evidence.effectivePrice).value ∧
      (liabilityFactor side evidence.effectivePrice).value ≤ 1 := by
    intro side
    cases side with
    | buy => exact hprice
    | sell => simp [liabilityFactor]
  refine ⟨⟨hquantity, (hfactor _).1, (hfactor _).2, ?_, hpositive, ?_, hrange⟩,
    hquotes.accepted, hprice⟩
  · rw [hsum]
    exact add_nonneg hfee hslippage
  · rw [hliability, hsum]
    rfl

/-! ## Reading an attribution back -/

/-- An open order is observed: the one that was submitted, at its price, with some of its quantity
left, under identifiers that are not blank. The quantity is a decimal of the source, so it is in
range. -/
structure ObservesOpen (request : SubmitAdmissionRequest)
    (evidence : CompiledOrderAdmissionEvidence) (observed : OpenOrderEvidence) : Prop where
  order : observed.clientOrderId = request.clientOrderId
  instrument : observed.instrumentId = request.instrumentId
  side : observed.side = evidence.side
  price : observed.limitPrice.value = evidence.effectivePrice.value
  remaining : 0 < observed.openQuantity.value
  submitted : observed.openQuantity.value ≤ evidence.quantity.value
  representable : evidence.quantity.value ≤ max.value
  identified : isBlank observed.clientOrderId = false ∧ isBlank observed.instrumentId = false ∧
    isBlank observed.evidenceLabel = false

/-- The numbers of an attribution are those of its order. -/
theorem entryAttribution_parsed (exact : arith.Exact) (capital : SubmitCapitalAdmissionState)
    (request : SubmitAdmissionRequest) (evidence : CompiledOrderAdmissionEvidence)
    (state : NtDerivedCapitalAdmissionState) (quote : LiabilityQuote) (additive : Decimal)
    (nowNs : Nat) :
    ∃ submitted factor additive' reserved,
      parsedAttribution (entryAttribution capital request evidence state quote additive nowNs) =
        some (submitted, factor, additive', reserved) ∧
      submitted.value = quote.acceptedQuantity.value ∧
      factor.value =
        (liabilityFactor evidence.side.toCapitalAdmission evidence.effectivePrice).value ∧
      additive'.value = additive.value ∧ reserved.value = quote.reservedLiability.value := by
  obtain ⟨submitted, hsubmitted, hsubmitted'⟩ := exact.text quote.acceptedQuantity trivial
  obtain ⟨factor, hfactor, hfactor'⟩ :=
    exact.text (liabilityFactor evidence.side.toCapitalAdmission evidence.effectivePrice) trivial
  obtain ⟨additive', hadditive, hadditive'⟩ := exact.text additive trivial
  obtain ⟨reserved, hreserved, hreserved'⟩ := exact.text quote.reservedLiability trivial
  refine ⟨submitted, factor, additive', reserved, ?_, hsubmitted', hfactor', hadditive', hreserved'⟩
  unfold parsedAttribution entryAttribution reservationAttributionOf
  rw [hsubmitted, hfactor, hadditive, hreserved]

/-- The last number of an attribution is its reserved liability. -/
theorem parsedAttribution_reserved
    (h : parsedAttribution attribution = some (submitted, factor, additive, reserved)) :
    DecimalArith.parse attribution.reservedLiability = some reserved := by
  unfold parsedAttribution at h
  split at h
  · rename_i hreserved
    cases h
    exact hreserved
  · cases h

/-- The numbers of an order that is observed open are accepted, and give the liability of what is
open. -/
theorem openOrderNumbers_exists (exact : arith.Exact) (attribution : ReservationAttribution)
    (h : Liability submitted factor additive reserved) (hfactor : factor.value =
      (liabilityFactor observed.side.toCapitalAdmission observed.limitPrice).value)
    (hremaining : 0 < observed.openQuantity.value)
    (hsubmitted : observed.openQuantity.value ≤ submitted.value)
    (hrange : submitted.value ≤ max.value) :
    ∃ filled liability,
      openOrderNumbers observed attribution submitted factor additive reserved =
        some (openOrderReservationOf observed attribution submitted factor additive filled
          liability) ∧
      filled.value = submitted.value - observed.openQuantity.value ∧
      checkedLifecycleLiability observed.openQuantity factor additive = some liability ∧
      liability.value = observed.openQuantity.value * factor.value + additive.value := by
  have hreserved := h.reserved_eq
  obtain ⟨whole, hwhole, hwholeValue⟩ := checkedLifecycleLiability_exists exact h.quantity_pos.le
    h.factor_nonneg h.additive_nonneg (by rw [← hreserved]; exact h.reserved_le)
  obtain ⟨liability, hliability, hliabilityValue⟩ := checkedLifecycleLiability_exists exact
    hremaining.le h.factor_nonneg h.additive_nonneg ((h.open_le hsubmitted).trans h.reserved_le)
  obtain ⟨filled, hfilled, hfilledValue⟩ := checkedAs_exists
    (exact.sub submitted observed.openQuantity trivial)
    (by rw [abs_of_nonneg (sub_nonneg.mpr hsubmitted)]; linarith)
  refine ⟨filled, liability, ?_, hfilledValue, hliability, hliabilityValue⟩
  have hsame : factor.NumEq
        (liabilityFactor observed.side.toCapitalAdmission observed.limitPrice) ∧
      reserved.NumEq whole :=
    ⟨numEq_iff_value.mpr hfactor,
      numEq_iff_value.mpr (hreserved.trans hwholeValue.symm)⟩
  unfold openOrderNumbers
  rw [hwhole]
  dsimp only
  rw [if_neg (not_not.mpr hsame), hfilled, hliability]

/-- The reservation of an observed order is valid. -/
theorem openOrderReservationOf_valid (exact : arith.Exact) (attribution : ReservationAttribution)
    {filled liability : Decimal} (h : Liability submitted factor additive reserved)
    (horder : observed.clientOrderId = attribution.clientOrderId)
    (hside : evidenceOrderSide observed.side = attribution.side)
    (hinstrument : isBlank attribution.instrumentId = false)
    (hremaining : 0 < observed.openQuantity.value)
    (hsubmitted : observed.openQuantity.value ≤ submitted.value)
    (hrange : submitted.value ≤ max.value)
    (hfilled : filled.value = submitted.value - observed.openQuantity.value)
    (hliability : checkedLifecycleLiability observed.openQuantity factor additive =
      some liability) :
    rebuiltOpenOrderReservationAttributionValid (openOrderReservationOf observed attribution
      submitted factor additive filled liability) = true := by
  obtain ⟨remaining, hsub, hvalue⟩ := checkedAs_exists (exact.sub submitted filled trivial)
    (by rw [hfilled, sub_sub_cancel, abs_of_nonneg hremaining.le]; linarith)
  have hopen : remaining.NumEq observed.openQuantity := by
    rw [numEq_iff_value, hvalue, hfilled]
    ring
  have hfactor := h.factor_nonneg
  have hone := h.factor_le_one
  have hadditive := h.additive_nonneg
  simp only [rebuiltOpenOrderReservationAttributionValid, openOrderReservationOf, horder, hside,
    hinstrument, hsub, hliability, optionNumEq, hopen, numEq_refl, le_iff_value,
    lt_iff_value, value_zero, value_one, beq_self_eq_true, decide_true,
    Bool.not_false, Bool.and_true, Bool.and_eq_true, Bool.not_eq_true', decide_eq_false_iff_not,
    not_le, not_lt, true_and]
  refine ⟨⟨⟨⟨⟨⟨⟨?_, ?_⟩, ?_⟩, ?_⟩, ?_⟩, ?_⟩, ?_⟩, ?_⟩ <;> linarith

omit arith in
/-- An observed order is one that can be open. -/
theorem ObservesOpen.evidence_valid
    (h : ObservesOpen request evidence observed) (hprice : 0 ≤ evidence.effectivePrice.value)
    (hone : evidence.effectivePrice.value ≤ 1) :
    openOrderEvidenceInvalid observed = false := by
  obtain ⟨horder, hinstrument, hlabel⟩ := h.identified
  have hremaining := h.remaining
  have hlimit := h.price
  simp only [openOrderEvidenceInvalid, horder, hinstrument, hlabel, le_iff_value,
    lt_iff_value, value_zero, value_one, Bool.false_or, Bool.or_eq_false_iff,
    decide_eq_false_iff_not, not_le, not_lt]
  refine ⟨⟨hremaining, ?_⟩, ?_⟩ <;> linarith

omit arith in
/-- A checked order has a market. -/
theorem CheckedOrder.market_eq {position : Decimal}
    (h : CheckedOrder capital request evidence state position)
    (hcapital : inner.capitalAdmission = some capital) :
    inner.market = some (marketOf state.productState.product) := by
  rw [Inner.market, hcapital, Option.bind_some, SubmitCapitalAdmissionState.market, h.state_eq,
    Option.map_some]

/-- The attribution is one of the observed order, under the terms and the market of its admission.
-/
theorem ObservesOpen.attribution_matches
    (h : ObservesOpen request evidence observed) {capital' : SubmitCapitalAdmissionState}
    (hterms : capital'.terms = capital.terms) {state' : NtDerivedCapitalAdmissionState}
    (hmarket : marketOf state'.productState.product = marketOf state.productState.product)
    (quote : LiabilityQuote) (additive : Decimal) (nowNs : Nat) :
    attributionMismatch capital' state'.productState.product observed
      (entryAttribution capital request evidence state quote additive nowNs) = false := by
  have hvenue : capital'.venueId = capital.venueId := congrArg CapitalTerms.venueId hterms
  have haccount : capital'.accountId = capital.accountId := congrArg CapitalTerms.accountId hterms
  have hcurrency : capital'.collateralCurrency = capital.collateralCurrency :=
    congrArg CapitalTerms.collateralCurrency hterms
  have hpool : capital'.capitalPool.poolId = capital.capitalPool.poolId :=
    congrArg CapitalTerms.poolId hterms
  have hgroup : state'.productState.product.collateralCoupledGroupId =
      state.productState.product.collateralCoupledGroupId :=
    congrArg Market.collateralCoupledGroupId hmarket
  have hkind : reservationProductKind evidence.productKind =
      reservationProductKindFromCapital capital'.productKind := by
    cases evidence.productKind
    cases capital'.productKind
    rfl
  simp [attributionMismatch, entryAttribution, reservationAttributionOf, h.order, h.instrument,
    h.side, hvenue, haccount, hcurrency, hpool, hgroup, hkind]

omit arith in
/-- The numbers of an order pass the checks of the rebuild. -/
theorem Liability.numbers_valid (h : Liability submitted factor additive reserved)
    (hsubmitted : observed.openQuantity.value ≤ submitted.value) :
    attributionNumbersInvalid observed submitted factor additive reserved = false := by
  simp only [attributionNumbersInvalid, le_iff_value, lt_iff_value,
    value_zero, value_one, Bool.or_eq_false_iff, decide_eq_false_iff_not, not_le,
    not_lt]
  exact ⟨⟨⟨⟨⟨h.quantity_pos, hsubmitted⟩, h.factor_nonneg⟩, h.factor_le_one⟩, h.additive_nonneg⟩,
    h.reserved_pos⟩

/-- What a rebuild reads back of an observed order: a valid reservation for the liability of what is
open, at most what was reserved for the whole order. -/
structure ReadsBack (inner : Inner) (attribution : ReservationAttribution)
    (observed : OpenOrderEvidence) (submitted factor additive reserved : Decimal)
    (reservation : OpenOrderReservation) : Prop where
  rebuilt : openOrderReservationFromAttribution inner observed attribution = some reservation
  valid : rebuiltOpenOrderReservationAttributionValid reservation = true
  liability_eq : reservation.liability.value =
    observed.openQuantity.value * factor.value + additive.value
  liability_le : reservation.liability.value ≤ reserved.value
  whole : observed.openQuantity.value = submitted.value →
    reservation.liability.value = reserved.value

/-- **The attribution of a reserved entry is read back** in every state with the terms and the
market of its admission. -/
theorem EntryReserved.readsBack (exact : arith.Exact) {inner' : Inner}
    {liability : Decimal} (h : EntryReserved inner request nowNs attribution liability)
    (hterms : inner'.terms = inner.terms) (hmarket : inner'.market = inner.market) :
    ∃ evidence, request.admissionEvidence = some evidence ∧
      ∃ submitted factor additive reserved,
        parsedAttribution attribution = some (submitted, factor, additive, reserved) ∧
        submitted.value = evidence.quantity.value ∧
        factor.value =
          (liabilityFactor evidence.side.toCapitalAdmission evidence.effectivePrice).value ∧
        reserved.value = liability.value ∧
        ∀ observed, ObservesOpen request evidence observed →
          ∃ reservation,
            ReadsBack inner' attribution observed submitted factor additive
              reserved reservation := by
  obtain ⟨capital, evidence, state, position, quote, additive, before, hcapital, hchecked,
    hreserves, rfl, rfl⟩ := h
  obtain ⟨hliability, haccepted, hprice, hone⟩ := hreserves.liability exact
  obtain ⟨submitted, factor, additive', reserved, hparsed, hsubmitted, hfactor, hadditive,
    hreserved⟩ := entryAttribution_parsed exact capital.sequenced request evidence state quote
      additive nowNs
  rw [haccepted] at hsubmitted
  refine ⟨evidence, hchecked.evidence_eq, submitted, factor, additive', reserved, hparsed,
    hsubmitted, hfactor, hreserved, ?_⟩
  intro observed hobserved
  have hnumbers : Liability submitted factor additive' reserved :=
    hliability.congr hsubmitted hfactor hadditive hreserved
  have hopen : observed.openQuantity.value ≤ submitted.value := by
    rw [hsubmitted]
    exact hobserved.submitted
  have hrange : submitted.value ≤ max.value := by
    rw [hsubmitted]
    exact hobserved.representable
  have hobservedFactor : factor.value =
      (liabilityFactor observed.side.toCapitalAdmission observed.limitPrice).value := by
    rw [hfactor, hobserved.side]
    cases evidence.side.toCapitalAdmission with
    | buy => exact hobserved.price.symm
    | sell => rfl
  have hidentified : isBlank request.instrumentId = false := by
    rw [← hobserved.instrument]
    exact hobserved.identified.2.1
  obtain ⟨filled, remaining, hrebuilt, hfilled, hremaining, hvalue⟩ := openOrderNumbers_exists exact
    (entryAttribution capital.sequenced request evidence state quote additive nowNs) hnumbers
    hobservedFactor hobserved.remaining hopen hrange
  have hvalid := openOrderReservationOf_valid exact
    (entryAttribution capital.sequenced request evidence state quote additive nowNs) hnumbers
    hobserved.order (congrArg evidenceOrderSide hobserved.side) hidentified
      hobserved.remaining hopen
    hrange hfilled hremaining
  refine ⟨_, ?_, hvalid, hvalue, ?_, ?_⟩
  · -- the state of the rebuild has the terms and the market of the admission
    rw [hchecked.market_eq hcapital] at hmarket
    obtain ⟨capital', hcapital', hmarket'⟩ := Option.bind_eq_some_iff.mp hmarket
    obtain ⟨state', hstate', hproduct⟩ := Option.map_eq_some_iff.mp hmarket'
    have hterms' : capital'.terms = capital.sequenced.terms := by
      rw [Inner.terms, Inner.terms, hcapital, hcapital'] at hterms
      exact Option.some.inj hterms
    have hinstrument : ¬ (observed.instrumentId ≠ state'.productState.product.yesInstrumentId ∧
        observed.instrumentId ≠ state'.productState.product.noInstrumentId) := by
      have hyes : state'.productState.product.yesInstrumentId =
          state.productState.product.yesInstrumentId := congrArg Market.yesInstrumentId hproduct
      have hno : state'.productState.product.noInstrumentId =
          state.productState.product.noInstrumentId := congrArg Market.noInstrumentId hproduct
      rw [hobserved.instrument, hyes, hno]
      rintro ⟨hnotYes, hnotNo⟩
      exact hchecked.instrument.elim hnotYes hnotNo
    unfold openOrderReservationFromAttribution
    simp only [hobserved.evidence_valid hprice hone, hcapital', hstate',
      hobserved.attribution_matches hterms' hproduct, hparsed, hnumbers.numbers_valid hopen,
      if_neg hinstrument, Bool.false_eq_true, if_false]
    exact hrebuilt
  · change remaining.value ≤ reserved.value
    rw [hvalue]
    exact hnumbers.open_le hopen
  · intro hwhole
    change remaining.value = reserved.value
    rw [hvalue, hwhole, hnumbers.reserved_eq]

/-! ## Over whole executions -/

/-- The recorded liability of an attribution is the given one. -/
def RecordsLiability (attribution : ReservationAttribution) (liability : Decimal) : Prop :=
  ∃ reserved, DecimalArith.parse attribution.reservedLiability = some reserved ∧
    reserved.value = liability.value

theorem EntryReserved.recordsLiability (exact : arith.Exact)
    {liability : Decimal} (h : EntryReserved inner request nowNs attribution liability) :
    RecordsLiability attribution liability := by
  obtain ⟨capital, evidence, state, position, quote, additive, before, -, -, -, rfl, rfl⟩ := h
  exact exact.text quote.reservedLiability trivial

/-- Every order that no projection has shown has the liability of its attribution. -/
theorem run_recordsLiability (exact : arith.Exact) (setup : Setup) (ops : List (Op setup)) :
    ∃ market book, Simulates setup (setup.start.run ops) market book ∧
      book.AsReserved RecordsLiability := by
  refine System.run_invariant
    (I := fun s => ∃ market book, Simulates setup s market book ∧ book.AsReserved RecordsLiability)
    ?_ ⟨none, setup.book, start_simulates setup, ?_⟩ ops
  · rintro s op ⟨market, book, hsimulates, hreserved⟩
    obtain ⟨moves, market', book', hmoves⟩ := step_moves hsimulates op
    refine ⟨market', book', hmoves.simulates, Book.run_asReserved hmoves.run ?_ hreserved⟩
    intro id holding hmove
    obtain ⟨nowNs, r, -, -, rfl⟩ := hmoves.justified _ hmove
    obtain ⟨inner, -, -, hentry⟩ := r.entry
    exact hentry.recordsLiability exact
  · intro id holding held
    simp [Setup.book, Book.empty] at held

/-- **Every recorded attribution is read back.** An attribution that an operation records is that of
an order it admits. In every later state a rebuild reads it back, and as long as no projection has
shown the order its entry in the ledger has the recorded liability. -/
theorem attribution_rebuilds (exact : arith.Exact) (setup : Setup) (ops : List (Op setup))
    (op : Op setup) (later : List (Op setup)) (events : List ReservationRecoveryEvent)
    (attribution : ReservationAttribution)
    (hevents : ((setup.start.run ops).step op).recorded = (setup.start.run ops).recorded ++ events)
    (hattribution : attribution ∈ events.flatMap attributionsOf) :
    let after := ((setup.start.run ops).step op).run later
    ∃ request ∈ op.requests, ∃ evidence, request.admissionEvidence = some evidence ∧
      ∃ submitted factor additive reserved,
        parsedAttribution attribution = some (submitted, factor, additive, reserved) ∧
        submitted.value = evidence.quantity.value ∧
        factor.value =
          (liabilityFactor evidence.side.toCapitalAdmission evidence.effectivePrice).value ∧
        (∀ id record entry, after.inner.HoldsCapital id record entry →
          record.attribution = attribution → record.phase ≠ .observedOpen →
          entry.liability.value = reserved.value) ∧
        ∀ observed, ObservesOpen request evidence observed →
          ∃ reservation, ReadsBack after.inner attribution observed submitted factor additive
            reserved reservation := by
  intro after
  obtain ⟨_, market, book, -, hsimulates⟩ := reachable_simulates setup ops
  obtain ⟨moves, market₁, book₁, hmoves⟩ := step_moves hsimulates op
  obtain ⟨events', hevents', hrecorded⟩ := hmoves.recorded
  obtain rfl : events' = events := List.append_cancel_left (hevents'.symm.trans hevents)
  obtain ⟨id, holding, hmove, rfl⟩ := hrecorded attribution hattribution
  obtain ⟨nowNs, r, hrequest, -, rfl⟩ := hmoves.justified _ hmove
  obtain ⟨inner, hterms, hmarket, hentry⟩ := r.entry
  obtain ⟨_, market₂, book₂, -, hafter, hkept⟩ := run_simulates hmoves.simulates later
  have hmarket' : after.inner.market = inner.market := by
    obtain ⟨capital, evidence, state, _, _, _, _, hcapital, hchecked, -⟩ := hentry
    have hsome := hchecked.market_eq hcapital
    rw [hsome, hafter.represents.market_eq]
    exact hkept _ (hmoves.market _ (hmarket.symm.trans hsome))
  obtain ⟨evidence, hevidence, submitted, factor, additive, reserved, hparsed, hsubmitted, hfactor,
    hreserved, hreads⟩ := hentry.readsBack exact (hafter.represents.terms_eq.trans hterms.symm)
      hmarket'
  refine ⟨r.request, hrequest, evidence, hevidence, submitted, factor, additive, reserved, hparsed,
    hsubmitted, hfactor, ?_, hreads⟩
  intro id' record entry hholds hsame hphase
  obtain ⟨market₃, book₃, hsimulates₃, hliabilities⟩ :=
    run_recordsLiability exact setup (ops ++ op :: later)
  rw [System.run_append] at hsimulates₃
  obtain ⟨holding, held, rfl, rfl⟩ := hsimulates₃.represents.holdsCapital_iff.mp hholds
  obtain ⟨recorded, hparse, hvalue⟩ := hliabilities id' holding held hphase
  rw [hsame, parsedAttribution_reserved hparsed] at hparse
  cases hparse
  exact hvalue.symm

end

namespace PoolOf100

attribute [local instance] reference

/-- The attribution of the admitted order. -/
def admittedOrder : ReservationAttribution :=
  { recoveredOrder with
    clientOrderId := "A"
    submitReservationId := reservationIdOf
      ((SubmitCapitalAdmissionConfig.initial capital).sequenced) (order "A" 60)
    observedAtNs := 1 }

/-- The admitted order with 25 left. -/
def partlyFilled : OpenOrderEvidence := ⟨"A", "YES", .buy, ⟨25, 0⟩, .one, 1, "nt_open_order_cache"⟩

set_option maxRecDepth 8000 in
/-- The attribution of the order for 60 is read back when 25 of it are open. -/
theorem partly_filled_order_rebuilds : ∃ submitted factor additive reserved reservation,
    ReadsBack (setup.start.run admitted).inner admittedOrder partlyFilled submitted factor additive
      reserved reservation := by
  obtain ⟨request, hrequest, evidence, hevidence, submitted, factor, additive, reserved, -, -, -, -,
    hreads⟩ := attribution_rebuilds Decimal.reference_exact setup rebuilt
      (.admitAt (order "A" 60) none 1 (.ok ())) []
      ((setup.start.run rebuilt).step
        (.admitAt (order "A" 60) none 1 (.ok ()) : Op setup)).recorded
      admittedOrder (by decide) (by decide)
  obtain rfl : request = order "A" 60 := List.mem_singleton.mp hrequest
  cases hevidence
  refine ⟨submitted, factor, additive, reserved, hreads partlyFilled ?_⟩
  exact
    { order := rfl, instrument := rfl, side := rfl, price := rfl
      remaining := by norm_num [partlyFilled, value]
      submitted := by norm_num [partlyFilled, value]
      representable := by norm_num [Decimal.max, value]
      identified := by decide }

end PoolOf100

end BoltV3.Submit
