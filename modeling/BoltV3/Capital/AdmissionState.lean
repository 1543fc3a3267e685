import BoltV3.Capital.Reservation
import BoltV3.Loss.Governor

/-!
# The state capital admission is judged on

`bolt_v3_capital_admission_state.rs`: the snapshots derived from NautilusTrader that an admission
reads, and `validate_nt_derived_capital_admission_state`, which refuses a state with a blank source,
a stale observation, or orders and reservations that are not all attributed.
-/

namespace BoltV3.Capital

open Lib Loss

inductive CapitalAdmissionStateEvidenceKind
  | state | portfolio | providerCollateralAllowance | orderLifecycle | productState
  | reservationLedger | lossSnapshot

inductive CapitalAdmissionStateError
  | missingNtState
  | staleNtState (kind : CapitalAdmissionStateEvidenceKind)
  | unattributedState (kind : CapitalAdmissionStateEvidenceKind)

structure PredictionMarketAdmissionSnapshot where
  source : String
  observedAtNs : Nat
  (yesInstrumentId noInstrumentId : String)
  (yesPosition noPosition collateralAllowance : Decimal)
  collateralCoupledGroupId : String

inductive ProductAdmissionSnapshot
  | predictionMarketBinary (snapshot : PredictionMarketAdmissionSnapshot)

/-- The one product there is, `let PredictionMarketBinary(product) = state`. -/
def ProductAdmissionSnapshot.product : ProductAdmissionSnapshot → PredictionMarketAdmissionSnapshot
  | predictionMarketBinary snapshot => snapshot

structure PortfolioCapitalAdmissionSnapshot where
  source : String
  observedAtNs : Nat
  (venueId accountId collateralCurrency : String)
  (freeCollateral totalEquity : Decimal)

structure ProviderCollateralAllowanceSnapshot where
  source : String
  observedAtNs : Nat
  (venueId accountId collateralCurrency : String)
  collateralAllowance : Decimal

structure OrderLifecycleCapitalAdmissionSnapshot where
  source : String
  (observedAtNs openOrderCount : Nat)
  allOpenOrdersAttributed : Bool

structure ReservationLedgerSnapshot where
  source : String
  observedAtNs : Nat
  allLiveReservationsAttributed : Bool

structure SubmitCapitalAdmissionNtComponents where
  source : String
  observedAtNs : Nat
  portfolio : PortfolioCapitalAdmissionSnapshot
  providerCollateralAllowance : ProviderCollateralAllowanceSnapshot
  orderLifecycle : OrderLifecycleCapitalAdmissionSnapshot
  productState : ProductAdmissionSnapshot
  lossSnapshot : Option LossSnapshot

/-- The state has the fields of the components it is composed from. -/
structure NtDerivedCapitalAdmissionState extends SubmitCapitalAdmissionNtComponents where
  reservationSnapshot : ReservationLedgerSnapshot

structure CapitalAdmissionStateEvidenceSource where
  kind : CapitalAdmissionStateEvidenceKind
  source : String
  observedAtNs : Nat

def validateSource (source : String) (kind : CapitalAdmissionStateEvidenceKind) :
    Except CapitalAdmissionStateError Unit :=
  if isBlank source then .error (.unattributedState kind) else .ok ()

def validateFreshness (observedAtNs nowNs maxSnapshotAgeNs : Nat)
    (kind : CapitalAdmissionStateEvidenceKind) : Except CapitalAdmissionStateError Unit :=
  if stale observedAtNs nowNs maxSnapshotAgeNs then .error (.staleNtState kind) else .ok ()

/-- The source and the freshness of one snapshot. -/
def validateObservation (source : String) (observedAtNs nowNs maxSnapshotAgeNs : Nat)
    (kind : CapitalAdmissionStateEvidenceKind) : Except CapitalAdmissionStateError Unit := do
  validateSource source kind
  validateFreshness observedAtNs nowNs maxSnapshotAgeNs kind

/-- `evidence_sources`. The source of a loss snapshot is present once the state is validated. -/
def evidenceSources (state : NtDerivedCapitalAdmissionState) :
    List CapitalAdmissionStateEvidenceSource :=
  let product := state.productState.product
  [⟨.state, state.source, state.observedAtNs⟩,
    ⟨.portfolio, state.portfolio.source, state.portfolio.observedAtNs⟩,
    ⟨.providerCollateralAllowance, state.providerCollateralAllowance.source,
      state.providerCollateralAllowance.observedAtNs⟩,
    ⟨.orderLifecycle, state.orderLifecycle.source, state.orderLifecycle.observedAtNs⟩,
    ⟨.productState, product.source, product.observedAtNs⟩,
    ⟨.reservationLedger, state.reservationSnapshot.source,
      state.reservationSnapshot.observedAtNs⟩] ++
  match state.lossSnapshot with
  | none => []
  | some snapshot =>
    [⟨.lossSnapshot, snapshot.source.elim "" LossSnapshotSource.asStr, snapshot.observedAtNs⟩]

def validateNtDerivedCapitalAdmissionState (state : Option NtDerivedCapitalAdmissionState)
    (nowNs maxSnapshotAgeNs : Nat) :
    Except CapitalAdmissionStateError (List CapitalAdmissionStateEvidenceSource) :=
  match state with
  | none => .error .missingNtState
  | some state => do
    let observed := fun source observedAtNs kind =>
      validateObservation source observedAtNs nowNs maxSnapshotAgeNs kind
    observed state.source state.observedAtNs .state
    observed state.portfolio.source state.portfolio.observedAtNs .portfolio
    observed state.providerCollateralAllowance.source
      state.providerCollateralAllowance.observedAtNs .providerCollateralAllowance
    observed state.orderLifecycle.source state.orderLifecycle.observedAtNs .orderLifecycle
    if !state.orderLifecycle.allOpenOrdersAttributed then
      .error (.unattributedState .orderLifecycle)
    observed state.productState.product.source state.productState.product.observedAtNs .productState
    observed state.reservationSnapshot.source state.reservationSnapshot.observedAtNs
      .reservationLedger
    if !state.reservationSnapshot.allLiveReservationsAttributed then
      .error (.unattributedState .reservationLedger)
    match state.lossSnapshot with
    | none => .ok (evidenceSources state)
    | some snapshot => do
      if snapshot.source.isNone then .error (.unattributedState .lossSnapshot)
      validateFreshness snapshot.observedAtNs nowNs maxSnapshotAgeNs .lossSnapshot
      .ok (evidenceSources state)

end BoltV3.Capital
