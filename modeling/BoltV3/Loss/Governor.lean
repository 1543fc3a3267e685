import BoltV3.Lib.Decimal

/-!
# The loss governor

`bolt_v3_loss_governor.rs`: a pure check of a loss snapshot against the configured limits, made
before every entry order. A missing, unattributed, future-dated, old or incomplete snapshot halts
with `StaleLossSnapshot`; otherwise every breached limit is reported, in a fixed order.

* `drawdownBreaches` subtracts two equities with the operator that panics on overflow; without a
  value it has panicked. A panic poisons the lock of the submit admission, and no later call of the
  process returns; the model's error `panicked` leaves the state as it was, so its runs include
  those of such a process.
-/

namespace BoltV3.Loss

open Lib

inductive LossSnapshotSource
  | ntLossRuntimeFeed | ntPortfolioSnapshot | ntAccountSnapshot | ntAccountAndPositionSnapshot
  | ntPositionEvent | ntPositionChanged | ntPositionClosed | ntPositionAdjusted
  | ntCapitalAdmissionState | boltLossSnapshot | lossGovernor | unknown | other
deriving DecidableEq

def LossSnapshotSource.asStr : LossSnapshotSource → String
  | ntLossRuntimeFeed => "nt_loss_runtime_feed"
  | ntPortfolioSnapshot => "nt_portfolio_snapshot"
  | ntAccountSnapshot => "nt_account_snapshot"
  | ntAccountAndPositionSnapshot => "nt_account_and_position_snapshot"
  | ntPositionEvent => "nt_position_event"
  | ntPositionChanged => "nt_position_changed"
  | ntPositionClosed => "nt_position_closed"
  | ntPositionAdjusted => "nt_position_adjusted"
  | ntCapitalAdmissionState => "nt_capital_admission_state"
  | boltLossSnapshot => "bolt_loss_snapshot"
  | lossGovernor => "loss_governor"
  | unknown => "unknown"
  | other => "other"

inductive LossHaltReason
  | perTradeLossLimit | dailyLossLimit | rollingLossLimit | maxDrawdownLimit | staleLossSnapshot
deriving DecidableEq

structure LossGovernorPolicy where
  maxSnapshotAgeNs : Nat
  (maxPerTradeLoss maxDailyLoss maxRollingLoss maxDrawdown : Option Decimal)

structure LossSourceObservationTimestamps where
  (lastAccountStateObservedAtNs lastPortfolioSnapshotObservedAtNs : Option Nat)
  lastPositionEventObservedAtNs : Option Nat
deriving DecidableEq

def LossSourceObservationTimestamps.unobserved : LossSourceObservationTimestamps :=
  ⟨none, none, none⟩

structure LossSnapshot where
  source : Option LossSnapshotSource
  observedAtNs : Nat
  (perTradePnl dailyPnl rollingPnl currentEquity peakEquity : Option Decimal)
  sourceObservations : LossSourceObservationTimestamps

inductive LossSnapshotStaleReason
  | missingSnapshot | sourceEmpty | futureDated | ageExceeded | missingRequiredField
deriving DecidableEq

structure LossSnapshotDiagnostics extends LossSourceObservationTimestamps where
  snapshotPresent : Bool
  snapshotObservedAtNs : Option Nat
  admissionNowNs : Nat
  (snapshotAgeNs maxSnapshotAgeNs : Option Nat)
  snapshotSource : Option LossSnapshotSource
  (perTradePnlPresent dailyPnlPresent rollingPnlPresent currentEquityPresent : Bool)
  peakEquityPresent : Bool
  staleReason : Option LossSnapshotStaleReason
deriving DecidableEq

/-- Diagnostics of nothing. -/
def LossSnapshotDiagnostics.absent (nowNs : Nat) : LossSnapshotDiagnostics :=
  { LossSourceObservationTimestamps.unobserved with
    snapshotPresent := false, snapshotObservedAtNs := none, admissionNowNs := nowNs
    snapshotAgeNs := none, maxSnapshotAgeNs := none, snapshotSource := none
    perTradePnlPresent := false, dailyPnlPresent := false, rollingPnlPresent := false
    currentEquityPresent := false, peakEquityPresent := false, staleReason := none }

structure LossAdmissionDecision where
  accepted : Bool
  haltReasons : List LossHaltReason
  diagnostics : LossSnapshotDiagnostics

variable (policy : LossGovernorPolicy) (snapshot : LossSnapshot)

/-- A configured limit whose figure the snapshot does not carry. -/
def missingRequiredField : Bool :=
  (policy.maxPerTradeLoss.isSome && snapshot.perTradePnl.isNone) ||
    (policy.maxDailyLoss.isSome && snapshot.dailyPnl.isNone) ||
    (policy.maxRollingLoss.isSome && snapshot.rollingPnl.isNone) ||
    (policy.maxDrawdown.isSome && (snapshot.currentEquity.isNone || snapshot.peakEquity.isNone))

def lossSnapshotStaleReason (nowNs : Nat) : Option LossSnapshotStaleReason :=
  if snapshot.source.isNone then some .sourceEmpty
  else if snapshot.observedAtNs > nowNs then some .futureDated
  else if nowNs - snapshot.observedAtNs > policy.maxSnapshotAgeNs then some .ageExceeded
  else if missingRequiredField policy snapshot then some .missingRequiredField
  else none

/-- `loss_snapshot_diagnostics`. Its stale reason is that of `loss_snapshot_stale_reason`. -/
def lossSnapshotDiagnostics (snapshot : Option LossSnapshot)
    (nowNs : Nat) (observations : LossSourceObservationTimestamps) : LossSnapshotDiagnostics :=
  match snapshot with
  | none =>
    { LossSnapshotDiagnostics.absent nowNs with
      toLossSourceObservationTimestamps := observations
      maxSnapshotAgeNs := some policy.maxSnapshotAgeNs, staleReason := some .missingSnapshot }
  | some snapshot =>
    let futureDated := snapshot.observedAtNs > nowNs
    let snapshotAgeNs := if futureDated then none else some (nowNs - snapshot.observedAtNs)
    let ageExceeded := snapshotAgeNs.any (· > policy.maxSnapshotAgeNs)
    { snapshotPresent := true, snapshotObservedAtNs := some snapshot.observedAtNs
      admissionNowNs := nowNs, snapshotAgeNs := snapshotAgeNs
      maxSnapshotAgeNs := some policy.maxSnapshotAgeNs, snapshotSource := snapshot.source
      perTradePnlPresent := snapshot.perTradePnl.isSome, dailyPnlPresent := snapshot.dailyPnl.isSome
      rollingPnlPresent := snapshot.rollingPnl.isSome
      currentEquityPresent := snapshot.currentEquity.isSome
      peakEquityPresent := snapshot.peakEquity.isSome
      toLossSourceObservationTimestamps := observations
      staleReason :=
        if snapshot.source.isNone then some .sourceEmpty
        else if futureDated then some .futureDated
        else if ageExceeded then some .ageExceeded
        else if missingRequiredField policy snapshot then some .missingRequiredField
        else none }

def lossBreaches (pnl limit : Decimal) : Bool := decide (pnl < .zero) && decide (limit ≤ pnl.neg)

section

variable [DecimalArith]

/-- `drawdown_breaches`. -/
def drawdownBreaches (currentEquity peakEquity limit : Decimal) : Option Bool :=
  if currentEquity < peakEquity then
    (DecimalArith.checkedSub peakEquity currentEquity).map fun drawdown => decide (limit ≤ drawdown)
  else some false

/-- One limit on a realised figure. -/
def lossLimitReasons (limit pnl : Option Decimal) (reason : LossHaltReason) : List LossHaltReason :=
  match limit, pnl with
  | some limit, some pnl => if lossBreaches pnl limit then [reason] else []
  | _, _ => []

/-- The drawdown limit. -/
def drawdownReasons (limit current peak : Option Decimal) : Option (List LossHaltReason) :=
  match limit, current, peak with
  | some limit, some current, some peak =>
    (drawdownBreaches current peak limit).map fun breaches =>
      if breaches then [.maxDrawdownLimit] else []
  | _, _, _ => some []

variable (snapshot : Option LossSnapshot)

/-- `evaluate_loss_admission_with_observations`; without a value it has panicked. -/
def evaluateLossAdmissionWithObservations (nowNs : Nat)
    (observations : LossSourceObservationTimestamps) : Option LossAdmissionDecision :=
  let diagnostics := lossSnapshotDiagnostics policy snapshot nowNs observations
  match snapshot with
  | none => some ⟨false, [.staleLossSnapshot], diagnostics⟩
  | some snapshot =>
    if diagnostics.staleReason.isSome then some ⟨false, [.staleLossSnapshot], diagnostics⟩
    else
      (drawdownReasons policy.maxDrawdown snapshot.currentEquity snapshot.peakEquity).map
        fun drawdown =>
          let haltReasons :=
            lossLimitReasons policy.maxPerTradeLoss snapshot.perTradePnl .perTradeLossLimit ++
              lossLimitReasons policy.maxDailyLoss snapshot.dailyPnl .dailyLossLimit ++
              lossLimitReasons policy.maxRollingLoss snapshot.rollingPnl .rollingLossLimit ++
                drawdown
          ⟨haltReasons.isEmpty, haltReasons, diagnostics⟩

/-- `evaluate_loss_admission`: the observations are those of the snapshot. -/
def evaluateLossAdmission (nowNs : Nat) : Option LossAdmissionDecision :=
  evaluateLossAdmissionWithObservations policy snapshot nowNs
    (snapshot.elim .unobserved LossSnapshot.sourceObservations)

end

end BoltV3.Loss
