import BoltV3.Exit.Authority
import BoltV3.Taker.Settlement

/-!
# The event handlers of the taker

The handlers of `strategies/binary_oracle_edge_taker/mod.rs` as far as they work on the exposure
owner and on the settlement keys: the order, fill and position events, the timer, the resolution
updates and market data, and the bootstrap.

* A handler is a function of the state and of a `TakerView`: what the platform cache, the exit
  authority, the evidence sink, the order route and the configuration answer while it runs. The
  answers are arbitrary, and may differ from one handler to the next.
* `TakerState.effects` records what a handler did, in order: its calls of the exposure owner, the
  outcomes it made durable, the close fetches it dispatched and the health transitions it emitted.
* A submission has two steps, up to the sink and after it, as events may come in between.
* How the entry and exit orders are priced and compiled is left out: the view says which order comes
  of it, if any. Order lifecycle evidence, subscriptions, cooldowns and logging are left out.
-/

namespace BoltV3.Taker

open Lib
open Exit (InstrumentId BoltV3ExitOrderLifecycleReduction BoltV3PositionReductionRelease
  BoltV3ExitOrderCorrection)
open Std (ExtTreeMap)

/-! ## What a handler sees -/

inductive TimeInForce
  | gtc | ioc | fok | gtd | day | atTheOpen | atTheClose
deriving DecidableEq

inductive OrderStatus
  | initialized | denied | emulated | released | submitted | accepted | rejected | canceled
  | expired | triggered | pendingUpdate | pendingCancel | partiallyFilled | filled | voided
deriving DecidableEq

/-- `CachedExitOrderLifecycle`, without the texts of the evidence. -/
inductive CachedExitOrderLifecycle
  | working
  | terminal (correction : BoltV3ExitOrderCorrection)

def classifyCachedExitOrderLifecycle : OrderStatus → CachedExitOrderLifecycle
  | .denied | .rejected | .canceled | .expired | .filled => .terminal .unchanged
  | .voided => .terminal .fillAuthorityChanged
  | _ => .working

/-- What the handlers read of a cached order. -/
structure CachedOrder where
  instrumentId : InstrumentId
  isClosed : Bool
  (leavesQty filledQty : Decimal)
  positionId : Option String
  status : OrderStatus

/-- What `handle_order_filled` reads of a fill. -/
structure OrderFilled where
  clientOrderId : String
  instrumentId : InstrumentId
  orderSide : OrderSide
  positionId : Option String
  lastQty : Decimal
  lastPx : F64

/-- `BoltV3CancelRoutingOutcome`, or a failed route. -/
inductive CancelRouting
  | skippedByPolicy | ntCallReturned | ntCallErrored | failed

inductive ResolutionReportSubscriptionOutcome
  | dispatched | missingRoute | assetBindingRejected

/-- The selected market. -/
structure ActiveMarket where
  marketId : Option String
  (priceToBeat intervalOpen : Option F64)
  (intervalEndMs selectionPublishedAtMs secondsToExpiryAtSelection : Option Nat)
  (upInstrumentId downInstrumentId : Option InstrumentId)

/-- What the platform, the configuration and the sinks answer while a handler runs. -/
structure TakerView where
  isRegistered : Bool
  (strategyId executionVenue : String)
  contract : Option ConfiguredPositionContract
  entryTimeInForce : TimeInForce
  active : ActiveMarket
  order : String → Option CachedOrder
  /-- `cache.positions_open` for the execution venue and the strategy. -/
  positionsOpen : List PositionMaterializationSpec
  /-- What the exit authority makes of the cached order, unless it fails. -/
  exitObservation : Option BoltV3ExitOrderLifecycleReduction
  /-- The release of the exit authority, unless there is none or it fails. -/
  exitRelease : Option BoltV3PositionReductionRelease
  cancelRouting : CancelRouting
  /-- The client order id of the exit order that the exit decision leads to. -/
  exitOrder : Option String
  /-- The entry that the entry decision leads to. -/
  entryOrder : Option PendingEntryState
  nowMs : Nat
  familyKey : String
  capability : Option SettlementCapability
  settle : BinaryRuntimeSettlementInput → BinaryRuntimeSettlementDecision
  /-- Whether the evidence sink takes the record. -/
  appends : Bool
  /-- Whether the loss governor takes the realized result of a settlement. -/
  runtimeEffects : SettlementFact → Bool
  healthEmits : Bool
  (marketExitMaxAttempts retryIntervalSeconds : Nat)
  closeSubscription : ResolutionReportSubscriptionOutcome
  settlementRecovery : Option SettlementRecoveryFacts
  bookingRecovery : Option BookingRecoveryFacts
  /-- The positions of the strategy in the cache, unless the probe fails: open ones and closed ones.
-/
  cachedPositions : Option (List OpenPositionState × List OpenPositionState)

namespace TakerView

/-- A view without orders and positions, in which nothing is decided. -/
def silent : TakerView where
  isRegistered := true
  strategyId := "taker"
  executionVenue := "POLYMARKET"
  contract := some ⟨.buy, .long, .sell, .long⟩
  entryTimeInForce := .gtc
  active := ⟨none, none, none, none, none, none, none, none⟩
  order := fun _ => none
  positionsOpen := []
  exitObservation := none
  exitRelease := none
  cancelRouting := .ntCallReturned
  exitOrder := none
  entryOrder := none
  nowMs := 0
  familyKey := "family"
  capability := none
  settle := fun _ => ⟨none, none, none⟩
  appends := true
  runtimeEffects := fun _ => true
  healthEmits := false
  marketExitMaxAttempts := 1
  retryIntervalSeconds := 1
  closeSubscription := .dispatched
  settlementRecovery := none
  bookingRecovery := none
  cachedPositions := some ([], [])

variable (view : TakerView)

def ntOpenPositionProjection (positionId : String) : Option PositionMaterializationSpec :=
  view.positionsOpen.find? (·.positionId = positionId)

/-- `nt_canonical_open_position_projection`, which fails if there is more than one. -/
def ntCanonicalOpenPositionProjection : Option (Option PositionMaterializationSpec) :=
  match view.positionsOpen with
  | [] => some none
  | [position] => some (some position)
  | _ => none

def entryOrderMayRemainWorking (clientOrderId : String) : Bool :=
  if view.entryTimeInForce ≠ .gtc ∧ view.entryTimeInForce ≠ .gtd then false
  else
    let cachedClosed :=
      if view.isRegistered then (view.order clientOrderId).map (·.isClosed) else none
    match cachedClosed with
    | some closed => !closed
    | none => true

/-- Whether a position with these sides is one the strategy manages. -/
def supports (entryOrderSide : OrderSide) (side : PositionSide) : Bool :=
  view.contract.any (supportsStrategyManagedPosition entryOrderSide side)

def buildOpenPositionState (preserved : Option ManagedPositionContext)
    (pendingContext : Option PendingEntryState) (spec : PositionMaterializationSpec)
    (trustPendingOutcomeSide : Bool) : OpenPositionState :=
  let pendingLifecycle := pendingContext.map fun pending =>
    if trustPendingOutcomeSide then pending.lifecycle else pending.lifecycle.withoutOutcomeSide
  let lifecycle := ((preserved.map (·.lifecycle)).or pendingLifecycle).getD .missing
  ⟨spec,
    if view.supports spec.entryOrderSide spec.side then lifecycle else lifecycle.withoutOutcomeSide⟩

end TakerView

/-! ## The state -/

structure SettlementCloseFetchAttemptState where
  (intervalEndMs attemptCount : Nat)
  lastAttemptMs : Option Nat

/-- What a handler does. -/
inductive TakerEffect
  | exposure (call : ExposureCall)
  | durable (outcome : RecoveredSettlementOutcome)
  | closeFetch (settlementKey : String)
  | health (settlementKey : String)

structure TakerState where
  exposure : ExposureOwner
  (settledPositionKeys settlementBookingErrorKeys terminalSettlementKeys : Finset String)
  settlementCloseFetchAttempts : ExtTreeMap String SettlementCloseFetchAttemptState
  effects : List TakerEffect

namespace TakerState

def new : TakerState := ⟨.new, ∅, ∅, ∅, ∅, []⟩

/-- A call of the exposure owner. -/
def call (s : TakerState) (c : ExposureCall) : TakerState :=
  { s with exposure := s.exposure.apply c, effects := s.effects ++ [.exposure c] }

/-- Any other effect. -/
def record (s : TakerState) (effect : TakerEffect) : TakerState :=
  { s with effects := s.effects ++ [effect] }

variable (view : TakerView) (s : TakerState) (clientOrderId : String) (instrumentId : InstrumentId)

def pendingEntryContextFor : Option PendingEntryState :=
  s.exposure.state.pendingEntryState.filter (·.instrumentId = instrumentId)

def managedPosition : Option OpenPositionState := do
  let context ← s.exposure.state.managedPositionContext
  let spec ← view.ntOpenPositionProjection context.positionId
  -- `open_position_from_nt_projection`
  if spec.positionId = context.positionId ∧ spec.instrumentId = context.instrumentId then
    some { spec with
      lifecycle := context.lifecycle, instrumentId := context.instrumentId
      positionId := context.positionId }
  else none

variable (spec : PositionMaterializationSpec)

/-- The tracked context of a position, if it is the one with these ids. -/
def preservedContext : Option ManagedPositionContext :=
  s.exposure.state.trackedPositionContext.filter (·.isFor spec.positionId spec.instrumentId)

/-- The lifecycle that `sync_exposure_context_from_active` takes from the selected market. -/
def syncedLifecycle (side : OutcomeSide) (lifecycle : BoltV3PositionMarketLifecycle) :
    BoltV3PositionMarketLifecycle :=
  let active := view.active
  if !lifecycle.marketMatchesOrMissing active.marketId then lifecycle
  else
    let activeLifecycle :=
      BoltV3PositionMarketLifecycle.fromEntryContext active.marketId (some side)
      active.priceToBeat active.intervalOpen active.intervalEndMs active.selectionPublishedAtMs
      active.secondsToExpiryAtSelection
    let repairAllowed := lifecycle.intervalEndMatches activeLifecycle ||
      (s.exposure.state.managedPositionContext.isSome && lifecycle.intervalEndMs.isNone)
    if repairAllowed then lifecycle.fillMissingFrom activeLifecycle else lifecycle

def syncExposureContextFromActive : TakerState :=
  match s.exposure.state.trackedPositionContext with
  | none => s
  | some tracked =>
    if view.active.upInstrumentId = some tracked.instrumentId then
      s.call (.setTrackedLifecycle (s.syncedLifecycle view .up tracked.lifecycle))
    else if view.active.downInstrumentId = some tracked.instrumentId then
      s.call (.setTrackedLifecycle (s.syncedLifecycle view .down tracked.lifecycle))
    else s

def performEntryCancellationEffect : EntryCancellationEffect → TakerState
  | .route _ token =>
    match view.cancelRouting with
    | .skippedByPolicy => s.call (.settleEntryCancellation token .restoreWorking)
    | .ntCallReturned | .ntCallErrored => s.call (.settleEntryCancellation token .retainPending)
    | .failed => s
  | _ => s

/-- `quarantine_foreign_venue_event`: whether the event was quarantined. -/
def quarantineForeignVenueEvent : Bool × TakerState :=
  if instrumentId.venue = view.executionVenue then (false, s)
  else
    (true, s.call (.enterBlindRecovery
      (.foreignVenuePosition instrumentId.venue view.executionVenue)))

def eventInstrumentMatchesHeldExposure (eventInstrumentId : InstrumentId) : Bool × TakerState :=
  match s.exposure.state.heldInstrumentId with
  | none => (true, s)
  | some held =>
    if eventInstrumentId = held then (true, s)
    else (false, (s.quarantineForeignVenueEvent view eventInstrumentId).2)

/-! ## Exits -/

variable (exit : ExitPendingState)

/-- The residual position that a terminal exit leaves. -/
def residualContext (spec : PositionMaterializationSpec) : ManagedPositionContext :=
  (view.buildOpenPositionState exit.position none spec false).managedPositionContext

/-- `try_release_terminal_exit`: whether the exit was released. -/
def tryReleaseTerminalExit : Bool × TakerState :=
  match exit.pendingExit.positionId with
  | none => (false, s)
  | some positionId =>
    if exit.position.isNone then (false, s)
    else
      match view.exitRelease with
      | none | some .awaitingAuthority => (false, s)
      | some .flat => (true, (s.call .observeExitFlat).syncExposureContextFromActive view)
      | some (.residual signedQuantity) =>
        match view.ntOpenPositionProjection positionId with
        | none => (false, s)
        | some residual =>
          if Decimal.NumEq residual.quantity signedQuantity.abs then
            (true, (s.call (.observeExitResidual (residualContext view exit residual))
              ).syncExposureContextFromActive view)
          else (false, s)

variable (eventInstrumentId : InstrumentId)

def reconcileExitOrderLifecycle (correction : BoltV3ExitOrderCorrection) : TakerState :=
  match s.exposure.state.exitPendingSnapshot with
  | none => s
  | some exit =>
    if exit.pendingExit.clientOrderId ≠ clientOrderId then s
    else
      let (isMatch, s) := s.eventInstrumentMatchesHeldExposure view eventInstrumentId
      if !isMatch then s
      else
        match view.order clientOrderId, view.exitObservation with
        | some _, some .working =>
          if correction = .fillAuthorityChanged then s.call (.observeExitWorking exit) else s
        | some _, some .terminalAwaitingPosition =>
          ((s.call (.observeExitTerminal exit)).tryReleaseTerminalExit view exit).2
        | some _, some .terminalZeroFill =>
          let terminalPositionId :=
            exit.pendingExit.positionId.or (exit.position.map (·.positionId))
          match terminalPositionId.bind view.ntOpenPositionProjection with
          | some spec =>
            (s.call (.observeExitResidual (residualContext view exit spec))
              ).syncExposureContextFromActive view
          | none => (s.call .observeExitFlat).syncExposureContextFromActive view
        | _, _ => s

def reconcileCachedExitOrderOnTimer : TakerState :=
  match s.exposure.state.exitLifecycle with
  | none => s
  | some (phase, exit) =>
    match view.order exit.pendingExit.clientOrderId with
    | none => s
    | some order =>
      -- a working order after a terminal one is a correction
      let correction :=
        match classifyCachedExitOrderLifecycle order.status with
        | .terminal correction => correction
        | .working =>
          if phase = .terminalAwaitingPosition then .fillAuthorityChanged else .unchanged
      s.reconcileExitOrderLifecycle view exit.pendingExit.clientOrderId
        order.instrumentId correction

/-! ## Positions -/

def setUnsupportedObservedExposure (observed : OpenPositionState) : TakerState :=
  let keep := s.exposure.state.pendingEntryState.any
    fun pending => view.entryOrderMayRemainWorking pending.clientOrderId
  s.call (.setUnsupportedObserved ⟨observed.managedPositionContext, .liveUnsupportedContract⟩ keep
    (.invalidLivePosition observed.entryOrderSide (some observed.side)))

def materializePositionFromTruth : TakerState :=
  let (quarantined, s) := s.quarantineForeignVenueEvent view spec.instrumentId
  if quarantined then s
  else
    let pendingContext := s.pendingEntryContextFor spec.instrumentId
    if !isObservedOpenSide spec.side then
      match pendingContext with
      | some pending =>
        s.call
          (.enterEntryReconcile pending (.invalidObservedPosition spec.entryOrderSide spec.side))
      | none =>
        s.call (.enterBlindRecovery (.invalidLivePosition spec.entryOrderSide (some spec.side)))
    else
      let observed := view.buildOpenPositionState (s.preservedContext spec) pendingContext spec
        pendingContext.isSome
      if !view.supports spec.entryOrderSide spec.side then
        let s := s.setUnsupportedObservedExposure view observed
        let effect := s.exposure.state.requestEntryRemainderCancellation.2
        (s.call .requestEntryRemainderCancellation).performEntryCancellationEffect view effect
      else
        let keep := pendingContext.any
          fun pending => view.entryOrderMayRemainWorking pending.clientOrderId
        let managed := observed.managedPositionContext
        let reason := .invalidLivePosition spec.entryOrderSide (some spec.side)
        let materialized := (s.exposure.state.materializeSupportedPosition managed keep reason).2
        let s := s.call (.materializeSupportedPosition managed keep reason)
        let s :=
          match materialized, s.exposure.state.exitLifecycle with
          | true, some (.terminalAwaitingPosition, exit) => (s.tryReleaseTerminalExit view exit).2
          | _, _ => s
        s.syncExposureContextFromActive view

/-- `materialize_position_from_event`: whether the position is managed now. -/
def materializePositionFromEvent : Bool × TakerState :=
  let (quarantined, s) := s.quarantineForeignVenueEvent view spec.instrumentId
  if quarantined then (false, s)
  else if !isObservedOpenSide spec.side then (false, s.materializePositionFromTruth view spec)
  else
    match view.ntOpenPositionProjection spec.positionId with
    | some ntSpec =>
      let s := s.materializePositionFromTruth view ntSpec
      ((s.managedPosition view).any (·.positionId = spec.positionId), s)
    | none => (false, s)

/-! ## Entries -/

inductive EntryTerminalOrderTruth
  | zeroFill
  | filled (positionId : Option String)
  | unresolved
deriving DecidableEq

variable (terminalProvesZeroFill : Bool)

/-- The first part of `entry_terminal_position_truth`: what is known of the order. -/
def entryTerminalOrderTruth : EntryTerminalOrderTruth :=
  if terminalProvesZeroFill then .zeroFill
  else if !view.isRegistered then .unresolved
  else
    match view.order clientOrderId with
    | some order =>
      if order.instrumentId = eventInstrumentId ∧
          (order.isClosed ∨ Decimal.NumEq order.leavesQty Decimal.zero) then
        if Decimal.NumEq order.filledQty Decimal.zero then .zeroFill else .filled order.positionId
      else .unresolved
    | none => .unresolved

def entryTerminalPositionTruth (pending : PendingEntryState)
    (clientOrderId : String) (eventInstrumentId : InstrumentId) (terminalProvesZeroFill : Bool) :
    EntryTerminalPositionTruth × TakerState :=
  let unresolved := EntryTerminalPositionTruth.unresolved .awaitingPositionMaterialization
  let orderTruth :=
    entryTerminalOrderTruth view clientOrderId eventInstrumentId terminalProvesZeroFill
  if orderTruth = .unresolved then (unresolved, s)
  else if !view.isRegistered then (.zeroFill, s)
  else
    match view.ntCanonicalOpenPositionProjection with
    | none => (unresolved, s)
    | some none => (if orderTruth = .zeroFill then .zeroFill else .canonicallyFlat, s)
    | some (some spec) =>
      if orderTruth ≠ .filled (some spec.positionId) ∨ spec.instrumentId ≠ pending.instrumentId ∨
          !isObservedOpenSide spec.side then (unresolved, s)
      else
        let (quarantined, s) := s.quarantineForeignVenueEvent view spec.instrumentId
        if quarantined then (unresolved, s)
        else
          let observed := (view.buildOpenPositionState (s.preservedContext spec) (some pending) spec
            true).managedPositionContext
          if view.supports spec.entryOrderSide spec.side then (.supported observed, s)
          else (.unsupported ⟨observed, .liveUnsupportedContract⟩, s)

def resolvePendingEntryTerminalEvent : TakerState :=
  match s.exposure.state.pendingEntryState with
  | none => s
  | some pending =>
    if pending.clientOrderId ≠ clientOrderId then s
    else
      let (isMatch, s) := s.eventInstrumentMatchesHeldExposure view eventInstrumentId
      if !isMatch then s
      else
        let (truth, s) := s.entryTerminalPositionTruth view pending clientOrderId eventInstrumentId
          terminalProvesZeroFill
        (s.call (.observeEntryTerminal clientOrderId truth)).syncExposureContextFromActive view

/-- `reclassify_unreachable_pending_entry_at_selection_boundary`. -/
def reclassifyUnreachablePendingEntry : TakerState :=
  match s.exposure.state with
  | .pendingEntry arm =>
    if view.active.upInstrumentId = some arm.pending.instrumentId ∨
        view.active.downInstrumentId = some arm.pending.instrumentId then s
    else s.call (.reclassifyPendingEntry .unresolvedAtSelectionBoundary)
  | _ => s

/-! ## Settlements -/

def enterBlindSettlementRecovery : TakerState :=
  s.call (.enterBlindRecovery .settlementEvidenceRecoveryFailed)

/-- The key updates of a settlement. -/
def applyKeyDelta (delta : SettlementTerminalKeyDelta) : TakerState :=
  { s with
    terminalSettlementKeys :=
      if delta.insertTerminalKey then insert delta.settlementKey s.terminalSettlementKeys
      else s.terminalSettlementKeys
    settlementBookingErrorKeys :=
      if delta.insertBookingErrorKey then insert delta.settlementKey s.settlementBookingErrorKeys
      else s.settlementBookingErrorKeys
    settlementCloseFetchAttempts :=
      if delta.removeCloseFetchAttempt then s.settlementCloseFetchAttempts.erase delta.settlementKey
      else s.settlementCloseFetchAttempts }

variable (position : OpenPositionState) (settlementKey : String)

def insertSettledPositionKey : TakerState :=
  { s with settledPositionKeys := insert settlementKey s.settledPositionKeys }

def insertCloseFetchAttempt (attempt : SettlementCloseFetchAttemptState) : TakerState :=
  { s with
    settlementCloseFetchAttempts := s.settlementCloseFetchAttempts.insert settlementKey attempt }

/-- The release of the exposure by a settlement. -/
def releaseBySettlement : TakerState :=
  let effect := (s.exposure.reduceRelease .settlement).2.cancellation
  ((s.call .observeSettlement).performEntryCancellationEffect view effect
    ).syncExposureContextFromActive view

/-- `apply_terminal_settlement_transition`: whether the evidence was appended. -/
def applyTerminalSettlementTransition
    (transition : SettlementBookingErrorTransition) (fact : TerminalSettlementFact) :
    Bool × TakerState :=
  if !view.appends then (false, s)
  else
    let s := (s.record (.durable (.bookingTerminal fact))).applyKeyDelta transition.keyDelta
    let s := s.releaseBySettlement view
    (true, if view.healthEmits then s.record (.health fact.settlementKey) else s)

/-- `record_settlement_booking_error`: whether it succeeded. -/
def recordSettlementBookingError (reason : SettlementBookingErrorReason) (detail : String)
    (observedAtNs : Nat) : Bool × TakerState :=
  match decideSettlementBookingError (settlementPositionKey position settlementKey) reason detail
    observedAtNs s.settlementBookingErrorKeys with
  | none => (false, s)
  | some none => (true, s)
  | some (some transition) =>
    let fact : TerminalSettlementFact := ⟨transition.eligibility.settlementKey,
      ⟨view.strategyId, transition.eligibility.settlementKey, position.lifecycle.marketId,
        some position.positionId, some position.instrumentId, transition.reason, transition.detail,
        observedAtNs⟩⟩
    s.applyTerminalSettlementTransition view transition fact

/-- `now_ms.saturating_mul(NANOS_PER_MILLI_U64)`. -/
def nowNs (nowMs : Nat) : Nat := min u64Max (nowMs * nanosPerMilli)

def recordMissingIntervalEndSettlementBookingError (observedAtNs : Nat) : Bool × TakerState :=
  if position.lifecycle.intervalEndMs.isSome then (true, s)
  else
    match settlementKeyForPosition position with
    | none => (false, s)
    | some settlementKey =>
      if settlementKey ∈ s.settledPositionKeys ∨ settlementKey ∈ s.settlementBookingErrorKeys then
        (true, s)
      else
        s.recordSettlementBookingError view position settlementKey .settlementInputInvalid
          "settlement input missing interval end" observedAtNs

def settlementCloseRetryDue (lastAttemptMs : Option Nat) (nowMs retryIntervalMs : Nat) : Bool :=
  lastAttemptMs.all fun last => retryIntervalMs ≤ nowMs - last

/-- The fetch state of a key, new for a new interval. -/
def closeFetchAttempt (intervalEndMs : Nat) : SettlementCloseFetchAttemptState :=
  match s.settlementCloseFetchAttempts[settlementKey]? with
  | none => ⟨intervalEndMs, 0, none⟩
  | some attempt =>
    if attempt.intervalEndMs ≠ intervalEndMs then ⟨intervalEndMs, 0, none⟩ else attempt

def retrySettlementCloseFetchOrRecordTerminalFailure (intervalEndMs : Nat) : Bool × TakerState :=
  let attempt := s.closeFetchAttempt settlementKey intervalEndMs
  let s := s.insertCloseFetchAttempt settlementKey attempt
  let retryIntervalMs := min u64Max (view.retryIntervalSeconds * millisPerSecond)
  let retryDue := settlementCloseRetryDue attempt.lastAttemptMs view.nowMs retryIntervalMs
  let missing (detail : String) := s.recordSettlementBookingError view position settlementKey
    .resolutionFeedMissing detail (nowNs view.nowMs)
  if !retryDue then (true, s)
  else if view.marketExitMaxAttempts ≤ attempt.attemptCount then
    missing ("resolution feed missing after settlement close fetch attempts exhausted; " ++
      "settlement not booked")
  else
    match view.closeSubscription with
    | .dispatched =>
      let next : SettlementCloseFetchAttemptState :=
        ⟨attempt.intervalEndMs, min u64Max (attempt.attemptCount + 1), some view.nowMs⟩
      (true, (s.insertCloseFetchAttempt settlementKey next).record (.closeFetch settlementKey))
    | .missingRoute =>
      missing "resolution feed route unavailable for settlement close fetch; settlement not booked"
    | .assetBindingRejected =>
      missing ("resolution feed asset binding rejected settlement close fetch; " ++
        "settlement not booked")

def checkResolutionFeedOutageAtMarketEnd : TakerState :=
  match s.managedPosition view with
  | none => s
  | some position =>
    match position.lifecycle.intervalEndMs with
    | none =>
      (s.recordMissingIntervalEndSettlementBookingError view position (nowNs view.nowMs)).2
    | some intervalEndMs =>
      if view.nowMs < intervalEndMs then s
      else
        match settlementKeyForPosition position with
        | none => s
        | some settlementKey =>
          if settlementKey ∈ s.settledPositionKeys ∨
            settlementKey ∈ s.settlementBookingErrorKeys then
            s
          else
            (s.retrySettlementCloseFetchOrRecordTerminalFailure view position settlementKey
              intervalEndMs).2

/-- `apply_settlement_runtime_effects`: nothing without a sink. -/
def applySettlementRuntimeEffects (fact : SettlementFact) : Bool :=
  if view.capability.any (·.runtimeSink) then view.runtimeEffects fact else true

variable (booking : ResolutionSettlementBooking)

/-- The evidence of a booking. -/
def settlementEvidence
    (marketId productId settlementCurrency : String) (tsEventNs : Nat) : SettlementFact :=
  ⟨view.strategyId, booking.settlementKey, marketId, position.positionId, position.instrumentId,
    productId, tsEventNs, booking.payoutPerShare, booking.result.terminalValue,
    booking.result.realizedPnl, settlementCurrency⟩

/-- `try_book_resolution_settlement` after a decision to book. -/
def bookSettlement (tsEventNs : Nat) : TakerState :=
  match predictionMarketProductId position.instrumentId with
  | none => s
  | some productId =>
    let fact := settlementEvidence view position booking (position.lifecycle.marketId.getD "")
      productId ((view.capability.bind (·.currency)).getD "") tsEventNs
    if !view.appends then s
    else
      let s := s.record (.durable (.successful fact))
      let s := (s.insertSettledPositionKey booking.settlementKey).applyKeyDelta booking.keyDelta
      if applySettlementRuntimeEffects view fact then s.releaseBySettlement view
      else s.enterBlindSettlementRecovery

/-- What `try_book_resolution_settlement` decides on an update, for a position and its key. -/
def settlementDecision (tsEventNs : Nat) (value : F64) : ResolutionSettlementDecision :=
  tryBookResolutionSettlement view.settle
    { position := settlementPositionKey position settlementKey, resolutionTsNs := tsEventNs
      familyKey := view.familyKey, referenceClosePrice := value
      strikePrice := position.lifecycle.settlementStrike
      lot := position.lifecycle.outcomeSide.map fun side =>
        ⟨side, position.quantity, position.avgPxOpen⟩
      marketIdPresent := position.lifecycle.marketId.isSome, capability := view.capability }
    s.settledPositionKeys s.settlementBookingErrorKeys

/-- `try_book_resolution_settlement`. -/
def tryBookSettlement (tsEventNs : Nat) (value : F64) : TakerState :=
  match s.managedPosition view with
  | none => s
  | some position =>
    match settlementKeyForPosition position with
    | none => s
    | some settlementKey =>
      match s.settlementDecision view position settlementKey tsEventNs value with
      | .skip _ => s
      | .bookingError reason detail =>
        (s.recordSettlementBookingError view position settlementKey reason detail tsEventNs).2
      | .book booking => s.bookSettlement view position booking tsEventNs

/-! ## Submissions -/

/-- `try_submit_exit_order_inner`, up to the sink. -/
def trySubmitExitOrder : TakerState :=
  let (recorded, s) :=
    match s.managedPosition view with
    | some position =>
      s.recordMissingIntervalEndSettlementBookingError view position (nowNs view.nowMs)
    | none => (true, s)
  if !recorded then s
  else
    let effect := s.exposure.state.requestEntryRemainderCancellation.2
    let s := s.call .requestEntryRemainderCancellation
    if effect ≠ .none then s.performEntryCancellationEffect view effect
    else
      match view.exitOrder, s.managedPosition view with
      | some clientOrderId, some position =>
        s.call (.beginExit
          ⟨clientOrderId, some view.nowMs, position.lifecycle.marketId, some position.positionId⟩
          ⟨position.instrumentId, position.positionId⟩)
      | _, _ => s

/-- `try_submit_entry_order_for_receive`, up to the sink. -/
def trySubmitEntryOrder : TakerState :=
  match view.entryOrder with
  | some pending => s.call (.armEntry pending)
  | none => s

def applySelectionSnapshot : TakerState :=
  let s := (s.syncExposureContextFromActive view).reclassifyUnreachablePendingEntry view
  if (s.managedPosition view).isSome then s.trySubmitExitOrder view else s

/-! ## The bootstrap -/

/-- `recover_settlement_bootstrap_from_scope`: whether the recovery succeeded. -/
def recoverSettlementBootstrapFromScope (scopePositions : List OpenPositionState) :
    Bool × TakerState :=
  if view.settlementRecovery.isNone then (true, s)
  else
    match scopePositions.mapM settlementKeyForPosition with
    | none => (false, s.enterBlindSettlementRecovery)
    | some keys =>
      let scope := keys.toFinset
      match recoverSettlementFacts view.settlementRecovery view.strategyId scope with
      | none => (false, s.enterBlindSettlementRecovery)
      | some delta =>
        let booking := recoverBookingFacts view.bookingRecovery scope
        let currency := view.capability.bind (·.currency)
        if delta.settledEvidence.all fun evidence => currency = some evidence.settlementCurrency &&
            applySettlementRuntimeEffects view evidence then
          (true, { s with
            settledPositionKeys := s.settledPositionKeys ∪ delta.settledPositionKeys
            settlementBookingErrorKeys := s.settlementBookingErrorKeys ∪ booking.bookingErrorKeys
            terminalSettlementKeys := s.terminalSettlementKeys ∪ delta.terminalSettlementKeys ∪
              booking.terminalSettlementKeys })
        else (false, s.enterBlindSettlementRecovery)

def bootstrappedRecoveryReason : BlindRecoveryReason :=
  if position.instrumentId.venue ≠ view.executionVenue then
    .foreignVenuePosition position.instrumentId.venue view.executionVenue
  else if !isObservedOpenSide position.side then
    .invalidBootstrappedPosition position.entryOrderSide position.side
  else .restartOpenPosition position.instrumentId position.positionId

def bootstrapRecoveryFromCache : TakerState :=
  match view.cachedPositions with
  | none => s.call (.enterBlindRecovery .cacheProbeFailed)
  | some (openPositions, closedPositions) =>
    let (recovered, s) :=
      s.recoverSettlementBootstrapFromScope view (openPositions ++ closedPositions)
    if !recovered then s
    else
      match openPositions with
      | [] => s.call .observeCleanStart
      | [position] => s.call (.enterBlindRecovery (bootstrappedRecoveryReason view position))
      | positions => s.call (.enterBlindRecovery (.multipleOpenPositions positions.length))

/-! ## Events -/

variable (event : OrderFilled)

/-- The entry fill of an order that is not a remainder and could not be materialized. -/
def entryFillUnmaterialized
    (pendingContext : Option PendingEntryState) (positionSide : Option PositionSide) : TakerState :=
  if s.exposure.isBlindRecovery then s
  else
    match pendingContext with
    | some pending =>
      s.call (.enterEntryReconcile pending
        (if event.positionId.isNone then .awaitingPositionMaterialization
          else .unsupportedEntryFillSide event.orderSide))
    | none => s.call (.enterBlindRecovery (.invalidLivePosition event.orderSide positionSide))

/-- The entry fill of `handle_order_filled`. -/
def handleEntryFill : TakerState :=
  let pendingContext := s.pendingEntryContextFor event.instrumentId
  let positionSide := view.contract.bind fun contract =>
    inferStrategyPositionSideFromEntryFill event.orderSide contract.entryOrderSide
      contract.entryPositionSide
  match s.exposure.state with
  | .entryRemainder _ =>
    let (isMatch, s) := s.eventInstrumentMatchesHeldExposure view event.instrumentId
    if !isMatch then s
    else if view.entryOrderMayRemainWorking event.clientOrderId then s
    else s.resolvePendingEntryTerminalEvent view event.clientOrderId event.instrumentId false
  | _ =>
    match event.positionId, positionSide with
    | some positionId, some side =>
      let (materialized, s) := s.materializePositionFromEvent view
        ⟨event.instrumentId, positionId, event.orderSide, side, event.lastQty, event.lastPx⟩
      if materialized then s else s.entryFillUnmaterialized event pendingContext positionSide
    | _, _ => s.entryFillUnmaterialized event pendingContext positionSide

def handleOrderFilled : TakerState :=
  if s.exposure.state.pendingEntryState.any (·.clientOrderId = event.clientOrderId) then
    s.handleEntryFill view event
  else if s.exposure.state.exitPendingSnapshot.any
      (·.pendingExit.clientOrderId = event.clientOrderId) then
    let (isMatch, s) := s.eventInstrumentMatchesHeldExposure view event.instrumentId
    if !isMatch then s
    else s.reconcileExitOrderLifecycle view event.clientOrderId event.instrumentId .unchanged
  else s

/-- `handle_order_canceled`, `on_order_expired`, `on_order_rejected` and `on_order_denied`. -/
def handleOrderEnded (terminalProvesZeroFill : Bool) : TakerState :=
  (s.resolvePendingEntryTerminalEvent view clientOrderId instrumentId terminalProvesZeroFill
    ).reconcileExitOrderLifecycle view clientOrderId instrumentId .unchanged

/-- `handle_order_fill_voided`, with `enter_blind_fill_void_recovery`. -/
def handleOrderFillVoided (orderSide : OrderSide) : TakerState :=
  if s.exposure.state.exitPendingSnapshot.any (·.pendingExit.clientOrderId = clientOrderId) then
    s.reconcileExitOrderLifecycle view clientOrderId instrumentId .fillAuthorityChanged
  else if view.contract.any (·.exitOrderSide = orderSide) ∧
      instrumentId.venue = view.executionVenue then
    s.call (.enterBlindRecovery (.unretainedExitCorrection instrumentId))
  else s

/-- `on_position_closed`. -/
def handlePositionClosed (positionId : String) (instrumentId : InstrumentId) : TakerState :=
  let (quarantined, s) := s.quarantineForeignVenueEvent view instrumentId
  if quarantined then s
  else
    match s.exposure.state.exitLifecycle.filter (·.2.pendingExit.positionId = some positionId) with
    | some (.terminalAwaitingPosition, exit) => (s.tryReleaseTerminalExit view exit).2
    | some _ => s
    | none =>
      match view.ntCanonicalOpenPositionProjection with
      | some (some position) => s.materializePositionFromTruth view position
      | none => s.enterBlindSettlementRecovery
      | some none =>
        let effect :=
          (s.exposure.reduceRelease (.positionClosed positionId instrumentId)).2.cancellation
        (s.call (.observePositionClosed positionId instrumentId)).performEntryCancellationEffect
          view
          effect

/-- The release of a terminal exit in `on_time_event`. -/
def releaseTerminalExitOnTimer : TakerState :=
  match s.exposure.state with
  | .terminalExitAwaitingPosition exit => (s.tryReleaseTerminalExit view exit).2
  | _ => s

/-- `on_book_deltas`; the deltas are for a book in use or not. -/
def handleBookDeltas (matched : Bool) : TakerState :=
  let s := s.syncExposureContextFromActive view
  if !matched then s
  else
    match s.exposure.marketDataRoute with
    | .exit => s.trySubmitExitOrder view
    | .entry => s.trySubmitEntryOrder view
    | .none => s

/-- `after_signal_quote_observed`. -/
def handleSignalQuote : TakerState :=
  let s := s.syncExposureContextFromActive view
  if (s.managedPosition view).isSome then s.trySubmitExitOrder view else s

end TakerState

/-- The events of the taker. Each part of a timer event has its own view. -/
inductive TakerEvent
  | start (bootstrap selection : TakerView)
  | timer (isSelectionTimer : Bool) (selection reconcile release marketEnd : TakerView)
  | signalQuote (view : TakerView)
  | indexPrice (view : TakerView) (tsEventNs : Nat) (value : F64)
  | referencePrice (view : TakerView)
  | bookDeltas (view : TakerView) (matched : Bool)
  | orderFilled (view : TakerView) (event : OrderFilled)
  | orderFillVoided (view : TakerView) (clientOrderId : String) (instrumentId : InstrumentId)
      (orderSide : OrderSide)
  | orderCanceled (view : TakerView) (clientOrderId : String) (instrumentId : InstrumentId)
  | orderExpired (view : TakerView) (clientOrderId : String) (instrumentId : InstrumentId)
  | orderRejected (view : TakerView) (clientOrderId : String) (instrumentId : InstrumentId)
  | orderDenied (view : TakerView) (clientOrderId : String) (instrumentId : InstrumentId)
  | orderCancelRejected (clientOrderId : String)
  | positionOpened (view : TakerView) (spec : PositionMaterializationSpec)
  | positionChanged (view : TakerView) (spec : PositionMaterializationSpec)
  | positionClosed (view : TakerView) (positionId : String) (instrumentId : InstrumentId)
  | entrySubmitted (capability : EntryArmCapability) (settlement : EntryArmSettlement)
  | exitSubmitted (capability : ExitAttemptCapability) (settlement : ExitAttemptSettlement)

namespace TakerState

/-- What an event does. -/
def handle (s : TakerState) : TakerEvent → TakerState
  | .start bootstrap selection =>
    (s.bootstrapRecoveryFromCache bootstrap).applySelectionSnapshot selection
  | .timer isSelectionTimer selection reconcile release marketEnd =>
    let s := if isSelectionTimer then s.applySelectionSnapshot selection else s
    ((s.reconcileCachedExitOrderOnTimer reconcile).releaseTerminalExitOnTimer release
      ).checkResolutionFeedOutageAtMarketEnd marketEnd
  | .signalQuote view => s.handleSignalQuote view
  | .indexPrice view tsEventNs value =>
    (s.tryBookSettlement view tsEventNs value).syncExposureContextFromActive view
  | .referencePrice view => s.syncExposureContextFromActive view
  | .bookDeltas view matched => s.handleBookDeltas view matched
  | .orderFilled view event => s.handleOrderFilled view event
  | .orderFillVoided view clientOrderId instrumentId orderSide =>
    s.handleOrderFillVoided view clientOrderId instrumentId orderSide
  | .orderCanceled view clientOrderId instrumentId
  | .orderExpired view clientOrderId instrumentId =>
    s.handleOrderEnded view clientOrderId instrumentId false
  | .orderRejected view clientOrderId instrumentId
  | .orderDenied view clientOrderId instrumentId =>
    s.handleOrderEnded view clientOrderId instrumentId true
  | .orderCancelRejected clientOrderId => s.call (.observeCancelRejected clientOrderId)
  | .positionOpened view spec | .positionChanged view spec =>
    (s.materializePositionFromEvent view spec).2
  | .positionClosed view positionId instrumentId =>
    s.handlePositionClosed view positionId instrumentId
  | .entrySubmitted capability settlement => s.call (.settleEntryArm capability settlement)
  | .exitSubmitted capability settlement => s.call (.settleExitAttempt capability settlement)

/-- A run of events. -/
def run (s : TakerState) (events : List TakerEvent) : TakerState := events.foldl handle s

end TakerState

end BoltV3.Taker
