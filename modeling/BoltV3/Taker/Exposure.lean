import BoltV3.Taker.Position

/-!
# The exposure owner of the taker

`ExposureOwner` of `strategies/binary_oracle_edge_taker/exposure.rs`: the one exposure that the
taker may have at a time, from the entry order over the position to the exit order.

* Every operation is a function of the owner; `ExposureCall` names them with their arguments, and
  `ExposureOwner.apply` is what a call leaves behind.
* Of the handle of an exit authority only the position it is for is kept. The books of a position
  and of a pending entry are left out.
* `tracked_position_context_mut` is used to bring the lifecycle of the tracked position up to date,
  so it is a call that sets it.
-/

namespace BoltV3.Taker

open Lib
open Exit (InstrumentId)

/-! ## States -/

/-- The entry order. -/
structure PendingEntryState where
  clientOrderId : String
  submittedAtMs : Option Nat
  lifecycle : BoltV3PositionMarketLifecycle
  instrumentId : InstrumentId
deriving DecidableEq

/-- An entry order that was armed, and when. -/
structure PendingEntryArmState where
  generation : Nat
  pending : PendingEntryState
deriving DecidableEq

/-- The exit order. -/
structure PendingExitState where
  clientOrderId : String
  submittedAtMs : Option Nat
  (marketId positionId : Option String)
deriving DecidableEq

/-- The position, as it is tracked. -/
structure ManagedPositionContext where
  lifecycle : BoltV3PositionMarketLifecycle
  instrumentId : InstrumentId
  positionId : String
deriving DecidableEq

/-- The position that a `BoltV3ExitOrderAuthorityHandle` is for. -/
structure BoltV3ExitOrderAuthorityHandle where
  instrumentId : InstrumentId
  positionId : String
deriving DecidableEq

/-- An exit order with its position and its authority. -/
structure ExitPendingState where
  position : Option ManagedPositionContext
  pendingExit : PendingExitState
  authority : BoltV3ExitOrderAuthorityHandle
deriving DecidableEq

/-- An exit that is being submitted. -/
structure ExitAttemptingState where
  generation : Nat
  managed : ManagedPositionContext
  pendingExit : PendingExitState
  authority : BoltV3ExitOrderAuthorityHandle
deriving DecidableEq

/-- `ExitAttemptingState::snapshot` and `into_pending`. -/
def ExitAttemptingState.snapshot (attempt : ExitAttemptingState) : ExitPendingState :=
  ⟨some attempt.managed, attempt.pendingExit, attempt.authority⟩

/-- How far an exit is. -/
inductive ExitLifecyclePhase
  | attempting | working | terminalAwaitingPosition
deriving DecidableEq

/-- Why an entry has to be reconciled. -/
inductive EntryReconcileReason
  | awaitingPositionMaterialization | unresolvedAtSelectionBoundary
  | unsupportedEntryFillSide (orderSide : OrderSide)
  | invalidObservedPosition (entryOrderSide : OrderSide) (side : PositionSide)
deriving DecidableEq

/-- Why a position is not supported. -/
inductive UnsupportedObservedReason
  | liveUnsupportedContract
deriving DecidableEq

/-- Why the taker does not know its exposure. -/
inductive BlindRecoveryReason
  | cacheProbeFailed
  | multipleOpenPositions (count : Nat)
  | invalidBootstrappedPosition (entryOrderSide : OrderSide) (side : PositionSide)
  | invalidLivePosition (entryOrderSide : OrderSide) (side : Option PositionSide)
  | settlementEvidenceRecoveryFailed
  | restartOpenPosition (instrumentId : InstrumentId) (positionId : String)
  | unretainedExitCorrection (instrumentId : InstrumentId)
  | foreignVenuePosition (instrumentVenue executionVenue : String)
deriving DecidableEq

/-- A position that the taker does not manage. -/
structure UnsupportedObservedState where
  context : ManagedPositionContext
  reason : UnsupportedObservedReason
deriving DecidableEq

/-- The position next to an entry that still works. -/
inductive EntryRemainderPosition
  | supported (position : ManagedPositionContext)
  | unsupported (observed : UnsupportedObservedState)
  | canonicallyFlat
deriving DecidableEq

/-- The cancel of the entry: not asked for, on its way, or refused. -/
inductive EntryCancellation
  | working | pending | refused
deriving DecidableEq

/-- An entry that filled in part and still works. -/
structure EntryRemainderState where
  pendingEntry : PendingEntryState
  position : EntryRemainderPosition
  cancellation : EntryCancellation
deriving DecidableEq

/-- What is known of the position when the entry is terminal. -/
inductive EntryTerminalPositionTruth
  | zeroFill
  | supported (position : ManagedPositionContext)
  | unsupported (observed : UnsupportedObservedState)
  | canonicallyFlat
  | unresolved (reason : EntryReconcileReason)
deriving DecidableEq

/-- The order that a cancel was routed for. -/
structure EntryCancellationToken where
  clientOrderId : String
deriving DecidableEq

/-- What to do about the cancel of an entry. -/
inductive EntryCancellationEffect
  | none
  | route (clientOrderId : String) (token : EntryCancellationToken)
  | awaitingLifecycle | refused
deriving DecidableEq

/-- The one exposure of the taker. -/
inductive ExposureState
  | flat
  | pendingEntry (arm : PendingEntryArmState)
  | entryReconcilePending (pending : PendingEntryState) (reason : EntryReconcileReason)
  | entryRemainder (remainder : EntryRemainderState)
  | managed (position : ManagedPositionContext)
  | exitAttempting (attempt : ExitAttemptingState)
  | exitPending (exit : ExitPendingState)
  | terminalExitAwaitingPosition (exit : ExitPendingState)
  | unsupportedObserved (observed : UnsupportedObservedState)
  | blindRecovery (reason : BlindRecoveryReason)
deriving DecidableEq

/-- The exposure without its data. -/
inductive ExposureOccupancy
  | pendingEntry | entryReconcilePending | entryRemainder | managedPosition | exitPending
  | unsupportedObserved | blindRecovery
deriving DecidableEq

/-- Whether an entry may be submitted. -/
inductive ExposureEntryGate
  | isOpen
  | occupied (occupancy : ExposureOccupancy)
  | recovering (occupancy : ExposureOccupancy)
deriving DecidableEq

/-- What market data is used for. -/
inductive ExposureMarketDataRoute
  | entry | exit | none

/-- The right to settle the armed entry. -/
structure EntryArmCapability where
  generation : Nat
  clientOrderId : String
deriving DecidableEq

/-- Why an entry is not armed. -/
inductive EntryArmError
  | occupied (occupancy : ExposureOccupancy)
  | generationExhausted

/-- The right to settle the exit attempt. -/
structure ExitAttemptCapability where
  generation : Nat
deriving DecidableEq

/-- Why an exit does not begin. -/
inductive ExitAttemptError
  /-- "exit attempt requires managed exposure" -/
  | requiresManagedExposure
  /-- "exit attempt generation overflow" -/
  | generationOverflow

/-- Whether the exit was submitted. -/
inductive ExitAttemptSettlement
  | retain | abort
deriving DecidableEq

/-- Whether the entry was submitted. -/
inductive EntryArmSettlement
  | retain | abort
deriving DecidableEq

/-- Whether the cancel went out. -/
inductive EntryCancellationSettlement
  | restoreWorking | retainPending
deriving DecidableEq

/-! ## Reductions of the state -/

/-- Whether a context is for the position with these ids. -/
def ManagedPositionContext.isFor (position : ManagedPositionContext) (positionId : String)
    (instrumentId : InstrumentId) : Bool :=
  position.positionId = positionId && position.instrumentId = instrumentId

/-- Whether an exit authority is for the position with these ids. -/
def BoltV3ExitOrderAuthorityHandle.isFor (authority : BoltV3ExitOrderAuthorityHandle)
    (positionId : String) (instrumentId : InstrumentId) : Bool :=
  authority.positionId = positionId && authority.instrumentId = instrumentId

variable (remainder : EntryRemainderState)

/-- The context of the position of a remainder. -/
def EntryRemainderPosition.context : EntryRemainderPosition → Option ManagedPositionContext
  | .supported position => some position
  | .unsupported observed => some observed.context
  | .canonicallyFlat => none

/-- The remainder is of this position, or of its instrument while flat. -/
def EntryRemainderState.positionMatches (positionId : String)
    (instrumentId : InstrumentId) : Bool :=
  match remainder.position.context with
  | some position => position.isFor positionId instrumentId
  | none => remainder.pendingEntry.instrumentId = instrumentId

/-- The test of `reduce_position_closed`: there, a remainder without a position matches none. -/
def EntryRemainderState.holdsPosition (positionId : String) (instrumentId : InstrumentId) : Bool :=
  remainder.position.context.any (·.isFor positionId instrumentId)

namespace ExposureState

/-- A cancel is routed once. -/
def entryCancellationEffect : EntryRemainderState × EntryCancellationEffect :=
  match remainder.cancellation with
  | .working =>
    let clientOrderId := remainder.pendingEntry.clientOrderId
    ({ remainder with cancellation := .pending }, .route clientOrderId ⟨clientOrderId⟩)
  | .pending => (remainder, .awaitingLifecycle)
  | .refused => (remainder, .refused)

/-- `pending_entry`. -/
def pendingEntryState : ExposureState → Option PendingEntryState
  | .pendingEntry arm => some arm.pending
  | .entryReconcilePending pending _ => some pending
  | .entryRemainder remainder => some remainder.pendingEntry
  | _ => none

/-- A terminal entry whose position was not seen: the truth has it. -/
def resolveUnmaterializedEntryTerminal (pending : PendingEntryState) :
    EntryTerminalPositionTruth → ExposureState × Option PendingEntryState
  | .zeroFill => (.flat, some pending)
  | .supported position =>
    if pending.instrumentId = position.instrumentId then (.managed position, some pending)
    else (.entryReconcilePending pending .awaitingPositionMaterialization, none)
  | .unsupported observed =>
    if pending.instrumentId = observed.context.instrumentId then
      (.unsupportedObserved observed, some pending)
    else (.entryReconcilePending pending .awaitingPositionMaterialization, none)
  | .canonicallyFlat => (.entryReconcilePending pending .awaitingPositionMaterialization, none)
  | .unresolved reason => (.entryReconcilePending pending reason, none)

/-- The next state of an entry remainder whose order is terminal. -/
def resolveRemainderTerminal :
    EntryTerminalPositionTruth → Option ExposureState
  | .supported position =>
    if remainder.positionMatches position.positionId position.instrumentId then
      some (.managed position)
    else none
  | .unsupported observed =>
    if remainder.positionMatches observed.context.positionId observed.context.instrumentId then
      some (.unsupportedObserved observed)
    else none
  | .zeroFill => if remainder.position = .canonicallyFlat then some .flat else none
  | .canonicallyFlat => some .flat
  | .unresolved _ => none

variable (state : ExposureState)

/-- The entry order is terminal; it is retired where the truth is known. -/
def resolveEntryTerminal (clientOrderId : String)
    (truth : EntryTerminalPositionTruth) : ExposureState × Option PendingEntryState :=
  match state with
  | .pendingEntry arm =>
    if arm.pending.clientOrderId = clientOrderId then
      resolveUnmaterializedEntryTerminal arm.pending truth
    else (state, none)
  | .entryReconcilePending pending _ =>
    if pending.clientOrderId = clientOrderId then resolveUnmaterializedEntryTerminal pending truth
    else (state, none)
  | .entryRemainder remainder =>
    if remainder.pendingEntry.clientOrderId = clientOrderId then
      match resolveRemainderTerminal remainder truth with
      | some next => (next, some remainder.pendingEntry)
      | none => (state, none)
    else (state, none)
  | _ => (state, none)

variable (pending : PendingEntryState) (managed : ManagedPositionContext)
  (unsupported : UnsupportedObservedState) (keepEntryRemainder : Bool)

/-- An entry whose position was observed: its order may leave a remainder. -/
def observeEntry (position : EntryRemainderPosition) (observed : ExposureState) : ExposureState :=
  if keepEntryRemainder then .entryRemainder ⟨pending, position, .working⟩ else observed

/-- A position is shown: it is taken over, or the exposure is unknown. -/
def materializeSupportedPosition (unlineagedReason : BlindRecoveryReason) : ExposureState × Bool :=
  let positionId := managed.positionId
  let instrumentId := managed.instrumentId
  let unlineaged := (ExposureState.blindRecovery unlineagedReason, false)
  match state with
  | .pendingEntry arm =>
    if arm.pending.instrumentId = instrumentId then
      (observeEntry arm.pending keepEntryRemainder (.supported managed) (.managed managed), true)
    else unlineaged
  | .entryReconcilePending pending _ =>
    if pending.instrumentId = instrumentId then
      (observeEntry pending keepEntryRemainder (.supported managed) (.managed managed), true)
    else unlineaged
  | .entryRemainder remainder =>
    if remainder.positionMatches positionId instrumentId then
      (.entryRemainder { remainder with position := .supported managed }, true)
    else unlineaged
  | .managed current =>
    if current.isFor positionId instrumentId then (.managed managed, true) else unlineaged
  | .exitAttempting attempt =>
    if attempt.authority.isFor positionId instrumentId then
      (.exitAttempting { attempt with managed := managed }, true)
    else unlineaged
  | .exitPending exit =>
    if exit.authority.isFor positionId instrumentId then
      (.exitPending { exit with position := some managed }, true)
    else unlineaged
  | .terminalExitAwaitingPosition exit =>
    if exit.authority.isFor positionId instrumentId then
      (.terminalExitAwaitingPosition { exit with position := some managed }, true)
    else unlineaged
  | .unsupportedObserved current =>
    if current.context.isFor positionId instrumentId then (.managed managed, true) else unlineaged
  | .blindRecovery reason => (.blindRecovery reason, false)
  | .flat => unlineaged

/-- The same, of a position that is not supported. -/
def setUnsupportedObserved (unlineagedReason : BlindRecoveryReason) : ExposureState :=
  let positionId := unsupported.context.positionId
  let instrumentId := unsupported.context.instrumentId
  let unlineaged := ExposureState.blindRecovery unlineagedReason
  match state with
  | .pendingEntry arm =>
    if arm.pending.instrumentId = instrumentId then
      observeEntry arm.pending keepEntryRemainder (.unsupported unsupported)
        (.unsupportedObserved unsupported)
    else unlineaged
  | .entryReconcilePending pending _ =>
    if pending.instrumentId = instrumentId then
      observeEntry pending keepEntryRemainder (.unsupported unsupported)
        (.unsupportedObserved unsupported)
    else unlineaged
  | .entryRemainder remainder =>
    if remainder.positionMatches positionId instrumentId then
      if keepEntryRemainder then
        .entryRemainder { remainder with position := .unsupported unsupported }
      else .unsupportedObserved unsupported
    else unlineaged
  | .managed current =>
    if current.isFor positionId instrumentId then .unsupportedObserved unsupported else unlineaged
  | .unsupportedObserved current =>
    if current.context.isFor positionId instrumentId then .unsupportedObserved unsupported
    else unlineaged
  | .exitAttempting attempt =>
    if attempt.authority.isFor positionId instrumentId then state else unlineaged
  | .exitPending exit =>
    if exit.authority.isFor positionId instrumentId then state else unlineaged
  | .terminalExitAwaitingPosition exit =>
    if exit.authority.isFor positionId instrumentId then state else unlineaged
  | .blindRecovery reason => .blindRecovery reason
  | .flat => unlineaged

/-- The position is closed; an entry that still works is cancelled. -/
def reducePositionClosed (positionId : String) (instrumentId : InstrumentId) :
    ExposureState × EntryCancellationEffect :=
  match state with
  | .entryRemainder remainder =>
    if remainder.holdsPosition positionId instrumentId then
      let (next, effect) := entryCancellationEffect { remainder with position := .canonicallyFlat }
      (.entryRemainder next, effect)
    else (state, .none)
  | .entryReconcilePending pending _ =>
    if pending.instrumentId = instrumentId then
      let (next, effect) := entryCancellationEffect ⟨pending, .canonicallyFlat, .working⟩
      (.entryRemainder next, effect)
    else (state, .none)
  | .managed position =>
    if position.isFor positionId instrumentId then (.flat, .none) else (state, .none)
  | .unsupportedObserved observed =>
    if observed.context.isFor positionId instrumentId then (.flat, .none) else (state, .none)
  | _ => (state, .none)

/-- An entry that still works is to be cancelled. -/
def requestEntryRemainderCancellation : ExposureState → ExposureState × EntryCancellationEffect
  | .entryRemainder remainder =>
    let (next, effect) := entryCancellationEffect remainder
    (.entryRemainder next, effect)
  | state => (state, .none)

/-- A cancel that did not go out can be routed again. -/
def settleEntryCancellation (token : EntryCancellationToken)
    (settlement : EntryCancellationSettlement) : ExposureState :=
  match state, settlement with
  | .entryRemainder remainder, .restoreWorking =>
    if remainder.pendingEntry.clientOrderId = token.clientOrderId ∧
      remainder.cancellation = .pending
    then .entryRemainder { remainder with cancellation := .working }
    else state
  | _, _ => state

/-- A refused cancel is not repeated. -/
def observeCancelRejected (clientOrderId : String) : ExposureState :=
  match state with
  | .entryRemainder remainder =>
    if remainder.pendingEntry.clientOrderId = clientOrderId ∧ remainder.cancellation = .pending then
      .entryRemainder { remainder with cancellation := .refused }
    else state
  | _ => state

/-- The position that is managed. -/
def managedPositionContext : ExposureState → Option ManagedPositionContext
  | .managed position => some position
  | .exitAttempting attempt => some attempt.managed
  | .exitPending exit | .terminalExitAwaitingPosition exit => exit.position
  | _ => none

/-- The position that is tracked, managed or not. -/
def trackedPositionContext : ExposureState → Option ManagedPositionContext
  | .unsupportedObserved observed => some observed.context
  | .entryRemainder remainder => remainder.position.context
  | state => state.managedPositionContext

/-- A write through `tracked_position_context_mut`. -/
def setTrackedLifecycle (lifecycle : BoltV3PositionMarketLifecycle) : ExposureState :=
  let update (position : ManagedPositionContext) := { position with lifecycle := lifecycle }
  match state with
  | .managed position => .managed (update position)
  | .exitAttempting attempt => .exitAttempting { attempt with managed := update attempt.managed }
  | .exitPending exit => .exitPending { exit with position := exit.position.map update }
  | .terminalExitAwaitingPosition exit =>
    .terminalExitAwaitingPosition { exit with position := exit.position.map update }
  | .unsupportedObserved observed =>
    .unsupportedObserved { observed with context := update observed.context }
  | .entryRemainder remainder =>
    match remainder.position with
    | .supported position =>
      .entryRemainder { remainder with position := .supported (update position) }
    | .unsupported observed =>
      .entryRemainder { remainder with
        position := .unsupported { observed with context := update observed.context } }
    | .canonicallyFlat => state
  | _ => state

/-- The instrument of the position or the entry. -/
def heldInstrumentId : Option InstrumentId :=
  (state.trackedPositionContext.map (·.instrumentId)).or
    (state.pendingEntryState.map (·.instrumentId))

/-- The exit and how far it is. -/
def exitLifecycle : ExposureState → Option (ExitLifecyclePhase × ExitPendingState)
  | .exitAttempting attempt => some (.attempting, attempt.snapshot)
  | .exitPending exit => some (.working, exit)
  | .terminalExitAwaitingPosition exit => some (.terminalAwaitingPosition, exit)
  | _ => none

/-- The exit order. -/
def exitPendingSnapshot : Option ExitPendingState := state.exitLifecycle.map Prod.snd

/-- The exposure, if there is one. -/
def occupancy : ExposureState → Option ExposureOccupancy
  | .flat => none
  | .pendingEntry _ => some .pendingEntry
  | .entryReconcilePending _ _ => some .entryReconcilePending
  | .entryRemainder _ => some .entryRemainder
  | .managed _ => some .managedPosition
  | .exitAttempting _ | .exitPending _ | .terminalExitAwaitingPosition _ => some .exitPending
  | .unsupportedObserved _ => some .unsupportedObserved
  | .blindRecovery _ => some .blindRecovery

end ExposureState

/-! ## The owner -/

/-- The exposure, and the generations of entries and exits. -/
structure ExposureOwner where
  state : ExposureState
  (nextEntryGeneration nextExitGeneration : Nat)

/-- What can end an exposure. -/
inductive ExposureReleaseObservation
  | entryArmAborted (capability : EntryArmCapability)
  | entryTerminal (clientOrderId : String) (truth : EntryTerminalPositionTruth)
  | positionClosed (positionId : String) (instrumentId : InstrumentId)
  | exitFlat | settlement
  | cancelRejected (clientOrderId : String)

/-- The entry that is retired, and a cancel. -/
structure ExposureReleaseEffects where
  retiredEntry : Option PendingEntryState
  cancellation : EntryCancellationEffect

namespace ExposureOwner

/-- A taker without exposure. -/
def new : ExposureOwner := ⟨.flat, 0, 0⟩

variable (owner : ExposureOwner)

/-- Only a flat taker may enter. -/
def entryGate : ExposureEntryGate :=
  match owner.state with
  | .flat => .isOpen
  | .pendingEntry _ => .occupied .pendingEntry
  | .entryReconcilePending _ _ => .recovering .entryReconcilePending
  | .entryRemainder remainder =>
    match remainder.position with
    | .supported _ => .occupied .entryRemainder
    | .unsupported _ | .canonicallyFlat => .recovering .entryRemainder
  | .managed _ => .occupied .managedPosition
  | .exitAttempting _ | .exitPending _ | .terminalExitAwaitingPosition _ => .occupied .exitPending
  | .unsupportedObserved _ => .recovering .unsupportedObserved
  | .blindRecovery _ => .recovering .blindRecovery

/-- Entries while flat, exits while managed. -/
def marketDataRoute : ExposureMarketDataRoute :=
  match owner.state with
  | .flat => .entry
  | .managed _ => .exit
  | _ => .none

/-- The exposure is not known. -/
def isBlindRecovery : Bool :=
  match owner.state with
  | .blindRecovery _ => true
  | _ => false

/-- The state and the effects of `reduce_release`. -/
def reduceReleaseState (state : ExposureState) :
    ExposureReleaseObservation → ExposureState × ExposureReleaseEffects
  | .entryArmAborted capability =>
    match state with
    | .pendingEntry arm =>
      if arm.generation = capability.generation ∧
          arm.pending.clientOrderId = capability.clientOrderId then (.flat, ⟨none, .none⟩)
      else (state, ⟨none, .none⟩)
    | _ => (state, ⟨none, .none⟩)
  | .entryTerminal clientOrderId truth =>
    let (next, retiredEntry) := state.resolveEntryTerminal clientOrderId truth
    (next, ⟨retiredEntry, .none⟩)
  | .positionClosed positionId instrumentId =>
    let (next, cancellation) := state.reducePositionClosed positionId instrumentId
    (next, ⟨none, cancellation⟩)
  | .exitFlat =>
    match state with
    | .exitAttempting _ | .exitPending _ | .terminalExitAwaitingPosition _ => (.flat, ⟨none, .none⟩)
    | _ => (state, ⟨none, .none⟩)
  | .settlement =>
    match state with
    | .entryRemainder remainder =>
      let (next, cancellation) :=
        ExposureState.entryCancellationEffect { remainder with position := .canonicallyFlat }
      (.entryRemainder next, ⟨none, cancellation⟩)
    | .managed _ | .unsupportedObserved _ => (.flat, ⟨none, .none⟩)
    | _ => (state, ⟨none, .none⟩)
  | .cancelRejected clientOrderId => (state.observeCancelRejected clientOrderId, ⟨none, .none⟩)

/-- The owner after an observation, and the effects. -/
def reduceRelease (observation : ExposureReleaseObservation) :
    ExposureOwner × ExposureReleaseEffects :=
  let (next, effects) := reduceReleaseState owner.state observation
  ({ owner with state := next }, effects)

/-- An entry order takes the exposure. -/
def armEntry (pending : PendingEntryState) :
    Except EntryArmError EntryArmCapability × ExposureOwner :=
  match owner.state.occupancy with
  | some occupancy => (.error (.occupied occupancy), owner)
  | none =>
    match checkedAdd u64Max owner.nextEntryGeneration 1 with
    | none => (.error .generationExhausted, owner)
    | some generation =>
      (.ok ⟨generation, pending.clientOrderId⟩,
        { owner with
          state := .pendingEntry ⟨generation, pending⟩, nextEntryGeneration := generation })

/-- An entry that was not submitted is given up. -/
def settleEntryArm (capability : EntryArmCapability) :
    EntryArmSettlement → ExposureOwner
  | .abort => (owner.reduceRelease (.entryArmAborted capability)).1
  | .retain => owner

/-- A pending entry has to be reconciled. -/
def reclassifyPendingEntry (reason : EntryReconcileReason) : ExposureOwner :=
  match owner.state with
  | .pendingEntry arm => { owner with state := .entryReconcilePending arm.pending reason }
  | _ => owner

/-- An exit of the managed position. -/
def beginExit (pendingExit : PendingExitState) (authority : BoltV3ExitOrderAuthorityHandle) :
    Except ExitAttemptError ExitAttemptCapability × ExposureOwner :=
  match owner.state with
  | .managed managed =>
    match checkedAdd u64Max owner.nextExitGeneration 1 with
    | none => (.error .generationOverflow, owner)
    | some generation =>
      (.ok ⟨generation⟩,
        { owner with
          state := .exitAttempting ⟨generation, managed, pendingExit, authority⟩
          nextExitGeneration := generation })
  | _ => (.error .requiresManagedExposure, owner)

/-- The exit works, or the position is managed again. -/
def settleExitAttempt (capability : ExitAttemptCapability)
    (settlement : ExitAttemptSettlement) : ExposureOwner :=
  match owner.state with
  | .exitAttempting attempt =>
    if attempt.generation = capability.generation then
      match settlement with
      | .retain => { owner with state := .exitPending attempt.snapshot }
      | .abort => { owner with state := .managed attempt.managed }
    else owner
  | _ => owner

end ExposureOwner

/-! ## Calls -/

/-- The operations of the owner that change it, with their arguments. -/
inductive ExposureCall
  | armEntry (pending : PendingEntryState)
  | settleEntryArm (capability : EntryArmCapability) (settlement : EntryArmSettlement)
  | enterEntryReconcile (pending : PendingEntryState) (reason : EntryReconcileReason)
  | reclassifyPendingEntry (reason : EntryReconcileReason)
  | enterBlindRecovery (reason : BlindRecoveryReason)
  | observeCleanStart
  | observeEntryTerminal (clientOrderId : String) (truth : EntryTerminalPositionTruth)
  | materializeSupportedPosition (managed : ManagedPositionContext) (keepEntryRemainder : Bool)
      (unlineagedReason : BlindRecoveryReason)
  | setUnsupportedObserved (unsupported : UnsupportedObservedState) (keepEntryRemainder : Bool)
      (unlineagedReason : BlindRecoveryReason)
  | observePositionClosed (positionId : String) (instrumentId : InstrumentId)
  | requestEntryRemainderCancellation
  | settleEntryCancellation (token : EntryCancellationToken)
      (settlement : EntryCancellationSettlement)
  | observeCancelRejected (clientOrderId : String)
  | beginExit (pendingExit : PendingExitState) (authority : BoltV3ExitOrderAuthorityHandle)
  | settleExitAttempt (capability : ExitAttemptCapability) (settlement : ExitAttemptSettlement)
  | observeExitWorking (exit : ExitPendingState)
  | observeExitTerminal (exit : ExitPendingState)
  | observeExitResidual (managed : ManagedPositionContext)
  | observeExitFlat | observeSettlement
  | setTrackedLifecycle (lifecycle : BoltV3PositionMarketLifecycle)
deriving DecidableEq

namespace ExposureOwner

variable (owner : ExposureOwner)

/-- What a call leaves behind. -/
def apply : ExposureCall → ExposureOwner
  | .armEntry pending => (owner.armEntry pending).2
  | .settleEntryArm capability settlement => owner.settleEntryArm capability settlement
  | .enterEntryReconcile pending reason =>
    { owner with state := .entryReconcilePending pending reason }
  | .reclassifyPendingEntry reason => owner.reclassifyPendingEntry reason
  | .enterBlindRecovery reason => { owner with state := .blindRecovery reason }
  | .observeCleanStart => { owner with state := .flat }
  | .observeEntryTerminal clientOrderId truth =>
    (owner.reduceRelease (.entryTerminal clientOrderId truth)).1
  | .materializeSupportedPosition managed keep reason =>
    { owner with state := (owner.state.materializeSupportedPosition managed keep reason).1 }
  | .setUnsupportedObserved unsupported keep reason =>
    { owner with state := owner.state.setUnsupportedObserved unsupported keep reason }
  | .observePositionClosed positionId instrumentId =>
    (owner.reduceRelease (.positionClosed positionId instrumentId)).1
  | .requestEntryRemainderCancellation =>
    { owner with state := owner.state.requestEntryRemainderCancellation.1 }
  | .settleEntryCancellation token settlement =>
    { owner with state := owner.state.settleEntryCancellation token settlement }
  | .observeCancelRejected clientOrderId => (owner.reduceRelease (.cancelRejected clientOrderId)).1
  | .beginExit pendingExit authority => (owner.beginExit pendingExit authority).2
  | .settleExitAttempt capability settlement => owner.settleExitAttempt capability settlement
  | .observeExitWorking exit => { owner with state := .exitPending exit }
  | .observeExitTerminal exit => { owner with state := .terminalExitAwaitingPosition exit }
  | .observeExitResidual managed => { owner with state := .managed managed }
  | .observeExitFlat => (owner.reduceRelease .exitFlat).1
  | .observeSettlement => (owner.reduceRelease .settlement).1
  | .setTrackedLifecycle lifecycle =>
    { owner with state := owner.state.setTrackedLifecycle lifecycle }

/-- What a list of calls leaves behind. -/
def applyAll (calls : List ExposureCall) : ExposureOwner := calls.foldl apply owner

end ExposureOwner

end BoltV3.Taker
