import BoltV3.KillSwitch.Store
import BoltV3.Lib.Action

/-!
# The loss protection of the kill switch

`bolt_v3_loss_protection.rs`: `KillSwitchLossProtection` adds up the realized profit and loss of the
UTC day and latches the kill switch when the loss reaches its limit. Every method is an `Action` on
a `Session`: the object, the file of its store and the outcomes of the effects of the call.

* `+=` and `-` on decimals panic on overflow; that is the failure `panic`, after which the object is
  gone.
* The action given to the sink names the halt and the configured accounts and instruments; only
  whether it was taken is read.
* `admission` is the state that `replace_kill_switch_state` was last given.
* A file that exists can be read; a restart that cannot read it returns before anything runs.
-/

namespace BoltV3.KillSwitch

open Lib Loss
open Submit (KillSwitchStateKind)
open Std (ExtTreeMap)

/-! ## Data -/

/-- `NANOS_PER_UTC_DAY`. -/
def nanosPerUtcDay : Nat := 86400000000000

/-- `NANOS_PER_MILLISECOND`. -/
def nanosPerMillisecond : Nat := 1000000

def failClosedRecoveryHaltId : String := "kill-switch-recovery-fail-closed"

/-- The configuration; `validate_kill_switch_block` requires the limit to be positive. -/
structure KillSwitchLossProtectionConfig where
  maxUtcDailyRealizedLoss : Decimal
  (actionRetryIntervalMs actionRetryTimeoutMs : Nat)
  (accountIds instrumentIds : List String)
  positive : 0 < maxUtcDailyRealizedLoss.value

structure RealizedPnlObservation where
  source : String
  observedAtUnixNanos : Nat
  realizedPnl : Decimal
  settlementCurrency : String

structure PositionRealizedPnlObservation where
  (accountId instrumentId positionId : String)
  eventId : Option String
  observed : RealizedPnlObservation
  (cumulativeRealizedPnl closesPosition : Bool)

structure PendingHaltActions where
  state : KillSwitchState
  (nextRetryAtUnixNanos retryDeadlineUnixNanos : Nat)

structure KillSwitchLossProtection where
  config : KillSwitchLossProtectionConfig
  maxStateFileBytes : Nat
  admission : KillSwitchStateKind
  state : KillSwitchState
  loss : LossState
  pendingHaltActions : Option PendingHaltActions

def KillSwitchLossProtection.new (config : KillSwitchLossProtectionConfig)
    (maxStateFileBytes : Nat) (admission : KillSwitchStateKind) : KillSwitchLossProtection :=
  { config := config, maxStateFileBytes := maxStateFileBytes, admission := admission
    state := .armed, loss := .initial, pendingHaltActions := none }

/-- Why a method returned early. -/
inductive Failure
  | breachNotLatched
  | transition (what : String) (error : KillSwitchTransitionError)
  | failedStatePersistence (write invalidate : KillSwitchStoreError)
  | failedClosed (reason : String)
  | haltActionDispatch (error : String)
  | haltActionRetry (error : String)
  | haltActionRetryTimeout | panic
deriving DecidableEq

/-! ## Helpers -/

def addMillis (unixNanos millis : Nat) : Nat :=
  min u64Max (unixNanos + min u64Max (millis * nanosPerMillisecond))

def haltId : KillSwitchState → Option String
  | .halting haltId _ | .halted haltId _ | .cancelling haltId | .flattening haltId | .flat haltId
  | .failedManualIntervention haltId _ => some haltId
  | .armed => none

def recoveryReasonLabel : KillSwitchRecoveryReason → String
  | .missingEvidence => "missing_evidence"
  | .missingLossProtectionSnapshot => "missing_loss_protection_snapshot"
  | .corruptEvidence => "corrupt_evidence"
  | .oversizedEvidence => "oversized_evidence"
  | .unsupportedSchemaVersion => "unsupported_schema_version"
  | .unresolvedHalt => "unresolved_halt"
  | .unrepresentableHaltTrigger => "unrepresentable_halt_trigger"

def failClosedRecoveryState (reason : KillSwitchRecoveryReason) :
    Option KillSwitchState → KillSwitchState
  | some (.halting haltId trigger) => .halting haltId trigger
  | some (.failedManualIntervention haltId text) => .failedManualIntervention haltId text
  | some state => .failedManualIntervention ((haltId state).getD failClosedRecoveryHaltId)
      (recoveryReasonLabel reason)
  | none => .failedManualIntervention failClosedRecoveryHaltId (recoveryReasonLabel reason)

/-- The state a recovery starts in. -/
def recoveredState : KillSwitchRecoveryState → KillSwitchState
  | .recovered state => state
  | .failClosed reason state => failClosedRecoveryState reason state

def inertTransitionContext : KillSwitchTransitionContext :=
  { stateWriteSucceeded := false, durableHaltEvidenceRecorded := false, operatorAuthorized := false
    manualResetEvidenceValid := false, mandatoryProofStreamsFresh := false
    noOutstandingOrderRisk := false, noOpenPositions := false, noPendingEntryRisk := false }

/-- `prune_completed_position_snapshots_before_bucket`. -/
def LossState.prune (loss : LossState) (bucket : Nat) : LossState :=
  { loss with
    closedPositionPnl := loss.closedPositionPnl.filter fun _ value =>
      bucket ≤ value.lastObservedAtUnixNanos / nanosPerUtcDay
    adjustedPositionPnl := loss.adjustedPositionPnl.filter fun _ value =>
      bucket ≤ value.lastObservedAtUnixNanos / nanosPerUtcDay }

/-- `accept_observation_bucket`: the loss state in the bucket of the observation, unless that is
past. -/
def LossState.acceptObservationBucket (loss : LossState) (observedAtUnixNanos : Nat) :
    Option LossState :=
  let bucket := observedAtUnixNanos / nanosPerUtcDay
  match loss.dailyBucket with
  | none => some { loss with dailyBucket := some bucket, dailyRealizedPnl := .zero }
  | some current =>
    if current < bucket then
      some (LossState.prune
        { loss with dailyBucket := some bucket, dailyRealizedPnl := .zero } bucket)
    else if bucket = current then some loss
    else none

/-- The entry of an observed position. -/
def PositionRealizedPnlObservation.entry (observation : PositionRealizedPnlObservation) :
    CumulativePositionPnl :=
  ⟨observation.observed.realizedPnl, observation.observed.observedAtUnixNanos⟩

/-- The observation is older than the entry, or repeats it. -/
def PositionRealizedPnlObservation.repeats (observation : PositionRealizedPnlObservation)
    (entry : CumulativePositionPnl) : Bool :=
  observation.observed.observedAtUnixNanos < entry.lastObservedAtUnixNanos ||
    (observation.observed.observedAtUnixNanos == entry.lastObservedAtUnixNanos &&
      decide (observation.observed.realizedPnl.NumEq entry.realizedPnl))

namespace KillSwitchLossProtection

variable (protection : KillSwitchLossProtection)

def realizedLossBreached : Bool :=
  decide (protection.loss.dailyRealizedPnl < .zero) &&
    decide (protection.config.maxUtcDailyRealizedLoss ≤ protection.loss.dailyRealizedPnl.neg)

def lossSnapshot : KillSwitchLossProtectionSnapshot :=
  { loss := protection.loss
    pendingHaltActions := protection.pendingHaltActions.map fun pending =>
      ⟨pending.nextRetryAtUnixNanos, pending.retryDeadlineUnixNanos⟩ }

def applyLossSnapshot (snapshot : KillSwitchLossProtectionSnapshot) : KillSwitchLossProtection :=
  { protection with
    loss := snapshot.loss
    pendingHaltActions := snapshot.pendingHaltActions.map fun pending =>
      ⟨protection.state, pending.nextRetryAtUnixNanos, pending.retryDeadlineUnixNanos⟩ }

/-- The observation is of a configured account and instrument. -/
def observes (observation : PositionRealizedPnlObservation) : Bool :=
  protection.config.accountIds.contains observation.accountId &&
    protection.config.instrumentIds.contains observation.instrumentId

end KillSwitchLossProtection

/-! ## Sessions -/

section

variable [DecimalArith] [HaltIds] [codec : StateCodec]

/-- What a method of the loss protection works on. -/
structure Session where
  protection : KillSwitchLossProtection
  disk : Disk
  io : Io

abbrev Act := Action Session Failure

/-- The object is replaced. -/
def update (f : KillSwitchLossProtection → KillSwitchLossProtection) : Act Unit :=
  modify fun s => { s with protection := f s.protection }

/-- The loss state is replaced. -/
def updateLoss (f : LossState → LossState) : Act Unit :=
  update fun protection => { protection with loss := f protection.loss }

/-- `admission.replace_kill_switch_state` and the assignment to `self.state`. -/
def enterState (state : KillSwitchState) : Act Unit :=
  update fun protection => { protection with admission := state.kind, state := state }

variable {α : Type} {session : Session} {protection : KillSwitchLossProtection}

omit [DecimalArith] [HaltIds] in
@[simp] theorem exec_update_bind (f : KillSwitchLossProtection → KillSwitchLossProtection)
    (k : Unit → Act α) (s : Session) :
    (update f >>= k).exec s = (k ()).exec { s with protection := f s.protection } := rfl

variable (state : KillSwitchState)

/-- The store writes a state. -/
def write (lossProtection : Option KillSwitchLossProtectionSnapshot) :
    Act (Option KillSwitchStoreError) := do
  let s ← get
  let written :=
    writeStateWithLossSnapshot s.disk s.io s.protection.maxStateFileBytes state lossProtection
  modify fun s => { s with disk := written.2.1, io := written.2.2 }
  return written.1

/-- The store invalidates its file. -/
def invalidateFile : Act (Option KillSwitchStoreError) := do
  let s ← get
  let invalidated := invalidate s.disk s.io
  modify fun s => { s with disk := invalidated.2 }
  return invalidated.1

def persistFailedStateOrInvalidate (failed : KillSwitchState) : Act Unit := do
  match ← write failed none with
  | none => pure ()
  | some writeError =>
    match ← invalidateFile with
    | none => pure ()
    | some invalidateError => throw (.failedStatePersistence writeError invalidateError)

/-- The end of every path that fails closed: enter the failed state, persist it, return its reason.
-/
def failClosed {α : Type} (failed : KillSwitchState) (reason : String) : Act α := do
  enterState failed
  persistFailedStateOrInvalidate failed
  throw (.failedClosed reason)

/-- A failure of the integrity of the current state. -/
def failedFrom (reason : String) : KillSwitchState :=
  .failedManualIntervention ((haltId state).getD failClosedRecoveryHaltId) reason

abbrev clearPendingHaltActions : Act Unit :=
  update fun protection => { protection with pendingHaltActions := none }

def persistRuntimeSnapshotOrFailClosed : Act Unit := do
  let s ← get
  match ← write s.protection.state (some s.protection.lossSnapshot) with
  | none => pure ()
  | some error =>
    let reason := s!"loss_protection_snapshot_persistence_failed: " ++ StateCodec.errorText error
    clearPendingHaltActions
    failClosed (failedFrom s.protection.state reason) reason

/-! ## Halt actions -/

/-- `emit_halt_actions`: the error of the sink, if there is one. -/
def emitHaltActions : Act (Option String) := do
  let s ← get
  return (haltId state).bind fun _ => s.io.emit

/-- The result of a transition, or the error of the method. -/
def orFail (what : String) (result : Except KillSwitchTransitionError KillSwitchState) :
    Act KillSwitchState :=
  match result with
  | .ok state => pure state
  | .error error => throw (.transition what error)

def recordHaltActionsRecorded : Act KillSwitchState := do
  let halted ← orFail "halt action recorded transition failed"
    (transitionKillSwitchState state .durableHaltEvidenceRecorded
      { inertTransitionContext with
        stateWriteSucceeded := true, durableHaltEvidenceRecorded := true })
  clearPendingHaltActions
  enterState halted
  persistRuntimeSnapshotOrFailClosed
  return halted

def failHaltActions (reason : String) : Act Unit := do
  let failed ← orFail "halt action failure transition failed"
    (transitionKillSwitchState state (.haltActionDispatchFailed reason) inertTransitionContext)
  enterState failed
  persistFailedStateOrInvalidate failed

variable (observedAtUnixNanos : Nat)

def pollPendingHaltActions : Act Unit := do
  let s ← get
  match s.protection.pendingHaltActions with
  | none => pure ()
  | some pending =>
    if observedAtUnixNanos < pending.nextRetryAtUnixNanos then pure ()
    else if pending.retryDeadlineUnixNanos < observedAtUnixNanos then do
      failHaltActions pending.state "halt_action_retry_timeout"
      clearPendingHaltActions
      throw .haltActionRetryTimeout
    else do
      match ← emitHaltActions pending.state with
      | some error =>
        update fun protection => { protection with
          pendingHaltActions := some
            ⟨pending.state, addMillis observedAtUnixNanos protection.config.actionRetryIntervalMs,
              pending.retryDeadlineUnixNanos⟩ }
        persistRuntimeSnapshotOrFailClosed
        throw (.haltActionRetry error)
      | none =>
        let _ ← recordHaltActionsRecorded pending.state
        pure ()

/-- The actions of a halt whose evidence is on disk: dispatched, or to be tried again. -/
def haltActions (halting : KillSwitchState) (observedAtUnixNanos : Nat) :
    Act (Option KillSwitchState) := do
  match ← emitHaltActions halting with
  | some error =>
    update fun protection => { protection with
      pendingHaltActions := some
        ⟨halting, addMillis observedAtUnixNanos protection.config.actionRetryIntervalMs,
          addMillis observedAtUnixNanos protection.config.actionRetryTimeoutMs⟩ }
    persistRuntimeSnapshotOrFailClosed
    throw (.haltActionDispatch error)
  | none =>
    let halted ← recordHaltActionsRecorded halting
    return some halted

def haltForRealizedLossBreach (source : String) (observedAtUnixNanos : Nat) :
    Act (Option KillSwitchState) := do
  let trigger := KillSwitchHaltTrigger.lossGovernorBreachWithReason source observedAtUnixNanos
    "max_utc_daily_realized_loss" .dailyLossLimit
  let halting ← orFail "daily realized loss transition failed"
    (transitionKillSwitchState .armed (.haltTriggered trigger) inertTransitionContext)
  let s ← get
  match ← write halting (some s.protection.lossSnapshot) with
  | some error =>
    let reason := s!"daily realized loss halt persistence failed: " ++ StateCodec.errorText error
    let failed ← orFail "daily realized loss fail-closed transition failed"
      (transitionKillSwitchState halting (.durableHaltEvidenceWriteFailed reason)
        inertTransitionContext)
    failClosed failed reason
  | none =>
    enterState halting
    haltActions halting observedAtUnixNanos

/-! ## Observations -/

def guardSettlementCurrency (currency : String) : Act Unit := do
  let s ← get
  match s.protection.loss.settlementCurrency with
  | none => updateLoss fun loss => { loss with settlementCurrency := some currency }
  | some existing =>
    if existing = currency then pure ()
    else
      let reason :=
        s!"mixed_settlement_currency: expected " ++ existing ++ ", observed " ++ currency
      failClosed (failedFrom s.protection.state reason) reason

/-- The part of an observation that is new against an earlier realized profit or loss. -/
def newPart (observation : PositionRealizedPnlObservation) (previous : Decimal) :
    Act (Option RealizedPnlObservation) :=
  match DecimalArith.checkedSub observation.observed.realizedPnl previous with
  | some realizedPnl => pure (some { observation.observed with realizedPnl := realizedPnl })
  | none => throw .panic

def LossState.withClosed (loss : LossState) (observation : PositionRealizedPnlObservation) :
    LossState :=
  { loss with
    closedPositionPnl := loss.closedPositionPnl.insert observation.positionId observation.entry }

def recordClosedPositionObservation (observation : PositionRealizedPnlObservation) :
    Act (Option RealizedPnlObservation) := do
  let s ← get
  let time := observation.observed.observedAtUnixNanos
  match s.protection.loss.cumulativePositionPnl[observation.positionId]? with
  | some previous =>
    if time < previous.lastObservedAtUnixNanos then pure none
    else do
      updateLoss fun loss => { loss.withClosed observation with
        cumulativePositionPnl := loss.cumulativePositionPnl.erase observation.positionId }
      if time = previous.lastObservedAtUnixNanos ∧
          observation.observed.realizedPnl.NumEq previous.realizedPnl then do
        persistRuntimeSnapshotOrFailClosed
        pure none
      else newPart observation previous.realizedPnl
  | none =>
    match s.protection.loss.closedPositionPnl[observation.positionId]? with
    | some previous =>
      if time < previous.lastObservedAtUnixNanos then pure none
      else if observation.observed.realizedPnl.NumEq previous.realizedPnl then pure none
      else do
        updateLoss (·.withClosed observation)
        newPart observation previous.realizedPnl
    | none =>
      updateLoss (·.withClosed observation)
      pure (some observation.observed)

def recordCumulativePositionObservation (observation : PositionRealizedPnlObservation) :
    Act (Option RealizedPnlObservation) :=
  if observation.closesPosition then recordClosedPositionObservation observation
  else do
    let s ← get
    if (s.protection.loss.closedPositionPnl[observation.positionId]?).any observation.repeats then
      pure none
    else do
      -- Where the position is not closed there is nothing to remove.
      updateLoss fun loss => { loss with
        closedPositionPnl := loss.closedPositionPnl.erase observation.positionId }
      let previous := s.protection.loss.cumulativePositionPnl[observation.positionId]?
      if previous.any observation.repeats then pure none
      else do
        updateLoss fun loss => { loss with
          cumulativePositionPnl :=
            loss.cumulativePositionPnl.insert observation.positionId observation.entry }
        newPart observation ((previous.map (·.realizedPnl)).getD .zero)

def isDuplicateAdjustedPositionObservation (observation : PositionRealizedPnlObservation) :
    Act Bool := do
  let s ← get
  match observation.eventId with
  | none =>
    let reason := "adjusted position realized-PnL observation missing event_id"
    failClosed (failedFrom s.protection.state reason) reason
  | some key =>
    if s.protection.loss.adjustedPositionPnl.contains key then pure true
    else do
      updateLoss fun loss => { loss with
        adjustedPositionPnl := loss.adjustedPositionPnl.insert key observation.entry }
      pure false

def recordCurrentBucketRealizedPnl (observation : RealizedPnlObservation) :
    Act (Option KillSwitchState) := do
  let s ← get
  match DecimalArith.checkedAdd s.protection.loss.dailyRealizedPnl observation.realizedPnl with
  | none => throw .panic
  | some total =>
    updateLoss fun loss => { loss with dailyRealizedPnl := total }
    let s ← get
    if s.protection.realizedLossBreached then
      haltForRealizedLossBreach observation.source observation.observedAtUnixNanos
    else do
      persistRuntimeSnapshotOrFailClosed
      pure none

/-- A position observation in its bucket: what is new of it, unless it is ignored. -/
def newRealizedPnl (observation : PositionRealizedPnlObservation) :
    Act (Option RealizedPnlObservation) :=
  if observation.cumulativeRealizedPnl then recordCumulativePositionObservation observation
  else do
    if ← isDuplicateAdjustedPositionObservation observation then pure none
    else pure (some observation.observed)

/-- An observation once the switch is not armed. -/
def observeUnarmed : Act (Option KillSwitchState) := do
  pollPendingHaltActions observedAtUnixNanos
  return none

def recordPositionRealizedPnl (observation : PositionRealizedPnlObservation) :
    Act (Option KillSwitchState) := do
  let s ← get
  if !s.protection.observes observation then pure none
  else if s.protection.state ≠ .armed then observeUnarmed observation.observed.observedAtUnixNanos
  else
    match s.protection.loss.acceptObservationBucket observation.observed.observedAtUnixNanos with
    | none => pure none
    | some loss =>
      updateLoss fun _ => loss
      guardSettlementCurrency observation.observed.settlementCurrency
      match ← newRealizedPnl observation with
      | none => pure none
      | some observed => recordCurrentBucketRealizedPnl observed

def recordRealizedPnl (observation : RealizedPnlObservation) : Act (Option KillSwitchState) := do
  let s ← get
  if s.protection.state ≠ .armed then observeUnarmed observation.observedAtUnixNanos
  else
    match s.protection.loss.acceptObservationBucket observation.observedAtUnixNanos with
    | none => pure none
    | some loss =>
      updateLoss fun _ => loss
      guardSettlementCurrency observation.settlementCurrency
      recordCurrentBucketRealizedPnl observation

/-! ## Position events -/

/-- What is read of a NautilusTrader position event; money is its amount and its currency. -/
structure PositionEventDetails where
  (accountId instrumentId positionId : String)
  tsEvent : Nat
  money : Option (Decimal × String)

inductive PositionEvent
  | positionOpened
  | positionChanged (details : PositionEventDetails)
  | positionClosed (details : PositionEventDetails)
  | positionAdjusted (details : PositionEventDetails) (eventId : String)

/-- The observation of an event that carries money. -/
def PositionEventDetails.observation (details : PositionEventDetails) (source : String)
    (eventId : Option String) (cumulativeRealizedPnl closesPosition : Bool) :
    Option PositionRealizedPnlObservation :=
  details.money.map fun money =>
    { accountId := details.accountId, instrumentId := details.instrumentId
      positionId := details.positionId, eventId := eventId
      observed := ⟨source, details.tsEvent, money.1, money.2⟩
      cumulativeRealizedPnl := cumulativeRealizedPnl, closesPosition := closesPosition }

def positionRealizedPnlObservation : PositionEvent → Option PositionRealizedPnlObservation
  | .positionOpened => none
  | .positionChanged details => details.observation "nt_position_changed" none true false
  | .positionClosed details => details.observation "nt_position_closed" none true true
  | .positionAdjusted details eventId =>
    details.observation "nt_position_adjusted" (some eventId) false false

def recordPositionEvent (event : PositionEvent) : Act (Option KillSwitchState) :=
  match positionRealizedPnlObservation event with
  | none => pure none
  | some observation => recordPositionRealizedPnl observation

/-! ## Recovery -/

/-- The end of `seed_from_store`: the state is entered, and a halt without pending actions
dispatches them. -/
def seedActions (clock : Nat) : Act KillSwitchState := do
  enterState state
  let s ← get
  if state.kind = .halting ∧ s.protection.pendingHaltActions = none then do
    match ← emitHaltActions state with
    | some _ =>
      update fun protection => { protection with
        pendingHaltActions := some
          ⟨state, clock, addMillis clock protection.config.actionRetryTimeoutMs⟩ }
      persistRuntimeSnapshotOrFailClosed
      pure state
    | none => recordHaltActionsRecorded state
  else pure state

/-- A recovered snapshot, where there is one. -/
def applyRecovered : Option KillSwitchLossProtectionSnapshot → Act Unit
  | none => pure ()
  | some snapshot => update (·.applyLossSnapshot snapshot)

/-- The recovery of a snapshot that is a breach. -/
def seedBreached (clock : Nat) : Act KillSwitchState := do
  match ← haltForRealizedLossBreach "kill_switch_recovery" clock with
  | none => throw .breachNotLatched
  | some latched => seedActions latched clock

/-- The recovery of an armed switch. -/
def seedArmed (recovered : Option KillSwitchLossProtectionSnapshot) (clock : Nat) :
    Act KillSwitchState := do
  match recovered with
  | none =>
    let failed := failClosedRecoveryState .missingLossProtectionSnapshot (some .armed)
    enterState failed
    persistFailedStateOrInvalidate failed
    pure failed
  | some snapshot =>
    update (·.applyLossSnapshot snapshot)
    let s ← get
    if s.protection.realizedLossBreached then seedBreached clock else seedActions .armed clock

def seedFromStore (clock : Nat) : Act KillSwitchState := do
  let s ← get
  let record := loadRecoveryRecord s.disk.file s.protection.maxStateFileBytes
  let state := recoveredState record.recoveryState
  update fun protection => { protection with state := state }
  if state = .armed then seedArmed record.lossProtection clock
  else do
    applyRecovered record.lossProtection
    seedActions state clock

/-! ## Runs -/

/-- What the object of every process is built from. -/
structure Setup where
  config : KillSwitchLossProtectionConfig
  maxStateFileBytes : Nat

/-- The loss protection of the running process, if one is running, and the file. -/
structure System where
  protection : Option KillSwitchLossProtection
  disk : Disk

/-- Before the first process. -/
def System.start (file : Option codec.Bytes) : System := ⟨none, ⟨file, false⟩⟩

/-- The calls of a run, each with the outcomes of its effects. A restart ends the process and starts
one that builds a new object and seeds it. -/
inductive Op
  | restart (clock : Nat) (io : Io)
  | recordRealizedPnl (observation : RealizedPnlObservation) (io : Io)
  | recordPositionRealizedPnl (observation : PositionRealizedPnlObservation) (io : Io)
  | recordPositionEvent (event : PositionEvent) (io : Io)
  | pollPendingHaltActions (observedAtUnixNanos : Nat) (io : Io)

def Op.io : Op → Io
  | .restart _ io | .recordRealizedPnl _ io | .recordPositionRealizedPnl _ io
  | .recordPositionEvent _ io | .pollPendingHaltActions _ io => io

/-- A call of the object; after a panic it is gone. -/
def Session.call {α : Type} (session : Session) (x : Act α) : Except Failure α × System :=
  match x.exec session with
  | (.error .panic, t) => (.error .panic, ⟨none, t.disk⟩)
  | (result, t) => (result, ⟨some t.protection, t.disk⟩)

omit [DecimalArith] [HaltIds] in
/-- The disk after a call is the one the action has left. -/
theorem Session.call_disk (session : Session) (x : Act α) :
    (session.call x).2.disk = (x.exec session).2.disk := by
  unfold Session.call
  split
  · rename_i t hrun
    rw [hrun]
  · rename_i result t _ hrun
    rw [hrun]

omit [DecimalArith] [HaltIds] in
/-- The object after a call is the one the action has left, without a panic. -/
theorem Session.call_protection {x : Act α} (h : (session.call x).2.protection = some protection) :
    (x.exec session).1 ≠ .error .panic ∧ protection = (x.exec session).2.protection := by
  unfold Session.call at h
  split at h
  · cases h
  · rename_i result t hpanic hrun
    rw [hrun]
    exact ⟨hpanic, (Option.some.inj h).symm⟩

omit [DecimalArith] [HaltIds] in
theorem Session.call_system {x : Act α} (h : (session.call x).2.protection = some protection) :
    (session.call x).2 = ⟨some protection, (x.exec session).2.disk⟩ := by
  rw [← Session.call_disk, ← h]

variable (setup : Setup) (s : System)

/-- The method of the object that an operation calls. -/
def methodOf : Op → Option (Act (Option KillSwitchState))
  | .restart .. => none
  | .recordRealizedPnl observation _ => some (recordRealizedPnl observation)
  | .recordPositionRealizedPnl observation _ => some (recordPositionRealizedPnl observation)
  | .recordPositionEvent event _ => some (recordPositionEvent event)
  | .pollPendingHaltActions time _ => some (observeUnarmed time)

/-- The result of an operation, and the system after it. Without an object only a restart does
anything. -/
def System.perform (op : Op) : Option (Except Failure (Option KillSwitchState)) × System :=
  match op, s.protection, methodOf op with
  | .restart clock io, _, _ =>
    -- `BoltV3SubmitAdmissionState::new` starts with an armed kill switch
    let fresh := KillSwitchLossProtection.new setup.config setup.maxStateFileBytes .armed
    let called := Session.call ⟨fresh, s.disk, io⟩ (some <$> seedFromStore clock)
    (some called.1, called.2)
  | op, some protection, some method =>
    let called := Session.call ⟨protection, s.disk, op.io⟩ method
    (some called.1, called.2)
  | _, _, _ => (none, s)

/-- The effect of one operation. -/
def System.step (op : Op) : System := (s.perform setup op).2

/-- The effect of a list of operations, in order. -/
def System.run (ops : List Op) : System := ops.foldl (System.step setup) s

theorem System.run_append (ops ops' : List Op) :
    s.run setup (ops ++ ops') = (s.run setup ops).run setup ops' :=
  List.foldl_append

end

end BoltV3.KillSwitch
