import BoltV3.Lib.Machine
import BoltV3.Taker.Handlers

/-!
# The cancel coordinator of a tracked order

`tracked_order_economics/cancel_coordinator.rs` for one tracked maker order: the query seed, the
cancel intent with its routing state, counters and health, and the events that it takes.

* A method that takes `&mut self` returns the state it leaves, also where it fails: `reconcile` may
  capture an identity or record health and fail afterwards.
* An order is what the coordinator reads of it. Its open quantity is in the units of its precision.
* The effect `Remove` takes the record out of the registry. Here the coordinator's own state stays,
  so what holds of every run holds of those that end there.
* `drive_cancel_intent` makes an observation, answers at the same time what it asks for by the
  requote budget and the lifecycle of the leg, and settles the operation with its sink. Here these
  are events of a run. What the collaborators are and do is left out.
-/

namespace BoltV3.Tracked

open Lib
open Taker (OrderSide OrderStatus)

/-! ## Orders and query seeds -/

/-- What the tracked orders read of an `OrderAny`. -/
structure NtOrder where
  (clientOrderId strategyId instrumentId : String)
  orderSide : OrderSide
  venueOrderId : Option String
  status : OrderStatus
  leavesQty : Nat
deriving DecidableEq

structure BoltV3RecoveryIdentityConflict where
  (captured observed : String)
deriving DecidableEq

inductive IdentityTransition
  | unchanged | captured | preserved
  | conflict (conflict : BoltV3RecoveryIdentityConflict)

structure NtOrderQuerySeed where
  order : NtOrder
deriving DecidableEq

namespace NtOrderQuerySeed

def venueOrderId (seed : NtOrderQuerySeed) : Option String := seed.order.venueOrderId

def reconcileCachedIdentity (seed : NtOrderQuerySeed) :
    Option NtOrder → Except String (IdentityTransition × NtOrderQuerySeed)
  | none => .ok (.preserved, seed)
  | some cached =>
    if cached.clientOrderId = seed.order.clientOrderId ∧
        cached.instrumentId = seed.order.instrumentId then
      match seed.order.venueOrderId, cached.venueOrderId with
      | none, none => .ok (.unchanged, seed)
      | none, some _ => .ok (.captured, ⟨cached⟩)
      | some _, none => .ok (.preserved, seed)
      | some captured, some observed =>
        if captured = observed then .ok (.unchanged, seed)
        else .ok (.conflict ⟨captured, observed⟩, seed)
    else .error "cached order identity does not match its cancellation query seed"

end NtOrderQuerySeed

/-! ## Routing -/

inductive CancelOperationKind
  | cancel | query
deriving DecidableEq

inductive CancelRoutingState
  | ready
  | attempting (generation : Nat) (operation : CancelOperationKind) (notBeforeNs : Nat)
  | backoff (notBeforeNs : Nat)
  | pendingCancel (notBeforeNs : Nat)
deriving DecidableEq

inductive CancelObservation
  | missingUnqueryable | missingQueryable | retryable | pendingCancelUnqueryable
  | pendingCancelQueryable | terminal
deriving DecidableEq

inductive CancelTransition
  | noOperation
  | begin (operation : CancelOperationKind)
  | remove

def classifyStatus (status : OrderStatus) (queryable : Bool) : CancelObservation :=
  match status with
  | .initialized | .emulated | .released | .submitted | .accepted | .triggered | .pendingUpdate
  | .partiallyFilled => .retryable
  | .pendingCancel => if queryable then .pendingCancelQueryable else .pendingCancelUnqueryable
  | .denied | .rejected | .canceled | .expired | .filled | .voided => .terminal

def classifyOrder (order : Option NtOrder) (queryable : Bool) : CancelObservation :=
  match order with
  | none => if queryable then .missingQueryable else .missingUnqueryable
  | some order => if order.leavesQty = 0 then .terminal else classifyStatus order.status queryable

def beginWhenDue (operation : CancelOperationKind) (nowNs notBeforeNs : Nat) : CancelTransition :=
  if notBeforeNs ≤ nowNs then .begin operation else .noOperation

/-- The table of `transition`. -/
def transition (state : CancelRoutingState) (observation : CancelObservation)
    (nowNs nextDeadlineNs : Nat) : CancelRoutingState × CancelTransition :=
  match state, observation with
  | .ready, .missingUnqueryable => (.ready, .noOperation)
  | .ready, .missingQueryable => (.ready, .begin .query)
  | .ready, .retryable => (.ready, .begin .cancel)
  | .ready, .pendingCancelUnqueryable | .ready, .pendingCancelQueryable =>
    (.pendingCancel nextDeadlineNs, .noOperation)
  | .ready, .terminal => (.ready, .remove)
  | .attempting _ _ notBeforeNs, .missingUnqueryable
  | .attempting _ _ notBeforeNs, .missingQueryable
  | .attempting _ _ notBeforeNs, .retryable => (.backoff notBeforeNs, .noOperation)
  | .attempting _ _ notBeforeNs, .pendingCancelUnqueryable
  | .attempting _ _ notBeforeNs, .pendingCancelQueryable =>
    (.pendingCancel notBeforeNs, .noOperation)
  | .attempting _ _ _, .terminal => (.ready, .remove)
  | .backoff notBeforeNs, .missingUnqueryable => (.backoff notBeforeNs, .noOperation)
  | .backoff notBeforeNs, .missingQueryable =>
    (.backoff notBeforeNs, beginWhenDue .query nowNs notBeforeNs)
  | .backoff notBeforeNs, .retryable =>
    (.backoff notBeforeNs, beginWhenDue .cancel nowNs notBeforeNs)
  | .backoff notBeforeNs, .pendingCancelUnqueryable
  | .backoff notBeforeNs, .pendingCancelQueryable => (.pendingCancel notBeforeNs, .noOperation)
  | .backoff _, .terminal => (.ready, .remove)
  | .pendingCancel notBeforeNs, .missingUnqueryable => (.backoff notBeforeNs, .noOperation)
  | .pendingCancel notBeforeNs, .missingQueryable =>
    (.backoff notBeforeNs, beginWhenDue .query nowNs notBeforeNs)
  | .pendingCancel notBeforeNs, .retryable =>
    (.backoff notBeforeNs, beginWhenDue .cancel nowNs notBeforeNs)
  | .pendingCancel notBeforeNs, .pendingCancelUnqueryable =>
    (.pendingCancel notBeforeNs, .noOperation)
  | .pendingCancel notBeforeNs, .pendingCancelQueryable =>
    (.pendingCancel notBeforeNs, beginWhenDue .query nowNs notBeforeNs)
  | .pendingCancel _, .terminal => (.ready, .remove)

/-! ## The record of an intent -/

inductive BoltV3CancellationLivenessFailure
  | cancellationDeadlineExceeded | stuckPendingCancel
deriving DecidableEq

structure RestingOrderCancelHealth where
  recoveryIdentityUnavailable : Bool
  recoveryIdentityConflict : Option BoltV3RecoveryIdentityConflict
  retryEscalated : Bool
  liveness : Option BoltV3CancellationLivenessFailure
deriving DecidableEq

structure RestingOrderCancelRecord where
  routingState : CancelRoutingState
  (generation totalRecoveryAttempts cancelAttempts queryAttempts quoteDeadlineNs : Nat)
  lastObservedNs : Option Nat
  health : RestingOrderCancelHealth
deriving DecidableEq

namespace RestingOrderCancelRecord

def new (quoteDeadlineNs : Nat) : RestingOrderCancelRecord where
  routingState := .ready
  generation := 0
  totalRecoveryAttempts := 0
  cancelAttempts := 0
  queryAttempts := 0
  quoteDeadlineNs := quoteDeadlineNs
  lastObservedNs := none
  health := ⟨false, none, false, none⟩

variable (record : RestingOrderCancelRecord)

/-- The routing state is an attempt of this generation. -/
def attempts (generation : Nat) : Bool :=
  match record.routingState with
  | .attempting active _ _ => active == generation
  | .ready | .backoff _ | .pendingCancel _ => false

def settleUnobservedGeneration (generation : Nat) : RestingOrderCancelRecord :=
  match record.routingState with
  | .attempting active _ notBeforeNs =>
    if active = generation then { record with routingState := .backoff notBeforeNs } else record
  | .ready | .backoff _ | .pendingCancel _ => record

def observeDueLiveness (nowNs : Nat) (locallyPending : Bool) : RestingOrderCancelRecord :=
  if nowNs < record.quoteDeadlineNs then record
  else
    let failure : BoltV3CancellationLivenessFailure :=
      if locallyPending then .stuckPendingCancel else .cancellationDeadlineExceeded
    { record with health.liveness := record.health.liveness.or (some failure) }

/-- `observe_identity_conflict_hold`; its transition is always `NoOperation`. -/
def observeIdentityConflictHold (nowNs : Nat) : RestingOrderCancelRecord :=
  let locallyPending := match record.routingState with
    | .pendingCancel _ => true
    | .ready | .attempting _ _ _ | .backoff _ => false
  { record.observeDueLiveness nowNs locallyPending with lastObservedNs := some nowNs }

/-- The counters after one more operation of a kind. -/
def countOperation :
    CancelOperationKind → Except String RestingOrderCancelRecord
  | .cancel =>
    match checkedAdd u32Max record.cancelAttempts 1 with
    | none => .error "cancel attempt counter overflow"
    | some cancelAttempts => .ok { record with cancelAttempts := cancelAttempts }
  | .query =>
    match checkedAdd u32Max record.queryAttempts 1 with
    | none => .error "query attempt counter overflow"
    | some queryAttempts => .ok { record with queryAttempts := queryAttempts }

/-- `begin_operation`; where it fails it has changed nothing. -/
def beginOperation (kind : CancelOperationKind) (nowNs retryTimeoutNs escalationAttempts : Nat) :
    Except String (Nat × RestingOrderCancelRecord) :=
  match checkedAdd u64Max record.generation 1 with
  | none => .error "cancel recovery generation overflow"
  | some generation =>
    match checkedAdd u32Max record.totalRecoveryAttempts 1 with
    | none => .error "cancel recovery attempt counter overflow"
    | some totalRecoveryAttempts =>
      match checkedAdd u64Max nowNs retryTimeoutNs with
      | none => .error "cancel recovery deadline overflow"
      | some notBeforeNs =>
        match record.countOperation kind with
        | .error error => .error error
        | .ok counted =>
          .ok (generation, { counted with
            generation := generation, totalRecoveryAttempts := totalRecoveryAttempts
            routingState := .attempting generation kind notBeforeNs
            health.retryEscalated :=
              counted.health.retryEscalated ||
                decide (escalationAttempts ≤ totalRecoveryAttempts) })

end RestingOrderCancelRecord

/-! ## Events -/

inductive CancelEvent
  | timerObserved (cached : Option NtOrder) (nowNs retryTimeoutNs : Nat)
  | passiveObserved (cached : Option NtOrder) (nowNs retryTimeoutNs : Nat)
  | operationSucceeded (generation : Nat) (cached : Option NtOrder) (nowNs retryTimeoutNs : Nat)
  | operationUnobserved (generation : Nat)
  | reservationGranted (operation : CancelOperationKind)
      (nowNs retryTimeoutNs escalationAttempts : Nat)
  | reservationDenied (nowNs retryTimeoutNs : Nat)
  | requoteReservationDenied

inductive CancelEffect
  | none | remove
  | cancel (generation : Nat)
  | query (generation : Nat) (seed : NtOrder)
  | reservationRequired (operation : CancelOperationKind)
  | retireIntent

/-- What `TimerObserved` makes of a transition. -/
def timerEffect : CancelTransition → CancelEffect
  | .noOperation => .none
  | .remove => .remove
  | .begin operation => .reservationRequired operation

def passiveEffect : CancelTransition → CancelEffect
  | .remove => .remove
  | .noOperation | .begin _ => .none

/-- The record of an intent with the query seed that `apply_event` borrows beside it. -/
structure CancelIntent where
  seed : NtOrderQuerySeed
  record : RestingOrderCancelRecord

namespace CancelIntent

variable (intent : CancelIntent) (cached : Option NtOrder) (nowNs retryTimeoutNs : Nat)

/-- `reconcile`, from the classification on: the identity of the cached order is not in conflict. -/
def reconcileIdentified : Except String CancelTransition × CancelIntent :=
  let observation := classifyOrder cached intent.seed.venueOrderId.isSome
  if observation = .terminal then
    (.ok .remove, { intent with record.lastObservedNs := some nowNs })
  else
    let unavailable :=
      intent.record.health.recoveryIdentityUnavailable || observation == .missingUnqueryable
    let locallyPending :=
      observation == .pendingCancelUnqueryable || observation == .pendingCancelQueryable
    let record := { intent.record with health.recoveryIdentityUnavailable := unavailable }
    let record := record.observeDueLiveness nowNs locallyPending
    match checkedAdd u64Max nowNs retryTimeoutNs with
    | none => (.error "cancel recovery deadline overflow", { intent with record := record })
    | some nextDeadlineNs =>
      let (nextState, next) := transition record.routingState observation nowNs nextDeadlineNs
      (.ok next, { intent with
        record := { record with routingState := nextState, lastObservedNs := some nowNs } })

def reconcile : Except String CancelTransition × CancelIntent :=
  if intent.record.lastObservedNs.any (nowNs < ·) then
    let prior := intent.record.lastObservedNs.getD 0
    (.error s!"resting cancellation actor clock regressed: prior_ns={prior} observed_ns={nowNs}",
      intent)
  else if intent.record.health.recoveryIdentityConflict.isSome then
    (.ok .noOperation, { intent with record := intent.record.observeIdentityConflictHold nowNs })
  else
    match intent.seed.reconcileCachedIdentity cached with
    | .error error => (.error error, intent)
    | .ok (.conflict conflict, seed) =>
      let record := { intent.record with health.recoveryIdentityConflict := some conflict }
      (.ok .noOperation, ⟨seed, record.observeIdentityConflictHold nowNs⟩)
    | .ok (.unchanged, seed) | .ok (.captured, seed) | .ok (.preserved, seed) =>
      reconcileIdentified ⟨seed, intent.record⟩ cached nowNs retryTimeoutNs

def applyEvent : CancelEvent → Except String CancelEffect × CancelIntent
  | .timerObserved cached nowNs retryTimeoutNs =>
    let (result, next) := intent.reconcile cached nowNs retryTimeoutNs
    (result.map timerEffect, next)
  | .passiveObserved cached nowNs retryTimeoutNs =>
    let (result, next) := intent.reconcile cached nowNs retryTimeoutNs
    (result.map passiveEffect, next)
  | .operationSucceeded generation cached nowNs retryTimeoutNs =>
    if intent.record.attempts generation then
      match intent.reconcile cached nowNs retryTimeoutNs with
      | (.ok next, settled) => (.ok (passiveEffect next), settled)
      | (.error error, failed) =>
        (.error error,
          { failed with record := failed.record.settleUnobservedGeneration generation })
    else (.ok .none, intent)
  | .operationUnobserved generation =>
    (.ok .none, { intent with record := intent.record.settleUnobservedGeneration generation })
  | .reservationGranted operation nowNs retryTimeoutNs escalationAttempts =>
    match intent.record.beginOperation operation nowNs retryTimeoutNs escalationAttempts with
    | .error error => (.error error, intent)
    | .ok (generation, record) =>
      (.ok (match operation with
        | .cancel => .cancel generation
        | .query => .query generation intent.seed.order), { intent with record := record })
  | .reservationDenied nowNs retryTimeoutNs =>
    match checkedAdd u64Max nowNs retryTimeoutNs with
    | none => (.error "cancel recovery deadline overflow", intent)
    | some notBeforeNs =>
      (.ok .none, { intent with record.routingState := .backoff notBeforeNs })
  | .requoteReservationDenied => (.ok .retireIntent, intent)

end CancelIntent

/-! ## The coordinator of a tracked order -/

structure TrackedOrderCancellation where
  querySeed : NtOrderQuerySeed
  intent : Option RestingOrderCancelRecord
deriving DecidableEq

inductive CancelCall
  | requestIntent (quoteDeadlineNs : Nat)
  | event (event : CancelEvent)

/-- A call and what it returned. -/
abbrev CancelEntry := CancelCall × Except String CancelEffect

namespace TrackedOrderCancellation

def new (order : NtOrder) : TrackedOrderCancellation := ⟨⟨order⟩, none⟩

variable (tracked : TrackedOrderCancellation)

def requestIntent (quoteDeadlineNs : Nat) : TrackedOrderCancellation :=
  { tracked with intent := tracked.intent.or (some (.new quoteDeadlineNs)) }

/-- An event for the coordinator. Without an intent the observations of `reduce_cancel_drive` and
`reconcile_registered_order` and the answers of `apply_cancel_reservation_event` do nothing, and
`settle_cancel_operation` fails. A retired intent is dropped. -/
def applyEvent (tracked : TrackedOrderCancellation) (event : CancelEvent) :
    Except String CancelEffect × TrackedOrderCancellation :=
  match tracked.intent with
  | none =>
    match event with
    | .operationSucceeded _ _ _ _ | .operationUnobserved _ =>
      let id := tracked.querySeed.order.clientOrderId
      (.error s!"armed cancellation operation lost its coordinator record: client_order_id={id}",
        tracked)
    | .timerObserved _ _ _ | .passiveObserved _ _ _ | .reservationGranted _ _ _ _
    | .reservationDenied _ _ | .requoteReservationDenied => (.ok .none, tracked)
  | some record =>
    let (result, next) := CancelIntent.applyEvent ⟨tracked.querySeed, record⟩ event
    match result with
    | .ok .retireIntent => (result, ⟨next.seed, none⟩)
    | .ok _ | .error _ => (result, ⟨next.seed, some next.record⟩)

/-- A call of the coordinator. -/
def call :
    CancelCall → Except String CancelEffect × TrackedOrderCancellation
  | .requestIntent quoteDeadlineNs => (.ok .none, tracked.requestIntent quoteDeadlineNs)
  | .event event => tracked.applyEvent event

end TrackedOrderCancellation

end BoltV3.Tracked
