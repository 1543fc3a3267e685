import BoltV3.Requote.Budget

/-!
# The state of a quote leg

The data types of `bolt_v3_quote_lifecycle.rs`, their projections, and the methods of
`QuoteSettlementState`. A leg is one governed transaction: it is stable, it has an attempt in
flight, or the attempt is settled.

* The states own their budget reservations. A reservation is a value of the state; where the source
  drops one, the reducers call `drop`.
* Where a `Result` carries the state in both of its variants, the model returns the state and the
  result.

`Debug`, `PartialEq` and the getters of the public types are left out.
-/

namespace BoltV3.Quote

open Requote

/-- The state that a leg reports. -/
inductive LegState
  | idle | submitPending | resting | requotePending | modifyPending | cancelPending
  | replacementPendingBackoff | poisonedReconciliationHold
deriving DecidableEq

/-- A quote trigger, or what the venue says of the order. -/
inductive LegEvent
  | quoteTrigger (requoteNeeded : Bool)
  | accepted | rejected | canceled | modified | modifyRejected | cancelRejected | filled
deriving DecidableEq

/-- What a leg asks of the venue. -/
inductive LifecycleAction
  | submit | cancel | modify
deriving DecidableEq

/-- The outcome that is quoted. -/
inductive Leg
  | yes | no
deriving DecidableEq

/-- How an order ended. -/
inductive MakerQuoteTerminalDisposition
  | denied | rejected | canceled | expired | filled | voided
deriving DecidableEq

/-- An order of the leg; generations are from 1 on. -/
structure MakerQuoteLifecycleIdentity where
  clientOrderId : String
  generation : Nat
deriving DecidableEq

/-- What is learned late of an order. -/
inductive MakerQuoteLifecycleRefinement
  | terminal (stableEffect : Option MakerQuoteTerminalDisposition) (closesReopened : Bool)
  | reopened | retentionHorizon
deriving DecidableEq

/-- A refinement and its order. -/
structure MakerQuoteLifecycleRefinementEvent where
  identity : MakerQuoteLifecycleIdentity
  refinement : MakerQuoteLifecycleRefinement

/-- Applied, of another order than the active one, or refused. -/
inductive MakerQuoteLifecycleRefinementOutcome
  | applied
  | unaffected (event : MakerQuoteLifecycleIdentity) (active : Option MakerQuoteLifecycleIdentity)
  | invalid (event : MakerQuoteLifecycleIdentity) (active : Option MakerQuoteLifecycleIdentity)

/-- A new reservation, or the prepaid one of this generation. -/
inductive MakerQuoteBudgetProposal
  | reserve (proposal : RequoteBudgetReservationProposal)
  | prepaid (generation nowMs : Nat)
deriving DecidableEq

/-- An action with the leg states before and after it. -/
structure QuoteLegTransitionProposal where
  leg : Leg
  action : LifecycleAction
  (priorState pendingState : LegState)
deriving DecidableEq

/-! ## Obligations and settlements -/

/-- What an attempt is for. -/
inductive QuoteLegTransactionObligation
  | freshSubmit | replacementSubmit | requoteCancel | plainCancel | modify
deriving DecidableEq

/-- How the route of an attempt ended. -/
inductive QuoteRouteSettlement
  | submitted | ntMutationInvoked | sinkRejected | callbackRetired | preSinkAbort
  | preSinkInvariantFailure | postSinkInvariantFailure
deriving DecidableEq

/-- The settlements that are successes. -/
inductive QuoteRouteSuccess
  | submitted | ntMutationInvoked
deriving DecidableEq

namespace QuoteRouteSuccess

/-- The `settlement` of `QuoteRouteSuccess::projection`. -/
def settlement : QuoteRouteSuccess → QuoteRouteSettlement
  | .submitted => .submitted
  | .ntMutationInvoked => .ntMutationInvoked

/-- The `illegal_outcome_message` of `QuoteRouteSuccess::projection`. -/
def illegalOutcomeMessage : QuoteRouteSuccess → String
  | .submitted => "submitted outcome is not legal for this quote transaction"
  | .ntMutationInvoked => "NT-mutation-invoked outcome is not legal for this quote transaction"

end QuoteRouteSuccess

namespace QuoteLegTransactionObligation

/-- The obligation of a proposed transition. -/
def fromProposal (proposal : QuoteLegTransitionProposal) : QuoteLegTransactionObligation :=
  match proposal.action with
  | .submit =>
    match proposal.priorState with
    | .replacementPendingBackoff => .replacementSubmit
    | _ => .freshSubmit
  | .cancel =>
    match proposal.pendingState with
    | .requotePending => .requoteCancel
    | _ => .plainCancel
  | .modify => .modify

/-- The success that an obligation is met by. -/
def routeSuccess : QuoteLegTransactionObligation → QuoteRouteSuccess
  | .freshSubmit | .replacementSubmit => .submitted
  | .requoteCancel | .plainCancel | .modify => .ntMutationInvoked

end QuoteLegTransactionObligation

/-! ## States -/

/-- What an attempt was armed with. -/
structure QuoteTransactionArm where
  identity : MakerQuoteLifecycleIdentity
  (priorState pendingState : LegState)
  obligation : QuoteLegTransactionObligation

/-- The phase of a leg that quotes; a prepaid replacement is owned. -/
inductive ActiveQuotePhase
  | idle | submitPending | resting
  | requotePending (prepaid : RequoteBudgetReservation)
  | modifyPending | cancelPending | replacementPendingBackoff
  | replacementPendingBackoffPrepaid (prepaid : RequoteBudgetReservation)

/-- The phase of a leg that winds down. -/
inductive WindDownQuotePhase
  | idle | cancelPending

/-- Whether an attempt or a hold is of a leg that winds down. -/
inductive QuoteTransactionMode
  | active | windingDown

/-- What a hold has of the budgets. -/
inductive QuotePoisonedBudget
  | charged
  | prepaid (reservation : RequoteBudgetReservation)

/-- A leg whose order is unknown, until it is reconciled. -/
structure QuotePoisonedHold where
  mode : QuoteTransactionMode
  obligation : QuoteLegTransactionObligation
  budget : QuotePoisonedBudget

/-- A leg without an attempt. -/
inductive QuoteStableState
  | active (phase : ActiveQuotePhase)
  | windingDown (phase : WindDownQuotePhase)
  | poisoned (hold : QuotePoisonedHold)

/-- The budget of an attempt before the sink. -/
inductive ArmedQuoteBudget
  | reserved (reservation : RequoteBudgetReservation)
  | prepaid (reservation : RequoteBudgetReservation)

/-- The budget of an attempt past the sink. -/
inductive SinkInvokedQuoteBudget
  | chargePending (reservation : RequoteBudgetReservation)
  | prepaidPending (reservation : RequoteBudgetReservation)
  | charged
  | prepaid (reservation : RequoteBudgetReservation)

/-- The budget once the invocation is accounted for. -/
inductive AccountedSinkInvokedQuoteBudget
  | charged
  | prepaid (reservation : RequoteBudgetReservation)

/-- The side of the sink that an attempt is on. -/
inductive QuoteAttemptPhase
  | armed (budget : ArmedQuoteBudget)
  | sinkInvoked (budget : SinkInvokedQuoteBudget)

/-- An attempt on its way. -/
structure QuoteAttemptState where
  mode : QuoteTransactionMode
  arm : QuoteTransactionArm
  phase : QuoteAttemptPhase

/-- The route settlement that was recorded, and whether the order is reopened. -/
inductive QuoteSettlementStatus
  | awaitingRoute | reopenedAwaitingRoute
  | routeSettled (route : QuoteRouteSettlement)
  | reopened (route : QuoteRouteSettlement)

/-- An attempt that ended, over the stable state. -/
structure QuoteSettlementState where
  generation : Nat
  status : QuoteSettlementStatus
  stable : QuoteStableState

/-- The state of a leg. -/
inductive QuoteTransactionState
  | stable (stable : QuoteStableState)
  | attempt (attempt : QuoteAttemptState)
  | settled (settlement : QuoteSettlementState)

/-- The leg behind its lock. -/
structure GovernedQuoteTransactionInner where
  state : QuoteTransactionState
  supportsModify : Bool
  terminalOwner : Option MakerQuoteLifecycleIdentity
  retentionScopeClosed : Bool

/-! ## Projections -/

/-- The mode of a leg that winds down. -/
def QuoteTransactionMode.isWindingDown : QuoteTransactionMode → Bool
  | .active => false
  | .windingDown => true

/-- `QuoteTransactionMode::begin_wind_down`: the action; the mode after it is `WindingDown`. -/
def QuoteTransactionMode.beginWindDown : QuoteTransactionMode → Option LifecycleAction
  | .active => some .cancel
  | .windingDown => none

/-- The `leg_state` of `ActiveQuotePhase::projection`. -/
def ActiveQuotePhase.legState : ActiveQuotePhase → LegState
  | .idle => .idle
  | .submitPending => .submitPending
  | .resting => .resting
  | .requotePending _ => .requotePending
  | .modifyPending => .modifyPending
  | .cancelPending => .cancelPending
  | .replacementPendingBackoff => .replacementPendingBackoff
  | .replacementPendingBackoffPrepaid _ => .replacementPendingBackoff

/-- The `prepaid_generation` of `ActiveQuotePhase::projection`. -/
def ActiveQuotePhase.prepaidGeneration : ActiveQuotePhase → Option Nat
  | .requotePending prepaid => some prepaid.generation
  | .replacementPendingBackoffPrepaid prepaid => some prepaid.generation
  | _ => none

/-- The generation of the prepaid reservation. -/
def QuotePoisonedBudget.prepaidGeneration : QuotePoisonedBudget → Option Nat
  | .charged => none
  | .prepaid reservation => some reservation.generation

namespace QuoteStableState

/-- The `leg_state` of `QuoteStableState::projection`. -/
def legState : QuoteStableState → LegState
  | .active phase => phase.legState
  | .windingDown .idle => .idle
  | .windingDown .cancelPending => .cancelPending
  | .poisoned _ => .poisonedReconciliationHold

/-- The `prepaid_generation` of `QuoteStableState::projection`. -/
def prepaidGeneration : QuoteStableState → Option Nat
  | .active phase => phase.prepaidGeneration
  | .windingDown _ => none
  | .poisoned hold => hold.budget.prepaidGeneration

/-- The `winding_down` of `QuoteStableState::projection`. -/
def isWindingDown : QuoteStableState → Bool
  | .active _ => false
  | .windingDown _ => true
  | .poisoned hold => hold.mode.isWindingDown

/-- No other order may be live. -/
def canReopen (stable : QuoteStableState) : Bool :=
  match stable.legState with
  | .idle | .cancelPending | .replacementPendingBackoff => true
  | _ => false

end QuoteStableState

namespace QuoteAttemptPhase

/-- The `prepaid_generation` of `QuoteAttemptState::projection`. -/
def prepaidGeneration : QuoteAttemptPhase → Option Nat
  | .armed (.prepaid prepaid) => some prepaid.generation
  | .armed (.reserved _) => none
  | .sinkInvoked (.prepaidPending prepaid) => some prepaid.generation
  | .sinkInvoked (.prepaid prepaid) => some prepaid.generation
  | .sinkInvoked (.chargePending _) => none
  | .sinkInvoked .charged => none

end QuoteAttemptPhase

namespace QuoteSettlementState

variable (settlement : QuoteSettlementState)

/-- The settlement is forgotten. -/
def intoStable : QuoteStableState := settlement.stable

/-- The order is closed again, if the flag says so. -/
def closeReopened (closesReopened : Bool) : QuoteSettlementState :=
  { settlement with
    status :=
      match closesReopened, settlement.status with
      | false, status => status
      | true, .reopenedAwaitingRoute => .awaitingRoute
      | true, .reopened route => .routeSettled route
      | true, status => status }

/-- The first settlement is recorded; later ones must repeat it. -/
def settleRoute (generation : Nat)
    (route : QuoteRouteSettlement) : QuoteSettlementState × Except String Unit :=
  let stale := (settlement, .error "conflicting or stale quote transaction settlement")
  if settlement.generation = generation then
    match settlement.status with
    | .awaitingRoute => ({ settlement with status := .routeSettled route }, .ok ())
    | .reopenedAwaitingRoute => ({ settlement with status := .reopened route }, .ok ())
    | .routeSettled settledRoute => if settledRoute = route then (settlement, .ok ()) else stale
    | .reopened settledRoute => if settledRoute = route then (settlement, .ok ()) else stale
  else stale

/-- The order is live again. -/
def reopen : QuoteSettlementState × Except String Unit :=
  match settlement.status, settlement.stable.canReopen with
  | .reopenedAwaitingRoute, _ => (settlement, .ok ())
  | .reopened _, _ => (settlement, .ok ())
  | .awaitingRoute, true => ({ settlement with status := .reopenedAwaitingRoute }, .ok ())
  | .routeSettled route, true => ({ settlement with status := .reopened route }, .ok ())
  | _, false => (settlement, .error "maker quote reopening conflicts with current leg occupancy")

/-- A reopened order is still to be cancelled. -/
def legState (settlement : QuoteSettlementState) : LegState :=
  match settlement.status with
  | .reopenedAwaitingRoute => .cancelPending
  | .reopened _ => .cancelPending
  | .awaitingRoute => settlement.stable.legState
  | .routeSettled _ => settlement.stable.legState

end QuoteSettlementState

namespace QuoteTransactionState

/-- A leg without an order. -/
def idle : QuoteTransactionState := .stable (.active .idle)

/-- The order of the attempt. -/
def armedIdentity : QuoteTransactionState → Option MakerQuoteLifecycleIdentity
  | .attempt current => some current.arm.identity
  | _ => none

/-- The leg state that is reported. -/
def legState : QuoteTransactionState → LegState
  | .stable current => current.legState
  | .attempt current => current.arm.pendingState
  | .settled settlement => settlement.legState

/-- The prepaid reservation that is owned. -/
def prepaidGeneration : QuoteTransactionState → Option Nat
  | .stable current => current.prepaidGeneration
  | .attempt current => current.phase.prepaidGeneration
  | .settled settlement => settlement.stable.prepaidGeneration

/-- Whether the leg winds down. -/
def isWindingDown : QuoteTransactionState → Bool
  | .stable current => current.isWindingDown
  | .attempt current => current.mode.isWindingDown
  | .settled settlement => settlement.stable.isWindingDown

end QuoteTransactionState

/-- A new leg. -/
def GovernedQuoteTransactionInner.new (supportsModify : Bool) : GovernedQuoteTransactionInner :=
  { state := .idle, supportsModify := supportsModify, terminalOwner := none
    retentionScopeClosed := false }

variable (inner : GovernedQuoteTransactionInner)

/-- The transition that an event asks for; none while winding down. -/
def GovernedQuoteTransactionInner.propose (leg : Leg)
    (event : LegEvent) : Option QuoteLegTransitionProposal :=
  if inner.state.isWindingDown then none
  else
    let proposal := fun action pendingState =>
      some ⟨leg, action, inner.state.legState, pendingState⟩
    match inner.state.legState, event with
    | .idle, .quoteTrigger _ => proposal .submit .submitPending
    | .resting, .quoteTrigger true =>
      if inner.supportsModify then proposal .modify .modifyPending
      else proposal .cancel .requotePending
    | .replacementPendingBackoff, .quoteTrigger _ => proposal .submit .submitPending
    | .modifyPending, .modifyRejected => proposal .cancel .requotePending
    | _, _ => none

/-- `propose_action_budget` of `bolt_v3_maker_quote_control.rs`: the budget of a proposal of the
leg. -/
def GovernedQuoteTransactionInner.proposeActionBudget
    (budget : RequoteBudgetPairState) (nowMs : Nat) (lifecycle : QuoteLegTransitionProposal) :
    Except Panic (Option MakerQuoteBudgetProposal) :=
  let reserve := fun proposed : RequoteBudgetPairState.Proposed =>
    proposed.map fun result => result.toOption.map MakerQuoteBudgetProposal.reserve
  match lifecycle.action with
  | .submit =>
    if lifecycle.priorState = .replacementPendingBackoff then
      match inner.state.prepaidGeneration with
      | some generation => .ok (some (.prepaid generation nowMs))
      | none => reserve (budget.proposeFreshSubmit nowMs)
    else reserve (budget.proposeFreshSubmit nowMs)
  | .cancel =>
    if lifecycle.pendingState = .requotePending then reserve (budget.proposeCancelResubmit nowMs)
    else reserve (budget.proposeRest nowMs)
  | .modify => reserve (budget.proposeRest nowMs)

end BoltV3.Quote
