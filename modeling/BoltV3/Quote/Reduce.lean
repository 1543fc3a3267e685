import BoltV3.Quote.State

/-!
# The reducers of a quote leg

The reducers of `GovernedQuoteTransactionInner` in `bolt_v3_quote_lifecycle.rs`, the two requests
that apply them, and the sink boundary.

* A reducer works on the pair of requote budgets, so it is an `Act`. A reservation that the source
  drops, by name or at the end of a branch, is dropped there.
* A `QuoteReduction` is the next state and the result: `Ok` and `Err` of the source both carry a
  state. A reducer that is total in the source returns `.done`.
* An `Arm` event carries a handle to the pair. There is one pair here, so the handle is left out.
* A panic of the budgets ends the run of the leg: the lock of the leg is then poisoned, and each of
  its callers expects it not to be. A `debug_assert!` has no effect in a release build and is left
  out.
-/

namespace BoltV3.Quote

open Lib Requote

structure GovernedQuoteTransactionCommit where
  action : Option LifecycleAction

def GovernedQuoteTransactionCommit.noAction : GovernedQuoteTransactionCommit := ⟨none⟩

open GovernedQuoteTransactionCommit (noAction)

/-- `QuoteReduction`: the next state, or the restored one with an error. -/
structure QuoteReduction where
  state : QuoteTransactionState
  result : Except String GovernedQuoteTransactionCommit

namespace QuoteReduction

variable (state : QuoteTransactionState)

def done (commit : GovernedQuoteTransactionCommit) : QuoteReduction :=
  ⟨state, .ok commit⟩

def refused (message : String) : QuoteReduction :=
  ⟨state, .error message⟩

end QuoteReduction

open QuoteReduction (done refused)

/-! ## Budgets of an attempt -/

def ArmedQuoteBudget.prepareSinkInvokedAt (budget : ArmedQuoteBudget)
    (obligation : QuoteLegTransactionObligation) (actorNowMs : Nat) : SinkInvokedQuoteBudget :=
  match budget, obligation with
  | .reserved reservation, .requoteCancel =>
    .prepaidPending (reservation.prepareSinkInvokedAt actorNowMs)
  | .reserved reservation, _ => .chargePending (reservation.prepareSinkInvokedAt actorNowMs)
  | .prepaid reservation, _ => .chargePending (reservation.prepareSinkInvokedAt actorNowMs)

def SinkInvokedQuoteBudget.account : SinkInvokedQuoteBudget → Act AccountedSinkInvokedQuoteBudget
  | .chargePending reservation => do
    let reservation ← reservation.settlePreparedSinkInvocation
    reservation.drop
    return .charged
  | .prepaidPending reservation => do
    let reservation ← reservation.settlePreparedSinkInvocation
    return .prepaid reservation
  | .charged => return .charged
  | .prepaid reservation => return .prepaid reservation

def AccountedSinkInvokedQuoteBudget.intoSinkInvoked :
    AccountedSinkInvokedQuoteBudget → SinkInvokedQuoteBudget
  | .charged => .charged
  | .prepaid reservation => .prepaid reservation

def AccountedSinkInvokedQuoteBudget.intoPoisoned :
    AccountedSinkInvokedQuoteBudget → QuotePoisonedBudget
  | .charged => .charged
  | .prepaid reservation => .prepaid reservation

/-- `drop(budget)`. -/
def QuotePoisonedBudget.drop : QuotePoisonedBudget → Act Unit
  | .charged => return ()
  | .prepaid reservation => reservation.drop

/-! ## Events -/

inductive QuoteTransactionEvent
  | lifecycle (event : LegEvent)
  | windDown | missingMoneyMovingTruth
  | arm (proposal : QuoteLegTransitionProposal) (budgetProposal : MakerQuoteBudgetProposal)
      (identity : MakerQuoteLifecycleIdentity)
  | preSinkAbort (generation : Nat)
  | preSinkInvariantFailure (generation : Nat)
  | unwind
deriving DecidableEq

inductive SinkCapableQuoteTransactionEvent
  | submitted (generation : Nat)
  | ntMutationInvoked (generation : Nat)
  | sinkRejected (generation : Nat)
  | callbackRetired (generation : Nat)
  | postSinkUnwind (generation : Nat)
deriving DecidableEq

inductive QuoteTransactionReductionEvent
  | preSink (event : QuoteTransactionEvent)
  | sinkCapable (event : SinkCapableQuoteTransactionEvent)
deriving DecidableEq

/-! ## Lifecycle events and wind-downs -/

def reduceWindingDownLifecycle (phase : WindDownQuotePhase) (event : LegEvent) :
    QuoteStableState × GovernedQuoteTransactionCommit :=
  match phase, event with
  | .idle, .accepted | .idle, .modified | .idle, .modifyRejected =>
    (.windingDown .idle, ⟨some .cancel⟩)
  | .idle, _ => (.windingDown .idle, noAction)
  | .cancelPending, .accepted | .cancelPending, .modified | .cancelPending, .modifyRejected =>
    (.windingDown .cancelPending, ⟨some .cancel⟩)
  | .cancelPending, .rejected | .cancelPending, .canceled | .cancelPending, .filled =>
    (.windingDown .idle, noAction)
  | .cancelPending, _ => (.windingDown .cancelPending, noAction)

/-- The match of `reduce_lifecycle` on the stable state and the event. -/
def reduceStableLifecycle (stable : QuoteStableState) (event : LegEvent) (supportsModify : Bool) :
    Act QuoteReduction :=
  match stable, event with
  | .windingDown phase, event =>
    let (stable, commit) := reduceWindingDownLifecycle phase event
    return done (.stable stable) commit
  | .poisoned hold, _ => return done (.stable (.poisoned hold)) noAction
  | .active .idle, .quoteTrigger _ =>
    return done (.stable (.active .submitPending)) ⟨some .submit⟩
  | .active .submitPending, .accepted => return done (.stable (.active .resting)) noAction
  | .active .submitPending, .rejected | .active .cancelPending, .rejected =>
    return done .idle noAction
  | .active .resting, .quoteTrigger true =>
    return done (.stable (.active .resting)) ⟨some (if supportsModify then .modify else .cancel)⟩
  | .active .replacementPendingBackoff, .quoteTrigger _ =>
    return done (.stable (.active .replacementPendingBackoff)) ⟨some .submit⟩
  | .active (.replacementPendingBackoffPrepaid prepaid), .quoteTrigger _ =>
    return done (.stable (.active (.replacementPendingBackoffPrepaid prepaid))) ⟨some .submit⟩
  | .active (.requotePending prepaid), .canceled =>
    return done (.stable (.active (.replacementPendingBackoffPrepaid prepaid))) noAction
  | .active .modifyPending, .modified => return done (.stable (.active .resting)) noAction
  | .active .modifyPending, .modifyRejected =>
    return done (.stable (.active .resting)) ⟨some .cancel⟩
  | .active .cancelPending, .accepted | .active .cancelPending, .modified
  | .active .cancelPending, .modifyRejected =>
    return done (.stable (.active .cancelPending)) ⟨some .cancel⟩
  | .active .idle, .accepted | .active .idle, .modified | .active .idle, .modifyRejected =>
    return done (.stable (.active .idle)) ⟨some .cancel⟩
  | .active .cancelPending, .canceled | .active .submitPending, .canceled
  | .active .resting, .canceled | .active .modifyPending, .canceled =>
    return done .idle noAction
  | .active .submitPending, .filled | .active .resting, .filled | .active .modifyPending, .filled
  | .active .cancelPending, .filled | .active .replacementPendingBackoff, .filled =>
    return done .idle noAction
  | .active (.requotePending prepaid), .filled
  | .active (.replacementPendingBackoffPrepaid prepaid), .filled => do
    prepaid.drop
    return done .idle noAction
  | .active phase, _ => return done (.stable (.active phase)) noAction

variable (state : QuoteTransactionState)

def reduceLifecycle (event : LegEvent) (supportsModify : Bool) : Act QuoteReduction :=
  match state with
  | .stable stable => reduceStableLifecycle stable event supportsModify
  | .settled settlement => reduceStableLifecycle settlement.intoStable event supportsModify
  | .attempt attempt => return done (.attempt attempt) noAction

variable (stable : QuoteStableState)

def reduceStableWindDown : Act (QuoteStableState × GovernedQuoteTransactionCommit) :=
  match stable with
  | .active .idle => return (.windingDown .idle, noAction)
  | .active .cancelPending => return (.windingDown .cancelPending, noAction)
  | .active .replacementPendingBackoff => return (.windingDown .idle, noAction)
  | .active (.replacementPendingBackoffPrepaid prepaid) => do
    prepaid.drop
    return (.windingDown .idle, noAction)
  | .active (.requotePending prepaid) => do
    prepaid.drop
    return (.windingDown .cancelPending, noAction)
  | .active .submitPending | .active .resting | .active .modifyPending =>
    return (.windingDown .cancelPending, ⟨some .cancel⟩)
  | .poisoned hold =>
    return (.poisoned { hold with mode := .windingDown }, ⟨hold.mode.beginWindDown⟩)
  | .windingDown phase => return (.windingDown phase, noAction)

def reduceWindDown : Act QuoteReduction :=
  match state with
  | .stable stable => do
    let (stable, commit) ← reduceStableWindDown stable
    return done (.stable stable) commit
  | .attempt attempt =>
    return done (.attempt { attempt with mode := .windingDown }) ⟨attempt.mode.beginWindDown⟩
  | .settled settlement => do
    let (stable, commit) ← reduceStableWindDown settlement.stable
    return done (.settled { settlement with stable := stable }) commit

/-! ## Missing truth -/

def poisonStable : QuoteStableState :=
  match stable with
  | .active (.requotePending prepaid) | .active (.replacementPendingBackoffPrepaid prepaid) =>
    .poisoned ⟨.active, .plainCancel, .prepaid prepaid⟩
  | .active _ => .poisoned ⟨.active, .plainCancel, .charged⟩
  | .windingDown _ => .poisoned ⟨.windingDown, .plainCancel, .charged⟩
  | .poisoned hold => .poisoned hold

def poisonAttempt (attempt : QuoteAttemptState) : Act QuoteStableState := do
  let budget ←
    match attempt.phase with
    | .armed (.reserved reservation) => do
      reservation.drop
      pure QuotePoisonedBudget.charged
    | .armed (.prepaid prepaid) => pure (.prepaid prepaid)
    | .sinkInvoked budget => do
      let accounted ← budget.account
      pure accounted.intoPoisoned
  return .poisoned ⟨attempt.mode, .plainCancel, budget⟩

def reduceMissingMoneyMovingTruth : Act QuoteReduction :=
  match state with
  | .settled settlement =>
    let poisoned := { settlement with stable := poisonStable settlement.stable }
    return done (.settled (poisoned.closeReopened true)) noAction
  | .stable stable => return done (.stable (poisonStable stable)) noAction
  | .attempt attempt => do
    let stable ← poisonAttempt attempt
    return done (.stable stable) noAction

/-! ## Arms -/

/-- The `Debug` text of a denied reservation. -/
def debugDenied : RequoteBudgetReservationDenied → String
  | .capacity => "Capacity"
  | .generationOverflow => "GenerationOverflow"
  | .staleReservation => "StaleReservation"

/-- What `reduce_arm` does with an active leg. A reservation takes the place of a prepaid one, which
is then dropped. -/
def reduceActiveArm (active : ActiveQuotePhase) (proposal : QuoteLegTransitionProposal)
    (budgetProposal : MakerQuoteBudgetProposal) (identity : MakerQuoteLifecycleIdentity) :
    Act QuoteReduction :=
  if active.legState ≠ proposal.priorState then
    return refused (.stable (.active active)) "quote lifecycle proposal is stale"
  else
    let arm : QuoteTransactionArm :=
      ⟨identity, proposal.priorState, proposal.pendingState, .fromProposal proposal⟩
    match budgetProposal with
    | .prepaid prepaidGeneration _ =>
      let stale := refused (.stable (.active active))
        "replacement prepaid reservation generation is stale"
      match active with
      | .replacementPendingBackoffPrepaid prepaid =>
        if prepaid.generation = prepaidGeneration then
          return done (.attempt ⟨.active, arm, .armed (.prepaid prepaid)⟩) noAction
        else return stale
      | _ => return stale
    | .reserve reservationProposal => do
      match ← Requote.reserve reservationProposal with
      | .ok reservation =>
        match active with
        | .requotePending prepaid | .replacementPendingBackoffPrepaid prepaid => prepaid.drop
        | _ => pure ()
        return done (.attempt ⟨.active, arm, .armed (.reserved reservation)⟩) noAction
      | .error denied =>
        return refused (.stable (.active active))
          ("maker quote budget reservation denied: " ++ debugDenied denied)

def reduceArm (proposal : QuoteLegTransitionProposal)
    (budgetProposal : MakerQuoteBudgetProposal) (identity : MakerQuoteLifecycleIdentity) :
    Act QuoteReduction :=
  let held := fun stable : QuoteStableState =>
    refused (.stable stable) "quote lifecycle is winding down or held"
  if identity.generation = 0 then
    return refused state "quote lifecycle transaction generation must be positive"
  else
    match state with
    | .stable (.active active) => reduceActiveArm active proposal budgetProposal identity
    | .stable stable => return held stable
    | .settled settlement =>
      match settlement.intoStable with
      | .active active => reduceActiveArm active proposal budgetProposal identity
      | stable => return held stable
    | .attempt attempt =>
      return refused (.attempt attempt) "quote lifecycle already has an armed attempt"

/-- The stable state that a leg state names, as `restore_prior` and `committed_pending` have it. -/
def stableOfLegState (legState : LegState) (obligation : QuoteLegTransactionObligation) :
    QuoteStableState :=
  match legState with
  | .idle => .active .idle
  | .submitPending => .active .submitPending
  | .resting => .active .resting
  | .requotePending | .cancelPending => .active .cancelPending
  | .modifyPending => .active .modifyPending
  | .replacementPendingBackoff => .active .replacementPendingBackoff
  | .poisonedReconciliationHold => .poisoned ⟨.active, obligation, .charged⟩

def restorePrior (arm : QuoteTransactionArm) : QuoteStableState :=
  stableOfLegState arm.priorState arm.obligation

def committedPending (arm : QuoteTransactionArm) : QuoteStableState :=
  stableOfLegState arm.pendingState arm.obligation

/-! ## Settlements -/

def settled (generation : Nat) (route : QuoteRouteSettlement) (stable : QuoteStableState) :
    QuoteTransactionState :=
  .settled ⟨generation, .routeSettled route, stable⟩

variable (generation : Nat)

def terminalBeforeRouteSettlement (stable : QuoteStableState) : QuoteTransactionState :=
  .settled ⟨generation, .awaitingRoute, stable⟩

def reduceSettlementReplay (route : QuoteRouteSettlement) : QuoteReduction :=
  match state with
  | .settled settlement =>
    let (settlement, result) := settlement.settleRoute generation route
    ⟨.settled settlement, result.map fun _ => noAction⟩
  | state => refused state "quote transaction is not settled"

def reduceGenerationFenced
    (stale current : QuoteTransactionState → Act QuoteReduction) : Act QuoteReduction :=
  match state.armedIdentity with
  | some identity => if identity.generation = generation then current state else stale state
  | none => current state

variable (mode : QuoteTransactionMode) (arm : QuoteTransactionArm)

def finishPreSinkAbort (budget : ArmedQuoteBudget) (generation : Nat) : Act QuoteReduction :=
  match budget with
  | .reserved reservation => do
    match ← reservation.abort with
    | .ok () =>
      let stable :=
        match mode with
        | .active => restorePrior arm
        | .windingDown => .windingDown .idle
      return done (settled generation .preSinkAbort stable) noAction
    | .error denied =>
      return refused (settled generation .preSinkAbort (.poisoned ⟨mode, arm.obligation, .charged⟩))
        ("maker quote budget abort failed: " ++ debugDenied denied)
  | .prepaid prepaid => do
    let stable ←
      match mode with
      | .active => pure (.active (.replacementPendingBackoffPrepaid prepaid))
      | .windingDown => do
        prepaid.drop
        pure (.windingDown .idle)
    return done (settled generation .preSinkAbort stable) noAction

def reducePreSinkAbort : Act QuoteReduction :=
  reduceGenerationFenced state generation (fun state => return done state noAction) fun state =>
    match state with
    | .attempt ⟨mode, arm, .armed budget⟩ => finishPreSinkAbort mode arm budget generation
    | .settled settlement =>
      return reduceSettlementReplay (.settled settlement) generation .preSinkAbort
    | state => return done state noAction

/-- `finish_pre_sink_invariant_failure`; `commit` has no error. -/
def finishPreSinkInvariantFailure
    (budget : ArmedQuoteBudget) (generation : Nat) : Act QuoteReduction :=
  match budget with
  | .reserved reservation => do
    reservation.commit
    return done (settled generation .preSinkInvariantFailure
      (.poisoned ⟨mode, arm.obligation, .charged⟩)) noAction
  | .prepaid prepaid =>
    return done (settled generation .preSinkInvariantFailure
      (.poisoned ⟨mode, arm.obligation, .prepaid prepaid⟩)) noAction

def reducePreSinkInvariantFailure : Act QuoteReduction :=
  reduceGenerationFenced state generation (fun state => return done state noAction) fun state =>
    match state with
    | .attempt ⟨mode, arm, .armed budget⟩ =>
      finishPreSinkInvariantFailure mode arm budget generation
    | .settled settlement =>
      return reduceSettlementReplay (.settled settlement) generation .preSinkInvariantFailure
    | state => return done state noAction

variable (budget : SinkInvokedQuoteBudget)

def finishPostSinkFailure (generation : Nat) : Act QuoteReduction := do
  let accounted ← budget.account
  return done (settled generation .postSinkInvariantFailure
    (.poisoned ⟨mode, arm.obligation, accounted.intoPoisoned⟩)) noAction

def reduceUnwind : Act QuoteReduction :=
  match state with
  | .attempt ⟨mode, arm, .armed budget⟩ =>
    finishPreSinkAbort mode arm budget arm.identity.generation
  | .attempt ⟨mode, arm, .sinkInvoked budget⟩ =>
    finishPostSinkFailure mode arm budget arm.identity.generation
  | state => return done state noAction

/-- `commit_sink_invoked`, with `account_sink_invocation`. -/
def commitSinkInvoked (generation actorNowMs : Nat) : QuoteTransactionState :=
  match state with
  | .attempt ⟨mode, arm, .armed budget⟩ =>
    if arm.identity.generation = generation then
      .attempt ⟨mode, arm, .sinkInvoked (budget.prepareSinkInvokedAt arm.obligation actorNowMs)⟩
    else state
  | state => state

def routeSuccessState : Act QuoteStableState := do
  match mode, ← budget.account with
  | .active, .charged => return committedPending arm
  | .active, .prepaid prepaid => return .active (.requotePending prepaid)
  | .windingDown, .charged => return .windingDown .cancelPending
  | .windingDown, .prepaid prepaid =>
    prepaid.drop
    return .windingDown .cancelPending

def reduceRouteSuccess (success : QuoteRouteSuccess) : Act QuoteReduction :=
  let illegal := fun state => refused state success.illegalOutcomeMessage
  reduceGenerationFenced state generation (fun state => return illegal state) fun state =>
    match state with
    | .attempt ⟨mode, arm, .sinkInvoked budget⟩ =>
      if arm.obligation.routeSuccess = success then do
        let stable ← routeSuccessState mode arm budget
        return done (settled generation success.settlement stable) noAction
      else return illegal state
    | .settled settlement =>
      return reduceSettlementReplay (.settled settlement) generation success.settlement
    | state => return illegal state

/-- What a rejected submit leaves. -/
def rejectedStable (mode : QuoteTransactionMode) (arm : QuoteTransactionArm) : QuoteStableState :=
  match mode with
  | .active => restorePrior arm
  | .windingDown => .windingDown .idle

def reduceSinkRejected : Act QuoteReduction :=
  let illegal := fun state =>
    refused state "sink-rejected outcome is not legal for this quote transaction"
  reduceGenerationFenced state generation (fun state => return illegal state) fun state =>
    match state with
    | .attempt ⟨mode, arm, .sinkInvoked budget⟩ =>
      if arm.obligation = .freshSubmit ∨ arm.obligation = .replacementSubmit then do
        match ← budget.account with
        | .charged =>
          return done (settled generation .sinkRejected (rejectedStable mode arm)) noAction
        | .prepaid prepaid =>
          return illegal (.attempt ⟨mode, arm, .sinkInvoked
            (AccountedSinkInvokedQuoteBudget.prepaid prepaid).intoSinkInvoked⟩)
      else return illegal state
    | .settled settlement =>
      return reduceSettlementReplay (.settled settlement) generation .sinkRejected
    | state => return illegal state

def reduceCallbackRetired : QuoteReduction :=
  match state with
  | .settled settlement => reduceSettlementReplay (.settled settlement) generation .callbackRetired
  | state => refused state "callback retirement is not legal for this quote transaction"

def reducePostSinkFailure : Act QuoteReduction :=
  let illegal := fun state =>
    refused state "post-sink failure is not legal for this quote transaction"
  reduceGenerationFenced state generation (fun state => return illegal state) fun state =>
    match state with
    | .attempt ⟨mode, arm, .sinkInvoked budget⟩ => finishPostSinkFailure mode arm budget generation
    | .settled settlement =>
      return reduceSettlementReplay (.settled settlement) generation .postSinkInvariantFailure
    | state => return illegal state

/-! ## Refinements -/

def terminalState (obligation : QuoteLegTransactionObligation) (budget : QuotePoisonedBudget)
    (disposition : MakerQuoteTerminalDisposition) : Act QuoteStableState :=
  match disposition, obligation, budget with
  | .filled, _, budget => do
    budget.drop
    return .active .idle
  | _, .replacementSubmit, .prepaid prepaid | _, .requoteCancel, .prepaid prepaid =>
    return .active (.replacementPendingBackoffPrepaid prepaid)
  | _, .replacementSubmit, .charged | _, .requoteCancel, .charged =>
    return .active .replacementPendingBackoff
  | _, _, budget => do
    budget.drop
    return .active .idle

def terminalStable (stable : QuoteStableState) (disposition : MakerQuoteTerminalDisposition) :
    Act QuoteStableState :=
  match stable with
  | .windingDown _ => return .windingDown .idle
  | .poisoned hold =>
    match hold.mode with
    | .active => terminalState hold.obligation hold.budget disposition
    | .windingDown => do
      hold.budget.drop
      return .windingDown .idle
  | .active (.requotePending prepaid) => terminalState .requoteCancel (.prepaid prepaid) disposition
  | .active (.replacementPendingBackoffPrepaid prepaid) => do
    prepaid.drop
    return .active .idle
  | .active _ => return .active .idle

def terminalAttempt (attempt : QuoteAttemptState) (disposition : MakerQuoteTerminalDisposition) :
    Act QuoteStableState :=
  match attempt.mode, attempt.phase with
  | .active, .armed (.reserved reservation) => do
    reservation.drop
    terminalState attempt.arm.obligation .charged disposition
  | .active, .armed (.prepaid prepaid) =>
    terminalState attempt.arm.obligation (.prepaid prepaid) disposition
  | .active, .sinkInvoked budget => do
    let accounted ← budget.account
    terminalState attempt.arm.obligation accounted.intoPoisoned disposition
  | .windingDown, .armed (.reserved reservation) => do
    reservation.drop
    return .windingDown .idle
  | .windingDown, .armed (.prepaid prepaid) => do
    prepaid.drop
    return .windingDown .idle
  | .windingDown, .sinkInvoked budget => do
    let accounted ← budget.account
    accounted.intoPoisoned.drop
    return .windingDown .idle

/-- `reduce_terminal`; it has no action. -/
def reduceTerminal (disposition : MakerQuoteTerminalDisposition) : Act QuoteTransactionState :=
  match state with
  | .stable stable => do
    let stable ← terminalStable stable disposition
    return .stable stable
  | .attempt attempt => do
    let stable ← terminalAttempt attempt disposition
    return terminalBeforeRouteSettlement attempt.arm.identity.generation stable
  | .settled settlement => do
    let stable ← terminalStable settlement.stable disposition
    return .settled (QuoteSettlementState.closeReopened { settlement with stable := stable } true)

/-- What `reduce_terminal_refinement` retains of a state. -/
def retainTerminal (closesReopened : Bool) : Act QuoteReduction :=
  match state with
  | .settled settlement =>
    return done (.settled (settlement.closeReopened closesReopened)) noAction
  | .stable stable =>
    let settlement : QuoteSettlementState := ⟨generation, .routeSettled .callbackRetired, stable⟩
    return done (.settled (settlement.closeReopened closesReopened)) noAction
  | .attempt attempt =>
    return refused (.attempt attempt)
      "terminal refinement without a stable effect cannot retain an active attempt"

def reduceTerminalRefinement
    (stableEffect : Option MakerQuoteTerminalDisposition) (closesReopened : Bool) :
    Act QuoteReduction :=
  match stableEffect with
  | some disposition => do
    let state ← reduceTerminal state disposition
    retainTerminal state generation closesReopened
  | none => retainTerminal state generation closesReopened

def reduceReopened : QuoteReduction :=
  match state with
  | .settled settlement =>
    let (settlement, result) := settlement.reopen
    ⟨.settled settlement, result.map fun _ => noAction⟩
  | state => refused state "maker quote reopening conflicts with current leg occupancy"

/-! ## Requests -/

def reducePreSink (event : QuoteTransactionEvent) (supportsModify : Bool) : Act QuoteReduction :=
  match event with
  | .lifecycle event => reduceLifecycle state event supportsModify
  | .windDown => reduceWindDown state
  | .missingMoneyMovingTruth => reduceMissingMoneyMovingTruth state
  | .arm proposal budgetProposal identity => reduceArm state proposal budgetProposal identity
  | .preSinkAbort generation => reducePreSinkAbort state generation
  | .preSinkInvariantFailure generation => reducePreSinkInvariantFailure state generation
  | .unwind => reduceUnwind state

def reduceSinkCapable (event : SinkCapableQuoteTransactionEvent) : Act QuoteReduction :=
  match event with
  | .submitted generation => reduceRouteSuccess state generation .submitted
  | .ntMutationInvoked generation => reduceRouteSuccess state generation .ntMutationInvoked
  | .sinkRejected generation => reduceSinkRejected state generation
  | .callbackRetired generation => return reduceCallbackRetired state generation
  | .postSinkUnwind generation => reducePostSinkFailure state generation

namespace QuoteTransactionReductionEvent

variable (event : QuoteTransactionReductionEvent) (inner : GovernedQuoteTransactionInner)

/-- The reducer of an event. -/
def reduce : Act QuoteReduction :=
  match event with
  | .preSink event => reducePreSink inner.state event inner.supportsModify
  | .sinkCapable event => reduceSinkCapable inner.state event

/-- The owner that `QuoteTransactionReductionRequest::apply` leaves for an event that was reduced to
`next`: the armed order where it was settled, or where its attempt was poisoned. -/
def terminalOwner (event : QuoteTransactionReductionEvent) (inner : GovernedQuoteTransactionInner)
    (next : QuoteTransactionState) : Option MakerQuoteLifecycleIdentity :=
  match event, inner.state.armedIdentity with
  | .sinkCapable (.submitted _), some owner
  | .sinkCapable (.ntMutationInvoked _), some owner
  | .sinkCapable (.postSinkUnwind _), some owner => some owner
  | .preSink (.preSinkAbort _), some owner
  | .preSink (.preSinkInvariantFailure _), some owner
  | .preSink .unwind, some owner =>
    if next.legState = .poisonedReconciliationHold then some owner else inner.terminalOwner
  | _, _ => inner.terminalOwner

def apply :
    Act (Except String GovernedQuoteTransactionCommit × GovernedQuoteTransactionInner) := do
  let reduced ← event.reduce inner
  return (reduced.result, { inner with
    state := reduced.state, terminalOwner := event.terminalOwner inner reduced.state })

end QuoteTransactionReductionEvent

/-! ## Route settlements -/

/-- The event that delivers a route settlement. -/
def QuoteRouteSettlement.event (route : QuoteRouteSettlement) (generation : Nat) :
    QuoteTransactionReductionEvent :=
  match route with
  | .submitted => .sinkCapable (.submitted generation)
  | .ntMutationInvoked => .sinkCapable (.ntMutationInvoked generation)
  | .sinkRejected => .sinkCapable (.sinkRejected generation)
  | .callbackRetired => .sinkCapable (.callbackRetired generation)
  | .preSinkAbort => .preSink (.preSinkAbort generation)
  | .preSinkInvariantFailure => .preSink (.preSinkInvariantFailure generation)
  | .postSinkInvariantFailure => .sinkCapable (.postSinkUnwind generation)

/-- A reduction that leaves the state, and does nothing or is refused. -/
def QuoteReduction.Inert (reduced : QuoteReduction) : Prop :=
  reduced = done state noAction ∨ ∃ message, reduced = refused state message

/-- How a route settlement ends an attempt. -/
inductive AttemptEnd (mode : QuoteTransactionMode) (arm : QuoteTransactionArm) (generation : Nat) :
    QuoteAttemptPhase → QuoteRouteSettlement → Act QuoteReduction → Prop
  | aborted (budget : ArmedQuoteBudget) : AttemptEnd mode arm generation (.armed budget)
      .preSinkAbort (finishPreSinkAbort mode arm budget generation)
  | invariantFailed (budget : ArmedQuoteBudget) : AttemptEnd mode arm generation (.armed budget)
      .preSinkInvariantFailure (finishPreSinkInvariantFailure mode arm budget generation)
  | failed (budget : SinkInvokedQuoteBudget) : AttemptEnd mode arm generation (.sinkInvoked budget)
      .postSinkInvariantFailure (finishPostSinkFailure mode arm budget generation)
  | succeeded (budget : SinkInvokedQuoteBudget) (success : QuoteRouteSuccess) :
      AttemptEnd mode arm generation (.sinkInvoked budget) success.settlement (do
        let stable ← routeSuccessState mode arm budget
        return done (settled generation success.settlement stable) noAction)
  | rejected (budget : SinkInvokedQuoteBudget) (message : String) :
      AttemptEnd mode arm generation (.sinkInvoked budget) .sinkRejected (do
        match ← budget.account with
        | .charged =>
          return done (settled generation .sinkRejected (rejectedStable mode arm)) noAction
        | .prepaid prepaid =>
          return refused (.attempt ⟨mode, arm, .sinkInvoked (.prepaid prepaid)⟩) message)

/-- What the event of a route settlement can do: leave the state as it is, be replayed by a settled
leg, or end the attempt of its generation. -/
inductive RouteReduction (generation : Nat) (route : QuoteRouteSettlement) :
    QuoteTransactionState → Act QuoteReduction → Prop
  | inert {state : QuoteTransactionState} {reduced : QuoteReduction} (h : reduced.Inert state) :
      RouteReduction generation route state (pure reduced)
  | replayed (settlement : QuoteSettlementState) :
      RouteReduction generation route (.settled settlement)
        (pure (reduceSettlementReplay (.settled settlement) generation route))
  | ended {mode : QuoteTransactionMode} {arm : QuoteTransactionArm} {phase : QuoteAttemptPhase}
      {reduction : Act QuoteReduction} (hgeneration : arm.identity.generation = generation)
      (h : AttemptEnd mode arm generation phase route reduction) :
      RouteReduction generation route (.attempt ⟨mode, arm, phase⟩) reduction

/-- **Every route settlement.** -/
theorem QuoteRouteSettlement.reduces (route : QuoteRouteSettlement) (generation : Nat)
    (inner : GovernedQuoteTransactionInner) :
    RouteReduction generation route inner.state ((route.event generation).reduce inner) := by
  rcases inner with ⟨stable | ⟨mode, arm, phase⟩ | settlement, supportsModify, owner, closed⟩
  · cases route with
    | preSinkAbort | preSinkInvariantFailure => exact .inert (.inl rfl)
    | _ => exact .inert (.inr ⟨_, rfl⟩)
  · cases phase <;> cases route <;>
      simp only [event, QuoteTransactionReductionEvent.reduce, reducePreSink, reduceSinkCapable,
        reduceRouteSuccess, reduceSinkRejected, reduceCallbackRetired, reducePostSinkFailure,
        reducePreSinkAbort, reducePreSinkInvariantFailure, reduceGenerationFenced,
        QuoteTransactionState.armedIdentity]
    case armed.callbackRetired | sinkInvoked.callbackRetired => exact .inert (.inr ⟨_, rfl⟩)
    all_goals split_ifs with hgeneration
    -- A branch ends the attempt, if it is of the generation, or leaves the state.
    all_goals first
      | exact .ended hgeneration (.aborted _)
      | exact .ended hgeneration (.invariantFailed _)
      | exact .ended hgeneration (.failed _)
      | exact .ended hgeneration (.rejected _ _)
      | exact .ended hgeneration (.succeeded _ .submitted)
      | exact .ended hgeneration (.succeeded _ .ntMutationInvoked)
      | exact .inert (.inl rfl)
      | exact .inert (.inr ⟨_, rfl⟩)
  · cases route <;> exact .replayed settlement

inductive MakerQuoteRefinementAuthority
  | exact | armedByAnother | inactive
deriving DecidableEq

namespace MakerQuoteLifecycleRefinementEvent

/-- The `active` identity that an outcome names. -/
def active (inner : GovernedQuoteTransactionInner) : Option MakerQuoteLifecycleIdentity :=
  inner.state.armedIdentity.or inner.terminalOwner

variable (identity : MakerQuoteLifecycleIdentity) (inner : GovernedQuoteTransactionInner)

/-- The `authority` of an identity. -/
def authority : MakerQuoteRefinementAuthority :=
  match inner.state.armedIdentity with
  | some armed => if armed = identity then .exact else .armedByAnother
  | none => if inner.terminalOwner = some identity then .exact else .inactive

/-- The outcome of a reduced refinement, which makes its order the owner. -/
def outcome (reduced : QuoteReduction) :
    MakerQuoteLifecycleRefinementOutcome × GovernedQuoteTransactionInner :=
  match reduced.result with
  | .ok _ => (.applied, { inner with state := reduced.state, terminalOwner := some identity })
  | .error _ => (.invalid identity (active inner), { inner with state := reduced.state })

def apply (event : MakerQuoteLifecycleRefinementEvent) (inner : GovernedQuoteTransactionInner) :
    Act (MakerQuoteLifecycleRefinementOutcome × GovernedQuoteTransactionInner) :=
  match event.refinement, authority event.identity inner with
  | .terminal stableEffect closesReopened, .exact => do
    let reduced ← reduceTerminalRefinement inner.state event.identity.generation stableEffect
      closesReopened
    return outcome event.identity inner reduced
  | .reopened, .exact | .reopened, .inactive =>
    return outcome event.identity inner (reduceReopened inner.state)
  | .retentionHorizon, .exact =>
    match inner.state with
    | .settled settlement => do
      let (stable, _) ← reduceStableWindDown settlement.stable
      let next := QuoteSettlementState.closeReopened { settlement with stable := stable } true
      return (.applied, { inner with state := .settled next })
    | _ => return (.applied, inner)
  | _, _ => return (.unaffected event.identity (active inner), inner)

end MakerQuoteLifecycleRefinementEvent

namespace GovernedQuoteTransactionInner

variable (inner : GovernedQuoteTransactionInner)

/-- `prepare_sink_invoked`, and `commit` of what it prepares: the leg is locked in between. -/
def sinkInvoked (generation actorNowMs : Nat) :
    Except String Unit × GovernedQuoteTransactionInner :=
  let notArmed := (.error "quote transaction is not armed at the prepared generation", inner)
  match inner.state with
  | .attempt ⟨_, arm, .armed _⟩ =>
    if arm.identity.generation = generation then
      (.ok (), { inner with state := commitSinkInvoked inner.state generation actorNowMs })
    else notArmed
  | _ => notArmed

def closeRetentionScope :
    Act (Except String GovernedQuoteTransactionCommit × GovernedQuoteTransactionInner) :=
  (QuoteTransactionReductionEvent.preSink .windDown).apply
    { inner with retentionScopeClosed := true }

end GovernedQuoteTransactionInner

/-! ## Runs of a leg

A leg and its pair of requote budgets, and the calls that its owner makes: a reduction, the crossing
of the sink boundary, a refinement, and the closing of the retention scope. The calls of one leg are
under its lock, so a run is a sequence of them. -/

inductive LegOp
  | reduce (event : QuoteTransactionReductionEvent)
  | sinkInvoked (generation actorNowMs : Nat)
  | refine (event : MakerQuoteLifecycleRefinementEvent)
  | closeRetentionScope

/-- What a call returns. -/
inductive LegOutput
  | reduction (result : Except String GovernedQuoteTransactionCommit)
  | sinkInvocation (result : Except String Unit)
  | refinement (outcome : MakerQuoteLifecycleRefinementOutcome)

/-- The action that a call emits. -/
def LegOutput.action : LegOutput → Option LifecycleAction
  | .reduction (.ok commit) => commit.action
  | _ => none

/-- A call of the leg. -/
def GovernedQuoteTransactionInner.call (inner : GovernedQuoteTransactionInner) :
    LegOp → Act (LegOutput × GovernedQuoteTransactionInner)
  | .reduce event => do
    let (result, next) ← event.apply inner
    return (.reduction result, next)
  | .sinkInvoked generation actorNowMs =>
    let (result, next) := inner.sinkInvoked generation actorNowMs
    return (.sinkInvocation result, next)
  | .refine event => do
    let (outcome, next) ← event.apply inner
    return (.refinement outcome, next)
  | .closeRetentionScope => do
    let (result, next) ← inner.closeRetentionScope
    return (.reduction result, next)

structure QuoteLeg where
  inner : GovernedQuoteTransactionInner
  pair : RequoteBudgetPairState

namespace QuoteLeg

/-- A new leg of a new pair. -/
def fresh (supportsModify : Bool) (submitCommands restCalls : RequoteBudget) : QuoteLeg :=
  ⟨.new supportsModify, .new submitCommands restCalls⟩

def step (leg : QuoteLeg) (op : LegOp) : Except Panic (LegOutput × QuoteLeg) :=
  match (leg.inner.call op).exec leg.pair with
  | (.error panic, _) => .error panic
  | (.ok (output, inner), pair) => .ok (output, ⟨inner, pair⟩)

/-- A run: the calls with what they return, and the leg after them. -/
def run : QuoteLeg → List LegOp → Except Panic (List (LegOp × LegOutput) × QuoteLeg)
  | leg, [] => .ok ([], leg)
  | leg, op :: rest =>
    match leg.step op with
    | .error panic => .error panic
    | .ok (output, next) =>
      match run next rest with
      | .error panic => .error panic
      | .ok (trace, last) => .ok ((op, output) :: trace, last)

variable {leg next last : QuoteLeg} {op : LegOp} {ops : List LegOp} {output : LegOutput}
  {trace : List (LegOp × LegOutput)}

theorem step_eq_ok : leg.step op = .ok (output, next) ↔
    (leg.inner.call op).exec leg.pair = (.ok (output, next.inner), next.pair) := by
  unfold step
  rcases (leg.inner.call op).exec leg.pair with ⟨panic | ⟨out, inner⟩, pair⟩
  · simp
  · constructor
    · rintro ⟨⟩
      rfl
    · intro h
      cases h
      rfl

theorem run_cons (h : leg.run (op :: ops) = .ok (trace, last)) :
    ∃ output next rest, leg.step op = .ok (output, next) ∧ next.run ops = .ok (rest, last) ∧
      trace = (op, output) :: rest := by
  unfold run at h
  split at h
  · cases h
  rename_i output next hstep
  split at h
  · cases h
  · rename_i rest _ hrest
    cases h
    exact ⟨output, next, rest, hstep, hrest, rfl⟩

/-- **What every call keeps and returns, every run does.** -/
theorem run_invariant {I : QuoteLeg → Prop} {G : LegOp → LegOutput → Prop}
    (keeps : ∀ leg op output next, I leg → leg.step op = .ok (output, next) → I next ∧ G op output)
    (hleg : I leg) (h : leg.run ops = .ok (trace, last)) :
    I last ∧ ∀ entry ∈ trace, G entry.1 entry.2 := by
  induction ops generalizing leg trace with
  | nil =>
    cases h
    exact ⟨hleg, by simp⟩
  | cons op ops ih =>
    obtain ⟨output, next, rest, hstep, hrest, rfl⟩ := run_cons h
    obtain ⟨hnext, houtput⟩ := keeps leg op output next hleg hstep
    obtain ⟨hlast, houtputs⟩ := ih hnext hrest
    exact ⟨hlast, List.forall_mem_cons.mpr ⟨houtput, houtputs⟩⟩

end QuoteLeg

end BoltV3.Quote
