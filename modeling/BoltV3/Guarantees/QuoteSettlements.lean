import BoltV3.Quote.Reduce
import BoltV3.Requote.Ledger

/-!
# Refused arms, replayed settlements and aborted wind-downs of a quote leg

The reducers take the state of the leg by value and put one back on every path. This is about the
paths on which nothing should happen: an arm that is refused (`reduce_arm`), a route settlement of
another generation or one that was delivered before (`reduce_generation_fenced`, `settle_route`),
and about the two orders of a wind-down and the abort of an armed attempt (`reduce_wind_down`,
`finish_pre_sink_abort`).
-/

namespace BoltV3.Quote

open Lib Action Requote QuoteLeg QuoteSettlementState
open Std (ExtTreeMap)
open GovernedQuoteTransactionCommit (noAction)
open QuoteReduction (done refused)
open QuoteTransactionReductionEvent
open QuoteRouteSettlement
open GovernedQuoteTransactionInner (call new)

/-- The generation of the current attempt or settlement. -/
def QuoteTransactionState.currentGeneration : QuoteTransactionState → Option Nat
  | .stable _ => none
  | .attempt current => some current.arm.identity.generation
  | .settled settlement => some settlement.generation

namespace QuoteLeg

variable {leg next : QuoteLeg} {event : QuoteTransactionReductionEvent}

/-- The leg after a reduction. -/
def reducedTo (leg : QuoteLeg) (event : QuoteTransactionReductionEvent) (reduced : QuoteReduction)
    (pair : RequoteBudgetPairState) : QuoteLeg :=
  ⟨{ leg.inner with
      state := reduced.state, terminalOwner := event.terminalOwner leg.inner reduced.state }, pair⟩

theorem step_reduce (leg : QuoteLeg) (event : QuoteTransactionReductionEvent) :
    leg.step (.reduce event) =
      match (event.reduce leg.inner).exec leg.pair with
      | (.error panic, _) => .error panic
      | (.ok reduced, pair) =>
        .ok (.reduction reduced.result, leg.reducedTo event reduced pair) := by
  unfold step
  simp only [call, QuoteTransactionReductionEvent.apply, exec_bind]
  rcases (event.reduce leg.inner).exec leg.pair with ⟨panic | reduced, pair⟩
  · rfl
  · rfl

theorem step_of_pure {reduced : QuoteReduction} (h : event.reduce leg.inner = pure reduced) :
    leg.step (.reduce event) =
      .ok (.reduction reduced.result, leg.reducedTo event reduced leg.pair) := by
  rw [step_reduce, h]
  rfl

theorem step_reduce_eq_ok {result : Except String GovernedQuoteTransactionCommit}
    (h : leg.step (.reduce event) = .ok (.reduction result, next)) :
    ∃ reduced pair, (event.reduce leg.inner).exec leg.pair = (.ok reduced, pair) ∧
      reduced.result = result ∧ leg.reducedTo event reduced pair = next := by
  rw [step_reduce] at h
  split at h
  · cases h
  · obtain ⟨hresult, hnext⟩ := Prod.mk.inj (Except.ok.inj h)
    exact ⟨_, _, ‹_›, LegOutput.reduction.inj hresult, hnext⟩

end QuoteLeg

/-! A leg without an order, and an attempt to submit one. -/

namespace SubmittedOrder

def leg : QuoteLeg := .fresh true (.new 9 1000 0) (.new 9 1000 0)

def order : MakerQuoteLifecycleIdentity := ⟨"O-1", 1⟩

def arm (nowMs : Nat) (identity : MakerQuoteLifecycleIdentity) : LegOp :=
  .reduce (.preSink (.arm ⟨.yes, .submit, .idle, .submitPending⟩
    (.reserve ⟨.oneShot ⟨nowMs, submitCommandCost, restCallCost⟩⟩) identity))

/-- The leg after `arm 10 order`. -/
def armed : QuoteLeg :=
  ⟨{ new true with
      state := .attempt ⟨.active, ⟨order, .idle, .submitPending, .freshSubmit⟩,
        .armed (.reserved ⟨1, .refundable⟩)⟩ },
    { RequoteBudgetPairState.new (.new 9 1000 0) (.new 9 1000 0) with
      nextReservationGeneration := 1
      outstanding := (∅ : ExtTreeMap Nat OutstandingLiability).insert 1
        (.oneShot ⟨10, submitCommandCost, restCallCost⟩) }⟩

end SubmittedOrder

/-! ## Wind-downs and aborts -/

/-- No order that the attempt was armed over may be live, the leg winds down already, or the
reservation of the attempt is not outstanding, so that its abort fails. -/
def QuoteLeg.NothingResting (leg : QuoteLeg) (attempt : QuoteAttemptState) : Prop :=
  attempt.mode = .windingDown ∨ attempt.arm.priorState = .idle ∨
    attempt.arm.priorState = .replacementPendingBackoff ∨
    (∃ prepaid, attempt.phase = .armed (.prepaid prepaid)) ∨
    ∃ reservation, attempt.phase = .armed (.reserved reservation) ∧
      leg.pair.outstanding[reservation.generation]? = none

/-- The abort of a reservation before its sink fails where it is not outstanding. -/
theorem abort_exec {reservation : RequoteBudgetReservation}
    (hphase : reservation.phase = .refundable) (pair : RequoteBudgetPairState) :
    ∃ after, reservation.abort.exec pair =
      (.ok (if pair.outstanding[reservation.generation]? = none then .error .staleReservation
        else .ok ()), after) := by
  rcases reservation with ⟨generation, phase⟩
  obtain rfl : phase = .refundable := hphase
  unfold RequoteBudgetReservation.abort RequoteBudgetReservation.settleAborted
  rw [if_neg (by simp), bind_assoc,
    exec_bind_ok (RequoteBudgetReservation.exec_removeOutstanding _ _)]
  cases hentry : pair.outstanding[generation]? with
  | none | some liability => exact ⟨_, rfl⟩

theorem QuoteLeg.run_two (leg : QuoteLeg) (first second : LegOp) :
    (leg.run [first, second]).map Prod.snd =
      (leg.step first).bind fun stepped => (stepped.2.step second).map Prod.snd := by
  unfold run
  rcases leg.step first with panic | ⟨output, next⟩
  · rfl
  · simp only [run, Except.bind]
    rcases next.step second with panic | ⟨output', last⟩
    · rfl
    · rfl

/-- **A wind-down and the abort of an armed attempt commute** exactly if nothing that the attempt
was armed over may be live or its abort fails: then the leg, its budgets and so what is left to be
cancelled are the same in either order, and a panic of the budgets comes in both. -/
theorem wind_down_and_abort_commute (leg : QuoteLeg) {mode : QuoteTransactionMode}
    {arm : QuoteTransactionArm} {budget : ArmedQuoteBudget}
    (hstate : leg.inner.state = .attempt ⟨mode, arm, .armed budget⟩)
    (hunsent : ∀ reservation, budget = .reserved reservation → reservation.phase = .refundable) :
    (leg.run [.reduce (.preSink .windDown),
        .reduce (.preSink (.preSinkAbort arm.identity.generation))]).map Prod.snd =
      (leg.run [.reduce (.preSink (.preSinkAbort arm.identity.generation)),
        .reduce (.preSink .windDown)]).map Prod.snd ↔
    leg.NothingResting ⟨mode, arm, .armed budget⟩ := by
  rcases leg with ⟨⟨state, supportsModify, owner, closed⟩, pair⟩
  subst hstate
  rw [run_two, run_two]
  simp only [step_reduce, reduce, reducePreSink,
    reduceWindDown, reducePreSinkAbort, reduceGenerationFenced, QuoteTransactionState.armedIdentity,
    if_pos, exec_pure, Except.bind, reducedTo, done]
  cases budget with
  | reserved reservation =>
    simp only [finishPreSinkAbort, exec_bind]
    obtain ⟨after, habort⟩ := abort_exec (hunsent reservation rfl) pair
    rw [habort]
    by_cases houtstanding : pair.outstanding[reservation.generation]? = none
    · rw [if_pos houtstanding]
      refine iff_of_true ?_ (.inr (.inr (.inr (.inr ⟨reservation, rfl, houtstanding⟩))))
      cases mode <;> rfl
    · rw [if_neg houtstanding]
      cases mode with
      | windingDown => exact iff_of_true rfl (.inl rfl)
      | active =>
        rcases arm with ⟨identity, prior, pending, obligation⟩
        cases prior with
        | idle => exact iff_of_true rfl (.inr (.inl rfl))
        | replacementPendingBackoff => exact iff_of_true rfl (.inr (.inr (.inl rfl)))
        | _ =>
          -- the prior state is restored and wound down in one order, and forgotten in the other
          refine iff_of_false (fun hsame => by cases hsame) ?_
          rintro (h | h | h | ⟨prepaid, h⟩ | ⟨other, h, hnone⟩)
          · cases h
          · cases h
          · cases h
          · cases h
          · cases h
            exact houtstanding hnone
  | prepaid prepaid =>
    refine iff_of_true ?_ (.inr (.inr (.inr (.inl ⟨prepaid, rfl⟩))))
    cases mode with
    | windingDown =>
      simp only [finishPreSinkAbort, exec_bind]
      rcases (prepaid.drop).exec pair with ⟨panic | done, after⟩
      · rfl
      · rfl
    | active =>
      simp only [finishPreSinkAbort, exec_bind, pure_bind, exec_pure, settled, done,
        reduceStableWindDown]
      rcases (prepaid.drop).exec pair with ⟨panic | done, after⟩
      · rfl
      · rfl

/-! An order rests and is to be modified. -/

namespace AbortedModify

open SubmittedOrder

def modify (nowMs : Nat) (identity : MakerQuoteLifecycleIdentity) : LegOp :=
  .reduce (.preSink (.arm ⟨.yes, .modify, .resting, .modifyPending⟩
    (.reserve ⟨.oneShot ⟨nowMs, 0, restCallCost⟩⟩) identity))

/-- The order is submitted and accepted, and an attempt to modify it is armed. -/
def resting : List LegOp :=
  [arm 10 order, .sinkInvoked 1 10, .reduce (.sinkCapable (.submitted 1)),
    .reduce (.preSink (.lifecycle .accepted)), modify 20 ⟨"O-1", 2⟩]

def windDown : LegOp := .reduce (.preSink .windDown)

def abort (generation : Nat) : LegOp := .reduce (.preSink (.preSinkAbort generation))

/-- The leg state after a run, and whether the leg winds down. -/
def after (ops : List LegOp) : Option (LegState × Bool) :=
  match leg.run ops with
  | .error _ => none
  | .ok (_, last) => some (last.inner.state.legState, last.inner.state.isWindingDown)

/-- **A wind-down before the abort forgets the resting order**: the leg ends idle, and in the other
order with the order still to be cancelled. -/
theorem forgets_the_resting_order : after (resting ++ [windDown, abort 2]) = some (.idle, true) ∧
    after (resting ++ [abort 2, windDown]) = some (.cancelPending, true) := by
  refine ⟨?_, ?_⟩ <;> decide +kernel

theorem commutes_for_a_first_order : (armed.run [windDown, abort 1]).map Prod.snd =
      (armed.run [abort 1, windDown]).map Prod.snd :=
  (wind_down_and_abort_commute armed rfl (by rintro _ ⟨⟩; rfl)).mpr (.inr (.inl rfl))

end AbortedModify

/-! ## Refused arms -/

/-- A refused arm puts the active state back. -/
theorem reduceActiveArm_refused {active : ActiveQuotePhase} {proposal : QuoteLegTransitionProposal}
    {budgetProposal : MakerQuoteBudgetProposal} {identity : MakerQuoteLifecycleIdentity}
    {pair after : RequoteBudgetPairState} {reduced : QuoteReduction} {message : String}
    (h : (reduceActiveArm active proposal budgetProposal identity).exec pair = (.ok reduced, after))
    (hrefused : reduced.result = .error message) :
    reduced.state = .stable (.active active) ∧ after = pair := by
  unfold reduceActiveArm at h
  split_ifs at h with hstale
  · cases h
    exact ⟨rfl, rfl⟩
  · cases budgetProposal with
    | prepaid prepaidGeneration nowMs =>
      dsimp only at h
      split at h
      · split_ifs at h with hgeneration
        · cases h
          cases hrefused
        · cases h
          exact ⟨rfl, rfl⟩
      · cases h
        exact ⟨rfl, rfl⟩
    | reserve reservationProposal =>
      obtain ⟨reserved, middle, hreserve, hrest⟩ := exec_bind_eq_ok.mp h
      cases reserved with
      | ok reservation =>
        have hdone : reduced.result = .ok noAction := by
          cases active with
          | requotePending prepaid | replacementPendingBackoffPrepaid prepaid =>
            obtain ⟨_, _, -, hdone⟩ := exec_bind_eq_ok.mp hrest
            cases hdone
            rfl
          | _ =>
            cases hrest
            rfl
        rw [hdone] at hrefused
        cases hrefused
      | error denied =>
        cases hrest
        obtain ⟨_, -, rfl⟩ | ⟨hgranted, -⟩ := reserve_cases hreserve
        · exact ⟨rfl, rfl⟩
        · cases hgranted

/-- **A refused arm leaves the leg** exactly if the leg is not settled or the arm has no generation.
-/
theorem refused_arm_leaves_the_leg (leg : QuoteLeg) {proposal : QuoteLegTransitionProposal}
    {budgetProposal : MakerQuoteBudgetProposal} {identity : MakerQuoteLifecycleIdentity}
    {message : String} {next : QuoteLeg}
    (hstep : leg.step (.reduce (.preSink (.arm proposal budgetProposal identity))) =
      .ok (.reduction (.error message), next)) :
    next = leg ↔
      identity.generation = 0 ∨ ∀ settlement, leg.inner.state ≠ .settled settlement := by
  rcases leg with ⟨⟨state, supportsModify, owner, closed⟩, pair⟩
  obtain ⟨reduced, after, hexec, hrefused, rfl⟩ := step_reduce_eq_ok hstep
  change (reduceArm state proposal budgetProposal identity).exec pair = _ at hexec
  unfold reduceArm at hexec
  split_ifs at hexec with hgeneration
  · cases hexec
    exact iff_of_true rfl (.inl hgeneration)
  · cases state with
    | settled settlement =>
      -- the settlement is taken apart before the refusal
      have hstable : ∃ stable, reduced.state = .stable stable := by
        dsimp only at hexec
        split at hexec
        · exact ⟨_, (reduceActiveArm_refused hexec hrefused).1⟩
        · cases hexec
          exact ⟨_, rfl⟩
      obtain ⟨stable, hstable⟩ := hstable
      refine iff_of_false (fun heq => ?_) ?_
      · have hsettled := congrArg (fun leg => leg.inner.state) heq
        cases hstable.symm.trans hsettled
      · rintro (hzero | hunsettled)
        · exact hgeneration hzero
        · exact hunsettled settlement rfl
    | attempt attempt =>
      cases hexec
      exact iff_of_true rfl (.inr nofun)
    | stable stable =>
      refine iff_of_true ?_ (.inr nofun)
      cases stable with
      | active active =>
        obtain ⟨hrestored, rfl⟩ := reduceActiveArm_refused hexec hrefused
        rw [reducedTo, hrestored]
        rfl
      | windingDown phase | poisoned hold =>
        cases hexec
        rfl

/-! An order is submitted, canceled and reopened, and a stale arm is refused. -/

namespace RefusedArm

open SubmittedOrder

def submitted : List LegOp :=
  [arm 10 order, .sinkInvoked 1 10, .reduce (.sinkCapable (.submitted 1))]

def reopened : List LegOp :=
  submitted ++ [.refine ⟨order, .terminal (some .canceled) false⟩, .refine ⟨order, .reopened⟩]

/-- An arm of another prior state. -/
def stale : LegOp :=
  .reduce (.preSink (.arm ⟨.yes, .submit, .resting, .submitPending⟩
    (.reserve ⟨.oneShot ⟨20, submitCommandCost, restCallCost⟩⟩) ⟨"O-2", 2⟩))

/-- Whether a reduction succeeded. -/
def accepted : LegOutput → Option Bool
  | .reduction result => some result.toBool
  | _ => none

/-- After a run: whether the last reduction succeeded, the leg state, and the settled generation. -/
def after (ops : List LegOp) : Option (Option Bool × LegState × Option Nat) :=
  match leg.run ops with
  | .error _ => none
  | .ok (trace, last) =>
    some ((trace.getLast?).bind fun entry => accepted entry.2, last.inner.state.legState,
      last.inner.state.currentGeneration)

/-- **A refused arm forgets the settlement**: a replay of the settled route succeeds before it and
is refused after it, and a reopened leg is idle after it. -/
theorem forgets_the_settlement : after (submitted ++ [.reduce (.sinkCapable (.submitted 1))]) =
      some (some true, .submitPending, some 1) ∧
    after (submitted ++ [stale]) = some (some false, .submitPending, none) ∧
    after (submitted ++ [stale, .reduce (.sinkCapable (.submitted 1))]) =
      some (some false, .submitPending, none) ∧
    after reopened = some (none, .cancelPending, some 1) ∧
    after (reopened ++ [stale]) = some (some false, .idle, none) := by
  refine ⟨?_, ?_, ?_, ?_, ?_⟩ <;> decide +kernel

theorem leaves_an_idle_leg : (∃ message, leg.step stale = .ok (.reduction (.error message), leg)) ∧
      ∀ message next, leg.step stale = .ok (.reduction (.error message), next) → next = leg :=
  ⟨⟨_, rfl⟩, fun _ _ hstep => (refused_arm_leaves_the_leg leg hstep).mpr (.inr nofun)⟩

end RefusedArm

/-! ## Settlements -/

/-- The route settlement that was recorded. -/
def QuoteSettlementStatus.route : QuoteSettlementStatus → Option QuoteRouteSettlement
  | .awaitingRoute => none
  | .reopenedAwaitingRoute => none
  | .routeSettled route => some route
  | .reopened route => some route

/-- A settlement that makes the armed order the owner of the leg, whatever comes of it. -/
def QuoteRouteSettlement.takesOwner (route : QuoteRouteSettlement) (state : QuoteTransactionState) :
    Bool :=
  match route with
  | .submitted => true
  | .ntMutationInvoked => true
  | .postSinkInvariantFailure => true
  | .preSinkAbort => state.legState == .poisonedReconciliationHold
  | .preSinkInvariantFailure => state.legState == .poisonedReconciliationHold
  | .sinkRejected => false
  | .callbackRetired => false

variable {inner : GovernedQuoteTransactionInner} {route : QuoteRouteSettlement} {generation : Nat}

theorem terminalOwner_event (route : QuoteRouteSettlement) (generation : Nat)
    (inner : GovernedQuoteTransactionInner) (next : QuoteTransactionState) :
    (route.event generation).terminalOwner inner next =
      if route.takesOwner next then inner.state.armedIdentity.or inner.terminalOwner
      else inner.terminalOwner := by
  cases harmed : inner.state.armedIdentity <;> cases route <;>
    simp [event, terminalOwner, harmed,
      takesOwner]

/-- A settled leg is asked for the route settlement it has recorded. -/
theorem reduce_event_settled {settlement : QuoteSettlementState} (route : QuoteRouteSettlement)
    (generation : Nat) (h : inner.state = .settled settlement) :
    (route.event generation).reduce inner =
      pure (reduceSettlementReplay (.settled settlement) generation route) := by
  rcases inner with ⟨state, supportsModify, owner, closed⟩
  subst h
  cases route <;> rfl

/-- A settlement of another generation is not reduced. -/
theorem reduce_event_fenced (route : QuoteRouteSettlement)
    (h : inner.state.currentGeneration ≠ some generation) :
    ∃ reduced, (route.event generation).reduce inner = pure reduced ∧
      reduced.Inert inner.state := by
  have hroute := route.reduces generation inner
  generalize inner.state = state at h hroute ⊢
  generalize (route.event generation).reduce inner = reduction at hroute ⊢
  cases hroute with
  | inert hinert => exact ⟨_, rfl, hinert⟩
  | replayed settlement =>
    have hother : ¬ settlement.generation = generation := fun hsame => h (congrArg some hsame)
    refine ⟨_, rfl, ?_⟩
    simp only [reduceSettlementReplay, settleRoute, if_neg hother]
    exact .inr ⟨_, rfl⟩
  | ended hgeneration _ => exact absurd (congrArg some hgeneration) h

namespace QuoteSettlementState

variable {settlement : QuoteSettlementState}

theorem settleRoute_recorded (hgeneration : settlement.generation = generation)
    (hroute : settlement.status.route = some route) :
    settlement.settleRoute generation route = (settlement, .ok ()) := by
  unfold settleRoute
  rw [if_pos hgeneration]
  rcases settlement with ⟨_, _ | _ | first | first, stable⟩
  · cases hroute
  · cases hroute
  · exact if_pos (Option.some.inj hroute)
  · exact if_pos (Option.some.inj hroute)

theorem settleRoute_conflicting {first : QuoteRouteSettlement}
    (hroute : settlement.status.route = some first) (hother : first ≠ route) :
    settlement.settleRoute generation route =
      (settlement, .error "conflicting or stale quote transaction settlement") := by
  unfold settleRoute
  split_ifs with hgeneration
  · rcases settlement with ⟨_, _ | _ | settled | settled, stable⟩
    · cases hroute
    · cases hroute
    · obtain rfl := Option.some.inj hroute
      exact if_neg hother
    · obtain rfl := Option.some.inj hroute
      exact if_neg hother
  · rfl

theorem settleRoute_awaiting (hgeneration : settlement.generation = generation)
    (hroute : settlement.status.route = none) (route : QuoteRouteSettlement) :
    ∃ next : QuoteSettlementState, settlement.settleRoute generation route = (next, .ok ()) ∧
      next.generation = generation ∧ next.status.route = some route ∧
      next.stable = settlement.stable := by
  unfold settleRoute
  rw [if_pos hgeneration]
  rcases settlement with ⟨_, _ | _ | first | first, stable⟩
  · exact ⟨_, rfl, hgeneration, rfl, rfl⟩
  · exact ⟨_, rfl, hgeneration, rfl, rfl⟩
  · cases hroute
  · cases hroute

theorem route_of_settleRoute {next : QuoteSettlementState}
    (h : settlement.settleRoute generation route = (next, .ok ())) :
    next.generation = generation ∧ next.status.route = some route := by
  by_cases hgeneration : settlement.generation = generation
  · cases hroute : settlement.status.route with
    | none =>
      obtain ⟨recorded, hrecorded, hnext, hstatus, -⟩ :=
        settleRoute_awaiting hgeneration hroute route
      rw [hrecorded] at h
      obtain ⟨rfl, -⟩ := Prod.mk.inj h
      exact ⟨hnext, hstatus⟩
    | some first =>
      by_cases hsame : first = route
      · subst hsame
        rw [settleRoute_recorded hgeneration hroute] at h
        obtain ⟨rfl, -⟩ := Prod.mk.inj h
        exact ⟨hgeneration, hroute⟩
      · rw [settleRoute_conflicting hroute hsame] at h
        cases h
  · unfold settleRoute at h
    rw [if_neg hgeneration] at h
    cases h

end QuoteSettlementState

/-- The leg is settled at the generation and has recorded the route settlement. -/
def RecordedIn (state : QuoteTransactionState) (generation : Nat) (route : QuoteRouteSettlement) :
    Prop :=
  ∃ settlement, state = .settled settlement ∧ settlement.generation = generation ∧
    settlement.status.route = some route

variable (stable : QuoteStableState) (mode : QuoteTransactionMode)

/-- A settlement that is accepted is recorded. -/
def Delivered (generation : Nat) (route : QuoteRouteSettlement) (reduced : QuoteReduction) : Prop :=
  ∀ commit, reduced.result = .ok commit → RecordedIn reduced.state generation route

theorem delivered_settled (result : Except String GovernedQuoteTransactionCommit) :
    Delivered generation route ⟨settled generation route stable, result⟩ :=
  fun _ _ => ⟨_, rfl, rfl, rfl⟩

theorem finishPreSinkAbort_delivered (arm : QuoteTransactionArm)
    (budget : ArmedQuoteBudget) (generation : Nat) :
    Returns (finishPreSinkAbort mode arm budget generation)
      (Delivered generation .preSinkAbort) := by
  cases budget with
  | reserved reservation =>
    refine .after fun aborted => ?_
    cases aborted with
    | ok _ | error denied => exact .pure (delivered_settled _ _)
  | prepaid prepaid =>
    cases mode with
    | active => exact .pure (delivered_settled _ _)
    | windingDown => exact .after fun _ => .pure (delivered_settled _ _)

theorem finishPreSinkInvariantFailure_delivered
    (arm : QuoteTransactionArm) (budget : ArmedQuoteBudget) (generation : Nat) :
    Returns (finishPreSinkInvariantFailure mode arm budget generation)
      (Delivered generation .preSinkInvariantFailure) := by
  cases budget with
  | reserved reservation => exact .after fun _ => .pure (delivered_settled _ _)
  | prepaid prepaid => exact .pure (delivered_settled _ _)

/-- Any settlement: the leg is left as it is, or it is recorded. -/
theorem reduce_event_delivered (inner : GovernedQuoteTransactionInner)
    (route : QuoteRouteSettlement) (generation : Nat) :
    (∃ reduced, (route.event generation).reduce inner = pure reduced ∧ reduced.Inert inner.state) ∨
      Returns ((route.event generation).reduce inner) (Delivered generation route) := by
  have hroute := route.reduces generation inner
  generalize inner.state = state at hroute ⊢
  generalize (route.event generation).reduce inner = reduction at hroute ⊢
  cases hroute with
  | inert hinert => exact .inl ⟨_, rfl, hinert⟩
  | replayed settlement =>
    refine .inr (.pure fun commit hcommit => ?_)
    simp only [reduceSettlementReplay] at hcommit ⊢
    rcases hsettle : settlement.settleRoute generation route with ⟨next, message | ⟨⟩⟩
    · rw [hsettle] at hcommit
      cases hcommit
    · obtain ⟨hnext, hroute⟩ := route_of_settleRoute hsettle
      exact ⟨next, rfl, hnext, hroute⟩
  | @ended mode arm _ _ _ hend =>
    refine .inr ?_
    cases hend with
    | aborted budget => exact finishPreSinkAbort_delivered mode arm budget generation
    | invariantFailed budget =>
      exact finishPreSinkInvariantFailure_delivered mode arm budget generation
    | failed budget | succeeded budget success =>
      exact .after fun _ => .pure (delivered_settled _ _)
    | rejected budget message =>
      refine .after fun accounted => ?_
      cases accounted with
      | charged => exact .pure (delivered_settled _ _)
      | prepaid prepaid => exact .pure nofun

namespace QuoteLeg

variable {leg next : QuoteLeg} {reduced : QuoteReduction}

/-- A settlement that leaves the state leaves the leg, but for its owner. -/
theorem step_of_inert (h : (route.event generation).reduce leg.inner = pure reduced)
    (hinert : reduced.Inert leg.inner.state) :
    leg.step (.reduce (route.event generation)) =
      .ok (.reduction reduced.result,
        ⟨{ leg.inner with
            terminalOwner :=
              if route.takesOwner leg.inner.state then
                leg.inner.state.armedIdentity.or leg.inner.terminalOwner
              else leg.inner.terminalOwner }, leg.pair⟩) := by
  have hstate : reduced.state = leg.inner.state := by
    rcases hinert with rfl | ⟨message, rfl⟩
    · rfl
    · rfl
  rw [step_of_pure h, reducedTo, terminalOwner_event, hstate]

variable {commit : GovernedQuoteTransactionCommit}

/-- A settlement that is left alone and succeeds is left alone again. -/
theorem step_of_inert_again (h : (route.event generation).reduce leg.inner = pure reduced)
    (hinert : reduced.Inert leg.inner.state)
    (hstep : leg.step (.reduce (route.event generation)) = .ok (.reduction (.ok commit), next)) :
    next.step (.reduce (route.event generation)) = .ok (.reduction (.ok noAction), next) := by
  rw [step_of_inert h hinert] at hstep
  rcases hinert with rfl | ⟨message, rfl⟩
  · obtain ⟨-, hnext⟩ := Prod.mk.inj (Except.ok.inj hstep)
    have hagain : (route.event generation).reduce next.inner =
        pure (done next.inner.state noAction) := by
      rw [← hnext]
      exact h
    rw [step_of_inert hagain (.inl rfl), ← hnext]
    cases route.takesOwner leg.inner.state <;> cases leg.inner.state.armedIdentity <;> rfl
  · cases hstep

/-- A settled leg answers a settlement by what it has recorded, and keeps its owner. -/
theorem step_of_settled {settlement : QuoteSettlementState} (route : QuoteRouteSettlement)
    (generation : Nat) (h : leg.inner.state = .settled settlement) :
    leg.step (.reduce (route.event generation)) =
      .ok (.reduction ((settlement.settleRoute generation route).2.map fun _ => noAction),
        ⟨{ leg.inner with state := .settled (settlement.settleRoute generation route).1 },
          leg.pair⟩) := by
  have howner : ∀ next, (route.event generation).terminalOwner leg.inner next =
      leg.inner.terminalOwner := by
    intro next
    rw [terminalOwner_event, h]
    exact ite_self _
  rw [step_of_pure (reduce_event_settled route generation h), reducedTo, howner]
  rfl

theorem step_of_recorded (h : RecordedIn leg.inner.state generation route) :
    leg.step (.reduce (route.event generation)) = .ok (.reduction (.ok noAction), leg) := by
  obtain ⟨settlement, hstate, hgeneration, hroute⟩ := h
  rw [step_of_settled route generation hstate,
    settleRoute_recorded hgeneration hroute, ← hstate]
  rfl

theorem step_of_conflicting {first : QuoteRouteSettlement}
    (h : RecordedIn leg.inner.state generation first) (hother : first ≠ route) :
    leg.step (.reduce (route.event generation)) =
      .ok (.reduction (.error "conflicting or stale quote transaction settlement"), leg) := by
  obtain ⟨settlement, hstate, -, hroute⟩ := h
  rw [step_of_settled route generation hstate,
    settleRoute_conflicting hroute hother, ← hstate]
  rfl

end QuoteLeg

/-- The settlement does not take the owner, there is no armed order to take, or it is the owner. -/
def QuoteLeg.KeepsOwner (leg : QuoteLeg) (route : QuoteRouteSettlement) : Prop :=
  route.takesOwner leg.inner.state = false ∨ leg.inner.state.armedIdentity = none ∨
    leg.inner.terminalOwner = leg.inner.state.armedIdentity

/-- **Settlements are fenced and replayed.** One of another generation leaves the state and both
budgets, and the owner too exactly if it does not take it; one that was applied succeeds again and
changes nothing; one that conflicts with what is recorded is refused and changes nothing, also where
the order ended before its first settlement. -/
theorem settlements_are_fenced_and_replayed (leg : QuoteLeg) (generation : Nat)
    (route : QuoteRouteSettlement) :
    (leg.inner.state.currentGeneration ≠ some generation →
      ∃ result owner, leg.step (.reduce (route.event generation)) =
          .ok (.reduction result, ⟨{ leg.inner with terminalOwner := owner }, leg.pair⟩) ∧
        (owner = leg.inner.terminalOwner ↔ leg.KeepsOwner route)) ∧
    (∀ result next,
      leg.step (.reduce (route.event generation)) = .ok (.reduction result, next) →
      (∃ commit, result = .ok commit) ∨ RecordedIn next.inner.state generation route →
      next.step (.reduce (route.event generation)) = .ok (.reduction (.ok noAction), next)) ∧
    (∀ first, RecordedIn leg.inner.state generation first → first ≠ route →
      ∃ message, leg.step (.reduce (route.event generation)) =
        .ok (.reduction (.error message), leg)) ∧
    (∀ settlement, leg.inner.state = .settled settlement → settlement.generation = generation →
      settlement.status.route = none →
      ∃ next, leg.step (.reduce (route.event generation)) = .ok (.reduction (.ok noAction), next) ∧
        next.pair = leg.pair ∧
        ∀ other, other ≠ route → ∃ message, next.step (.reduce (other.event generation)) =
          .ok (.reduction (.error message), next)) := by
  refine ⟨fun hother => ?_, fun result next hstep happlied => ?_, fun first hfirst hne => ?_,
    fun settlement hstate hgeneration hawaiting => ?_⟩
  · obtain ⟨reduced, hreduce, hinert⟩ := reduce_event_fenced route hother
    refine ⟨_, _, step_of_inert hreduce hinert, ?_⟩
    unfold KeepsOwner
    cases route.takesOwner leg.inner.state with
    | false => exact iff_of_true rfl (.inl rfl)
    | true =>
      cases leg.inner.state.armedIdentity with
      | none => exact iff_of_true rfl (.inr (.inl rfl))
      | some armed => simp [eq_comm]
  · -- An accepted settlement is recorded, or left an attempt of another phase as it was.
    rcases reduce_event_delivered leg.inner route generation with
      ⟨reduced, hreduce, hinert⟩ | hdelivered
    · rcases happlied with ⟨commit, rfl⟩ | hrecorded
      · exact step_of_inert_again hreduce hinert hstep
      · exact step_of_recorded hrecorded
    · refine step_of_recorded (happlied.elim ?_ id)
      rintro ⟨commit, rfl⟩
      obtain ⟨reduced, pair, hexec, hresult, rfl⟩ := step_reduce_eq_ok hstep
      exact hdelivered.of_exec hexec commit hresult
  · exact ⟨_, step_of_conflicting hfirst hne⟩
  · obtain ⟨next, hsettle, hnext, hroute, -⟩ := settleRoute_awaiting hgeneration hawaiting route
    have hstep := step_of_settled route generation hstate
    rw [hsettle] at hstep
    exact ⟨_, hstep, rfl, fun other hne =>
      ⟨_, step_of_conflicting ⟨next, rfl, hnext, hroute⟩ (Ne.symm hne)⟩⟩

/-! An order ends before its route is settled, and the next one is armed. -/

namespace LateSettlement

open SubmittedOrder

def ended : List LegOp :=
  [arm 10 order, .sinkInvoked 1 10, .refine ⟨order, .terminal (some .canceled) false⟩]

def rearmed : List LegOp := ended ++ [arm 20 ⟨"O-2", 2⟩]

def late (route : QuoteRouteSettlement) : LegOp := .reduce (route.event 1)

/-- After a run: the owner of the leg, and whether the last refinement was applied. -/
def after (ops : List LegOp) : Option (Option MakerQuoteLifecycleIdentity × Bool) :=
  match leg.run ops with
  | .error _ => none
  | .ok (trace, last) =>
    some (last.inner.terminalOwner, (trace.getLast?).any fun entry =>
      match entry.2 with
      | .refinement .applied => true
      | _ => false)

/-- The next attempt is aborted, and the end of the first order is reported again. -/
def reported : List LegOp :=
  [.reduce (.preSink (.preSinkAbort 2)), .refine ⟨order, .terminal none true⟩]

/-- **A settlement of an older generation takes the leg from its owner**: it is refused, and the
armed order is the owner after it; a refinement of the first order is then not applied. -/
theorem takes_the_owner : after rearmed = some (some order, false) ∧
    after (rearmed ++ [late .submitted]) = some (some ⟨"O-2", 2⟩, false) ∧
    after (rearmed ++ reported) = some (some order, true) ∧
    after (rearmed ++ late .submitted :: reported) = some (some ⟨"O-2", 2⟩, false) := by
  refine ⟨?_, ?_, ?_, ?_⟩ <;> decide +kernel

/-- The leg after `ended`. -/
def awaiting : QuoteLeg :=
  ⟨{ new true with
      state := .settled ⟨1, .awaitingRoute, .active .idle⟩, terminalOwner := some order }, leg.pair⟩

/-- The leg after a first settlement. -/
def recorded : QuoteLeg :=
  ⟨{ awaiting.inner with state := .settled ⟨1, .routeSettled .submitted, .active .idle⟩ }, leg.pair⟩

theorem fenced_and_replayed : (∃ result owner, armed.step (.reduce (sinkRejected.event 7)) =
        .ok (.reduction result, ⟨{ armed.inner with terminalOwner := owner }, armed.pair⟩) ∧
      owner = armed.inner.terminalOwner) ∧
    (∃ message, recorded.step (late .sinkRejected) = .ok (.reduction (.error message), recorded)) ∧
    ∃ next, awaiting.step (late .submitted) = .ok (.reduction (.ok noAction), next) ∧
      next.step (late .submitted) = .ok (.reduction (.ok noAction), next) ∧
      ∃ message, next.step (late .sinkRejected) = .ok (.reduction (.error message), next) := by
  obtain ⟨hfenced, -⟩ := settlements_are_fenced_and_replayed armed 7 .sinkRejected
  obtain ⟨result, owner, hstep, howner⟩ := hfenced (by decide)
  obtain ⟨-, -, hconflict, -⟩ := settlements_are_fenced_and_replayed recorded 1 .sinkRejected
  obtain ⟨-, hagain, -, hawaiting⟩ := settlements_are_fenced_and_replayed awaiting 1 .submitted
  obtain ⟨next, hsettled, -, hother⟩ := hawaiting _ rfl rfl rfl
  exact ⟨⟨result, owner, hstep, howner.mpr (.inl rfl)⟩,
    hconflict .submitted ⟨_, rfl, rfl, rfl⟩ (by decide), next, hsettled,
    hagain _ next hsettled (.inl ⟨_, rfl⟩), hother .sinkRejected (by decide)⟩

end LateSettlement

end BoltV3.Quote
