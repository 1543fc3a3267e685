import BoltV3.Guarantees.WindDown
import BoltV3.Requote.Ledger

/-!
# The reservations of a quote leg

A leg moves its budget reservation through its states: armed, past the sink, prepaid for a
replacement, poisoned, settled. `Owned` says for each state what the leg holds of the pair, and
every reducer leads from an owned state to an owned one, errors included.

* A requote cancel reserves the cancel and its replacement at once. The cancel is charged when its
  sink is settled, and the replacement is then charged or given back by itself. So such a
  reservation may end charged in part.
* An arm is matched when its budget is one that `propose_action_budget` proposes for it.
* A panic ends a run. Where each sink invocation is no earlier than its proposal, there is none.
-/

namespace BoltV3.Quote

open Lib Action Requote MakerQuoteLifecycleRefinementEvent RequoteBudgetReservation
open GovernedQuoteTransactionCommit (noAction)
open QuoteReduction (done refused)

/-! ## Tokens -/

def QuotePoisonedBudget.token : QuotePoisonedBudget → Option RequoteBudgetReservation
  | .charged => none
  | .prepaid reservation => some reservation

def ActiveQuotePhase.token : ActiveQuotePhase → Option RequoteBudgetReservation
  | .requotePending prepaid => some prepaid
  | .replacementPendingBackoffPrepaid prepaid => some prepaid
  | _ => none

def QuoteStableState.token : QuoteStableState → Option RequoteBudgetReservation
  | .active phase => phase.token
  | .windingDown _ => none
  | .poisoned hold => hold.budget.token

def QuoteAttemptPhase.token : QuoteAttemptPhase → Option RequoteBudgetReservation
  | .armed (.reserved reservation) => some reservation
  | .armed (.prepaid reservation) => some reservation
  | .sinkInvoked (.chargePending reservation) => some reservation
  | .sinkInvoked (.prepaidPending reservation) => some reservation
  | .sinkInvoked .charged => none
  | .sinkInvoked (.prepaid reservation) => some reservation

/-- The reservation that a leg owns. -/
def QuoteTransactionState.token : QuoteTransactionState → Option RequoteBudgetReservation
  | .stable current => current.token
  | .attempt current => current.phase.token
  | .settled settlement => settlement.stable.token

/-! ## What a leg holds -/

section

variable (timely : Prop)

/-- Nothing, or a prepaid replacement. -/
def Holds : Option RequoteBudgetReservation → RequoteBudgetPairState → Prop
  | none => Free timely
  | some reservation => Prepaid timely reservation

def QuotePoisonedBudget.Owned (budget : QuotePoisonedBudget) : RequoteBudgetPairState → Prop :=
  Holds timely budget.token

def QuoteStableState.Owned (stable : QuoteStableState) : RequoteBudgetPairState → Prop :=
  Holds timely stable.token

def ArmedQuoteBudget.Owned (obligation : QuoteLegTransactionObligation) :
    ArmedQuoteBudget → RequoteBudgetPairState → Prop
  | .reserved reservation => Fresh timely (obligation = .requoteCancel) reservation
  | .prepaid reservation => Prepaid timely reservation

def SinkInvokedQuoteBudget.Owned : SinkInvokedQuoteBudget → RequoteBudgetPairState → Prop
  | .chargePending reservation => Invoked timely reservation
  | .prepaidPending reservation => PrepaidPending timely reservation
  | .charged => Free timely
  | .prepaid reservation => Prepaid timely reservation

def QuoteAttemptState.Owned (attempt : QuoteAttemptState) : RequoteBudgetPairState → Prop :=
  match attempt.phase with
  | .armed budget => budget.Owned timely attempt.arm.obligation
  | .sinkInvoked budget => budget.Owned timely

/-- **What the leg holds of the pair**, where `timely` says that the sink invocations are timely. -/
def QuoteTransactionState.Owned : QuoteTransactionState → RequoteBudgetPairState → Prop
  | .stable current => current.Owned timely
  | .attempt current => current.Owned timely
  | .settled settlement => settlement.stable.Owned timely

end

section

variable {timely : Prop} {s : RequoteBudgetPairState}

/-- What is outstanding is the token, and nothing else. -/
def HoldsExactly (s : RequoteBudgetPairState) (token : Option RequoteBudgetReservation) : Prop :=
  ∀ generation : Nat, s.outstanding[generation]? ≠ none ↔
    token.map RequoteBudgetReservation.generation = some generation

theorem holdsExactly_none (h : s.Only []) : HoldsExactly s none := by
  intro generation
  constructor
  · intro hentry
    exact absurd (h generation hentry) (List.not_mem_nil)
  · nofun

variable {reservation : RequoteBudgetReservation} {stable : QuoteStableState}

theorem holdsExactly_some
    (h : s.Only [reservation.generation]) (hentry : s.outstanding[reservation.generation]? ≠ none) :
    HoldsExactly s (some reservation) := by
  intro generation
  constructor
  · intro hother
    rw [List.mem_singleton.mp (h generation hother)]
    rfl
  · rintro ⟨⟩
    exact hentry

theorem Holds.exactly {token : Option RequoteBudgetReservation} (h : Holds timely token s) :
    Books timely s ∧ HoldsExactly s token := by
  cases token with
  | none => exact ⟨h.1, holdsExactly_none h.2⟩
  | some reservation =>
    obtain ⟨hheld, sinkMs, hentry⟩ := h
    exact ⟨hheld.books, holdsExactly_some hheld.only (by simp [hentry])⟩

variable {state : QuoteTransactionState}

/-- **The pair's outstanding reservations are those of the leg.** -/
theorem QuoteTransactionState.Owned.holds (h : state.Owned timely s) :
    Books timely s ∧ HoldsExactly s state.token := by
  rcases state with stable | ⟨mode, arm, (reservation | prepaid) | budget⟩ | settlement
  · exact Holds.exactly h
  · obtain ⟨hheld, liability, hentry, -⟩ := h
    exact ⟨hheld.books, holdsExactly_some hheld.only (by simp [hentry])⟩
  · exact @Holds.exactly _ _ (some prepaid) h
  · cases budget with
    | chargePending reservation => exact ⟨h.books, holdsExactly_some h.only h.entry⟩
    | prepaidPending reservation => exact ⟨h.1.books, holdsExactly_some h.1.only h.1.entry⟩
    | charged => exact @Holds.exactly _ _ none h
    | prepaid reservation => exact @Holds.exactly _ _ (some reservation) h
  · exact Holds.exactly h

theorem QuoteStableState.Owned.prepaid (h : stable.Owned timely s) :
    stable.token.map generation = stable.prepaidGeneration ∧
      ∀ reservation, stable.token = some reservation → ∃ sinkMs, s.outstanding[
        reservation.generation]? = some (.cancelResubmitReplacementOutstanding sinkMs) := by
  constructor
  · rcases stable with phase | phase | ⟨mode, obligation, budget⟩
    · cases phase <;> rfl
    · rfl
    · cases budget <;> rfl
  · intro reservation htoken
    unfold QuoteStableState.Owned at h
    rw [htoken] at h
    exact h.2

/-- What a stable leg has outstanding is a prepaid replacement. -/
theorem QuoteTransactionState.Owned.prepaid
    (h : state.Owned timely s) (hstable : state.armedIdentity = none) :
    state.token.map generation = state.prepaidGeneration ∧
      ∀ reservation, state.token = some reservation → ∃ sinkMs, s.outstanding[
        reservation.generation]? = some (.cancelResubmitReplacementOutstanding sinkMs) := by
  rcases state with stable | attempt | settlement
  · exact QuoteStableState.Owned.prepaid h
  · cases hstable
  · exact QuoteStableState.Owned.prepaid h

end

/-! ## Budgets -/

section

variable {timely : Prop} {P : RequoteBudgetPairState → Prop} {α : Type}

/-- A method that panics only where a sink invocation is not timely. -/
abbrev Moves (timely : Prop) (P : RequoteBudgetPairState → Prop) (x : Act α)
    (Q : α → RequoteBudgetPairState → Prop) : Prop :=
  Yields P x Q fun _ => ¬timely

variable (reservation : RequoteBudgetReservation)

theorem drop_prepaid :
    Moves timely (Prepaid timely reservation) reservation.drop fun _ => Free timely :=
  drop_yields.pre fun _ h => h.1

theorem drop_fresh {cancels : Prop} :
    Moves timely (Fresh timely cancels reservation) reservation.drop fun _ => Free timely :=
  drop_yields.pre fun _ h => h.1

theorem QuotePoisonedBudget.drop_owned (budget : QuotePoisonedBudget) :
    Moves timely (budget.Owned timely) budget.drop fun _ => Free timely := by
  cases budget with
  | charged => exact .same rfl
  | prepaid reservation => exact drop_prepaid reservation

theorem SinkInvokedQuoteBudget.account_owned (budget : SinkInvokedQuoteBudget) :
    Moves timely (budget.Owned timely) budget.account fun accounted =>
      accounted.intoPoisoned.Owned timely := by
  cases budget with
  | chargePending reservation =>
    exact settle_yields.bind fun _ =>
      drop_yields.bind fun _ => .same rfl
  | prepaidPending reservation =>
    exact settle_prepaid.bind fun _ => .same rfl
  | charged | prepaid reservation => exact .same rfl

/-! ## Reducers of stable states -/

/-- A reduction to an owned state. -/
abbrev Reduces (timely : Prop) (P : RequoteBudgetPairState → Prop) (x : Act QuoteReduction) :
    Prop :=
  Moves timely P x fun reduced => reduced.state.Owned timely

variable {s : RequoteBudgetPairState}

theorem stableOfLegState_owned (h : Free timely s) (legState : LegState)
    (obligation : QuoteLegTransactionObligation) :
    (stableOfLegState legState obligation).Owned timely s := by
  cases legState <;> exact h

variable (stable : QuoteStableState)

theorem reduceStableLifecycle_owned (event : LegEvent) (supportsModify : Bool) :
    Reduces timely (stable.Owned timely) (reduceStableLifecycle stable event supportsModify) := by
  rcases stable with phase | phase | hold
  · cases phase with
    | requotePending prepaid | replacementPendingBackoffPrepaid prepaid =>
      cases event with
      | filled => exact (drop_prepaid prepaid).bind fun _ => .same rfl
      | _ => exact .same rfl
    | _ => rcases event with (_ | _) | _ | _ | _ | _ | _ | _ | _ <;> exact .same rfl
  · cases phase <;> cases event <;> exact .same rfl
  · exact .same rfl

theorem reduceStableWindDown_owned :
    Moves timely (stable.Owned timely) (reduceStableWindDown stable) fun result =>
      result.1.Owned timely := by
  rcases stable with phase | phase | hold
  · cases phase with
    | requotePending prepaid => exact (drop_prepaid prepaid).bind fun _ => .same rfl
    | replacementPendingBackoffPrepaid prepaid =>
      exact (drop_prepaid prepaid).bind fun _ => .same rfl
    | _ => exact .same rfl
  · exact .same rfl
  · exact .same rfl

theorem poisonStable_owned {stable : QuoteStableState}
    (h : stable.Owned timely s) : (poisonStable stable).Owned timely s := by
  rcases stable with phase | phase | hold
  · cases phase <;> exact h
  · exact h
  · exact h

theorem terminalState_owned (obligation : QuoteLegTransactionObligation)
    (budget : QuotePoisonedBudget) (disposition : MakerQuoteTerminalDisposition) :
    Moves timely (budget.Owned timely) (terminalState obligation budget disposition) fun stable =>
      stable.Owned timely := by
  cases disposition with
  | filled => exact budget.drop_owned.bind fun _ => .same rfl
  | _ =>
    cases obligation with
    | replacementSubmit | requoteCancel => cases budget <;> exact .same rfl
    | _ => exact budget.drop_owned.bind fun _ => .same rfl

theorem terminalStable_owned (disposition : MakerQuoteTerminalDisposition) :
    Moves timely (stable.Owned timely) (terminalStable stable disposition) fun after =>
      after.Owned timely := by
  rcases stable with phase | phase | ⟨mode, obligation, budget⟩
  · cases phase with
    | requotePending prepaid =>
      exact terminalState_owned .requoteCancel (.prepaid prepaid) disposition
    | replacementPendingBackoffPrepaid prepaid =>
      exact (drop_prepaid prepaid).bind fun _ => .same rfl
    | _ => exact .same rfl
  · exact .same rfl
  · cases mode with
    | active => exact terminalState_owned obligation budget disposition
    | windingDown => exact budget.drop_owned.bind fun _ => .same rfl

/-! ## Reducers of attempts -/

variable (attempt : QuoteAttemptState)

theorem poisonAttempt_owned :
    Moves timely (attempt.Owned timely) (poisonAttempt attempt) fun stable =>
      stable.Owned timely := by
  obtain ⟨mode, arm, (reservation | prepaid) | budget⟩ := attempt
  · exact (drop_fresh reservation).bind fun _ => .same rfl
  · exact .same rfl
  · exact budget.account_owned.bind fun _ => .same rfl

theorem terminalAttempt_owned (disposition : MakerQuoteTerminalDisposition) :
    Moves timely (attempt.Owned timely) (terminalAttempt attempt disposition) fun stable =>
      stable.Owned timely := by
  obtain ⟨mode, arm, (reservation | prepaid) | budget⟩ := attempt <;> cases mode with
  | active =>
    first
    | exact (drop_fresh reservation).bind fun _ => terminalState_owned _ .charged disposition
    | exact terminalState_owned _ (.prepaid prepaid) disposition
    | exact budget.account_owned.bind fun _ => terminalState_owned _ _ disposition
  | windingDown =>
    first
    | exact (drop_fresh reservation).bind fun _ => .same rfl
    | exact (drop_prepaid prepaid).bind fun _ => .same rfl
    | exact budget.account_owned.bind fun accounted =>
        accounted.intoPoisoned.drop_owned.bind fun _ => .same rfl

variable (mode : QuoteTransactionMode)

section

variable (arm : QuoteTransactionArm)

include arm

variable (budget : ArmedQuoteBudget)

theorem finishPreSinkAbort_owned (generation : Nat) :
    Reduces timely (budget.Owned timely arm.obligation)
      (finishPreSinkAbort mode arm budget generation) := by
  cases budget with
  | reserved reservation =>
    refine abort_yields.bind ?_
    rintro (denied | ⟨⟩)
    · refine .pure ?_
      rintro _ ⟨⟨⟩, -⟩
    · refine .pure ?_
      rintro s ⟨-, h⟩
      cases mode with
      | active => exact stableOfLegState_owned h _ _
      | windingDown => exact h
  | prepaid prepaid =>
    cases mode with
    | active => exact .same rfl
    | windingDown => exact (drop_prepaid prepaid).bind fun _ => .same rfl

theorem finishPreSinkInvariantFailure_owned (generation : Nat) :
    Reduces timely (budget.Owned timely arm.obligation)
      (finishPreSinkInvariantFailure mode arm budget generation) := by
  cases budget with
  | reserved reservation =>
    have hcommit : Moves timely (Fresh timely (arm.obligation = .requoteCancel) reservation)
        reservation.commit fun _ => Free timely :=
      commit_yields.pre fun _ h => h.1
    exact hcommit.bind fun _ => .same rfl
  | prepaid prepaid => exact .same rfl

variable (budget : SinkInvokedQuoteBudget)

theorem finishPostSinkFailure_owned (generation : Nat) :
    Reduces timely (budget.Owned timely) (finishPostSinkFailure mode arm budget generation) :=
  budget.account_owned.bind fun _ => .same rfl

theorem routeSuccessState_owned :
    Moves timely (budget.Owned timely) (routeSuccessState mode arm budget) fun stable =>
      stable.Owned timely := by
  refine budget.account_owned.bind ?_
  rintro (_ | prepaid)
  · cases mode with
    | active => exact .pure fun _ h => stableOfLegState_owned h _ _
    | windingDown => exact .same rfl
  · cases mode with
    | active => exact .same rfl
    | windingDown => exact (drop_prepaid prepaid).bind fun _ => .same rfl

end

/-! ## Reducers -/

variable {state : QuoteTransactionState} {generation : Nat}

theorem reduceReopened_owned (h : state.Owned timely s) :
    (reduceReopened state).state.Owned timely s := by
  rcases state with stable | attempt | settlement
  · exact h
  · exact h
  · change settlement.reopen.1.stable.Owned timely s
    rw [reopen_stable]
    exact h

variable (state generation)

theorem reduceLifecycle_owned (event : LegEvent) (supportsModify : Bool) :
    Reduces timely (state.Owned timely) (reduceLifecycle state event supportsModify) := by
  rcases state with stable | attempt | settlement
  · exact reduceStableLifecycle_owned stable event supportsModify
  · exact .same rfl
  · exact reduceStableLifecycle_owned settlement.stable event supportsModify

theorem reduceWindDown_owned : Reduces timely (state.Owned timely) (reduceWindDown state) := by
  rcases state with stable | attempt | settlement
  · exact (reduceStableWindDown_owned stable).bind fun _ => .same rfl
  · exact .same rfl
  · exact (reduceStableWindDown_owned settlement.stable).bind fun _ => .same rfl

theorem reduceMissingMoneyMovingTruth_owned :
    Reduces timely (state.Owned timely) (reduceMissingMoneyMovingTruth state) := by
  rcases state with stable | attempt | settlement
  · exact .pure fun _ h => poisonStable_owned h
  · exact (poisonAttempt_owned attempt).bind fun _ => .same rfl
  · exact .pure fun _ h => poisonStable_owned h

/-- The budget of an arm is a proposal for it: one of the pair, and of a cancel with its replacement
where the arm is a requote cancel. -/
def MatchedBudget (proposal : QuoteLegTransitionProposal) : MakerQuoteBudgetProposal → Prop
  | .reserve reservation => reservation.liability.Made ∧
      (QuoteLegTransactionObligation.fromProposal proposal = .requoteCancel →
        ∃ proposedMs, reservation.liability = .cancelResubmitBothOutstanding proposedMs)
  | .prepaid _ _ => True

variable {proposal : QuoteLegTransitionProposal} {budgetProposal : MakerQuoteBudgetProposal}

theorem reduceActiveArm_owned (active : ActiveQuotePhase)
    (hmatched : MatchedBudget proposal budgetProposal) (identity : MakerQuoteLifecycleIdentity) :
    Reduces timely (Holds timely active.token)
      (reduceActiveArm active proposal budgetProposal identity) := by
  unfold reduceActiveArm
  split_ifs
  · exact .same rfl
  cases budgetProposal with
  | prepaid prepaidGeneration nowMs =>
    cases active with
    | replacementPendingBackoffPrepaid prepaid =>
      dsimp only
      split_ifs
      · exact .same rfl
      · exact .same rfl
    | _ => exact .same rfl
  | reserve reservationProposal =>
    obtain ⟨hmade, hcancels⟩ := hmatched
    cases active with
    | requotePending prepaid | replacementPendingBackoffPrepaid prepaid =>
      refine (reserve_over_prepaid hmade hcancels).bind ?_
      rintro (denied | reservation)
      · exact .same rfl
      · exact drop_replaced.bind fun _ => .same rfl
    | _ =>
      refine (reserve_yields hmade hcancels).bind ?_
      rintro (denied | reservation)
      · exact .same rfl
      · exact .same rfl

theorem reduceArm_owned (hmatched : MatchedBudget proposal budgetProposal)
    (identity : MakerQuoteLifecycleIdentity) :
    Reduces timely (state.Owned timely) (reduceArm state proposal budgetProposal identity) := by
  unfold reduceArm
  split_ifs
  · exact .same rfl
  rcases state with stable | attempt | ⟨generation, status, stable⟩
  · cases stable with
    | active phase => exact reduceActiveArm_owned phase hmatched identity
    | windingDown phase | poisoned hold => exact .same rfl
  · exact .same rfl
  · cases stable with
    | active phase => exact reduceActiveArm_owned phase hmatched identity
    | windingDown phase | poisoned hold => exact .same rfl

theorem reduceUnwind_owned : Reduces timely (state.Owned timely) (reduceUnwind state) := by
  rcases state with stable | ⟨mode, arm, budget | budget⟩ | settlement
  · exact .same rfl
  · exact finishPreSinkAbort_owned mode arm budget _
  · exact finishPostSinkFailure_owned mode arm budget _
  · exact .same rfl

variable {state} {generation} in
/-- **Every route settlement.** -/
theorem RouteReduction.owned {route : QuoteRouteSettlement} {reduction : Act QuoteReduction}
    (hroute : RouteReduction generation route state reduction) :
    Reduces timely (state.Owned timely) reduction := by
  cases hroute with
  | inert hinert => rcases hinert with rfl | ⟨message, rfl⟩ <;> exact .same rfl
  | replayed settlement =>
    refine .pure fun s h => ?_
    change (settlement.settleRoute generation route).1.stable.Owned timely s
    rw [settleRoute_stable]
    exact h
  | @ended mode arm _ _ _ hend =>
    cases hend with
    | aborted budget => exact finishPreSinkAbort_owned mode arm budget generation
    | invariantFailed budget => exact finishPreSinkInvariantFailure_owned mode arm budget generation
    | failed budget => exact finishPostSinkFailure_owned mode arm budget generation
    | succeeded budget success =>
      exact (routeSuccessState_owned mode arm budget).bind fun _ => .same rfl
    | rejected budget message =>
      refine budget.account_owned.bind ?_
      rintro (_ | prepaid)
      · refine .pure fun s h => ?_
        cases mode with
        | active => exact stableOfLegState_owned h _ _
        | windingDown => exact h
      · exact .same rfl

theorem reduceTerminal_owned (disposition : MakerQuoteTerminalDisposition) :
    Moves timely (state.Owned timely) (reduceTerminal state disposition) fun next =>
      next.Owned timely := by
  rcases state with stable | attempt | settlement
  · exact (terminalStable_owned stable disposition).bind fun _ => .same rfl
  · exact (terminalAttempt_owned attempt disposition).bind fun _ => .same rfl
  · exact (terminalStable_owned settlement.stable disposition).bind fun _ => .same rfl

theorem reduceTerminalRefinement_owned (stableEffect : Option MakerQuoteTerminalDisposition)
    (closesReopened : Bool) :
    Reduces timely (state.Owned timely)
      (reduceTerminalRefinement state generation stableEffect closesReopened) := by
  have hretain : ∀ next : QuoteTransactionState, Reduces timely (next.Owned timely)
      (retainTerminal next generation closesReopened) := by
    rintro (stable | attempt | settlement)
    · exact .same rfl
    · exact .same rfl
    · exact .same rfl
  cases stableEffect with
  | none => exact hretain state
  | some disposition => exact (reduceTerminal_owned state disposition).bind hretain

end

/-! ## Calls -/

/-- A call whose arm, if it is one, has a matched budget. -/
def LegOp.Matched : LegOp → Prop
  | .reduce (.preSink (.arm proposal budgetProposal _)) => MatchedBudget proposal budgetProposal
  | _ => True

section

variable {timely : Prop} {inner : GovernedQuoteTransactionInner}

/-- **Every event.** -/
theorem QuoteTransactionReductionEvent.reduce_owned (event : QuoteTransactionReductionEvent)
    (hmatched : (LegOp.reduce event).Matched) :
    Reduces timely (inner.state.Owned timely) (event.reduce inner) := by
  have hroute : ∀ (route : QuoteRouteSettlement) (generation : Nat),
      Reduces timely (inner.state.Owned timely) ((route.event generation).reduce inner) :=
    fun route generation => (route.reduces generation inner).owned
  rcases event with event | event
  · cases event with
    | lifecycle event => exact reduceLifecycle_owned _ event _
    | windDown => exact reduceWindDown_owned _
    | missingMoneyMovingTruth => exact reduceMissingMoneyMovingTruth_owned _
    | arm proposal budgetProposal identity => exact reduceArm_owned _ hmatched identity
    | preSinkAbort generation => exact hroute .preSinkAbort generation
    | preSinkInvariantFailure generation => exact hroute .preSinkInvariantFailure generation
    | unwind => exact reduceUnwind_owned _
  · cases event with
    | submitted generation => exact hroute .submitted generation
    | ntMutationInvoked generation => exact hroute .ntMutationInvoked generation
    | sinkRejected generation => exact hroute .sinkRejected generation
    | callbackRetired generation => exact hroute .callbackRetired generation
    | postSinkUnwind generation => exact hroute .postSinkInvariantFailure generation

namespace GovernedQuoteTransactionInner

theorem refine_owned (event : MakerQuoteLifecycleRefinementEvent) :
    Moves timely (inner.state.Owned timely) (event.apply inner) fun applied =>
      applied.2.state.Owned timely := by
  have houtcome : ∀ (identity : MakerQuoteLifecycleIdentity) (reduced : QuoteReduction),
      (outcome identity inner reduced).2.state =
        reduced.state := by
    intro identity reduced
    unfold outcome
    split
    · rfl
    · rfl
  have hreopened : ∀ (identity : MakerQuoteLifecycleIdentity) (s : RequoteBudgetPairState),
      inner.state.Owned timely s → (outcome identity inner
        (reduceReopened inner.state)).2.state.Owned timely s := by
    intro identity s h
    rw [houtcome]
    exact reduceReopened_owned h
  unfold apply
  split
  · refine (reduceTerminalRefinement_owned _ _ _ _).bind fun reduced => .pure fun s h => ?_
    rw [houtcome]
    exact h
  · exact .pure (hreopened _)
  · exact .pure (hreopened _)
  · split
    · rename_i settlement hstate
      rw [hstate]
      exact (reduceStableWindDown_owned settlement.stable).bind fun _ => .same rfl
    · exact .same rfl
  · exact .same rfl

/-- A sink invocation is timely when it is no earlier than the proposal of its reservation. -/
def timelyInvocation (inner : GovernedQuoteTransactionInner) (pair : RequoteBudgetPairState) :
    LegOp → Bool
  | .sinkInvoked _ actorNowMs =>
    inner.state.token.all fun token => pair.proposedAt token.generation ≤ actorNowMs
  | _ => true

variable {s : RequoteBudgetPairState}

theorem prepareSinkInvokedAt_owned {budget : ArmedQuoteBudget}
    {obligation : QuoteLegTransactionObligation} {actorNowMs : Nat}
    (h : budget.Owned timely obligation s)
    (htimely : timely → (QuoteAttemptPhase.armed budget).token.all (fun token =>
      s.proposedAt token.generation ≤ actorNowMs) = true) :
    (budget.prepareSinkInvokedAt obligation actorNowMs).Owned timely s := by
  cases budget with
  | prepaid prepaid =>
    obtain ⟨hheld, sinkMs, hentry⟩ := h
    exact invoked_of_refundable hheld
      (by simp [hentry]) fun ht =>
        of_decide_eq_true (htimely ht)
  | reserved reservation =>
    obtain ⟨hheld, liability, hentry, hcancels⟩ := h
    have hinvoked := invoked_of_refundable hheld
      (by simp [hentry]) fun ht =>
        of_decide_eq_true (htimely ht)
    cases obligation with
    | requoteCancel =>
      obtain ⟨proposedMs, rfl⟩ := hcancels rfl
      refine ⟨hinvoked, proposedMs, ?_⟩
      have hgeneration : (reservation.prepareSinkInvokedAt actorNowMs).generation =
          reservation.generation := by
        unfold prepareSinkInvokedAt
        rw [if_pos hheld.phase]
      rw [hgeneration]
      exact hentry
    | _ => exact hinvoked

theorem sinkInvoked_owned {generation actorNowMs : Nat} (h : inner.state.Owned timely s)
    (htimely : timely → inner.timelyInvocation s (.sinkInvoked generation actorNowMs) = true) :
    (inner.sinkInvoked generation actorNowMs).2.state.Owned timely s := by
  unfold sinkInvoked
  split
  · rename_i mode arm budget hstate
    split_ifs with hgeneration
    · rw [hstate] at h
      unfold timelyInvocation at htimely
      rw [hstate] at htimely ⊢
      unfold commitSinkInvoked
      dsimp only
      rw [if_pos hgeneration]
      exact prepareSinkInvokedAt_owned h htimely
    · exact h
  · exact h

/-- **Every call leads from an owned state to an owned one.** -/
theorem call_owned {op : LegOp} (hmatched : op.Matched) :
    Moves timely
      (fun s => inner.state.Owned timely s ∧ (timely → inner.timelyInvocation s op = true))
      (inner.call op) fun called => called.2.state.Owned timely := by
  have happly : ∀ (inner : GovernedQuoteTransactionInner) (event : QuoteTransactionReductionEvent),
      (LegOp.reduce event).Matched → Moves timely (inner.state.Owned timely) (event.apply inner)
        fun applied => applied.2.state.Owned timely :=
    fun _ event hmatched => (event.reduce_owned hmatched).bind fun _ => .same rfl
  cases op with
  | reduce event =>
    exact ((happly inner event hmatched).pre fun _ h => h.1).bind fun _ => .same rfl
  | sinkInvoked generation actorNowMs => exact .pure fun s h => sinkInvoked_owned h.1 h.2
  | refine event =>
    exact ((refine_owned event).pre fun _ h => h.1).bind fun _ => .same rfl
  | closeRetentionScope =>
    have hclosed := happly { inner with retentionScopeClosed := true } (.preSink .windDown) trivial
    exact (hclosed.pre fun _ h => h.1).bind fun _ => .same rfl

end GovernedQuoteTransactionInner

end

/-! ## Budgets of the quote control -/

/-- **The quote control proposes matched budgets.** -/
theorem proposeActionBudget_matched {inner : GovernedQuoteTransactionInner}
    {pair : RequoteBudgetPairState} {nowMs : Nat} {proposal : QuoteLegTransitionProposal}
    {budgetProposal : MakerQuoteBudgetProposal}
    (h : inner.proposeActionBudget pair nowMs proposal = .ok (some budgetProposal)) :
    MatchedBudget proposal budgetProposal := by
  have hpropose : ∀ liability : OutstandingLiability,
      (pair.propose liability).map (fun result =>
        result.toOption.map MakerQuoteBudgetProposal.reserve) = .ok (some budgetProposal) →
      budgetProposal = .reserve ⟨liability⟩ := by
    intro liability hmap
    unfold RequoteBudgetPairState.propose at hmap
    dsimp only at hmap
    rcases hcapacity : pair.hasCapacity liability.balance.nowMs liability.balance.submitCost
      liability.balance.restCost with panic | (_ | _) <;> rw [hcapacity] at hmap
    · cases hmap
    · cases hmap
    · cases hmap
      rfl
  obtain ⟨leg, action, priorState, pendingState⟩ := proposal
  unfold GovernedQuoteTransactionInner.proposeActionBudget at h
  cases action with
  | submit =>
    have hsubmit : ∀ hfresh : budgetProposal = .reserve ⟨.oneShot ⟨nowMs, submitCommandCost,
        restCallCost⟩⟩, MatchedBudget ⟨leg, .submit, priorState, pendingState⟩ budgetProposal := by
      rintro rfl
      refine ⟨⟨nowMs, .inl rfl⟩, fun hcancel => ?_⟩
      cases priorState <;> cases hcancel
    dsimp only at h
    split_ifs at h
    · split at h
      · cases h
        trivial
      · exact hsubmit (hpropose _ h)
    · exact hsubmit (hpropose _ h)
  | cancel =>
    dsimp only at h
    split_ifs at h with hrequote
    · rw [hpropose _ h]
      exact ⟨⟨nowMs, .inr (.inr rfl)⟩, fun _ => ⟨nowMs, rfl⟩⟩
    · rw [hpropose _ h]
      refine ⟨⟨nowMs, .inr (.inl rfl)⟩, fun hcancel => absurd ?_ hrequote⟩
      cases pendingState with
      | requotePending => rfl
      | _ => cases hcancel
  | modify =>
    rw [hpropose _ h]
    refine ⟨⟨nowMs, .inr (.inl rfl)⟩, ?_⟩
    nofun

/-! ## Runs -/

namespace QuoteLeg

/-- Every sink invocation of a run is timely. -/
def timely : QuoteLeg → List LegOp → Bool
  | _, [] => true
  | leg, op :: rest =>
    leg.inner.timelyInvocation leg.pair op &&
      match leg.step op with
      | .error _ => true
      | .ok (_, next) => timely next rest

/-- The leg owns what is outstanding. -/
def Owned (timely : Prop) (leg : QuoteLeg) : Prop := leg.inner.state.Owned timely leg.pair

section

variable {timely : Prop} {leg : QuoteLeg} {op : LegOp} {ops : List LegOp}

theorem step_owned (hmatched : op.Matched) (h : leg.Owned timely)
    (htimely : timely → leg.inner.timelyInvocation leg.pair op = true) :
    (timely → ∃ output next, leg.step op = .ok (output, next)) ∧
      ∀ output next, leg.step op = .ok (output, next) → next.Owned timely := by
  have hcall := GovernedQuoteTransactionInner.call_owned hmatched leg.pair ⟨h, htimely⟩
  unfold step
  rcases hexec : (leg.inner.call op).exec leg.pair with ⟨panic | ⟨output, inner⟩, pair⟩ <;>
    rw [hexec] at hcall
  · exact ⟨fun ht => absurd ht hcall, by rintro _ _ ⟨⟩⟩
  · refine ⟨fun _ => ⟨output, ⟨inner, pair⟩, rfl⟩, ?_⟩
    rintro _ _ ⟨⟩
    exact hcall

theorem run_owned (hmatched : ∀ op ∈ ops, op.Matched) (h : leg.Owned timely)
    (htimely : timely → leg.timely ops = true) :
    (timely → ∃ trace last, leg.run ops = .ok (trace, last)) ∧
      ∀ trace last, leg.run ops = .ok (trace, last) → last.Owned timely := by
  induction ops generalizing leg with
  | nil =>
    refine ⟨fun _ => ⟨[], leg, rfl⟩, ?_⟩
    rintro _ _ ⟨⟩
    exact h
  | cons op ops ih =>
    obtain ⟨hfirst, hothers⟩ := List.forall_mem_cons.mp hmatched
    obtain ⟨hok, hnext⟩ := step_owned hfirst h fun ht => (Bool.and_eq_true_iff.mp (htimely ht)).1
    rcases hstep : leg.step op with panic | ⟨output, next⟩
    · refine ⟨fun ht => ?_, ?_⟩
      · obtain ⟨output, next, hsome⟩ := hok ht
        cases hstep.symm.trans hsome
      · intro trace last hrun
        obtain ⟨_, _, _, hsome, -⟩ := run_cons hrun
        cases hstep.symm.trans hsome
    · have hrest : timely → next.timely ops = true := by
        intro ht
        have hlater := (Bool.and_eq_true_iff.mp (htimely ht)).2
        rw [hstep] at hlater
        exact hlater
      obtain ⟨hruns, hlast⟩ := ih hothers (hnext output next hstep) hrest
      refine ⟨fun ht => ?_, ?_⟩
      · obtain ⟨trace, last, hrun⟩ := hruns ht
        refine ⟨(op, output) :: trace, last, ?_⟩
        unfold run
        rw [hstep]
        dsimp only
        rw [hrun]
      · intro trace last hrun
        obtain ⟨_, _, rest, hsome, hrun, -⟩ := run_cons hrun
        cases hstep.symm.trans hsome
        exact hlast rest last hrun

end

end QuoteLeg

/-- **Every reservation stands once**: in a run of matched arms, what is outstanding is exactly what
the leg owns, outside an attempt that is a prepaid replacement, and every reservation is held, given
back or charged, the two parts of a requote cancel each by itself. A run of timely sink invocations
does not panic. -/
theorem reservations_stand_once (supportsModify : Bool) (cap windowMs minIntervalMs : Side → Nat)
    (ops : List LegOp) (hmatched : ∀ op ∈ ops, op.Matched) :
    let budget := fun side => RequoteBudget.new (cap side) (windowMs side) (minIntervalMs side)
    let start := QuoteLeg.fresh supportsModify (budget .submitCommands) (budget .restCalls)
    (start.timely ops = true → ∃ trace last, start.run ops = .ok (trace, last)) ∧
    ∀ trace last, start.run ops = .ok (trace, last) →
      HoldsExactly last.pair last.inner.state.token ∧
      (last.inner.state.armedIdentity = none →
        last.inner.state.token.map generation =
          last.inner.state.prepaidGeneration ∧
        ∀ reservation, last.inner.state.token = some reservation → ∃ sinkMs,
          last.pair.outstanding[reservation.generation]? =
            some (.cancelResubmitReplacementOutstanding sinkMs)) ∧
      ∀ (generation : Nat) (liability : OutstandingLiability),
        last.pair.history.reserved[generation]? = some liability →
        ∃! standing, last.pair.Stands generation liability standing := by
  intro budget start
  have hsound : start.pair.Sound :=
    RequoteBudgetPairState.sound_new _ _ (RequoteBudget.tracks_new _ _ _)
      (RequoteBudget.tracks_new _ _ _)
  have hstart : start.Owned (start.timely ops = true) := by
    refine ⟨⟨RequoteBudgetPairState.ledger_new _ _, fun _ => hsound⟩, fun generation hentry => ?_⟩
    exact absurd rfl hentry
  obtain ⟨hok, hlast⟩ := QuoteLeg.run_owned hmatched hstart id
  refine ⟨hok, fun trace last hrun => ?_⟩
  have howned := hlast trace last hrun
  obtain ⟨⟨hledger, -⟩, hholds⟩ := howned.holds
  refine ⟨hholds, howned.prepaid, fun generation liability hliability => ?_⟩
  obtain ⟨standing, hstanding⟩ := hledger.stands generation liability hliability
  exact ⟨standing, hstanding, fun other hother =>
    hother.unique (hledger.made generation liability hliability) hstanding⟩

namespace SplitReservations

def leg : QuoteLeg := .fresh false (.new 9 1000 0) (.new 9 1000 0)

def submit (order : MakerQuoteLifecycleIdentity) (nowMs : Nat) : LegOp :=
  .reduce (.preSink (.arm ⟨.yes, .submit, .idle, .submitPending⟩
    (.reserve ⟨.oneShot ⟨nowMs, submitCommandCost, restCallCost⟩⟩) order))

def requoteCancel (order : MakerQuoteLifecycleIdentity) (liability : OutstandingLiability) :
    LegOp :=
  .reduce (.preSink (.arm ⟨.yes, .cancel, .resting, .requotePending⟩ (.reserve ⟨liability⟩) order))

/-- An order rests and is canceled for a replacement. -/
def requote (liability : OutstandingLiability) : List LegOp :=
  [submit ⟨"O-1", 1⟩ 10, .sinkInvoked 1 10, .reduce (.sinkCapable (.submitted 1)),
    .reduce (.preSink (.lifecycle .accepted)), requoteCancel ⟨"O-1", 2⟩ liability,
    .sinkInvoked 2 20, .reduce (.sinkCapable (.ntMutationInvoked 2))]

/-- After a run: the token of the leg, the entry of the second reservation, and what it was charged.
-/
def after (ops : List LegOp) :
    Option (Option RequoteBudgetReservation × Option OutstandingLiability × Nat × Nat) :=
  match leg.run ops with
  | .error _ => none
  | .ok (_, last) => some (last.inner.state.token, last.pair.outstanding[2]?,
      last.pair.charged 2 .submitCommands, last.pair.charged 2 .restCalls)

set_option maxRecDepth 8000 in
/-- **A reservation that ends in part charged**: the cancel is charged while its replacement is
prepaid, and stays so when the replacement is given back. An arm that is not matched leaves the leg
with a token of nothing. -/
theorem ends_in_part :
    after (requote (.cancelResubmitBothOutstanding 20)) =
      some (some ⟨2, .refundable⟩, some (.cancelResubmitReplacementOutstanding 20), 0, 1) ∧
    after (requote (.cancelResubmitBothOutstanding 20) ++
      [.reduce (.preSink (.lifecycle .filled))]) = some (none, none, 0, 1) ∧
    (OutstandingLiability.cancelResubmitBothOutstanding 20).balance.submitCost = 1 ∧
    (OutstandingLiability.cancelResubmitBothOutstanding 20).balance.restCost = 2 ∧
    after (requote (.oneShot ⟨20, 0, restCallCost⟩)) =
      some (some ⟨2, .refundable⟩, none, 0, 1) := by
  refine ⟨?_, ?_, rfl, rfl, ?_⟩ <;> decide +kernel

/-- The replacement is submitted and the leg is at rest again. -/
def replaced : List LegOp :=
  requote (.cancelResubmitBothOutstanding 20) ++
    [.reduce (.preSink (.lifecycle .canceled)),
      .reduce (.preSink (.arm ⟨.yes, .submit, .replacementPendingBackoff, .submitPending⟩
        (.prepaid 2 30) ⟨"O-2", 3⟩)),
      .sinkInvoked 3 30, .reduce (.sinkCapable (.submitted 3))]

theorem replaced_matched : ∀ op ∈ replaced, op.Matched := by
  have hsubmit : ∀ order nowMs, (submit order nowMs).Matched := by
    intro order nowMs
    exact ⟨⟨nowMs, .inl rfl⟩, nofun⟩
  have hcancel : ∀ order nowMs,
      (requoteCancel order (.cancelResubmitBothOutstanding nowMs)).Matched := by
    intro order nowMs
    exact ⟨⟨nowMs, .inr (.inr rfl)⟩, fun _ => ⟨nowMs, rfl⟩⟩
  intro op hop
  simp only [replaced, requote, List.cons_append, List.nil_append, List.mem_cons, List.not_mem_nil,
    or_false] at hop
  rcases hop with rfl | rfl | rfl | rfl | rfl | rfl | rfl | rfl | rfl | rfl | rfl
  · exact hsubmit _ _
  · trivial
  · trivial
  · trivial
  · exact hcancel _ _
  all_goals trivial

set_option maxRecDepth 8000 in
theorem replaced_stands_once : ∃ trace last, leg.run replaced = .ok (trace, last) ∧
    HoldsExactly last.pair last.inner.state.token ∧
    ∃! standing, last.pair.Stands 2 (.cancelResubmitBothOutstanding 20) standing := by
  obtain ⟨hruns, hstands⟩ := reservations_stand_once false (fun _ => 9) (fun _ => 1000) (fun _ => 0)
    replaced replaced_matched
  have htimely : leg.timely replaced = true := by decide +kernel
  have hreserved : ((leg.run replaced).toOption.bind fun run => run.2.pair.history.reserved[2]?) =
      some (.cancelResubmitBothOutstanding 20) := by decide +kernel
  obtain ⟨trace, last, hrun⟩ := hruns htimely
  have hrun : leg.run replaced = .ok (trace, last) := hrun
  rw [hrun] at hreserved
  obtain ⟨hholds, -, honce⟩ := hstands trace last hrun
  exact ⟨trace, last, hrun, hholds, honce 2 _ hreserved⟩

end SplitReservations

end BoltV3.Quote
