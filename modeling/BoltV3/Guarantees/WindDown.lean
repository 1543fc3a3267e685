import BoltV3.Quote.Reduce

/-!
# Legs that wind down

A wind-down may find the leg in any state: stable, with an attempt on either side of the sink, or
settled. From then on every reducer leaves the leg winding down and emits a cancel or nothing.
-/

namespace BoltV3.Quote

open Lib Action Requote GovernedQuoteTransactionInner
open Std (ExtTreeMap)
open GovernedQuoteTransactionCommit (noAction)
open QuoteReduction (done refused)
open MakerQuoteLifecycleRefinementEvent (outcome apply)

/-- A commit that cancels, or does nothing. -/
def GovernedQuoteTransactionCommit.Quiet (commit : GovernedQuoteTransactionCommit) : Prop :=
  commit.action = none ∨ commit.action = some .cancel

/-- The leg winds down, and what was emitted is at most a cancel. -/
structure QuoteReduction.Quiet (reduced : QuoteReduction) : Prop where
  windingDown : reduced.state.isWindingDown = true
  commit : ∀ commit, reduced.result = .ok commit → commit.Quiet

open QuoteReduction (Quiet)

theorem noAction_quiet : noAction.Quiet := .inl rfl

variable {state : QuoteTransactionState}

theorem done_quiet {commit : GovernedQuoteTransactionCommit}
    (hstate : state.isWindingDown = true) (hcommit : commit.Quiet) : (done state commit).Quiet := by
  refine ⟨hstate, ?_⟩
  rintro _ ⟨⟩
  exact hcommit

theorem refused_quiet {message : String}
    (hstate : state.isWindingDown = true) : (refused state message).Quiet := by
  refine ⟨hstate, ?_⟩
  nofun

theorem returns_noAction (h : state.isWindingDown = true) :
    Returns (pure (done state noAction) : Act QuoteReduction) Quiet :=
  .pure (done_quiet h noAction_quiet)

/-! ## Stable states -/

variable {stable : QuoteStableState} {generation : Nat}

theorem beginWindDown_quiet (mode : QuoteTransactionMode) :
    GovernedQuoteTransactionCommit.Quiet ⟨mode.beginWindDown⟩ := by
  cases mode with
  | active => exact .inr rfl
  | windingDown => exact .inl rfl

theorem reduceStableLifecycle_quiet (h : stable.isWindingDown = true) (event : LegEvent)
    (supportsModify : Bool) :
    Returns (reduceStableLifecycle stable event supportsModify) Quiet := by
  rcases stable with phase | phase | hold
  · cases h
  · refine .pure (done_quiet ?_ ?_)
    · cases phase <;> cases event <;> rfl
    · cases phase <;> cases event <;> first | exact .inl rfl | exact .inr rfl
  · exact returns_noAction h

/-- A wind-down of a stable state, whatever it was. -/
theorem reduceStableWindDown_quiet (stable : QuoteStableState) :
    Returns (reduceStableWindDown stable) fun result =>
      result.1.isWindingDown = true ∧ result.2.Quiet := by
  unfold reduceStableWindDown
  split
  · exact .pure ⟨rfl, noAction_quiet⟩
  · exact .pure ⟨rfl, noAction_quiet⟩
  · exact .pure ⟨rfl, noAction_quiet⟩
  · exact .after fun _ => .pure ⟨rfl, noAction_quiet⟩
  · exact .after fun _ => .pure ⟨rfl, noAction_quiet⟩
  · exact .pure ⟨rfl, .inr rfl⟩
  · exact .pure ⟨rfl, .inr rfl⟩
  · exact .pure ⟨rfl, .inr rfl⟩
  · exact .pure ⟨rfl, beginWindDown_quiet _⟩
  · exact .pure ⟨rfl, noAction_quiet⟩

theorem poisonStable_windingDown (h : stable.isWindingDown = true) :
    (poisonStable stable).isWindingDown = true := by
  rcases stable with phase | phase | hold
  · cases h
  · rfl
  · exact h

theorem terminalStable_windingDown (h : stable.isWindingDown = true)
    (disposition : MakerQuoteTerminalDisposition) :
    Returns (terminalStable stable disposition) fun after => after.isWindingDown = true := by
  rcases stable with phase | phase | ⟨mode, obligation, budget⟩
  · cases h
  · exact .pure rfl
  · cases mode with
    | active => cases h
    | windingDown => exact .after fun _ => .pure rfl

/-! ## Attempts -/

section

variable {arm : QuoteTransactionArm} {phase : QuoteAttemptPhase}

theorem poisonAttempt_windingDown {attempt : QuoteAttemptState}
    (h : attempt.mode.isWindingDown = true) :
    Returns (poisonAttempt attempt) fun stable => stable.isWindingDown = true := by
  obtain ⟨mode, arm, (_ | _) | _⟩ := attempt
  · exact .after fun _ => .pure h
  · exact .pure h
  · exact .after fun _ => .pure h

variable {mode : QuoteTransactionMode} (hmode : mode.isWindingDown = true)

include hmode

variable (budget : ArmedQuoteBudget)

theorem finishPreSinkAbort_quiet (generation : Nat) :
    Returns (finishPreSinkAbort mode arm budget generation) Quiet := by
  obtain ⟨⟩ | ⟨⟩ := mode
  · cases hmode
  cases budget with
  | reserved reservation =>
    refine .after ?_
    rintro (_ | _)
    · exact .pure (refused_quiet rfl)
    · exact returns_noAction rfl
  | prepaid prepaid => exact .after fun _ => returns_noAction rfl

theorem finishPreSinkInvariantFailure_quiet (generation : Nat) :
    Returns (finishPreSinkInvariantFailure mode arm budget generation) Quiet := by
  cases budget with
  | reserved reservation => exact .after fun _ => returns_noAction hmode
  | prepaid prepaid => exact returns_noAction hmode

variable (budget : SinkInvokedQuoteBudget)

theorem finishPostSinkFailure_quiet (generation : Nat) :
    Returns (finishPostSinkFailure mode arm budget generation) Quiet :=
  .after fun _ => returns_noAction hmode

theorem routeSuccessState_windingDown :
    Returns (routeSuccessState mode arm budget) fun stable => stable.isWindingDown = true := by
  obtain ⟨⟩ | ⟨⟩ := mode
  · cases hmode
  refine .after ?_
  rintro (_ | prepaid)
  · exact .pure rfl
  · exact .after fun _ => .pure rfl

theorem terminalAttempt_windingDown (disposition : MakerQuoteTerminalDisposition) :
    Returns (terminalAttempt ⟨mode, arm, phase⟩ disposition) fun stable =>
      stable.isWindingDown = true := by
  obtain ⟨⟩ | ⟨⟩ := mode
  · cases hmode
  rcases phase with (_ | _) | _
  · exact .after fun _ => .pure rfl
  · exact .after fun _ => .pure rfl
  · exact .after fun _ => .after fun _ => .pure rfl

end

/-! ## Settlements -/

variable (settlement : QuoteSettlementState)

theorem settleRoute_stable (generation : Nat)
    (route : QuoteRouteSettlement) : (settlement.settleRoute generation route).1.stable =
      settlement.stable := by
  unfold QuoteSettlementState.settleRoute
  split_ifs
  · split
    · rfl
    · rfl
    · split_ifs <;> rfl
    · split_ifs <;> rfl
  · rfl

theorem reopen_stable : settlement.reopen.1.stable = settlement.stable := by
  unfold QuoteSettlementState.reopen
  split <;> rfl

theorem quiet_of_map {result : Except String Unit} (hstate : state.isWindingDown = true) :
    QuoteReduction.Quiet ⟨state, result.map fun _ => noAction⟩ := by
  refine ⟨hstate, ?_⟩
  rintro commit hcommit
  rcases result with message | ⟨⟩
  · cases hcommit
  · cases hcommit
    exact noAction_quiet

theorem reduceReopened_quiet (h : state.isWindingDown = true) : (reduceReopened state).Quiet := by
  rcases state with stable | attempt | settlement
  · exact refused_quiet h
  · exact refused_quiet h
  · refine quiet_of_map ?_
    change settlement.reopen.1.stable.isWindingDown = true
    rw [reopen_stable]
    exact h

/-! ## Reducers -/

/-- **A wind-down makes the leg wind down.** -/
theorem reduceWindDown_quiet (state : QuoteTransactionState) :
    Returns (reduceWindDown state) Quiet := by
  rcases state with stable | attempt | settlement
  · exact (reduceStableWindDown_quiet stable).bind fun _ h => .pure (done_quiet h.1 h.2)
  · exact .pure (done_quiet rfl (beginWindDown_quiet _))
  · exact (reduceStableWindDown_quiet settlement.stable).bind fun _ h => .pure (done_quiet h.1 h.2)

section

variable (h : state.isWindingDown = true)

include h

theorem reduceLifecycle_quiet (event : LegEvent) (supportsModify : Bool) :
    Returns (reduceLifecycle state event supportsModify) Quiet := by
  rcases state with stable | attempt | settlement
  · exact reduceStableLifecycle_quiet h event supportsModify
  · exact returns_noAction h
  · have hstable : settlement.stable.isWindingDown = true := h
    exact reduceStableLifecycle_quiet hstable event supportsModify

theorem reduceMissingMoneyMovingTruth_quiet :
    Returns (reduceMissingMoneyMovingTruth state) Quiet := by
  rcases state with stable | attempt | settlement
  · exact returns_noAction (poisonStable_windingDown h)
  · exact (poisonAttempt_windingDown h).bind fun _ hstable => returns_noAction hstable
  · exact returns_noAction (poisonStable_windingDown h)

/-- **Every arm is refused.** -/
theorem reduceArm_refused (proposal : QuoteLegTransitionProposal)
    (budgetProposal : MakerQuoteBudgetProposal) (identity : MakerQuoteLifecycleIdentity) :
    ∃ restored message, restored.isWindingDown = true ∧
      reduceArm state proposal budgetProposal identity = pure (refused restored message) := by
  unfold reduceArm
  split_ifs
  · exact ⟨state, _, h, rfl⟩
  · rcases state with stable | attempt | settlement
    · cases stable with
      | active phase => cases h
      | windingDown phase | poisoned hold => exact ⟨_, _, h, rfl⟩
    · exact ⟨_, _, h, rfl⟩
    · obtain ⟨generation, status, stable⟩ := settlement
      cases stable with
      | active phase => cases h
      | windingDown phase => exact ⟨.stable (.windingDown phase), _, h, rfl⟩
      | poisoned hold => exact ⟨.stable (.poisoned hold), _, h, rfl⟩

theorem reduceUnwind_quiet : Returns (reduceUnwind state) Quiet := by
  rcases state with stable | ⟨mode, arm, budget | budget⟩ | settlement
  · exact returns_noAction h
  · exact finishPreSinkAbort_quiet h budget _
  · exact finishPostSinkFailure_quiet h budget _
  · exact returns_noAction h

/-- **Every route settlement.** -/
theorem RouteReduction.quiet {route : QuoteRouteSettlement} {reduction : Act QuoteReduction}
    (hroute : RouteReduction generation route state reduction) : Returns reduction Quiet := by
  cases hroute with
  | inert hinert =>
    rcases hinert with rfl | ⟨message, rfl⟩
    · exact returns_noAction h
    · exact .pure (refused_quiet h)
  | replayed settlement =>
    refine .pure (quiet_of_map ?_)
    change (settlement.settleRoute generation route).1.stable.isWindingDown = true
    rw [settleRoute_stable]
    exact h
  | @ended mode _ _ _ _ hend =>
    cases hend with
    | aborted budget => exact finishPreSinkAbort_quiet h budget generation
    | invariantFailed budget => exact finishPreSinkInvariantFailure_quiet h budget generation
    | failed budget => exact finishPostSinkFailure_quiet h budget generation
    | succeeded budget success =>
      exact (routeSuccessState_windingDown h budget).bind fun _ hstable => returns_noAction hstable
    | rejected budget message =>
      cases mode with
      | active => cases h
      | windingDown =>
        refine .after ?_
        rintro (_ | prepaid)
        · exact returns_noAction rfl
        · exact .pure (refused_quiet rfl)

variable (generation)

theorem reduceTerminal_windingDown (disposition : MakerQuoteTerminalDisposition) :
    Returns (reduceTerminal state disposition) fun next => next.isWindingDown = true := by
  rcases state with stable | ⟨mode, arm, phase⟩ | settlement
  · exact (terminalStable_windingDown h disposition).bind fun _ hstable => .pure hstable
  · exact (terminalAttempt_windingDown h disposition).bind fun _ hstable => .pure hstable
  · have hbefore : settlement.stable.isWindingDown = true := h
    exact (terminalStable_windingDown hbefore disposition).bind fun _ hstable => .pure hstable

theorem reduceTerminalRefinement_quiet
    (stableEffect : Option MakerQuoteTerminalDisposition) (closesReopened : Bool) :
    Returns (reduceTerminalRefinement state generation stableEffect closesReopened) Quiet := by
  have hretain : ∀ next : QuoteTransactionState, next.isWindingDown = true →
      Returns (retainTerminal next generation closesReopened) Quiet := by
    rintro (stable | attempt | settlement) hnext
    · exact returns_noAction hnext
    · exact .pure (refused_quiet hnext)
    · exact returns_noAction hnext
  cases stableEffect with
  | none => exact hretain state h
  | some disposition => exact (reduceTerminal_windingDown h disposition).bind hretain

end

/-- A reduction that is quiet, and an error for an arm. -/
def QuietReduction (event : QuoteTransactionReductionEvent) (reduced : QuoteReduction) : Prop :=
  reduced.Quiet ∧ ∀ proposal budgetProposal identity,
    event = .preSink (.arm proposal budgetProposal identity) →
    ∃ message, reduced.result = .error message

namespace QuoteTransactionReductionEvent

variable {inner : GovernedQuoteTransactionInner}

theorem reduce_arm_refused (event : QuoteTransactionReductionEvent)
    (hrefused : ∀ proposal budgetProposal identity,
      event = .preSink (.arm proposal budgetProposal identity) → ∃ restored message,
        reduceArm inner.state proposal budgetProposal identity = pure (refused restored message)) :
    Returns (event.reduce inner) fun reduced => ∀ proposal budgetProposal identity,
      event = .preSink (.arm proposal budgetProposal identity) →
      ∃ message, reduced.result = .error message := by
  by_cases harm : ∃ proposal budgetProposal identity,
      event = .preSink (.arm proposal budgetProposal identity)
  · obtain ⟨proposal, budgetProposal, identity, rfl⟩ := harm
    obtain ⟨restored, message, heq⟩ := hrefused proposal budgetProposal identity rfl
    change Returns (reduceArm inner.state proposal budgetProposal identity) _
    rw [heq]
    exact .pure fun _ _ _ _ => ⟨message, rfl⟩
  · refine (Returns.trivial _).mono ?_
    intro _ _ proposal budgetProposal identity hevent
    exact absurd ⟨proposal, budgetProposal, identity, hevent⟩ harm

/-- **Every event after the wind-down.** -/
theorem reduce_quiet (h : inner.state.isWindingDown = true)
    (event : QuoteTransactionReductionEvent) :
    Returns (event.reduce inner) (QuietReduction event) := by
  refine Returns.and ?_ (reduce_arm_refused event fun proposal budgetProposal identity _ => ?_)
  swap
  · obtain ⟨restored, message, -, heq⟩ := reduceArm_refused h proposal budgetProposal identity
    exact ⟨restored, message, heq⟩
  have hroute : ∀ (route : QuoteRouteSettlement) (generation : Nat),
      Returns ((route.event generation).reduce inner) Quiet :=
    fun route generation => (route.reduces generation inner).quiet h
  rcases event with event | event
  · cases event with
    | lifecycle event => exact reduceLifecycle_quiet h event _
    | windDown => exact reduceWindDown_quiet _
    | missingMoneyMovingTruth => exact reduceMissingMoneyMovingTruth_quiet h
    | arm proposal budgetProposal identity =>
      obtain ⟨restored, message, hrestored, heq⟩ :=
        reduceArm_refused h proposal budgetProposal identity
      change Returns (reduceArm inner.state proposal budgetProposal identity) _
      rw [heq]
      exact .pure (refused_quiet hrestored)
    | preSinkAbort generation => exact hroute .preSinkAbort generation
    | preSinkInvariantFailure generation => exact hroute .preSinkInvariantFailure generation
    | unwind => exact reduceUnwind_quiet h
  · cases event with
    | submitted generation => exact hroute .submitted generation
    | ntMutationInvoked generation => exact hroute .ntMutationInvoked generation
    | sinkRejected generation => exact hroute .sinkRejected generation
    | callbackRetired generation => exact hroute .callbackRetired generation
    | postSinkUnwind generation => exact hroute .postSinkInvariantFailure generation

end QuoteTransactionReductionEvent

/-! ## Calls -/

/-- A call is no arm that succeeds, and emits at most a cancel. -/
structure QuietCall (op : LegOp) (output : LegOutput) : Prop where
  action : output.action = none ∨ output.action = some .cancel
  refused : ∀ proposal budgetProposal identity,
    op = .reduce (.preSink (.arm proposal budgetProposal identity)) →
    ∃ message, output = .reduction (.error message)

namespace GovernedQuoteTransactionInner

variable {inner : GovernedQuoteTransactionInner} {event : QuoteTransactionReductionEvent}

theorem apply_quiet (h : Returns (event.reduce inner) (QuietReduction event)) :
    Returns (event.apply inner) fun applied => applied.2.state.isWindingDown = true ∧
      (∀ commit, applied.1 = .ok commit → commit.Quiet) ∧
      ∀ proposal budgetProposal identity,
        event = .preSink (.arm proposal budgetProposal identity) →
        ∃ message, applied.1 = .error message :=
  h.bind fun _ hreduced => .pure ⟨hreduced.1.windingDown, hreduced.1.commit, hreduced.2⟩

theorem output_quiet {result : Except String GovernedQuoteTransactionCommit}
    (h : ∀ commit, result = .ok commit → commit.Quiet) :
    (LegOutput.reduction result).action = none ∨
      (LegOutput.reduction result).action = some .cancel := by
  rcases result with message | commit
  · exact .inl rfl
  · exact h commit rfl

theorem call_reduce_quiet (h : Returns (event.reduce inner) (QuietReduction event)) :
    Returns (inner.call (.reduce event)) fun called =>
      called.2.state.isWindingDown = true ∧ QuietCall (.reduce event) called.1 := by
  refine (apply_quiet h).bind fun applied happlied => .pure ?_
  refine ⟨happlied.1, output_quiet happlied.2.1, ?_⟩
  rintro proposal budgetProposal identity ⟨⟩
  obtain ⟨message, hmessage⟩ := happlied.2.2 proposal budgetProposal identity rfl
  exact ⟨message, congrArg LegOutput.reduction hmessage⟩

section

variable (h : inner.state.isWindingDown = true)

include h

theorem refine_windingDown (event : MakerQuoteLifecycleRefinementEvent) :
    Returns (event.apply inner) fun applied => applied.2.state.isWindingDown = true := by
  have houtcome : ∀ {identity : MakerQuoteLifecycleIdentity} {reduced : QuoteReduction},
      reduced.Quiet → (outcome identity inner
        reduced).2.state.isWindingDown = true := by
    intro identity reduced hreduced
    unfold outcome
    split <;> exact hreduced.windingDown
  unfold apply
  split
  · exact (reduceTerminalRefinement_quiet _ h _ _).bind fun _ hreduced => .pure (houtcome hreduced)
  · exact .pure (houtcome (reduceReopened_quiet h))
  · exact .pure (houtcome (reduceReopened_quiet h))
  · split
    · exact (reduceStableWindDown_quiet _).bind fun _ hstable => .pure hstable.1
    · exact .pure h
  · exact .pure h

theorem sinkInvoked_windingDown (generation actorNowMs : Nat) :
    (inner.sinkInvoked generation actorNowMs).2.state.isWindingDown = true := by
  unfold sinkInvoked
  split
  · rename_i mode arm budget hstate
    split_ifs with hgeneration
    · rw [hstate] at h ⊢
      unfold commitSinkInvoked
      dsimp only
      rw [if_pos hgeneration]
      exact h
    · exact h
  · exact h

/-- **Every call keeps the leg winding down.** -/
theorem call_quiet (op : LegOp) :
    Returns (inner.call op) fun called =>
      called.2.state.isWindingDown = true ∧ QuietCall op called.1 := by
  cases op with
  | reduce event => exact call_reduce_quiet (event.reduce_quiet h)
  | sinkInvoked generation actorNowMs =>
    refine .pure ⟨sinkInvoked_windingDown h generation actorNowMs, .inl rfl, ?_⟩
    rintro _ _ _ ⟨⟩
  | refine event =>
    refine (refine_windingDown h event).bind fun applied happlied => .pure ⟨happlied, .inl rfl, ?_⟩
    rintro _ _ _ ⟨⟩
  | closeRetentionScope =>
    have hscope : ({ inner with retentionScopeClosed := true } :
      GovernedQuoteTransactionInner).state.isWindingDown = true := h
    refine (apply_quiet (QuoteTransactionReductionEvent.reduce_quiet hscope _)).bind
      fun applied happlied => .pure ⟨happlied.1, output_quiet happlied.2.1, ?_⟩
    rintro _ _ _ ⟨⟩

end

end GovernedQuoteTransactionInner

/-! ## Runs -/

namespace QuoteLeg

variable {leg next : QuoteLeg} {output : LegOutput}

theorem step_windDown (hstep : leg.step (.reduce (.preSink .windDown)) = .ok (output, next)) :
    next.inner.state.isWindingDown = true ∧
      QuietCall (.reduce (.preSink .windDown)) output := by
  refine Returns.of_exec (call_reduce_quiet ?_) (step_eq_ok.mp hstep)
  exact (reduceWindDown_quiet leg.inner.state).mono fun _ hreduced =>
    ⟨hreduced, by rintro _ _ _ ⟨⟩⟩

end QuoteLeg

/-- **Winding down is final**: after a wind-down of a leg in any state, and whatever is called then,
the leg is winding down, nothing but cancels was emitted, every arm was refused, and no transition
is proposed. -/
theorem winding_down_is_final (leg : QuoteLeg) (ops : List LegOp)
    {trace : List (LegOp × LegOutput)} {last : QuoteLeg}
    (hrun : leg.run (.reduce (.preSink .windDown) :: ops) = .ok (trace, last)) :
    last.inner.state.isWindingDown = true ∧
    (∀ entry ∈ trace,
      entry.2.action ≠ some .submit ∧ entry.2.action ≠ some .modify ∧
      ∀ proposal budgetProposal identity,
        entry.1 = .reduce (.preSink (.arm proposal budgetProposal identity)) →
        ∃ message, entry.2 = .reduction (.error message)) ∧
    ∀ side event, last.inner.propose side event = none := by
  obtain ⟨output, next, rest, hstep, hrest, rfl⟩ := QuoteLeg.run_cons hrun
  obtain ⟨hnext, hfirst⟩ := QuoteLeg.step_windDown hstep
  obtain ⟨hlast, hquiet⟩ := QuoteLeg.run_invariant
    (I := fun leg => leg.inner.state.isWindingDown = true) (G := QuietCall)
    (fun _ op _ _ hleg hstep => (call_quiet hleg op).of_exec (QuoteLeg.step_eq_ok.mp hstep)) hnext
    hrest
  refine ⟨hlast, ?_, ?_⟩
  · intro entry hentry
    have hcall : QuietCall entry.1 entry.2 := by
      rcases List.mem_cons.mp hentry with rfl | hentry
      · exact hfirst
      · exact hquiet entry hentry
    rcases hcall.action with haction | haction <;>
      rw [haction] <;> exact ⟨by simp, by simp, hcall.refused⟩
  · intro side event
    unfold propose
    rw [if_pos hlast]

namespace WindDownOfAnAttempt

/-- A leg that rests, with an attempt to modify its order. -/
def leg : QuoteLeg :=
  ⟨{ new true with
      state := .attempt ⟨.active, ⟨⟨"O-1", 2⟩, .resting, .modifyPending, .modify⟩,
        .armed (.reserved ⟨1, .refundable⟩)⟩ },
    { RequoteBudgetPairState.new (.new 4 1000 0) (.new 4 1000 0) with
      nextReservationGeneration := 1
      outstanding := (∅ : ExtTreeMap Nat OutstandingLiability).insert 1
        (.oneShot ⟨10, 0, restCallCost⟩) }⟩

/-- The attempt reaches the sink and succeeds; the order is replaced no more. -/
def ops : List LegOp :=
  [.sinkInvoked 2 20, .reduce (.sinkCapable (.ntMutationInvoked 2)),
    .reduce (.preSink (.lifecycle (.quoteTrigger true))),
    .reduce (.preSink (.arm ⟨.yes, .submit, .idle, .submitPending⟩ (.prepaid 1 30) ⟨"O-2", 3⟩)),
    .refine ⟨⟨"O-1", 2⟩, .terminal (some .canceled) true⟩]

set_option maxRecDepth 8000 in
theorem stays_winding_down : ∃ trace last,
    leg.run (.reduce (.preSink .windDown) :: ops) = .ok (trace, last) ∧
      last.inner.state.isWindingDown = true ∧
      ∀ side event, last.inner.propose side event = none := by
  have hok : (leg.run (.reduce (.preSink .windDown) :: ops)).toBool = true := by decide +kernel
  rcases hrun : leg.run (.reduce (.preSink .windDown) :: ops) with panic | ⟨trace, last⟩
  · rw [hrun] at hok
    cases hok
  · obtain ⟨hlast, -, hproposals⟩ := winding_down_is_final leg ops hrun
    exact ⟨trace, last, rfl, hlast, hproposals⟩

end WindDownOfAnAttempt

end BoltV3.Quote
