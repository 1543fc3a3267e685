import BoltV3.Guarantees.WindDown

/-!
# Reopened orders

An order that was terminal and is reopened is live again, so the leg must not submit another one
until a terminal refinement closes it. The mark of that is the status of the settlement. A lifecycle
event and an arm take the stable state out of the settlement, and the mark is lost with it; a second
order that is reopened shares the mark of the first.

* `reopenedIn` follows a run: whether an order was reopened and is not closed.
* `Undisturbed` is what keeps the mark: while an order is reopened the leg gets no lifecycle event,
  no arm of a positive generation, and no other order is reopened.
-/

namespace BoltV3.Quote

open Lib Action Requote
open GovernedQuoteTransactionCommit (noAction)
open QuoteReduction (done refused)
open MakerQuoteLifecycleRefinementEvent

/-- Whether an order is reopened after a call. A terminal refinement closes its order by its flag or
by its effect; missing truth and the retention horizon end the wait for it. -/
def reopenedAfter (order : MakerQuoteLifecycleIdentity) (reopened : Bool) (op : LegOp)
    (output : LegOutput) : Bool :=
  match op, output with
  | .refine ⟨identity, .reopened⟩, .refinement .applied => reopened || identity = order
  | .refine ⟨identity, .terminal stableEffect closesReopened⟩, .refinement .applied =>
    reopened && !(identity = order && (closesReopened || stableEffect.isSome))
  | .refine ⟨_, .retentionHorizon⟩, .refinement .applied => false
  | .reduce (.preSink .missingMoneyMovingTruth), _ => false
  | _, _ => reopened

/-- Whether an order is reopened after a run. -/
def reopenedIn (order : MakerQuoteLifecycleIdentity) (trace : List (LegOp × LegOutput)) : Bool :=
  trace.foldl (fun reopened entry => reopenedAfter order reopened entry.1 entry.2) false

/-- A call that keeps the mark of a reopened order. -/
def undisturbedBy (order : MakerQuoteLifecycleIdentity) : LegOp → Bool
  | .reduce (.preSink (.lifecycle _)) => false
  | .reduce (.preSink (.arm _ _ identity)) => identity.generation = 0
  | .refine ⟨identity, .reopened⟩ => identity = order
  | _ => true

/-- Every call that is made while an order is reopened keeps its mark. -/
def undisturbed (order : MakerQuoteLifecycleIdentity) (reopened : Bool) :
    List (LegOp × LegOutput) → Bool
  | [] => true
  | entry :: rest =>
    (!reopened || undisturbedBy order entry.1) &&
      undisturbed order (reopenedAfter order reopened entry.1 entry.2) rest

/-! ## Marks -/

/-- `ReopenedAwaitingRoute` or `Reopened`. -/
def QuoteSettlementStatus.isReopened : QuoteSettlementStatus → Bool
  | .awaitingRoute => false
  | .reopenedAwaitingRoute => true
  | .routeSettled _ => false
  | .reopened _ => true

namespace QuoteSettlementState

variable {settlement : QuoteSettlementState}

theorem reopen_reopened (h : settlement.reopen.2 = .ok ()) :
    settlement.reopen.1.status.isReopened = true := by
  obtain ⟨generation, status, stable⟩ := settlement
  unfold reopen at h ⊢
  cases status with
  | reopenedAwaitingRoute | reopened route => rfl
  | _ =>
    cases hcan : stable.canReopen with
    | true => rfl
    | false =>
      rw [hcan] at h
      cases h

variable (h : settlement.status.isReopened = true)

include h

theorem settleRoute_reopened (generation : Nat) (route : QuoteRouteSettlement) :
    (settlement.settleRoute generation route).1.status.isReopened = true := by
  unfold settleRoute
  split_ifs
  · split
    · rename_i hstatus
      rw [hstatus] at h
      cases h
    · rfl
    · rename_i hstatus
      rw [hstatus] at h
      cases h
    · split_ifs
      · exact h
      · exact h
  · exact h

/-- A reopened settlement is reopened again as it is. -/
theorem reopen_of_reopened : settlement.reopen = (settlement, .ok ()) := by
  obtain ⟨generation, status, stable⟩ := settlement
  cases status with
  | reopenedAwaitingRoute | reopened route => rfl
  | awaitingRoute | routeSettled route => cases h

theorem legState_of_reopened : settlement.legState = .cancelPending := by
  unfold legState
  split <;> rename_i hstatus <;> first | rfl | (rw [hstatus] at h; cases h)

end QuoteSettlementState

/-! ## Reductions of a marked leg -/

/-- A state with the mark. -/
def MarkedState (state : QuoteTransactionState) : Prop :=
  ∃ settlement, state = .settled settlement ∧ settlement.status.isReopened = true

/-- The mark is kept and nothing is submitted. -/
structure MarkedReduction (reduced : QuoteReduction) : Prop where
  state : MarkedState reduced.state
  action : ∀ commit, reduced.result = .ok commit → commit.action ≠ some .submit

variable {settlement : QuoteSettlementState} {generation : Nat}

section

variable (h : settlement.status.isReopened = true)

include h

theorem reduceSettlementReplay_marked (generation : Nat) (route : QuoteRouteSettlement) :
    MarkedReduction (reduceSettlementReplay (.settled settlement) generation route) := by
  refine ⟨⟨_, rfl, QuoteSettlementState.settleRoute_reopened h generation route⟩, ?_⟩
  intro commit hcommit
  change (settlement.settleRoute generation route).2.map (fun _ => noAction) = .ok commit at hcommit
  rcases hresult : (settlement.settleRoute generation route).2 with message | ⟨⟩ <;>
    rw [hresult] at hcommit
  · cases hcommit
  · cases hcommit
    nofun

theorem reduceWindDown_marked : Returns (reduceWindDown (.settled settlement)) MarkedReduction := by
  refine (reduceStableWindDown_quiet settlement.stable).bind ?_
  rintro ⟨stable, commit⟩ ⟨-, hquiet⟩
  refine .pure ⟨⟨_, rfl, h⟩, ?_⟩
  rintro _ ⟨⟩ hsubmit
  rcases hquiet with haction | haction <;> rw [haction] at hsubmit <;> cases hsubmit

theorem noAction_marked : MarkedReduction (done (.settled settlement) noAction) := by
  refine ⟨⟨settlement, rfl, h⟩, ?_⟩
  rintro _ ⟨⟩ ⟨⟩

/-- **An event that keeps the mark submits nothing.** -/
theorem QuoteTransactionReductionEvent.reduce_marked {inner : GovernedQuoteTransactionInner}
    (hstate : inner.state = .settled settlement)
    {order : MakerQuoteLifecycleIdentity} {event : QuoteTransactionReductionEvent}
    (hkeeps : undisturbedBy order (.reduce event) = true)
    (htruth : event ≠ .preSink .missingMoneyMovingTruth) :
    Returns (event.reduce inner) MarkedReduction := by
  unfold QuoteTransactionReductionEvent.reduce
  rw [hstate]
  rcases event with event | event
  · cases event with
    | lifecycle event => cases hkeeps
    | windDown => exact reduceWindDown_marked h
    | missingMoneyMovingTruth => exact absurd rfl htruth
    | arm proposal budgetProposal identity =>
      have hgeneration : identity.generation = 0 := of_decide_eq_true hkeeps
      change Returns (reduceArm (.settled settlement) proposal budgetProposal identity) _
      unfold reduceArm
      rw [if_pos hgeneration]
      refine .pure ⟨⟨settlement, rfl, h⟩, ?_⟩
      nofun
    | preSinkAbort generation | preSinkInvariantFailure generation =>
      exact .pure (reduceSettlementReplay_marked h _ _)
    | unwind => exact .pure (noAction_marked h)
  · cases event with
    | _ => exact .pure (reduceSettlementReplay_marked h _ _)

end

/-! ## Calls of a marked leg -/

/-- The leg has the mark of a reopened order, which is its owner. -/
def Marked (order : MakerQuoteLifecycleIdentity) (inner : GovernedQuoteTransactionInner) : Prop :=
  inner.terminalOwner = some order ∧ MarkedState inner.state

theorem Marked.legState {order : MakerQuoteLifecycleIdentity}
    {inner : GovernedQuoteTransactionInner}
    (h : Marked order inner) : inner.state.legState = .cancelPending := by
  obtain ⟨-, settlement, hstate, hstatus⟩ := h
  rw [hstate]
  exact QuoteSettlementState.legState_of_reopened hstatus

/-- A call that does not submit, and arms nothing. -/
structure BlockedCall (op : LegOp) (output : LegOutput) : Prop where
  action : output.action ≠ some .submit
  refused : ∀ proposal budgetProposal identity,
    op = .reduce (.preSink (.arm proposal budgetProposal identity)) →
    ∃ message, output = .reduction (.error message)

namespace GovernedQuoteTransactionInner

variable {inner : GovernedQuoteTransactionInner} {order : MakerQuoteLifecycleIdentity}

theorem refine_reopens (inner : GovernedQuoteTransactionInner)
    (event : MakerQuoteLifecycleRefinementEvent) (hevent : event.refinement = .reopened) :
    Returns (event.apply inner) fun applied =>
      applied.1 = .applied → Marked event.identity applied.2 := by
  have houtcome : (outcome event.identity inner
      (reduceReopened inner.state)).1 = .applied → Marked event.identity
        (outcome event.identity inner
          (reduceReopened inner.state)).2 := by
    rcases hstate : inner.state with stable | attempt | settlement
    · nofun
    · nofun
    · unfold outcome reduceReopened
      dsimp only
      rcases hresult : settlement.reopen.2 with message | ⟨⟩
      · nofun
      · intro _
        exact ⟨rfl, _, rfl, QuoteSettlementState.reopen_reopened hresult⟩
  unfold MakerQuoteLifecycleRefinementEvent.apply
  rw [hevent]
  split
  · rename_i hrefinement _
    cases hrefinement
  · exact .pure houtcome
  · exact .pure houtcome
  · rename_i hrefinement _
    cases hrefinement
  · refine .pure ?_
    nofun

theorem output_blocked {result : Except String GovernedQuoteTransactionCommit}
    (h : ∀ commit, result = .ok commit → commit.action ≠ some .submit) :
    (LegOutput.reduction result).action ≠ some .submit := by
  rcases result with message | commit
  · nofun
  · exact h commit rfl

/-- Missing truth submits nothing. -/
theorem apply_missingTruth (inner : GovernedQuoteTransactionInner) :
    Returns ((QuoteTransactionReductionEvent.preSink .missingMoneyMovingTruth).apply inner)
      fun applied => applied.1 = .ok noAction := by
  refine .bind (Q := fun reduced => reduced.result = .ok noAction) ?_ fun _ h => .pure h
  change Returns (reduceMissingMoneyMovingTruth inner.state) _
  rcases inner.state with stable | attempt | settlement
  · exact .pure rfl
  · exact .after fun _ => .pure rfl
  · exact .pure rfl

section

variable (h : Marked order inner)

include h

variable (event : QuoteTransactionReductionEvent)

/-- The owner of a marked leg is not changed by an event. -/
theorem terminalOwner_marked
    (next : QuoteTransactionState) : event.terminalOwner inner next = some order := by
  obtain ⟨howner, settlement, hstate, -⟩ := h
  unfold QuoteTransactionReductionEvent.terminalOwner
  rw [hstate]
  split <;> first | exact howner | (rename_i hidentity; cases hidentity)

theorem sinkInvoked_marked (generation actorNowMs : Nat) :
    (inner.sinkInvoked generation actorNowMs).2 = inner := by
  obtain ⟨-, settlement, hstate, -⟩ := h
  unfold sinkInvoked
  rw [hstate]

/-- A refinement of a marked leg that does not close its order. -/
theorem refine_marked {event : MakerQuoteLifecycleRefinementEvent}
    (hkeeps : undisturbedBy order (.refine event) = true) :
    Returns (event.apply inner) fun applied =>
      reopenedAfter order true (.refine event) (.refinement applied.1) = true →
      Marked order applied.2 := by
  obtain ⟨identity, refinement⟩ := event
  have hmarked := h
  obtain ⟨howner, settlement, hstate, hreopened⟩ := h
  have hauthority : authority identity inner =
      if order = identity then .exact else .inactive := by
    unfold authority
    rw [hstate, howner]
    simp only [Option.some.injEq, QuoteTransactionState.armedIdentity]
  unfold MakerQuoteLifecycleRefinementEvent.apply
  rw [hauthority]
  cases refinement with
  | reopened =>
    obtain rfl : identity = order := of_decide_eq_true hkeeps
    rw [if_pos rfl, hstate]
    refine .pure fun _ => ?_
    unfold outcome reduceReopened
    dsimp only
    rw [QuoteSettlementState.reopen_of_reopened hreopened]
    exact ⟨rfl, settlement, rfl, hreopened⟩
  | terminal stableEffect closesReopened =>
    by_cases horder : order = identity
    · subst horder
      rw [if_pos rfl, hstate]
      cases stableEffect with
      | none =>
        refine .pure fun hopen => ?_
        cases closesReopened with
        | true => simp [reopenedAfter, outcome, done] at hopen
        | false => exact ⟨rfl, settlement, rfl, hreopened⟩
      | some disposition =>
        have hterminal : Returns (reduceTerminal (.settled settlement) disposition)
            fun next => ∃ after, next = .settled after :=
          .after fun _ => .pure ⟨_, rfl⟩
        refine (hterminal.bind
          (R := fun reduced => ∃ commit, reduced.result = .ok commit) ?_).bind ?_
        · rintro _ ⟨after, rfl⟩
          exact .pure ⟨_, rfl⟩
        · rintro ⟨next, _⟩ ⟨commit, rfl⟩
          refine .pure fun hopen => ?_
          simp [reopenedAfter, outcome] at hopen
    · rw [if_neg horder]
      exact .pure fun _ => hmarked
  | retentionHorizon =>
    by_cases horder : order = identity
    · subst horder
      rw [if_pos rfl, hstate]
      refine .after fun _ => .pure ?_
      rintro ⟨⟩
    · rw [if_neg horder]
      exact .pure fun _ => hmarked

/-- What a marked leg does with an event that keeps the mark. -/
theorem apply_marked (hkeeps : undisturbedBy order (.reduce event) = true)
    (htruth : event ≠ .preSink .missingMoneyMovingTruth) :
    Returns (event.apply inner) fun applied => Marked order applied.2 ∧
      BlockedCall (.reduce event) (.reduction applied.1) := by
  have howner := terminalOwner_marked h event
  obtain ⟨-, settlement, hstate, hreopened⟩ := h
  refine ((event.reduce_marked hreopened hstate hkeeps htruth).and
    (event.reduce_arm_refused ?_)).bind ?_
  · rintro proposal budgetProposal identity rfl
    have hgeneration : identity.generation = 0 := of_decide_eq_true hkeeps
    refine ⟨inner.state, "quote lifecycle transaction generation must be positive", ?_⟩
    unfold reduceArm
    rw [if_pos hgeneration]
  · rintro reduced ⟨hmarked, harm⟩
    refine .pure ⟨⟨howner _, hmarked.state⟩, output_blocked hmarked.action, ?_⟩
    rintro proposal budgetProposal identity ⟨⟩
    obtain ⟨message, hmessage⟩ := harm proposal budgetProposal identity rfl
    exact ⟨message, congrArg LegOutput.reduction hmessage⟩

/-- **A call that keeps the mark.** -/
theorem call_marked {op : LegOp} (hkeeps : undisturbedBy order op = true) :
    Returns (inner.call op) fun called =>
      (reopenedAfter order true op called.1 = true → Marked order called.2) ∧
        BlockedCall op called.1 := by
  cases op with
  | reduce event =>
    by_cases htruth : event = .preSink .missingMoneyMovingTruth
    · subst htruth
      refine (apply_missingTruth inner).bind fun applied happlied => .pure ⟨?_, ?_, ?_⟩
      · nofun
      · rw [happlied]
        nofun
      · rintro _ _ _ ⟨⟩
    · exact (apply_marked h event hkeeps htruth).bind fun applied happlied =>
        .pure ⟨fun _ => happlied.1, happlied.2⟩
  | sinkInvoked generation actorNowMs =>
    have hsame := sinkInvoked_marked h generation actorNowMs
    refine .pure ⟨fun _ => hsame.symm ▸ h, ?_, ?_⟩
    · nofun
    · rintro _ _ _ ⟨⟩
  | refine event =>
    refine (refine_marked h hkeeps).bind fun applied happlied => .pure ⟨happlied, ?_, ?_⟩
    · nofun
    · rintro _ _ _ ⟨⟩
  | closeRetentionScope =>
    have hscope : Marked order { inner with retentionScopeClosed := true } := h
    refine (apply_marked hscope (.preSink .windDown) rfl nofun).bind
      fun applied happlied => .pure ⟨fun _ => happlied.1, happlied.2.action, ?_⟩
    rintro _ _ _ ⟨⟩

end

theorem call_reopens (inner : GovernedQuoteTransactionInner) (order : MakerQuoteLifecycleIdentity)
    (op : LegOp) :
    Returns (inner.call op) fun called => reopenedAfter order false op called.1 = true →
      Marked order called.2 := by
  cases op with
  | reduce event =>
    refine .after fun applied => .pure fun hopen => ?_
    unfold reopenedAfter at hopen
    split at hopen
    · rename_i hop _
      cases hop
    all_goals cases hopen
  | sinkInvoked generation actorNowMs =>
    refine .pure ?_
    nofun
  | refine event =>
    obtain ⟨identity, refinement⟩ := event
    cases refinement with
    | reopened =>
      refine (refine_reopens inner ⟨identity, .reopened⟩ rfl).bind fun applied happlied => .pure ?_
      intro hopen
      obtain ⟨outcome, next⟩ := applied
      cases outcome with
      | applied =>
        obtain rfl : identity = order := of_decide_eq_true hopen
        exact happlied rfl
      | unaffected event active | invalid event active => cases hopen
    | _ =>
      refine .after fun applied => .pure fun hopen => ?_
      obtain ⟨outcome, next⟩ := applied
      cases outcome <;> cases hopen
  | closeRetentionScope =>
    refine .after fun applied => .pure ?_
    nofun

end GovernedQuoteTransactionInner

/-! ## Runs -/

namespace QuoteLeg

variable {leg next last : QuoteLeg} {op : LegOp} {ops : List LegOp} {output : LegOutput}
  {trace : List (LegOp × LegOutput)} {order : MakerQuoteLifecycleIdentity} {reopened : Bool}

theorem step_marked (h : reopened = true → Marked order leg.inner)
    (hstep : leg.step op = .ok (output, next))
    (hkeeps : (!reopened || undisturbedBy order op) = true) :
    reopenedAfter order reopened op output = true → Marked order next.inner := by
  cases reopened with
  | false => exact (leg.inner.call_reopens order op).of_exec (step_eq_ok.mp hstep)
  | true =>
    exact ((GovernedQuoteTransactionInner.call_marked (h rfl) hkeeps).of_exec
      (step_eq_ok.mp hstep)).1

theorem run_marked (h : reopened = true → Marked order leg.inner)
    (hrun : leg.run ops = .ok (trace, last)) (hkeeps : undisturbed order reopened trace = true) :
    trace.foldl (fun reopened entry => reopenedAfter order reopened entry.1 entry.2) reopened =
      true →
      Marked order last.inner := by
  induction ops generalizing leg trace reopened with
  | nil =>
    cases hrun
    exact h
  | cons op ops ih =>
    obtain ⟨output, next, rest, hstep, hrest, rfl⟩ := run_cons hrun
    obtain ⟨hfirst, hothers⟩ := Bool.and_eq_true_iff.mp hkeeps
    have hlast := ih (step_marked h hstep hfirst) hrest hothers
    exact hlast

end QuoteLeg

/-- **A reopened order blocks submits**: in a run in which nothing disturbs the mark of a reopened
order, the leg of an order that is reopened and not closed reports neither `Idle` nor
`ReplacementPendingBackoff` and proposes no submit. The next call that does not disturb the mark
emits and arms none, and leaves the leg waiting for the cancel unless it closes the order. -/
theorem reopened_order_blocks_submits (leg : QuoteLeg) (ops : List LegOp)
    {trace : List (LegOp × LegOutput)} {last : QuoteLeg} {order : MakerQuoteLifecycleIdentity}
    (hrun : leg.run ops = .ok (trace, last)) (hkeeps : undisturbed order false trace = true)
    (hreopened : reopenedIn order trace = true) :
    last.inner.state.legState ≠ .idle ∧
    last.inner.state.legState ≠ .replacementPendingBackoff ∧
    (∀ side event proposal, last.inner.propose side event = some proposal →
      proposal.action ≠ .submit) ∧
    ∀ op output next, last.step op = .ok (output, next) → undisturbedBy order op = true →
      output.action ≠ some .submit ∧
      (∀ proposal budgetProposal identity,
        op = .reduce (.preSink (.arm proposal budgetProposal identity)) →
        ∃ message, output = .reduction (.error message)) ∧
      (reopenedAfter order true op output = true → next.inner.state.legState = .cancelPending) := by
  have hmarked : Marked order last.inner := QuoteLeg.run_marked (by rintro ⟨⟩) hrun hkeeps hreopened
  have hlegState := hmarked.legState
  refine ⟨by simp [hlegState], by simp [hlegState], ?_, ?_⟩
  · intro side event proposal hproposal
    unfold GovernedQuoteTransactionInner.propose at hproposal
    rw [hlegState] at hproposal
    split_ifs at hproposal
  · intro op output next hstep hop
    obtain ⟨hkept, hcall⟩ := (GovernedQuoteTransactionInner.call_marked hmarked hop).of_exec
      (QuoteLeg.step_eq_ok.mp hstep)
    exact ⟨hcall.action, hcall.refused, fun hstill => (hkept hstill).legState⟩

namespace ReopenedLeg

def leg : QuoteLeg := .fresh false (.new 9 1000 0) (.new 9 1000 0)

def order : MakerQuoteLifecycleIdentity := ⟨"O-1", 1⟩

def submit : QuoteLegTransitionProposal := ⟨.yes, .submit, .idle, .submitPending⟩

def budget (nowMs : Nat) : MakerQuoteBudgetProposal :=
  .reserve ⟨.oneShot ⟨nowMs, submitCommandCost, restCallCost⟩⟩

/-- An order is submitted, canceled and reopened. -/
def reopening : List LegOp :=
  [.reduce (.preSink (.arm submit (budget 10) order)), .sinkInvoked 1 10,
    .reduce (.sinkCapable (.submitted 1)), .refine ⟨order, .terminal (some .canceled) false⟩,
    .refine ⟨order, .reopened⟩]

/-- After a run: whether the order is reopened, the state that the leg reports, and what the last
call emitted. -/
def after (ops : List LegOp) : Option (Bool × LegState × Option LifecycleAction) :=
  match leg.run ops with
  | .error _ => none
  | .ok (trace, last) =>
    some (reopenedIn order trace, last.inner.state.legState,
      (trace.getLast?).bind fun entry => entry.2.action)

set_option maxRecDepth 8000 in
/-- **The mark of a reopened order is lost**: next to the reopened order a quote trigger submits, an
arm that was proposed before is accepted, a refused arm leaves the leg idle, and so does the end of
another order that was reopened in between. -/
theorem submits_next_to_the_reopened_order : after reopening = some (true, .cancelPending, none) ∧
    after (reopening ++ [.reduce (.preSink (.lifecycle (.quoteTrigger true)))]) =
      some (true, .submitPending, some .submit) ∧
    after (reopening ++ [.reduce (.preSink (.arm submit (budget 20) ⟨"O-2", 2⟩))]) =
      some (true, .submitPending, none) ∧
    after (reopening ++ [.reduce (.preSink (.arm submit (.prepaid 7 20) ⟨"O-2", 2⟩))]) =
      some (true, .idle, none) ∧
    after (reopening ++ [.refine ⟨⟨"O-0", 9⟩, .reopened⟩,
      .refine ⟨⟨"O-0", 9⟩, .terminal none true⟩]) = some (true, .idle, none) := by
  refine ⟨?_, ?_, ?_, ?_, ?_⟩ <;> decide +kernel

/-- The order is reopened; its submit is reported again, and another order is filled. -/
def replays : List LegOp :=
  reopening ++ [.reduce (.sinkCapable (.submitted 1)),
    .refine ⟨⟨"O-0", 9⟩, .terminal (some .filled) true⟩]

set_option maxRecDepth 8000 in
theorem blocks_submits_after_replays : ∃ trace last, leg.run replays = .ok (trace, last) ∧
    undisturbed order false trace = true ∧ reopenedIn order trace = true ∧
    last.inner.state.legState ≠ .idle := by
  have hrun : ∃ trace last, leg.run replays = .ok (trace, last) ∧
      undisturbed order false trace = true ∧ reopenedIn order trace = true := by
    refine ⟨_, _, rfl, ?_, ?_⟩ <;> decide +kernel
  obtain ⟨trace, last, hrun, hkeeps, hreopened⟩ := hrun
  exact ⟨trace, last, hrun, hkeeps, hreopened,
    (reopened_order_blocks_submits leg replays hrun hkeeps hreopened).1⟩

end ReopenedLeg

end BoltV3.Quote
