import BoltV3.Taker.Calls

/-!
# An invariant rule for the handlers

Every handler is followed once, here, for an arbitrary property `P` of the state. A `CallRule` says
that `P` is kept by the calls of the exposure owner that a handler may make; the handlers of order
and position events make nothing but such calls. A `HandlerRule` adds the settlement transitions.

* A settlement transition is for the key of the managed position, which has neither of the two kinds
  of outcome in memory (`TakerState.Unsettled`).
* The bootstrap is a hypothesis of the rule, as what it recovers depends on what was made durable.
-/

namespace BoltV3.Taker

open Exit (InstrumentId)

/-! ## Rules -/

/-- A call that neither settles the exposure nor starts clean. -/
def ExposureCall.isPlain : ExposureCall → Bool
  | .observeSettlement | .observeCleanStart => false
  | _ => true

/-- `P` is kept by plain calls that are allowed. -/
structure CallRule (D : Discipline) (P : TakerState → Prop) : Prop where
  current : ∀ {s : TakerState} {pending : PendingEntryState}, P s →
    s.exposure.state.pendingEntryState = some pending → D.current pending
  call : ∀ {s : TakerState} {c : ExposureCall}, P s → D.Allows s.exposure c → c.isPlain = true →
    P (s.call c)

/-- The settlement key of a position. -/
def ManagedPositionContext.settlementKey (position : ManagedPositionContext) : Option String :=
  (predictionMarketProductId position.instrumentId).map fun product =>
    product ++ ":" ++ position.positionId

/-- The key is that of the managed position, and no outcome of it is known. -/
structure TakerState.Unsettled (s : TakerState) (key : String) : Prop where
  managed : ∃ position, s.exposure.state.managedPositionContext = some position ∧
    position.settlementKey = some key
  notSettled : key ∉ s.settledPositionKeys
  notError : key ∉ s.settlementBookingErrorKeys

/-- `P` is kept by the settlement transitions as well, under views that meet `V`. -/
structure HandlerRule (D : Discipline) (V : TakerView → Prop) (P : TakerState → Prop) : Prop
    extends CallRule D P where
  attempt : ∀ {s : TakerState} (key : String) (attempt : SettlementCloseFetchAttemptState), P s →
    P (s.insertCloseFetchAttempt key attempt)
  closeFetch : ∀ {s : TakerState} {key : String}, P s → s.Unsettled key →
    P (s.record (.closeFetch key))
  terminal : ∀ {s : TakerState} {view : TakerView} {transition : SettlementBookingErrorTransition}
    {fact : TerminalSettlementFact}, V view → P s → s.Unsettled fact.settlementKey →
    fact.bookingError.strategyId = view.strategyId →
    transition.keyDelta = ⟨fact.settlementKey, true, true, true⟩ →
    P (s.applyTerminalSettlementTransition view transition fact).2
  book : ∀ {s : TakerState} {view : TakerView} {booking : ResolutionSettlementBooking}
    (position : OpenPositionState) (tsEventNs : Nat), V view → P s →
    s.Unsettled booking.settlementKey →
    booking.keyDelta = ⟨booking.settlementKey, false, false, true⟩ →
    P (s.bookSettlement view position booking tsEventNs)

variable {D : Discipline} {V : TakerView → Prop} {P : TakerState → Prop} {s : TakerState}
  {view : TakerView}

open TakerState

/-! ## What handlers rely on -/

variable {instrumentId : InstrumentId} {pending : PendingEntryState} {position : OpenPositionState}
  {settle : BinaryRuntimeSettlementInput → BinaryRuntimeSettlementDecision}
  {input : ResolutionSettlementInput} {settled errors : Finset String}
  {reason : SettlementBookingErrorReason} {detail : String}

theorem heldMatch_eq (htrue : (s.eventInstrumentMatchesHeldExposure view instrumentId).1 = true) :
    (s.eventInstrumentMatchesHeldExposure view instrumentId).2 = s := by
  unfold eventInstrumentMatchesHeldExposure at *
  split at htrue
  · rfl
  · split_ifs at *
    rfl

/-- A pending entry is one of a state that is not blind. -/
theorem notBlind {owner : ExposureOwner}
    (hpending : owner.state.pendingEntryState = some pending) : owner.isBlindRecovery = false := by
  unfold ExposureOwner.isBlindRecovery
  split
  · rename_i reason hstate
    rw [hstate] at hpending
    cases hpending
  · rfl

theorem pendingContext (hpending : s.pendingEntryContextFor instrumentId = some pending) :
    s.exposure.state.pendingEntryState = some pending :=
  (Option.filter_eq_some_iff.mp hpending).1

theorem arms_sync (pending : PendingEntryState) :
    (s.syncExposureContextFromActive view).exposure.arms pending = s.exposure.arms pending := by
  have hlifecycle : ∀ lifecycle, (s.exposure.apply (.setTrackedLifecycle lifecycle)).arms pending =
      s.exposure.arms pending := by
    intro lifecycle
    have hoccupancy : (s.exposure.state.setTrackedLifecycle lifecycle).occupancy =
        s.exposure.state.occupancy := by
      unfold ExposureState.setTrackedLifecycle
      cases s.exposure.state with
      | entryRemainder remainder =>
        dsimp only
        split <;> rfl
      | _ => rfl
    simp only [ExposureOwner.apply, ExposureOwner.arms, ExposureOwner.armEntry, hoccupancy]
    split
    · rfl
    · split <;> rfl
  unfold syncExposureContextFromActive
  split
  · rfl
  · split_ifs
    · exact hlifecycle _
    · exact hlifecycle _
    · rfl

/-- The managed position is that of the owner. -/
theorem managedPosition_eq (h : s.managedPosition view = some position) :
    ∃ context, s.exposure.state.managedPositionContext = some context ∧
      context.settlementKey = settlementKeyForPosition position := by
  unfold managedPosition at h
  simp only [Option.bind_eq_bind, Option.bind_eq_some_iff] at h
  obtain ⟨context, hcontext, spec, -, hposition⟩ := h
  split_ifs at hposition
  cases hposition
  exact ⟨context, hcontext, rfl⟩

theorem unsettled_of_managed {key : String} (hposition : s.managedPosition view = some position)
    (hkey : settlementKeyForPosition position = some key)
    (hnot : ¬(key ∈ s.settledPositionKeys ∨ key ∈ s.settlementBookingErrorKeys)) :
    s.Unsettled key := by
  obtain ⟨context, hcontext, hsame⟩ := managedPosition_eq hposition
  rw [not_or] at hnot
  exact ⟨⟨context, hcontext, hsame.trans hkey⟩, hnot.1, hnot.2⟩

/-- **A booking is for the key of its position**, which has no outcome. -/
theorem tryBookResolutionSettlement_book {booking : ResolutionSettlementBooking}
    (h : tryBookResolutionSettlement settle input settled errors = .book booking) :
    booking.settlementKey = input.position.settlementKey ∧
      booking.keyDelta = ⟨booking.settlementKey, false, false, true⟩ ∧
      ¬(input.position.settlementKey ∈ settled ∨ input.position.settlementKey ∈ errors) := by
  unfold tryBookResolutionSettlement at h
  split at h
  · cases h
  · split_ifs at h with htick hterminal
    refine ⟨?_, ?_, hterminal⟩
    all_goals
      unfold bookLot at h
      split at h
      · cases h
      · split at h
        · cases h
        · dsimp only at h
          split at h
          · cases h
          · split at h
            · cases h
            · split at h
              · cases h
              · cases h
                rfl

/-- A booking error is decided before the keys are looked at only if the interval end is missing. -/
theorem tryBookResolutionSettlement_error
    (h : tryBookResolutionSettlement settle input settled errors = .bookingError reason detail)
    (hend : input.position.intervalEndMs.isSome) :
    input.position.intervalEndMs = some (input.resolutionTsNs / nanosPerMilli) ∧
      ¬(input.position.settlementKey ∈ settled ∨ input.position.settlementKey ∈ errors) := by
  unfold tryBookResolutionSettlement at h
  split at h
  · rename_i hnone
    rw [hnone] at hend
    cases hend
  · rename_i intervalEndMs hsome
    split_ifs at h with htick hterminal
    rw [not_not.mp htick] at hsome
    exact ⟨hsome, hterminal⟩

/-- A terminal booking error needs an interval end. -/
theorem decideSettlementBookingError_transition {position : SettlementPositionKey}
    {observedAtNs : Nat} {transition : SettlementBookingErrorTransition}
    (h : decideSettlementBookingError position reason detail observedAtNs errors =
      some (some transition)) :
    transition.eligibility.settlementKey = position.settlementKey ∧
      transition.keyDelta = ⟨position.settlementKey, true, true, true⟩ ∧
      position.intervalEndMs.isSome := by
  unfold decideSettlementBookingError terminalSettlementEligibility at h
  dsimp only at h
  split_ifs at h with hknown hend
  · cases h
  · simp only [Option.map_some, Option.some.injEq] at h
    subst h
    refine ⟨rfl, rfl, ?_⟩
    cases hsome : position.intervalEndMs with
    | none =>
      rw [hsome] at hend
      cases hend
    | some intervalEndMs => rfl
  · cases h

/-! ## Order and position events -/

namespace CallRule

section

variable (R : CallRule D P)

include R

theorem sync (h : P s) : P (s.syncExposureContextFromActive view) := by
  unfold syncExposureContextFromActive
  split
  · exact h
  · split_ifs
    · exact R.call h trivial rfl
    · exact R.call h trivial rfl
    · exact h

theorem performCancellation (h : P s) (effect : EntryCancellationEffect) :
    P (s.performEntryCancellationEffect view effect) := by
  cases effect with
  | route clientOrderId token =>
    unfold performEntryCancellationEffect
    dsimp only
    split
    · exact R.call h trivial rfl
    · exact R.call h trivial rfl
    · exact R.call h trivial rfl
    · exact h
  | _ => exact h

theorem releaseSettlement (h : P (s.call .observeSettlement)) : P (s.releaseBySettlement view) :=
  R.sync (R.performCancellation h _)

/-- What more calls do not change of the effects is kept as well. -/
theorem andEffects {Q : List TakerEffect → Prop}
    (hcall : ∀ effects c, Q effects → Q (effects ++ [.exposure c])) :
    CallRule D fun s => P s ∧ Q s.effects where
  current h hpending := R.current h.1 hpending
  call h hallowed hplain := ⟨R.call h.1 hallowed hplain, hcall _ _ h.2⟩

theorem quarantine (h : P s) (instrumentId : InstrumentId) :
    P (s.quarantineForeignVenueEvent view instrumentId).2 := by
  unfold quarantineForeignVenueEvent
  split_ifs
  · exact h
  · exact R.call h trivial rfl

theorem heldMatch (h : P s) (instrumentId : InstrumentId) :
    P (s.eventInstrumentMatchesHeldExposure view instrumentId).2 := by
  unfold eventInstrumentMatchesHeldExposure
  split
  · exact h
  · split_ifs
    · exact h
    · exact R.quarantine h instrumentId

theorem tryRelease (h : P s) (exit : ExitPendingState)
    (hexit : s.exposure.state.exitPendingSnapshot.isSome) :
    P (s.tryReleaseTerminalExit view exit).2 := by
  unfold tryReleaseTerminalExit
  split
  · exact h
  · split_ifs
    · exact h
    · split
      · exact h
      · exact h
      · exact R.sync (R.call h (c := .observeExitFlat) trivial rfl)
      · split
        · exact h
        · split_ifs
          · exact R.sync (R.call h (c := .observeExitResidual _) hexit rfl)
          · exact h

theorem reconcileExit (h : P s) (clientOrderId : String)
    (instrumentId : InstrumentId) (correction : BoltV3.Exit.BoltV3ExitOrderCorrection) :
    P (s.reconcileExitOrderLifecycle view clientOrderId instrumentId correction) := by
  unfold reconcileExitOrderLifecycle
  split
  · exact h
  · rename_i exit hexit
    by_cases hid : exit.pendingExit.clientOrderId ≠ clientOrderId
    · rw [if_pos hid]
      exact h
    · rw [if_neg hid]
      have hnext : P (s.eventInstrumentMatchesHeldExposure view instrumentId).2 := R.heldMatch h _
      have hsame := @heldMatch_eq s view instrumentId
      generalize s.eventInstrumentMatchesHeldExposure view instrumentId = event at hnext hsame ⊢
      obtain ⟨isMatch, s'⟩ := event
      cases isMatch with
      | false => exact hnext
      | true =>
        obtain rfl : s' = s := hsame rfl
        have hsome : s'.exposure.state.exitPendingSnapshot.isSome := by rw [hexit]; rfl
        simp only [Bool.not_true, Bool.false_eq_true, if_false]
        split
        · split_ifs
          · exact R.call h hexit rfl
          · exact h
        · exact R.tryRelease (R.call h (c := .observeExitTerminal exit) hexit rfl) exit rfl
        · split
          · exact R.sync (R.call h (c := .observeExitResidual _) hsome rfl)
          · exact R.sync (R.call h (c := .observeExitFlat) trivial rfl)
        · exact h

theorem reconcileCachedExit (h : P s) : P (s.reconcileCachedExitOrderOnTimer view) := by
  unfold reconcileCachedExitOrderOnTimer
  split
  · exact h
  · split
    · exact h
    · exact R.reconcileExit h _ _ _

theorem releaseOnTimer (h : P s) : P (s.releaseTerminalExitOnTimer view) := by
  unfold releaseTerminalExitOnTimer
  split
  · rename_i exit hstate
    exact R.tryRelease h exit (by rw [hstate]; rfl)
  · exact h

theorem materializeTruth (h : P s) (spec : PositionMaterializationSpec) :
    P (s.materializePositionFromTruth view spec) := by
  unfold materializePositionFromTruth
  have hnext : P (s.quarantineForeignVenueEvent view spec.instrumentId).2 := R.quarantine h _
  generalize s.quarantineForeignVenueEvent view spec.instrumentId = event at hnext ⊢
  obtain ⟨quarantined, s'⟩ := event
  dsimp only
  split_ifs
  · exact hnext
  · split
    · rename_i pending hpending
      have hsome := pendingContext hpending
      exact R.call hnext (c := .enterEntryReconcile _ _) ⟨notBlind hsome, R.current hnext hsome⟩ rfl
    · exact R.call hnext trivial rfl
  · exact R.performCancellation
      (R.call (R.call hnext (c := .setUnsupportedObserved _ _ _) trivial rfl)
      (c := .requestEntryRemainderCancellation) trivial rfl) _
  · refine R.sync ?_
    have hmaterialized := R.call hnext (c := .materializeSupportedPosition
      (view.buildOpenPositionState (s'.preservedContext spec)
        (s'.pendingEntryContextFor spec.instrumentId) spec
        (s'.pendingEntryContextFor spec.instrumentId).isSome).managedPositionContext
      ((s'.pendingEntryContextFor spec.instrumentId).any
        fun pending => view.entryOrderMayRemainWorking pending.clientOrderId)
      (.invalidLivePosition spec.entryOrderSide (some spec.side))) trivial rfl
    split
    · rename_i exit _ hlifecycle
      refine R.tryRelease hmaterialized exit ?_
      unfold ExposureState.exitPendingSnapshot
      rw [hlifecycle]
      rfl
    · exact hmaterialized

theorem materializeEvent (h : P s) (spec : PositionMaterializationSpec) :
    P (s.materializePositionFromEvent view spec).2 := by
  unfold materializePositionFromEvent
  have hnext : P (s.quarantineForeignVenueEvent view spec.instrumentId).2 := R.quarantine h _
  generalize s.quarantineForeignVenueEvent view spec.instrumentId = event at hnext ⊢
  obtain ⟨quarantined, s'⟩ := event
  dsimp only
  split_ifs
  · exact hnext
  · exact R.materializeTruth hnext spec
  · split
    · exact R.materializeTruth hnext _
    · exact hnext

theorem entryTruth (h : P s) (pending : PendingEntryState) (clientOrderId : String)
    (instrumentId : InstrumentId) (zeroFill : Bool) :
    P (s.entryTerminalPositionTruth view pending clientOrderId instrumentId zeroFill).2 := by
  unfold entryTerminalPositionTruth
  dsimp only
  split
  · exact h
  · split
    · exact h
    · split
      · exact h
      · exact h
      · rename_i spec _
        split_ifs
        · exact h
        · exact R.quarantine h spec.instrumentId
        · exact R.quarantine h spec.instrumentId
        · exact R.quarantine h spec.instrumentId

theorem resolveEntry (h : P s) (clientOrderId : String)
    (instrumentId : InstrumentId) (zeroFill : Bool) :
    P (s.resolvePendingEntryTerminalEvent view clientOrderId instrumentId zeroFill) := by
  unfold resolvePendingEntryTerminalEvent
  split
  · exact h
  · rename_i pending _
    dsimp only
    split_ifs
    · exact h
    · exact R.heldMatch h instrumentId
    · refine R.sync ?_
      exact R.call (R.entryTruth (R.heldMatch h instrumentId) pending clientOrderId instrumentId
        zeroFill) (c := .observeEntryTerminal _ _) trivial rfl

theorem reclassify (h : P s) : P (s.reclassifyUnreachablePendingEntry view) := by
  unfold reclassifyUnreachablePendingEntry
  split
  · split_ifs
    · exact h
    · exact R.call h trivial rfl
  · exact h

theorem fillUnmaterialized (h : P s) (event : OrderFilled)
    {pendingContext : Option PendingEntryState}
    (hpending : ∀ pending, pendingContext = some pending → D.current pending)
    (positionSide : Option PositionSide) :
    P (s.entryFillUnmaterialized event pendingContext positionSide) := by
  unfold entryFillUnmaterialized
  by_cases hblind : s.exposure.isBlindRecovery
  · rw [if_pos hblind]
    exact h
  · rw [if_neg hblind]
    split
    · rename_i pending
      exact R.call h (c := .enterEntryReconcile _ _)
        ⟨Bool.eq_false_iff.mpr hblind, hpending pending rfl⟩ rfl
    · exact R.call h trivial rfl

theorem entryFill (h : P s) (event : OrderFilled) : P (s.handleEntryFill view event) := by
  have hpending : ∀ pending, s.pendingEntryContextFor event.instrumentId = some pending →
      D.current pending := fun pending hcontext => R.current h (pendingContext hcontext)
  unfold handleEntryFill
  dsimp only
  split
  · split_ifs
    · exact R.heldMatch h _
    · exact R.heldMatch h _
    · exact R.resolveEntry (R.heldMatch h _) _ _ _
  · split
    · split_ifs
      · exact R.materializeEvent h _
      · exact R.fillUnmaterialized (R.materializeEvent h _) event hpending _
    · exact R.fillUnmaterialized h event hpending _

theorem filled (h : P s) (event : OrderFilled) : P (s.handleOrderFilled view event) := by
  unfold handleOrderFilled
  split_ifs
  · exact R.entryFill h event
  · dsimp only
    split_ifs
    · exact R.heldMatch h _
    · exact R.reconcileExit (R.heldMatch h _) _ _ _
  · exact h

theorem fillVoided (h : P s) (clientOrderId : String) (instrumentId : InstrumentId)
    (orderSide : OrderSide) :
    P (s.handleOrderFillVoided view clientOrderId instrumentId orderSide) := by
  unfold handleOrderFillVoided
  split_ifs
  · exact R.reconcileExit h _ _ _
  · exact R.call h trivial rfl
  · exact h

theorem positionClosed (h : P s) (positionId : String)
    (instrumentId : InstrumentId) : P (s.handlePositionClosed view positionId instrumentId) := by
  unfold handlePositionClosed
  dsimp only
  split_ifs
  · exact R.quarantine h _
  · have hnext : P (s.quarantineForeignVenueEvent view instrumentId).2 :=
      R.quarantine h instrumentId
    split
    · rename_i exit hlifecycle
      refine R.tryRelease hnext exit ?_
      unfold ExposureState.exitPendingSnapshot
      rw [(Option.filter_eq_some_iff.mp hlifecycle).1]
      rfl
    · exact hnext
    · split
      · exact R.materializeTruth hnext _
      · exact R.call hnext trivial rfl
      · exact R.performCancellation (R.call hnext (c := .observePositionClosed _ _) trivial rfl) _

theorem submitEntry (h : P s)
    (harm : ∀ pending, view.entryOrder = some pending → s.exposure.arms pending →
      D.arming pending ∧ D.current pending) : P (s.trySubmitEntryOrder view) := by
  unfold trySubmitEntryOrder
  split
  · rename_i pending hpending
    exact R.call h (c := .armEntry pending) (harm pending hpending) rfl
  · exact h

end

end CallRule

/-! ## Settlements and market data -/

namespace HandlerRule

section

variable (R : HandlerRule D V P)

include R

section

variable (hview : V view)

include hview

section

variable (h : P s)

include h

variable (position : OpenPositionState)

theorem recordBookingError {key : String}
    (hunsettled : position.lifecycle.intervalEndMs.isSome → s.Unsettled key)
    (reason : SettlementBookingErrorReason) (detail : String) (observedAtNs : Nat) :
    P (s.recordSettlementBookingError view position key reason detail observedAtNs).2 := by
  unfold recordSettlementBookingError
  split
  · exact h
  · exact h
  · rename_i transition hdecision
    obtain ⟨hkey, hdelta, hend⟩ := decideSettlementBookingError_transition hdecision
    refine R.terminal hview h ?_ rfl ?_
    · rw [hkey]
      exact hunsettled hend
    · rw [hkey]
      exact hdelta

theorem recordMissingIntervalEnd (observedAtNs : Nat) :
    P (s.recordMissingIntervalEndSettlementBookingError view position observedAtNs).2 := by
  unfold recordMissingIntervalEndSettlementBookingError
  split_ifs with hend
  · exact h
  · split
    · exact h
    · split_ifs
      · exact h
      · exact R.recordBookingError hview h position (fun hsome => absurd hsome hend) _ _ _

theorem retryCloseFetch {key : String} (hunsettled : s.Unsettled key) (intervalEndMs : Nat) :
    P (s.retrySettlementCloseFetchOrRecordTerminalFailure view position key intervalEndMs).2 := by
  have hinserted := R.attempt key (s.closeFetchAttempt key intervalEndMs) h
  have hstill : ∀ attempt, (s.insertCloseFetchAttempt key attempt).Unsettled key := fun _ =>
    ⟨hunsettled.managed, hunsettled.notSettled, hunsettled.notError⟩
  unfold retrySettlementCloseFetchOrRecordTerminalFailure
  dsimp only
  split_ifs
  · exact hinserted
  · exact R.recordBookingError hview hinserted position (fun _ => hstill _) _ _ _
  · split
    · exact R.closeFetch (R.attempt key _ hinserted)
        ⟨hunsettled.managed, hunsettled.notSettled, hunsettled.notError⟩
    · exact R.recordBookingError hview hinserted position (fun _ => hstill _) _ _ _
    · exact R.recordBookingError hview hinserted position (fun _ => hstill _) _ _ _

theorem marketEnd : P (s.checkResolutionFeedOutageAtMarketEnd view) := by
  unfold checkResolutionFeedOutageAtMarketEnd
  split
  · exact h
  · rename_i position hposition
    split
    · exact R.recordMissingIntervalEnd hview h _ _
    · split_ifs
      · exact h
      · split
        · exact h
        · rename_i key hkey
          split_ifs with hknown
          · exact h
          · exact R.retryCloseFetch hview h _ (unsettled_of_managed hposition hkey hknown) _

theorem trySettlement (tsEventNs : Nat) (value : F64) :
    P (s.tryBookSettlement view tsEventNs value) := by
  unfold tryBookSettlement
  split
  · exact h
  · rename_i position hposition
    split
    · exact h
    · rename_i key hkey
      split
      · exact h
      · rename_i hdecision
        exact R.recordBookingError hview h position (fun hend => unsettled_of_managed hposition hkey
          (tryBookResolutionSettlement_error hdecision hend).2) _ _ _
      · rename_i booking hdecision
        obtain ⟨hsame, hdelta, hknown⟩ := tryBookResolutionSettlement_book hdecision
        refine R.book position tsEventNs hview h ?_ hdelta
        rw [hsame]
        exact unsettled_of_managed hposition hkey hknown

theorem submitExit : P (s.trySubmitExitOrder view) := by
  unfold trySubmitExitOrder
  split
  rename_i recorded after hafter
  have hrecorded : P after := by
    split at hafter
    · rename_i position _
      have hmissing := R.recordMissingIntervalEnd hview h position (nowNs view.nowMs)
      rwa [hafter] at hmissing
    · cases hafter
      exact h
  dsimp only
  have hrequested := R.call hrecorded (c := .requestEntryRemainderCancellation) trivial rfl
  split_ifs
  · exact hrecorded
  · exact R.performCancellation hrequested _
  · split
    · exact R.call hrequested trivial rfl
    · exact hrequested

theorem selection : P (s.applySelectionSnapshot view) := by
  have hsynced :
      P ((s.syncExposureContextFromActive view).reclassifyUnreachablePendingEntry view) :=
    R.reclassify (R.sync h)
  unfold applySelectionSnapshot
  dsimp only
  split_ifs
  · exact R.submitExit hview hsynced
  · exact hsynced

theorem bookDeltas (matched : Bool)
    (harm : ∀ pending, view.entryOrder = some pending → s.exposure.arms pending →
      D.arming pending ∧ D.current pending) : P (s.handleBookDeltas view matched) := by
  have hsynced : P (s.syncExposureContextFromActive view) := R.sync h
  unfold handleBookDeltas
  dsimp only
  split_ifs
  · exact hsynced
  · split
    · exact R.submitExit hview hsynced
    · refine R.submitEntry hsynced fun pending hpending harms => harm pending hpending ?_
      rwa [arms_sync] at harms
    · exact hsynced

theorem signalQuote : P (s.handleSignalQuote view) := by
  have hsynced : P (s.syncExposureContextFromActive view) := R.sync h
  unfold handleSignalQuote
  dsimp only
  split_ifs
  · exact R.submitExit hview hsynced
  · exact hsynced

end

end

end

end HandlerRule

/-! ## Events -/

/-- The views of an event. -/
def TakerEvent.views : TakerEvent → List TakerView
  | .start bootstrap selection => [bootstrap, selection]
  | .timer _ selection reconcile release marketEnd => [selection, reconcile, release, marketEnd]
  | .signalQuote view | .indexPrice view _ _ | .referencePrice view | .bookDeltas view _
  | .orderFilled view _ | .orderFillVoided view _ _ _ | .orderCanceled view _ _
  | .orderExpired view _ _ | .orderRejected view _ _ | .orderDenied view _ _
  | .positionOpened view _ | .positionChanged view _ | .positionClosed view _ _ => [view]
  | .orderCancelRejected _ | .entrySubmitted _ _ | .exitSubmitted _ _ => []

/-- **Every event keeps `P`**, given that the bootstrap does, that an entry that is armed may be,
and that the settlement of an entry submission may. -/
theorem HandlerRule.handle (R : HandlerRule D V P) (h : P s) (event : TakerEvent)
    (hviews : ∀ view ∈ event.views, V view)
    (hbootstrap : ∀ bootstrap selection, event = .start bootstrap selection →
      P (s.bootstrapRecoveryFromCache bootstrap))
    (harm : ∀ view matched pending, event = .bookDeltas view matched →
      view.entryOrder = some pending → s.exposure.arms pending →
        D.arming pending ∧ D.current pending)
    (hsettle : ∀ capability settlement, event = .entrySubmitted capability settlement →
      D.settling) :
    P (s.handle event) := by
  cases event with
  | start bootstrap selection =>
    exact R.selection (hviews _ (by simp [TakerEvent.views])) (hbootstrap bootstrap selection rfl)
  | timer isSelectionTimer selection reconcile release marketEnd =>
    have hselected : P (if isSelectionTimer then s.applySelectionSnapshot selection else s) := by
      split_ifs
      · exact R.selection (hviews _ (by simp [TakerEvent.views])) h
      · exact h
    exact R.marketEnd (hviews _ (by simp [TakerEvent.views]))
      (R.releaseOnTimer (R.reconcileCachedExit hselected))
  | signalQuote view => exact R.signalQuote (hviews _ List.mem_cons_self) h
  | indexPrice view tsEventNs value =>
    exact R.sync (R.trySettlement (hviews _ List.mem_cons_self) h tsEventNs value)
  | referencePrice view => exact R.sync h
  | bookDeltas view matched =>
    exact R.bookDeltas (hviews _ List.mem_cons_self) h matched fun pending =>
      harm view matched pending rfl
  | orderFilled view event => exact R.filled h event
  | orderFillVoided view clientOrderId instrumentId orderSide => exact R.fillVoided h _ _ _
  | orderCancelRejected clientOrderId => exact R.call h trivial rfl
  | positionOpened view spec | positionChanged view spec => exact R.materializeEvent h spec
  | positionClosed view positionId instrumentId => exact R.positionClosed h _ _
  | entrySubmitted capability settlement =>
    exact R.call h (c := .settleEntryArm _ _) (hsettle capability settlement rfl) rfl
  | exitSubmitted capability settlement => exact R.call h (c := .settleExitAttempt _ _) trivial rfl
  | _ => exact R.reconcileExit (R.resolveEntry h _ _ _) _ _ _

/-! ## The handlers make only allowed calls -/

/-- The owner is what the calls made of `start`, and every call was allowed. -/
structure Conforms (D : Discipline) (start : ExposureOwner) (s : TakerState) : Prop where
  owner : s.exposure = start.applyAll s.calls
  allowed : D.AllowsAll start s.calls
  current : ∀ pending, s.exposure.state.pendingEntryState = some pending → D.current pending

namespace Conforms

variable {start : ExposureOwner} {t : TakerState}

open TakerState

theorem init (hcurrent : ∀ pending, s.exposure.state.pendingEntryState = some pending →
    D.current pending) (hcalls : s.calls = []) : Conforms D s.exposure s where
  owner := by rw [hcalls]; rfl
  allowed := by rw [hcalls]; trivial
  current := hcurrent

theorem congr (h : Conforms D start s) (howner : t.exposure = s.exposure)
    (hcalls : t.calls = s.calls) : Conforms D start t where
  owner := by rw [howner, hcalls, h.owner]
  allowed := hcalls ▸ h.allowed
  current := howner ▸ h.current

theorem call (h : Conforms D start s) {c : ExposureCall} (hallowed : D.Allows s.exposure c) :
    Conforms D start (s.call c) where
  owner := by
    rw [calls_call, ExposureOwner.applyAll, List.foldl_append, List.foldl_cons, List.foldl_nil]
    exact congrArg (·.apply c) h.owner
  allowed := by
    rw [calls_call, Discipline.allowsAll_append, ← h.owner]
    exact ⟨h.allowed, hallowed, trivial⟩
  current pending hpending := by
    rcases ExposureOwner.apply_pendingEntryState hpending with hkept | ⟨reason, rfl⟩ | ⟨rfl, harms⟩
    · exact h.current pending hkept
    · exact hallowed.2
    · exact (hallowed harms).2

theorem record (h : Conforms D start s) (effect : TakerEffect)
    (hnone : effect.exposureCall = none) : Conforms D start (s.record effect) :=
  h.congr rfl (by simp [TakerState.calls, TakerState.record, hnone])

theorem callRule : CallRule D (Conforms D start) :=
  ⟨fun h hpending => h.current _ hpending, fun h hallowed _ => h.call hallowed⟩

theorem releaseSettlement (h : Conforms D start s) :
    Conforms D start (s.releaseBySettlement view) :=
  callRule.releaseSettlement (h.call (c := .observeSettlement) trivial)

theorem keyDelta (h : Conforms D start s) (delta : SettlementTerminalKeyDelta) :
    Conforms D start (s.applyKeyDelta delta) :=
  h.congr rfl rfl

/-- **Conforming is kept by every handler**, whatever the views answer. -/
theorem rule : HandlerRule D (fun _ => True) (Conforms D start) where
  toCallRule := callRule
  attempt _ _ h := h.congr rfl rfl
  closeFetch h _ := h.record _ rfl
  terminal {s view transition fact} _ h _ _ _ := by
    have hreleased : Conforms D start (((s.record (.durable (.bookingTerminal fact))).applyKeyDelta
        transition.keyDelta).releaseBySettlement view) :=
      ((h.record (.durable (.bookingTerminal fact)) rfl).keyDelta
        transition.keyDelta).releaseSettlement
    unfold applyTerminalSettlementTransition
    split_ifs
    · exact h
    · exact hreleased.record _ rfl
    · exact hreleased
  book {s view booking} position tsEventNs _ h _ _ := by
    unfold TakerState.bookSettlement
    split
    · exact h
    · rename_i productId _
      have hkeyed : ∀ evidence, Conforms D start (((s.record (.durable (.successful
          evidence))).insertSettledPositionKey booking.settlementKey).applyKeyDelta
          booking.keyDelta) :=
        fun evidence => (h.record (.durable (.successful evidence)) rfl).congr rfl rfl
      dsimp only
      split_ifs
      · exact h
      · exact (hkeyed _).releaseSettlement
      · exact (hkeyed _).call (c := .enterBlindRecovery _) trivial

theorem recoverSettlements (h : Conforms D start s) (positions : List OpenPositionState) :
    Conforms D start (s.recoverSettlementBootstrapFromScope view positions).2 := by
  unfold recoverSettlementBootstrapFromScope
  split_ifs
  · exact h
  · split
    · exact h.call trivial
    · dsimp only
      split
      · exact h.call trivial
      · split_ifs
        · exact h.congr rfl rfl
        · exact h.call trivial

theorem bootstrap (h : Conforms D start s) :
    Conforms D start (s.bootstrapRecoveryFromCache view) := by
  unfold bootstrapRecoveryFromCache
  split
  · exact h.call trivial
  · dsimp only
    split_ifs
    · exact h.recoverSettlements _
    · split <;> exact (h.recoverSettlements _).call trivial

end Conforms

end BoltV3.Taker
