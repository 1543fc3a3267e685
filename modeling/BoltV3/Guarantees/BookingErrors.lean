import BoltV3.Guarantees.Settlements

/-!
# Booking errors that end a position

A settlement that cannot be booked is to leave a terminal outcome for its key and to release the
exposure. Without an interval end `terminal_settlement_eligibility` refuses the outcome, and the
position stays. While an exit is in flight `observe_settlement` leaves the release to the exit, by
design.

* An outcome is recorded exactly once if its key is durable once in every later journal, whatever
  handlers and restarts come after it.
-/

namespace BoltV3.Taker

open Lib

/-! ## The triggers -/

namespace TakerState

/-- An update leads to a booking error for the position, or the check at the market end finds no
interval end, while appends succeed. -/
def CannotBook (s : TakerState) (position : OpenPositionState) (settlementKey : String) :
    TakerEvent → Prop
  | .indexPrice view tsEventNs value =>
    view.appends ∧ s.managedPosition view = some position ∧
      ∃ reason detail, s.settlementDecision view position settlementKey tsEventNs value =
        .bookingError reason detail
  | .timer isSelectionTimer selection reconcile release marketEnd =>
    let s := if isSelectionTimer then s.applySelectionSnapshot selection else s
    marketEnd.appends ∧ position.lifecycle.intervalEndMs = none ∧
      ((s.reconcileCachedExitOrderOnTimer reconcile).releaseTerminalExitOnTimer release
        ).managedPosition marketEnd = some position
  | _ => False

/-! ## The outcome and the release -/

variable {s : TakerState} {view : TakerView} {position : OpenPositionState} {key : String}
  {tsEventNs : Nat} {value : F64}

theorem sync_flat (h : s.exposure.state = .flat) : s.syncExposureContextFromActive view = s := by
  unfold syncExposureContextFromActive
  rw [h]
  rfl

theorem setTrackedLifecycle_flat {state : ExposureState} {lifecycle : BoltV3PositionMarketLifecycle}
    (h : state.setTrackedLifecycle lifecycle = .flat) : state = .flat := by
  unfold ExposureState.setTrackedLifecycle at h
  cases state with
  | flat => rfl
  | entryRemainder remainder =>
    dsimp only at h
    split at h <;> cases h
  | _ => cases h

theorem flat_of_sync (h : (s.syncExposureContextFromActive view).exposure.state = .flat) :
    s.exposure.state = .flat := by
  unfold syncExposureContextFromActive at h
  split at h
  · exact h
  · split_ifs at h
    · exact setTrackedLifecycle_flat h
    · exact setTrackedLifecycle_flat h
    · exact h

theorem managedPosition_not_flat (h : s.managedPosition view = some position) :
    s.exposure.state ≠ .flat := by
  intro hflat
  obtain ⟨context, hcontext, -⟩ := managedPosition_eq h
  rw [hflat] at hcontext
  cases hcontext

/-- A settlement releases a managed position, and none that has an exit in flight. -/
theorem releaseBySettlement_flat {context : ManagedPositionContext}
    (h : s.exposure.state.managedPositionContext = some context) :
    (s.releaseBySettlement view).exposure.state = .flat ↔
      ∃ context, s.exposure.state = .managed context := by
  cases hstate : s.exposure.state with
  | managed context =>
    refine iff_of_true ?_ ⟨context, rfl⟩
    have hflat : (s.call .observeSettlement).exposure.state = .flat := by
      simp only [call, ExposureOwner.apply, ExposureOwner.reduceRelease,
        ExposureOwner.reduceReleaseState, hstate]
    unfold releaseBySettlement
    simp only [ExposureOwner.reduceRelease, ExposureOwner.reduceReleaseState, hstate,
      performEntryCancellationEffect]
    rw [sync_flat hflat, hflat]
  | exitAttempting _ | exitPending _ | terminalExitAwaitingPosition _ =>
    refine iff_of_false (fun hflat => ?_) (by rintro ⟨_, ⟨⟩⟩)
    unfold releaseBySettlement at hflat
    simp only [ExposureOwner.reduceRelease, ExposureOwner.reduceReleaseState, hstate,
      performEntryCancellationEffect] at hflat
    have hkept := flat_of_sync hflat
    simp only [call, ExposureOwner.apply, ExposureOwner.reduceRelease,
      ExposureOwner.reduceReleaseState, hstate] at hkept
    cases hkept
  | _ =>
    rw [hstate] at h
    cases h

/-- Calls of the owner make nothing durable. -/
theorem durablesRule (outcomes : List RecoveredSettlementOutcome) :
    CallRule .unrestricted fun s => durables s.effects = outcomes where
  current _ _ := trivial
  call h _ _ := (durables_snoc rfl [] _).trans h

/-- Without an interval end nothing is recorded. -/
theorem recordBookingError_endless (hend : position.lifecycle.intervalEndMs = none)
    (reason : SettlementBookingErrorReason) (detail : String) (observedAtNs : Nat) :
    (s.recordSettlementBookingError view position key reason detail observedAtNs).2 = s := by
  unfold recordSettlementBookingError
  split
  · rfl
  · rfl
  · rename_i transition hdecides
    have hsome := (decideSettlementBookingError_transition hdecides).2.2
    simp [settlementPositionKey, hend] at hsome

theorem marketEnd_endless (hposition : s.managedPosition view = some position)
    (hend : position.lifecycle.intervalEndMs = none) :
    (s.checkResolutionFeedOutageAtMarketEnd view).exposure.state ≠ .flat := by
  have hnotFlat := managedPosition_not_flat hposition
  unfold checkResolutionFeedOutageAtMarketEnd recordMissingIntervalEndSettlementBookingError
  simp only [hposition, hend, Option.isSome_none, Bool.false_eq_true, if_false]
  split
  · exact hnotFlat
  · split_ifs
    · exact hnotFlat
    · rw [recordBookingError_endless hend]
      exact hnotFlat

section

variable (hkey : settlementKeyForPosition position = some key)
  (hfails : s.CannotBook position key (.indexPrice view tsEventNs value))

include hkey hfails

theorem tryBookSettlement_endless (hend : position.lifecycle.intervalEndMs = none) :
    s.tryBookSettlement view tsEventNs value = s := by
  obtain ⟨-, hposition, reason, detail, hdecision⟩ := hfails
  unfold tryBookSettlement
  simp only [hposition, hkey, hdecision, recordBookingError_endless hend]

/-- **A booking error at the interval end is terminal**, and releases a managed position. -/
theorem tryBookSettlement_error (hend : position.lifecycle.intervalEndMs.isSome) :
    (∃ fact, fact.settlementKey = key ∧
      durables (s.tryBookSettlement view tsEventNs value).effects =
        durables s.effects ++ [.bookingTerminal fact]) ∧
    ((s.tryBookSettlement view tsEventNs value).exposure.state = .flat ↔
      ∃ context, s.exposure.state = .managed context) := by
  obtain ⟨happends, hposition, reason, detail, hdecision⟩ := hfails
  obtain ⟨htick, hknown⟩ := tryBookResolutionSettlement_error hdecision hend
  have htick : position.lifecycle.intervalEndMs = some (tsEventNs / nanosPerMilli) := htick
  have hrecord : decideSettlementBookingError (settlementPositionKey position key) reason detail
      tsEventNs s.settlementBookingErrorKeys = some (some ⟨⟨key, position.positionId, tsEventNs,
        .marketExpired⟩, reason, detail, ⟨key, true, true, true⟩⟩) := by
    unfold decideSettlementBookingError terminalSettlementEligibility
    rw [if_neg fun hmem => hknown (.inr hmem)]
    simp [settlementPositionKey, htick]
  unfold tryBookSettlement
  simp only [hposition, hkey, hdecision]
  unfold recordSettlementBookingError
  rw [hrecord]
  unfold applyTerminalSettlementTransition
  simp only [happends, Bool.not_true, Bool.false_eq_true, if_false]
  obtain ⟨context, hcontext, -⟩ := managedPosition_eq hposition
  refine ⟨⟨⟨key, ⟨view.strategyId, key, position.lifecycle.marketId, some position.positionId,
    some position.instrumentId, reason, detail, tsEventNs⟩⟩, rfl, ?_⟩, ?_⟩
  · split_ifs
    · exact (durables_snoc rfl [] _).trans ((durablesRule _).releaseSettlement
        ((durables_snoc rfl [] _).trans (durables_snoc_durable _ [] s.effects)))
    · exact (durablesRule _).releaseSettlement
        ((durables_snoc rfl [] _).trans (durables_snoc_durable _ [] s.effects))
  · split_ifs <;> exact releaseBySettlement_flat (s := TakerState.applyKeyDelta _ _) hcontext

end

end TakerState

/-! ## Every run -/

namespace SettlementSystem

variable {strategyId key : String} {s t : SettlementSystem} {event : TakerEvent}

/-- A durable outcome stays in the journal. -/
theorem durable_stays {steps : List SettlementStep} (hrun : Run (Step strategyId) s steps t)
    (h : key ∈ durableKeys s.journal) : key ∈ durableKeys t.journal :=
  hrun.invariant (I := fun s => key ∈ durableKeys s.journal) (fun s step t hmem hstep => by
    rw [hstep.next, durableKeys_append]
    exact List.mem_append_left _ hmem) h

/-- **A settlement that cannot be booked ends its position** exactly if the position has an interval
end and no exit is in flight: the step of a run that finds it leaves the exposure flat and appends a
terminal outcome for the key. The interval end is enough for the outcome, which stays the only one
of the key in every run of handlers and restarts. -/
theorem booking_error_ends_position {steps : List SettlementStep}
    (hrun : Run (Step strategyId) new steps s) (hstep : s.Step strategyId (.event event) t)
    (position : OpenPositionState) (hkey : settlementKeyForPosition position = some key)
    (hfails : (s.handler (.event event)).CannotBook position key event) :
    (t.taker.exposure.state = .flat ∧ (∃ fact, fact.settlementKey = key ∧
        durables t.journal = durables s.journal ++ [.bookingTerminal fact]) ↔
      position.lifecycle.intervalEndMs.isSome ∧
        ∃ context, s.taker.exposure.state = .managed context) ∧
    (position.lifecycle.intervalEndMs.isSome →
      (∃ fact, fact.settlementKey = key ∧
        durables t.journal = durables s.journal ++ [.bookingTerminal fact]) ∧
      ∀ more u, Run (Step strategyId) t more u → (durableKeys u.journal).count key = 1) := by
  cases event with
  | indexPrice view tsEventNs value =>
    have htaker : t.taker = (TakerState.tryBookSettlement view { s.taker with effects := [] }
        tsEventNs value).syncExposureContextFromActive view := by
      rw [hstep.next]
      rfl
    cases hend : position.lifecycle.intervalEndMs with
    | none =>
      refine ⟨iff_of_false (fun hends => ?_) nofun, nofun⟩
      have hflat := hends.1
      rw [htaker, TakerState.tryBookSettlement_endless (s := { s.taker with effects := [] }) hkey
        hfails hend] at hflat
      exact TakerState.managedPosition_not_flat (s := { s.taker with effects := [] }) hfails.2.1
        (TakerState.flat_of_sync hflat)
    | some intervalEndMs =>
      obtain ⟨⟨fact, hfact, hdurables⟩, hflat⟩ := TakerState.tryBookSettlement_error
        (s := { s.taker with effects := [] }) hkey hfails (Option.isSome_of_eq_some hend)
      have hjournal : durables t.journal = durables s.journal ++ [.bookingTerminal fact] := by
        rw [hstep.next, durables_append]
        exact congrArg (durables s.journal ++ ·)
          ((TakerState.durablesRule _).sync hdurables)
      refine ⟨⟨fun hends => ⟨rfl, hflat.mp ?_⟩, fun hmanaged => ⟨?_, fact, hfact, hjournal⟩⟩,
        fun _ => ⟨⟨fact, hfact, hjournal⟩, fun more u hmore => ?_⟩⟩
      · exact TakerState.flat_of_sync (htaker ▸ hends.1)
      · have hended := hflat.mpr hmanaged.2
        rw [htaker, TakerState.sync_flat hended, hended]
      · have hmem : key ∈ durableKeys t.journal := by
          unfold durableKeys
          rw [hjournal, ← hfact]
          simp [RecoveredSettlementOutcome.settlementKey]
        exact List.count_eq_one_of_mem (kept_run (hrun.append (.cons hstep hmore))).once
          (durable_stays hmore hmem)
  | timer isSelectionTimer selection reconcile release marketEnd =>
    obtain ⟨-, hend, hposition⟩ := hfails
    rw [hend]
    refine ⟨iff_of_false (fun hends => ?_) nofun, nofun⟩
    have hflat := hends.1
    rw [hstep.next] at hflat
    exact TakerState.marketEnd_endless hposition hend hflat
  | _ => exact hfails.elim

namespace UnbookedPosition

open BookAndRestart (after instrument step_event)

variable (lifecycle : BoltV3PositionMarketLifecycle)

/-- The entry of a market is filled, and an exit is decided. -/
def view : TakerView :=
  { BookAndRestart.view with
    entryOrder := some ⟨"entry", none, lifecycle, instrument⟩, exitOrder := some "exit" }

def quote : SettlementStep := .event (.bookDeltas (view lifecycle) true)

def fill : SettlementStep := .event (.positionOpened (view lifecycle) BookAndRestart.position)

/-- The update at the end of the first second. -/
def update : TakerEvent := .indexPrice (view lifecycle) 1000000000 ⟨2⟩

def timer : TakerEvent :=
  .timer false (view lifecycle) (view lifecycle) (view lifecycle) (view lifecycle)

def held : SettlementSystem := after (after new (quote lifecycle)) (fill lifecycle)

def position : OpenPositionState :=
  ⟨⟨instrument, "position", .buy, .long, ⟨5, 0⟩, ⟨0⟩⟩, lifecycle⟩

theorem quoted (s : SettlementSystem) :
    Step "taker" s (quote lifecycle) (after s (quote lifecycle)) :=
  step_event s _ rfl rfl fun _ _ => TakerEvent.noConfusion

theorem run_held : Run (Step "taker") new [quote lifecycle, fill lifecycle] (held lifecycle) :=
  .cons (quoted lifecycle new) (.single (step_event _ _ rfl rfl fun _ _ => TakerEvent.noConfusion))

def strikeless : BoltV3PositionMarketLifecycle :=
  ⟨some "market", some .up, none, some 1000, none, none⟩

def endless : BoltV3PositionMarketLifecycle :=
  ⟨some "market", some .up, some ⟨1⟩, none, none, none⟩

/-- Without a strike the position cannot be booked; its outcome is recorded once. -/
theorem strikeless_position_ends :
    let ended := after (held strikeless) (.event (update strikeless))
    ended.taker.exposure.state = .flat ∧ (durableKeys ended.journal).count "yes:position" = 1 :=
  have hends := booking_error_ends_position (run_held strikeless)
    (step_event (held strikeless) (update strikeless) rfl rfl fun _ _ => TakerEvent.noConfusion)
    (position strikeless) (by decide +kernel : _ = some "yes:position")
    ⟨rfl, rfl, .settlementInputInvalid, "settlement input missing strike price", rfl⟩
  ⟨(hends.1.mpr ⟨rfl, ⟨strikeless, instrument, "position"⟩, rfl⟩).1, (hends.2 rfl).2 [] _ (.nil _)⟩

/-- The settlement cannot be booked, but nothing is recorded and the position stays. -/
def Stays (s : SettlementSystem) (event : TakerEvent) : Prop :=
  (s.handler (.event event)).CannotBook (position endless) "yes:position" event ∧
  durableKeys (after s (.event event)).journal = [] ∧
  (after s (.event event)).taker.exposure.state.managedPositionContext.isSome

/-- Without an interval end nothing is recorded, by an update or at the market end, and the position
stays managed. -/
theorem position_is_not_released :
    Run (Step "taker") new [quote endless, fill endless] (held endless) ∧
    Stays (held endless) (update endless) ∧ Stays (held endless) (timer endless) := by
  refine ⟨run_held endless, ⟨⟨rfl, rfl, _, _, rfl⟩, ?_, ?_⟩, ⟨⟨rfl, rfl, rfl⟩, ?_, ?_⟩⟩
  all_goals decide +kernel

end UnbookedPosition

end SettlementSystem

end BoltV3.Taker
