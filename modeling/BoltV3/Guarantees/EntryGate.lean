import BoltV3.Taker.Venue

/-!
# The entry gate opens on nothing left

The exposure owner tracks one entry at a time. Every state of it that is not blind says something
about the entry orders at the venue: all but the newest are over, and the newest is the pending
entry, or is done and holds no position but the tracked one (`Backed`). In a flat state all are
over.
-/

namespace BoltV3.Taker

open Lib ExposureOwner ExposureState List
open Exit (InstrumentId)

variable {orders : List EntryOrder} {state : ExposureState} {owner : ExposureOwner}
  {position other : ManagedPositionContext} {pending : PendingEntryState}

/-! ## What a state says about the orders -/

/-- The newest entry order is that of the pending entry. -/
def IsNewest (orders : List EntryOrder) (pending : PendingEntryState) : Prop :=
  ∃ newest, orders.head? = some newest ∧ newest.IsFor pending

/-- Every order is done, and no position but this one is open. -/
def Tracks (orders : List EntryOrder) (position : ManagedPositionContext) : Prop :=
  ∀ order ∈ orders, order.progress.isDone ∧
    ∀ positionId, order.progress.openPosition = some positionId →
      order.HasOpen position.positionId position.instrumentId

/-- What a state says about the orders. -/
def Backs (orders : List EntryOrder) : ExposureState → Prop
  | .flat => ∀ order ∈ orders, order.Over
  | .pendingEntry arm => ∃ newest, orders.head? = some newest ∧ newest.IsFor arm.pending ∧
      newest.generation = arm.generation
  | .entryReconcilePending pending _ => IsNewest orders pending
  | .entryRemainder remainder => IsNewest orders remainder.pendingEntry
  | .managed position => Tracks orders position
  | .exitAttempting attempt => Tracks orders attempt.managed
  | .exitPending exit | .terminalExitAwaitingPosition exit =>
    ∃ position, exit.position = some position ∧ Tracks orders position
  | .unsupportedObserved observed => Tracks orders observed.context
  | .blindRecovery _ => True

/-- The orders are as the owner has it: unless it is blind, all but the newest are over. -/
structure Backed (orders : List EntryOrder) (owner : ExposureOwner) : Prop where
  older : owner.isBlindRecovery = false → ∀ order ∈ orders.tail, order.Over
  backs : Backs orders owner.state

/-! ## Positions -/

variable {newest : EntryOrder} {positionId : String} {instrumentId : InstrumentId} {keep : Bool}

theorem forall_of_newest {P : EntryOrder → Prop}
    (hnewest : orders.head? = some newest) (hfirst : P newest)
    (hrest : ∀ order ∈ orders.tail, P order) : ∀ order ∈ orders, P order := by
  cases orders with
  | nil => cases hnewest
  | cons first rest =>
    cases hnewest
    exact forall_mem_cons.mpr ⟨hfirst, hrest⟩

theorem Tracks.over (h : Tracks orders position) (hgone : ¬ position.IsOpen orders) :
    ∀ order ∈ orders, order.Over := by
  intro order hmem
  refine ⟨(h order hmem).1, ?_⟩
  cases hpos : order.progress.openPosition with
  | none => rfl
  | some positionId => exact absurd ⟨order, hmem, (h order hmem).2 positionId hpos⟩ hgone

/-- An open position is the tracked one. -/
theorem Tracks.of_isOpen (h : Tracks orders position) (hopen : other.IsOpen orders) :
    Tracks orders other := by
  obtain ⟨found, hfound, hid, hinstrument⟩ := hopen
  obtain ⟨hid', hinstrument'⟩ := (h found hfound).2 _ hid
  intro order hmem
  refine ⟨(h order hmem).1, fun positionId hpos => ?_⟩
  obtain ⟨hthis, hthis'⟩ := (h order hmem).2 positionId hpos
  refine ⟨?_, ?_⟩
  · rw [hthis, ← hid', hid]
  · rw [hthis', ← hinstrument', hinstrument]

section

variable (holder : ∀ order ∈ orders.tail, order.Over)

include holder

/-- An open position is that of the newest order. -/
theorem newest_of_isOpen (hnewest : orders.head? = some newest)
    (hopen : IsOpen orders positionId instrumentId) : newest.HasOpen positionId instrumentId := by
  obtain ⟨order, hmem, hhas⟩ := hopen
  cases orders with
  | nil => cases hmem
  | cons first rest =>
    cases hnewest
    rcases mem_cons.mp hmem with rfl | hrest
    · exact hhas
    · cases (holder order hrest).2.symm.trans hhas.1

/-- A pending entry whose order is done is the tracked position. -/
theorem IsNewest.tracks (h : IsNewest orders pending)
    (hdone : ∀ order ∈ orders, order.clientOrderId = pending.clientOrderId → order.progress.isDone)
    (hopen : position.IsOpen orders) : Tracks orders position := by
  obtain ⟨newest, hnewest, hfor⟩ := h
  refine forall_of_newest hnewest ⟨hdone newest (mem_of_mem_head? hnewest) hfor.1, ?_⟩ ?_
  · exact fun _ _ => newest_of_isOpen holder hnewest hopen
  · intro order hmem
    refine ⟨(holder order hmem).1, fun positionId hpos => ?_⟩
    rw [(holder order hmem).2] at hpos
    cases hpos

/-- A pending entry whose order is done and holds no position is over. -/
theorem IsNewest.over (h : IsNewest orders pending)
    (hdone : ∀ order ∈ orders, order.clientOrderId = pending.clientOrderId → order.progress.isDone)
    (hnone : ∀ order ∈ orders, order.clientOrderId = pending.clientOrderId →
      order.progress.openPosition = none) : ∀ order ∈ orders, order.Over := by
  obtain ⟨newest, hnewest, hfor⟩ := h
  have hmem := mem_of_mem_head? hnewest
  exact forall_of_newest hnewest ⟨hdone newest hmem hfor.1, hnone newest hmem hfor.1⟩ holder

/-- What is asked of a position that is materialized for the pending entry. -/
theorem TruthfulPosition.tracks (h : TruthfulPosition orders owner position keep)
    (hblind : owner.isBlindRecovery = false) (hkeep : keep = false)
    (hpending : owner.state.pendingEntryState = some pending) (hnewest : IsNewest orders pending) :
    Tracks orders position := by
  obtain ⟨hopen, hdone⟩ := h hblind
  refine hnewest.tracks holder (hdone hkeep pending hpending ?_) hopen
  obtain ⟨newest, hhead, -, hinstrument⟩ := hnewest
  rw [← hinstrument, (newest_of_isOpen holder hhead hopen).2]

end

/-! ## One call -/

/-- A remainder stays one of the same entry. -/
theorem backs_entryCancellation (remainder : EntryRemainderState)
    (h : IsNewest orders remainder.pendingEntry) :
    Backs orders (.entryRemainder (entryCancellationEffect remainder).1) := by
  have hentry := pendingEntryState_entryCancellationEffect remainder
  exact show IsNewest orders _ from hentry ▸ h

section

variable (h : Backs orders state)

include h

/-- The pending entry of a state is the newest order. -/
theorem Backs.isNewest (hpending : state.pendingEntryState = some pending) :
    IsNewest orders pending := by
  cases state with
  | pendingEntry arm =>
    cases hpending
    obtain ⟨newest, hnewest, hfor, -⟩ := h
    exact ⟨newest, hnewest, hfor⟩
  | entryReconcilePending current reason | entryRemainder remainder =>
    cases hpending
    exact h
  | _ => cases hpending

/-- The managed position of a state is the tracked one. -/
theorem Backs.tracks (hposition : state.managedPositionContext = some position) :
    Tracks orders position := by
  cases state with
  | managed current | exitAttempting attempt =>
    cases hposition
    exact h
  | exitPending exit | terminalExitAwaitingPosition exit =>
    obtain ⟨current, hcurrent, htracks⟩ := h
    cases hcurrent.symm.trans hposition
    exact htracks
  | _ => cases hposition

/-- So is the position of an exit. -/
theorem Backs.exitPosition {exit : ExitPendingState}
    (hexit : state.exitPendingSnapshot = some exit) :
    ∃ position, exit.position = some position ∧ Tracks orders position := by
  cases state with
  | exitAttempting attempt =>
    cases hexit
    exact ⟨attempt.managed, rfl, h⟩
  | exitPending current | terminalExitAwaitingPosition current =>
    cases hexit
    exact h
  | _ => cases hexit

theorem backs_resolveEntryTerminal
    (holder : ∀ order ∈ orders.tail, order.Over) {clientOrderId : String}
    {truth : EntryTerminalPositionTruth}
    (hdone : ∀ order ∈ orders, order.clientOrderId = clientOrderId → order.progress.isDone)
    (htruth : truth.Holds orders clientOrderId) :
    Backs orders (state.resolveEntryTerminal clientOrderId truth).1 := by
  have hunmaterialized : ∀ pending : PendingEntryState, IsNewest orders pending →
      pending.clientOrderId = clientOrderId →
      Backs orders (resolveUnmaterializedEntryTerminal pending truth).1 := by
    rintro pending hnewest rfl
    cases truth with
    | zeroFill => exact hnewest.over holder hdone htruth
    | canonicallyFlat | unresolved reason => exact hnewest
    | _ =>
      simp only [resolveUnmaterializedEntryTerminal]
      split_ifs
      · exact hnewest.tracks holder hdone htruth
      · exact hnewest
  unfold resolveEntryTerminal
  cases state with
  | pendingEntry arm =>
    dsimp only
    split_ifs with hid
    · exact hunmaterialized _ (h.isNewest rfl) hid
    · exact h
  | entryReconcilePending pending reason =>
    dsimp only
    split_ifs with hid
    · exact hunmaterialized _ h hid
    · exact h
  | entryRemainder remainder =>
    dsimp only
    split_ifs with hid
    · subst hid
      have hnewest : IsNewest orders remainder.pendingEntry := h
      cases truth with
      | zeroFill =>
        simp only [resolveRemainderTerminal]
        split_ifs
        · exact hnewest.over holder hdone htruth
        · exact h
      | canonicallyFlat => exact hnewest.over holder hdone htruth
      | unresolved reason => exact h
      | _ =>
        simp only [resolveRemainderTerminal]
        split_ifs
        · exact hnewest.tracks holder hdone htruth
        · exact h
    · exact h
  | _ => exact h

theorem backs_reducePositionClosed (hgone : ¬ IsOpen orders positionId instrumentId) :
    Backs orders (state.reducePositionClosed positionId instrumentId).1 := by
  have hover : ∀ position : ManagedPositionContext, Tracks orders position →
      position.isFor positionId instrumentId → ∀ order ∈ orders, order.Over := by
    intro position htracks hfor
    simp only [ManagedPositionContext.isFor, Bool.and_eq_true, decide_eq_true_eq] at hfor
    obtain ⟨rfl, rfl⟩ := hfor
    exact htracks.over hgone
  unfold reducePositionClosed
  cases state with
  | entryReconcilePending pending reason =>
    dsimp only
    split_ifs
    · exact h
    · exact h
  | entryRemainder remainder =>
    dsimp only
    split_ifs
    · exact backs_entryCancellation { remainder with position := .canonicallyFlat } h
    · exact h
  | managed position =>
    dsimp only
    split_ifs with hfor
    · exact hover position h hfor
    · exact h
  | unsupportedObserved observed =>
    dsimp only
    split_ifs with hfor
    · exact hover observed.context h hfor
    · exact h
  | _ => exact h

theorem backs_setTrackedLifecycle (lifecycle : BoltV3PositionMarketLifecycle) :
    Backs orders (state.setTrackedLifecycle lifecycle) := by
  cases state with
  | exitPending exit | terminalExitAwaitingPosition exit =>
    obtain ⟨position, hposition, htracks⟩ := h
    exact ⟨{ position with lifecycle := lifecycle }, by rw [hposition]; rfl, htracks⟩
  | entryRemainder remainder =>
    simp only [setTrackedLifecycle]
    split <;> exact h
  | _ => exact h

end

theorem backs_exitFlat (h : Backs orders owner.state) (hgone : TrackedGone orders owner) :
    Backs orders (reduceReleaseState owner.state .exitFlat).1 := by
  obtain ⟨state, nextEntry, nextExit⟩ := owner
  cases state with
  | exitAttempting attempt => exact Tracks.over h (hgone _ rfl)
  | exitPending exit | terminalExitAwaitingPosition exit =>
    obtain ⟨position, hposition, htracks⟩ := h
    exact htracks.over (hgone position hposition)
  | _ => exact h

theorem backs_settlement (h : Backs orders owner.state) (hgone : TrackedGone orders owner) :
    Backs orders (reduceReleaseState owner.state .settlement).1 := by
  obtain ⟨state, nextEntry, nextExit⟩ := owner
  cases state with
  | entryRemainder remainder =>
    exact backs_entryCancellation { remainder with position := .canonicallyFlat } h
  | managed position | unsupportedObserved observed => exact Tracks.over h (hgone _ rfl)
  | _ => exact h

/-- A refused entry leaves the owner. -/
theorem ExposureOwner.armEntry_refused (h : owner.arms pending = false) :
    (owner.armEntry pending).2 = owner := by
  unfold arms at h
  unfold armEntry at *
  split at h
  · rfl
  · split at h
    · rfl
    · cases h

/-- The entries of a run are those of the orders, and none is armed or settled. -/
def entryDiscipline (orders : List EntryOrder) : Discipline :=
  ⟨IsNewest orders, fun _ => False, False⟩

section

variable (h : Backs orders owner.state) (hblind : owner.isBlindRecovery = false)
  (holder : ∀ order ∈ orders.tail, order.Over)

include h hblind holder

theorem backs_observeEntry {managed : ManagedPositionContext} {position : EntryRemainderPosition}
    {observed : ExposureState} (htruth : TruthfulPosition orders owner managed keep)
    (hpending : owner.state.pendingEntryState = some pending)
    (hobserved : Tracks orders managed → Backs orders observed) :
    Backs orders (observeEntry pending keep position observed) := by
  have hnewest := h.isNewest hpending
  cases keep with
  | true => exact hnewest
  | false => exact hobserved (htruth.tracks holder hblind rfl hpending hnewest)

theorem backs_materialize {managed : ManagedPositionContext}
    (htruth : TruthfulPosition orders owner managed keep) (reason : BlindRecoveryReason) :
    Backs orders (owner.state.materializeSupportedPosition managed keep reason).1 := by
  obtain ⟨state, nextEntry, nextExit⟩ := owner
  have hopen := (htruth hblind).1
  unfold materializeSupportedPosition
  cases state with
  | pendingEntry arm | entryReconcilePending pending current =>
    dsimp only
    split_ifs
    · exact backs_observeEntry h hblind holder htruth rfl id
    · trivial
  | entryRemainder remainder =>
    dsimp only
    split_ifs
    · exact h
    · trivial
  | managed current | exitAttempting attempt | unsupportedObserved current =>
    dsimp only
    split_ifs
    · exact Tracks.of_isOpen h hopen
    · trivial
  | flat | blindRecovery current => trivial
  | _ =>
    obtain ⟨position, hposition, htracks⟩ := h
    dsimp only
    split_ifs
    · exact ⟨managed, rfl, htracks.of_isOpen hopen⟩
    · trivial

theorem backs_setUnsupportedObserved {unsupported : UnsupportedObservedState}
    (htruth : TruthfulPosition orders owner unsupported.context keep)
    (reason : BlindRecoveryReason) :
    Backs orders (owner.state.setUnsupportedObserved unsupported keep reason) := by
  obtain ⟨state, nextEntry, nextExit⟩ := owner
  have hopen := (htruth hblind).1
  unfold setUnsupportedObserved
  cases state with
  | pendingEntry arm | entryReconcilePending pending current =>
    dsimp only
    split_ifs
    · exact backs_observeEntry h hblind holder htruth rfl id
    · trivial
  | entryRemainder remainder =>
    dsimp only
    split_ifs with hmatches hkeep
    · exact h
    · exact htruth.tracks holder hblind (Bool.eq_false_iff.mpr hkeep) rfl h
    · trivial
  | managed current | unsupportedObserved current =>
    dsimp only
    split_ifs
    · exact Tracks.of_isOpen h hopen
    · trivial
  | flat | blindRecovery current => trivial
  | _ =>
    dsimp only
    split_ifs
    · exact h
    · trivial

/-- **A truthful call keeps what the state says**, if it is one that the handlers make. -/
theorem backs_apply {c : ExposureCall}
    (hallowed : (entryDiscipline orders).Allows owner c) (htruth : Truthful orders owner c) :
    Backs orders (owner.apply c).state := by
  cases c with
  | armEntry pending =>
    have hfails : owner.arms pending = false :=
      Bool.eq_false_iff.mpr fun harms => (hallowed harms).1
    rwa [apply, armEntry_refused hfails]
  | settleEntryArm capability settlement => cases hallowed
  | enterEntryReconcile pending reason => exact hallowed.2
  | reclassifyPendingEntry reason =>
    obtain ⟨state, nextEntry, nextExit⟩ := owner
    cases state with
    | pendingEntry arm => exact h.isNewest rfl
    | _ => exact h
  | enterBlindRecovery reason => trivial
  | observeCleanStart => exact htruth
  | observeEntryTerminal clientOrderId truth =>
    exact backs_resolveEntryTerminal h holder htruth.1 htruth.2
  | materializeSupportedPosition managed keep reason =>
    exact backs_materialize h hblind holder htruth reason
  | setUnsupportedObserved unsupported keep reason =>
    exact backs_setUnsupportedObserved h hblind holder htruth reason
  | observePositionClosed positionId instrumentId => exact backs_reducePositionClosed h htruth
  | requestEntryRemainderCancellation =>
    obtain ⟨state, nextEntry, nextExit⟩ := owner
    cases state with
    | entryRemainder remainder => exact backs_entryCancellation remainder h
    | _ => exact h
  | settleEntryCancellation token settlement =>
    obtain ⟨state, nextEntry, nextExit⟩ := owner
    cases state with
    | entryRemainder remainder =>
      cases settlement with
      | restoreWorking =>
        simp only [apply, settleEntryCancellation]
        split_ifs <;> exact h
      | retainPending => exact h
    | _ => exact h
  | observeCancelRejected clientOrderId =>
    obtain ⟨state, nextEntry, nextExit⟩ := owner
    cases state with
    | entryRemainder remainder =>
      simp only [apply, reduceRelease, reduceReleaseState,
        observeCancelRejected]
      split_ifs <;> exact h
    | _ => exact h
  | beginExit pendingExit authority =>
    simp only [apply, beginExit]
    split
    · rename_i managed hmanaged
      rw [hmanaged] at h
      split
      · rwa [hmanaged]
      · exact h
    · exact h
  | settleExitAttempt capability settlement =>
    simp only [apply, settleExitAttempt]
    split
    · rename_i attempt hattempt
      rw [hattempt] at h
      split_ifs
      · cases settlement with
        | retain => exact ⟨attempt.managed, rfl, h⟩
        | abort => exact h
      · rwa [hattempt]
    · exact h
  | observeExitWorking exit | observeExitTerminal exit => exact h.exitPosition hallowed
  | observeExitResidual managed =>
    obtain ⟨exit, hexit⟩ := Option.isSome_iff_exists.mp hallowed
    obtain ⟨position, -, htracks⟩ := h.exitPosition hexit
    exact htracks.of_isOpen htruth
  | observeExitFlat => exact backs_exitFlat h htruth
  | observeSettlement => exact backs_settlement h htruth
  | setTrackedLifecycle lifecycle => exact backs_setTrackedLifecycle h lifecycle

end

/-! ## Every run -/

namespace Backed

theorem call (h : Backed orders owner) {c : ExposureCall}
    (hallowed : (entryDiscipline orders).Allows owner c) (htruth : Truthful orders owner c) :
    Backed orders (owner.apply c) := by
  by_cases hblind : owner.isBlindRecovery
  · by_cases hclean : c = .observeCleanStart
    · subst hclean
      exact ⟨fun _ order hmem => htruth order (mem_of_mem_tail hmem), htruth⟩
    · have hstays := (apply_blind hblind hallowed hclean).1
      obtain ⟨reason, hstate⟩ := isBlindRecovery_iff.mp hstays
      refine ⟨fun hnot => ?_, ?_⟩
      · rw [hstays] at hnot
        cases hnot
      · rw [hstate]
        trivial
  · have hnot := Bool.eq_false_iff.mpr hblind
    exact ⟨fun _ => h.older hnot, backs_apply h.backs hnot (h.older hnot) hallowed htruth⟩

/-- Such a call arms no order. -/
theorem ordersAfter_eq {c : ExposureCall} (hallowed : (entryDiscipline orders).Allows owner c) :
    ordersAfter orders owner c = orders := by
  cases c with
  | armEntry pending =>
    unfold ordersAfter
    dsimp only
    split
    · rename_i capability hok
      have harms : owner.arms pending := by
        unfold arms
        rw [hok]
        rfl
      cases (hallowed harms).1
    · rfl
  | settleEntryArm capability settlement => cases hallowed
  | _ => rfl

theorem calls (h : Backed orders owner) {calls : List ExposureCall}
    (hallowed : (entryDiscipline orders).AllowsAll owner calls)
    (htruth : TruthfulAll orders owner calls) :
    Backed (ordersAfterAll orders owner calls) (owner.applyAll calls) := by
  induction calls generalizing owner with
  | nil => exact h
  | cons c rest ih =>
    obtain ⟨hfirst, hrest⟩ := hallowed
    obtain ⟨htruth, htruths⟩ := htruth
    rw [ordersAfterAll, ordersAfter_eq hfirst] at *
    exact ih (h.call hfirst htruth) hrest htruths

theorem arm (h : Backed orders owner) (pending : PendingEntryState) :
    Backed (ordersAfter orders owner (.armEntry pending)) (owner.apply (.armEntry pending)) := by
  obtain ⟨state, nextEntry, nextExit⟩ := owner
  cases state with
  | flat =>
    simp only [ordersAfter, apply, armEntry, occupancy]
    cases checkedAdd u64Max nextEntry 1 with
    | none => exact h
    | some generation => exact ⟨fun _ => h.backs, _, rfl, ⟨rfl, rfl⟩, rfl⟩
  | _ => exact h

end Backed

/-- The progress of a done order ends at most its position. -/
def EntryProgress.Final (next : EntryProgress → EntryProgress) : Prop :=
  ∀ progress : EntryProgress, progress.isDone → (next progress).isDone ∧
    ∀ positionId, (next progress).openPosition = some positionId →
      progress.openPosition = some positionId

theorem EntryProgress.final_close (positionId : String) : Final (close positionId) := by
  intro progress hdone
  cases progress with
  | done position => exact ⟨rfl, fun _ hopen => (Option.filter_eq_some_iff.mp hopen).1⟩
  | _ => cases hdone

variable {next : EntryProgress → EntryProgress}

theorem EntryProgress.final_of_done
    (h : ∀ position, next (.done position) = .done position) : Final next := by
  intro progress hdone
  cases progress with
  | done position =>
    rw [h]
    exact ⟨rfl, fun _ hopen => hopen⟩
  | _ => cases hdone

/-- Progress of the orders that keeps which orders they are and what is over. -/
structure EntryOrder.Keeps (next : EntryOrder → EntryOrder) : Prop where
  generation : ∀ order, (next order).generation = order.generation
  clientOrderId : ∀ order, (next order).clientOrderId = order.clientOrderId
  instrumentId : ∀ order, (next order).instrumentId = order.instrumentId
  done : ∀ order, order.progress.isDone → (next order).progress.isDone ∧
    ∀ positionId, (next order).progress.openPosition = some positionId →
      order.progress.openPosition = some positionId

theorem EntryOrder.keeps_progressIf (condition : EntryOrder → Bool)
    (hfinal : EntryProgress.Final next) :
    Keeps fun order => order.progressIf (condition order) next := by
  refine ⟨fun order => ?_, fun order => ?_, fun order => ?_, fun order hdone => ?_⟩
  all_goals unfold progressIf
  · split_ifs <;> rfl
  · split_ifs <;> rfl
  · split_ifs <;> rfl
  · split_ifs
    · exact hfinal order.progress hdone
    · exact ⟨hdone, fun _ hopen => hopen⟩

theorem EntryOrder.keeps_observe (event : VenueEvent) : Keeps fun order => order.observe event := by
  cases event with
  | positionClosed positionId instrumentId =>
    exact keeps_progressIf _ (EntryProgress.final_close positionId)
  | _ => exact keeps_progressIf _ (EntryProgress.final_of_done fun _ => rfl)

namespace EntryOrder.Keeps

variable {next : EntryOrder → EntryOrder} (hkeeps : Keeps next)

include hkeeps

theorem isOver {order : EntryOrder} (h : order.Over) : (next order).Over := by
  obtain ⟨hdone, hopen⟩ := hkeeps.done order h.1
  refine ⟨hdone, ?_⟩
  cases hpos : (next order).progress.openPosition with
  | none => rfl
  | some positionId =>
    have hbefore := hopen positionId hpos
    rw [h.2] at hbefore
    cases hbefore

theorem forall_over (h : ∀ order ∈ orders, order.Over) : ∀ order ∈ orders.map next, order.Over := by
  intro order hmem
  obtain ⟨before, hbefore, rfl⟩ := mem_map.mp hmem
  exact hkeeps.isOver (h before hbefore)

theorem isFor {order : EntryOrder} (h : order.IsFor pending) : (next order).IsFor pending :=
  ⟨(hkeeps.clientOrderId order).trans h.1, (hkeeps.instrumentId order).trans h.2⟩

theorem isNewest (h : IsNewest orders pending) : IsNewest (orders.map next) pending := by
  obtain ⟨newest, hnewest, hfor⟩ := h
  refine ⟨next newest, ?_, hkeeps.isFor hfor⟩
  rw [head?_map, hnewest]
  rfl

theorem tracks (h : Tracks orders position) : Tracks (orders.map next) position := by
  intro order hmem
  obtain ⟨before, hbefore, rfl⟩ := mem_map.mp hmem
  obtain ⟨hdone, hpositions⟩ := h before hbefore
  obtain ⟨hdone', hopen⟩ := hkeeps.done before hdone
  refine ⟨hdone', fun positionId hpos => ?_⟩
  obtain ⟨hid, hinstrument⟩ := hpositions positionId (hopen positionId hpos)
  rw [hopen positionId hpos] at hid
  exact ⟨hpos.trans hid, (hkeeps.instrumentId before).trans hinstrument⟩

theorem backs (h : Backs orders state) : Backs (orders.map next) state := by
  cases state with
  | flat => exact hkeeps.forall_over h
  | pendingEntry arm =>
    obtain ⟨newest, hnewest, hfor, hgeneration⟩ := h
    refine ⟨next newest, ?_, hkeeps.isFor hfor, (hkeeps.generation newest).trans hgeneration⟩
    rw [head?_map, hnewest]
    rfl
  | entryReconcilePending pending reason | entryRemainder remainder => exact hkeeps.isNewest h
  | managed position | exitAttempting attempt | unsupportedObserved observed =>
    exact hkeeps.tracks h
  | blindRecovery reason => trivial
  | _ =>
    obtain ⟨position, hposition, htracks⟩ := h
    exact ⟨position, hposition, hkeeps.tracks htracks⟩

end EntryOrder.Keeps

namespace Backed

theorem map (h : Backed orders owner) {next : EntryOrder → EntryOrder}
    (hkeeps : EntryOrder.Keeps next) : Backed (orders.map next) owner := by
  refine ⟨fun hblind => ?_, hkeeps.backs h.backs⟩
  rw [← map_tail]
  exact hkeeps.forall_over (h.older hblind)

theorem settleArm (h : Backed orders owner) {capability : EntryArmCapability}
    {settlement : EntryArmSettlement}
    (htruth : Truthful orders owner (.settleEntryArm capability settlement)) :
    Backed (ordersAfter orders owner (.settleEntryArm capability settlement))
      (owner.apply (.settleEntryArm capability settlement)) := by
  cases settlement with
  | retain => exact h
  | abort =>
    have hkeeps : EntryOrder.Keeps fun order =>
        order.progressIf (order.generation = capability.generation) .abort :=
      EntryOrder.keeps_progressIf _ (EntryProgress.final_of_done fun _ => rfl)
    have hmapped := h.map hkeeps
    obtain ⟨state, nextEntry, nextExit⟩ := owner
    cases state with
    | pendingEntry arm =>
      simp only [apply, settleEntryArm, reduceRelease,
        reduceReleaseState]
      split_ifs with hmatches
      · obtain ⟨newest, hnewest, -, hgeneration⟩ := h.backs
        have hsame := hgeneration.trans hmatches.1
        have hprepared := htruth newest (mem_of_mem_head? hnewest) hsame
        have hover : ∀ order ∈ orders.map fun order : EntryOrder =>
            order.progressIf (order.generation = capability.generation) .abort, order.Over := by
          have hhead := congrArg (Option.map fun order : EntryOrder =>
            order.progressIf (order.generation = capability.generation) .abort) hnewest
          refine forall_of_newest (head?_map.trans hhead) ?_ (hmapped.older rfl)
          · simp [EntryOrder.progressIf, hsame, EntryOrder.Over, hprepared, EntryProgress.abort,
              EntryProgress.isDone, EntryProgress.openPosition]
        exact ⟨fun _ order hmem => hover order (mem_of_mem_tail hmem), hover⟩
      · exact hmapped
    | _ => exact hmapped

end Backed

/-- Market data finds a flat taker: at most it arms an entry. -/
theorem TakerState.handleBookDeltas_flat {s : TakerState} (h : s.exposure.state = .flat)
    (view : TakerView) (matched : Bool) :
    s.handleBookDeltas view matched = s ∨
      ∃ pending, s.handleBookDeltas view matched = s.call (.armEntry pending) := by
  have hsync : s.syncExposureContextFromActive view = s := by
    unfold syncExposureContextFromActive
    rw [h]
    rfl
  have hroute : s.exposure.marketDataRoute = .entry := by
    unfold marketDataRoute
    rw [h]
  unfold handleBookDeltas
  simp only [hsync, hroute]
  split_ifs
  · exact .inl rfl
  · unfold trySubmitEntryOrder
    split
    · exact .inr ⟨_, rfl⟩
    · exact .inl rfl

/-- An occupied owner arms nothing. -/
theorem ExposureOwner.arms_occupied (h : owner.state ≠ .flat) (pending : PendingEntryState) :
    owner.arms pending = false := by
  obtain ⟨state, nextEntry, nextExit⟩ := owner
  cases state with
  | flat => exact absurd rfl h
  | _ => rfl

namespace TakerSystem

variable {s t : TakerSystem}

/-- **Every step keeps the orders as the owner has it.** -/
theorem backed_step (h : Backed s.orders s.taker.exposure) {step : TakerStep}
    (hstep : s.Step step t) : Backed t.orders t.taker.exposure := by
  obtain ⟨rfl, htruth⟩ := hstep
  cases step with
  | venue event => exact h.map (EntryOrder.keeps_observe event)
  | taker event =>
    -- The two events that arm or settle an entry make a single call.
    have hsingle : ∀ c, s.handled event = { s.taker with effects := [] }.call c →
        Backed (ordersAfter s.orders s.taker.exposure c) (s.taker.exposure.apply c) →
        Backed (s.next (.taker event)).orders (s.next (.taker event)).taker.exposure := by
      intro c hc hbacked
      simp only [next, hc]
      exact hbacked
    have hgeneral : (∀ view matched pending, event = .bookDeltas view matched →
          view.entryOrder = some pending → s.taker.exposure.arms pending = false) →
        (∀ capability settlement, event ≠ .entrySubmitted capability settlement) →
        Backed (s.next (.taker event)).orders (s.next (.taker event)).taker.exposure := by
      intro harms hsettles
      have hstart : Conforms (entryDiscipline s.orders) s.taker.exposure
          { s.taker with effects := [] } :=
        ⟨rfl, trivial, fun pending hpending => h.backs.isNewest hpending⟩
      have hconforms := Conforms.rule.handle hstart event (fun _ _ => trivial)
        (fun _ _ _ => hstart.bootstrap)
        (fun view matched pending hevent hpending harm => by
          rw [harms view matched pending hevent hpending] at harm
          cases harm)
        (fun capability settlement hevent => hsettles capability settlement hevent)
      have hbacked := h.calls hconforms.allowed htruth
      rw [← hconforms.owner] at hbacked
      exact hbacked
    cases event with
    | bookDeltas view matched =>
      by_cases hflat : s.taker.exposure.state = .flat
      · rcases TakerState.handleBookDeltas_flat (s := { s.taker with effects := [] })
          hflat view matched
          with hsame | ⟨pending, harm⟩
        · have hhandled : s.handled (.bookDeltas view matched) = { s.taker with effects := [] } :=
            hsame
          simp only [next, hhandled]
          exact h
        · exact hsingle _ harm (h.arm pending)
      · exact hgeneral (fun _ _ pending _ _ => arms_occupied hflat pending) nofun
    | entrySubmitted capability settlement =>
      exact hsingle _ rfl (h.settleArm htruth.1)
    | _ => exact hgeneral (fun _ _ _ hevent => by cases hevent) fun _ _ hevent => by cases hevent

theorem backed_run {steps : List TakerStep} (h : Run Step new steps s) :
    Backed s.orders s.taker.exposure :=
  h.invariant (I := fun s => Backed s.orders s.taker.exposure)
    (fun _ _ _ hbacked hstep => backed_step hbacked hstep) ⟨nofun, nofun⟩

/-- **The entry gate opens on nothing left.** In every run of the handlers beside the venue, in
which the taker is told the truth (`Truthful`, with its clause on clean starts), an open gate means
that every entry order armed before is done and that the position it opened, if any, is closed. -/
theorem entry_gate_opens_on_nothing_left {steps : List TakerStep} (hrun : Run Step new steps s)
    (hgate : s.taker.exposure.entryGate = .isOpen) :
    ∀ order ∈ s.orders, order.progress.isDone ∧ order.progress.openPosition = none := by
  have hbacked := (backed_run hrun).backs
  unfold entryGate at hgate
  split at hgate
  · rename_i hflat
    rw [hflat] at hbacked
    exact hbacked
  · cases hgate
  · cases hgate
  · split at hgate <;> cases hgate
  all_goals cases hgate

namespace RoundTrip

def instrument : InstrumentId := ⟨"market-yes", "POLYMARKET"⟩

def entry : PendingEntryState := ⟨"entry", none, .missing, instrument⟩

/-- The position of the entry is open, and its order is not one that rests. -/
def filledView : TakerView :=
  { TakerView.silent with
    entryTimeInForce := .fok
    positionsOpen := [⟨instrument, "position", .buy, .long, ⟨5, 0⟩, ⟨0⟩⟩] }

/-- An entry is armed, filled and closed. -/
def steps : List TakerStep :=
  [.taker (.bookDeltas { TakerView.silent with entryOrder := some entry } true),
    .venue (.submitted 1), .venue (.filled 1 "position"), .venue (.finished 1),
    .taker (.positionOpened filledView ⟨instrument, "position", .buy, .long, ⟨5, 0⟩, ⟨0⟩⟩),
    .venue (.positionClosed "position" instrument),
    .taker (.positionClosed .silent "position" instrument)]

theorem run_submitted : Run Step new (steps.take 2) ((steps.take 2).foldl TakerSystem.next new) :=
  .cons ⟨rfl, by decide +kernel⟩ <| .cons ⟨rfl, trivial⟩ <| .nil _

theorem run_finished : Run Step new (steps.take 4) ((steps.take 4).foldl TakerSystem.next new) :=
  run_submitted.append <| .cons ⟨rfl, trivial⟩ <| .cons ⟨rfl, trivial⟩ <| .nil _

/-- The gate is open again, and nothing is left of the entry. -/
theorem nothing_is_left : ∃ s, Run Step new steps s ∧ s.taker.exposure.entryGate = .isOpen ∧
    s.orders = [⟨1, "entry", instrument, .done none⟩] ∧
    ∀ order ∈ s.orders, order.progress.isDone ∧ order.progress.openPosition = none := by
  have hrun : Run Step new steps (steps.foldl next new) :=
    run_finished.append <| .cons ⟨rfl, by decide +kernel⟩ <| .cons ⟨rfl, trivial⟩ <|
    .cons ⟨rfl, by decide +kernel⟩ <| .nil _
  have hgate : (steps.foldl next new).taker.exposure.entryGate = .isOpen := by decide +kernel
  have horders : (steps.foldl next new).orders = [⟨1, "entry", instrument, .done none⟩] := by
    decide +kernel
  exact ⟨_, hrun, hgate, horders, entry_gate_opens_on_nothing_left hrun hgate⟩

/-- `on_start` with no position in the cache. -/
def start : TakerEvent :=
  .start { TakerView.silent with cachedPositions := some ([], []) } .silent

/-- A position that no entry opened. -/
def stray : PositionMaterializationSpec := ⟨instrument, "stray", .buy, .long, ⟨5, 0⟩, ⟨0⟩⟩

def showStray : TakerEvent := .positionOpened { filledView with positionsOpen := [stray] } stray

/-- **The gate opens over an entry**: at a clean start over one that works, which
`bootstrap_recovery_from_cache` does not look for, and over the open position of one that is done,
if a stray position is shown in its place and is gone. -/
theorem gate_opens_over_entry :
    (∃ s, Run Step new (steps.take 2) s ∧ (s.handled start).calls = [.observeCleanStart] ∧
      (s.next (.taker start)).taker.exposure.entryGate = .isOpen ∧
      (s.next (.taker start)).orders = [⟨1, "entry", instrument, .working none⟩]) ∧
    ∃ s t, Run Step new (steps.take 4) s ∧
      (∃ reason, (s.handled showStray).calls =
        [.materializeSupportedPosition ⟨.missing, instrument, "stray"⟩ false reason]) ∧
      Step (s.next (.taker showStray)) (.taker (.positionClosed .silent "stray" instrument)) t ∧
      t.taker.exposure.entryGate = .isOpen ∧
      t.orders = [⟨1, "entry", instrument, .done (some "position")⟩] := by
  refine ⟨⟨_, run_submitted, rfl, ?_, ?_⟩, _, _, run_finished, ⟨_, rfl⟩, ⟨rfl, ?_⟩, ?_, ?_⟩
  all_goals decide +kernel

end RoundTrip

end TakerSystem

end BoltV3.Taker
