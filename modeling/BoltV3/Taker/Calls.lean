import BoltV3.Taker.Handlers

/-!
# The calls that handlers make of the exposure owner

Some operations of the exposure owner overwrite its state without looking at it. Which states they
are called in depends on the handlers. `Discipline.Allows` says what each call may rely on:

* an exit is observed working, terminal or residual only while the owner has that exit;
* an entry is handed back for reconciliation only outside blind recovery, and it is the entry that
  the owner had when the event came.
-/

namespace BoltV3.Taker

open Exit (InstrumentId)

/-! ## Allowed calls -/

/-- What is known of the entries of a run: which one the owner may have pending, which ones may be
armed, and whether submissions of an entry are settled. -/
structure Discipline where
  (current arming : PendingEntryState → Prop)
  settling : Prop

/-- Every entry may be armed, and every entry may be the pending one. -/
def Discipline.unrestricted : Discipline := ⟨fun _ => True, fun _ => True, True⟩

/-- Whether `arm_entry` succeeds. -/
def ExposureOwner.arms (owner : ExposureOwner) (pending : PendingEntryState) : Bool :=
  (owner.armEntry pending).1.isOk

namespace Discipline

variable (D : Discipline)

/-- What a call of the owner may rely on. -/
def Allows (owner : ExposureOwner) : ExposureCall → Prop
  | .enterEntryReconcile pending _ => owner.isBlindRecovery = false ∧ D.current pending
  | .observeExitWorking exit | .observeExitTerminal exit =>
    owner.state.exitPendingSnapshot = some exit
  | .observeExitResidual _ => owner.state.exitPendingSnapshot.isSome
  | .armEntry pending => owner.arms pending → D.arming pending ∧ D.current pending
  | .settleEntryArm _ _ => D.settling
  | _ => True

/-- Every call of a list is allowed where it is made. -/
def AllowsAll : ExposureOwner → List ExposureCall → Prop
  | _, [] => True
  | owner, c :: rest => D.Allows owner c ∧ AllowsAll (owner.apply c) rest

variable {D}

theorem allowsAll_append {owner : ExposureOwner} {before after : List ExposureCall} :
    D.AllowsAll owner (before ++ after) ↔
      D.AllowsAll owner before ∧ D.AllowsAll (owner.applyAll before) after := by
  induction before generalizing owner with
  | nil => simp [AllowsAll, ExposureOwner.applyAll]
  | cons c rest ih => simp [AllowsAll, ih, ExposureOwner.applyAll, and_assoc]

end Discipline

/-! ## Blind recovery -/

/-- Whether a call arms an entry or begins an exit. -/
def ExposureOwner.begins (owner : ExposureOwner) : ExposureCall → Bool
  | .armEntry pending => owner.arms pending
  | .beginExit pendingExit authority => (owner.beginExit pendingExit authority).1.isOk
  | _ => false

namespace ExposureOwner

theorem isBlindRecovery_iff {owner : ExposureOwner} :
    owner.isBlindRecovery ↔ ∃ reason, owner.state = .blindRecovery reason := by
  unfold isBlindRecovery
  cases owner.state <;> simp

/-- A blind owner stays blind, unless the start is clean. -/
theorem apply_blind {D : Discipline} {owner : ExposureOwner} {c : ExposureCall}
    (hblind : owner.isBlindRecovery) (hallowed : D.Allows owner c)
    (hclean : c ≠ .observeCleanStart) :
    (owner.apply c).isBlindRecovery ∧ owner.begins c = false := by
  obtain ⟨state, nextEntry, nextExit⟩ := owner
  obtain ⟨reason, rfl⟩ := isBlindRecovery_iff.mp hblind
  cases c with
  | observeCleanStart => exact absurd rfl hclean
  | enterEntryReconcile pending current => exact absurd hblind (Bool.eq_false_iff.mp hallowed.1)
  | observeExitWorking exit | observeExitTerminal exit | observeExitResidual managed =>
    cases hallowed
  | settleEntryArm capability settlement => cases settlement <;> exact ⟨rfl, rfl⟩
  | _ => exact ⟨rfl, rfl⟩

end ExposureOwner

/-! ## The pending entry -/

namespace ExposureState

theorem pendingEntryState_entryCancellationEffect (remainder : EntryRemainderState) :
    (entryCancellationEffect remainder).1.pendingEntry = remainder.pendingEntry := by
  unfold entryCancellationEffect
  split <;> rfl

/-- The state has no pending entry, or the one it had before. -/
def KeepsPending (before after : ExposureState) : Prop :=
  ∀ pending, after.pendingEntryState = some pending → before.pendingEntryState = some pending

variable (state : ExposureState)

theorem KeepsPending.refl : KeepsPending state state := fun _ h => h

variable {before after : ExposureState}

theorem KeepsPending.of_none (h : after.pendingEntryState = none) : KeepsPending before after := by
  intro pending hpending
  rw [h] at hpending
  cases hpending

theorem KeepsPending.of_eq
    (h : after.pendingEntryState = before.pendingEntryState) : KeepsPending before after := by
  intro pending hpending
  rwa [← h]

theorem keepsPending_resolveUnmaterialized {before : ExposureState} {pending : PendingEntryState}
    (h : before.pendingEntryState = some pending) (truth : EntryTerminalPositionTruth) :
    KeepsPending before (resolveUnmaterializedEntryTerminal pending truth).1 := by
  cases truth with
  | zeroFill => exact .of_none rfl
  | canonicallyFlat | unresolved reason => exact .of_eq h.symm
  | _ =>
    simp only [resolveUnmaterializedEntryTerminal]
    split_ifs
    · exact .of_none rfl
    · exact .of_eq h.symm

theorem pendingEntryState_resolveRemainderTerminal {remainder : EntryRemainderState}
    {truth : EntryTerminalPositionTruth} {next : ExposureState}
    (h : resolveRemainderTerminal remainder truth = some next) : next.pendingEntryState = none := by
  cases truth <;> simp only [resolveRemainderTerminal] at h
  all_goals first
    | cases h
      done
    | cases h
      rfl
    | split_ifs at h
      cases h
      rfl

variable (clientOrderId : String)

theorem keepsPending_resolveEntryTerminal (truth : EntryTerminalPositionTruth) :
    KeepsPending state (state.resolveEntryTerminal clientOrderId truth).1 := by
  cases state with
  | pendingEntry arm | entryReconcilePending pending reason =>
    unfold resolveEntryTerminal
    dsimp only
    split_ifs
    · exact keepsPending_resolveUnmaterialized rfl truth
    · exact .refl _
  | entryRemainder remainder =>
    unfold resolveEntryTerminal
    dsimp only
    split_ifs
    · rcases hnext : resolveRemainderTerminal remainder truth with _ | next
      · exact .refl _
      · exact .of_none (pendingEntryState_resolveRemainderTerminal hnext)
    · exact .refl _
  | _ => exact .refl _

theorem keepsPending_materialize (managed : ManagedPositionContext)
    (keep : Bool) (reason : BlindRecoveryReason) :
    KeepsPending state (state.materializeSupportedPosition managed keep reason).1 := by
  cases state with
  | pendingEntry arm | entryReconcilePending pending current | entryRemainder remainder =>
    simp only [materializeSupportedPosition, observeEntry]
    split_ifs <;> first | exact .of_eq rfl | exact .of_none rfl
  | flat | blindRecovery current => exact .of_none rfl
  | _ =>
    refine .of_none ?_
    simp only [materializeSupportedPosition]
    split_ifs <;> rfl

theorem keepsPending_setUnsupportedObserved
    (unsupported : UnsupportedObservedState) (keep : Bool) (reason : BlindRecoveryReason) :
    KeepsPending state (state.setUnsupportedObserved unsupported keep reason) := by
  cases state with
  | pendingEntry arm | entryReconcilePending pending current | entryRemainder remainder =>
    simp only [setUnsupportedObserved, observeEntry]
    split_ifs <;> first | exact .of_eq rfl | exact .of_none rfl
  | flat | blindRecovery current => exact .of_none rfl
  | _ =>
    refine .of_none ?_
    simp only [setUnsupportedObserved]
    split_ifs <;> rfl

theorem keepsPending_reducePositionClosed (positionId : String) (instrumentId : InstrumentId) :
    KeepsPending state (state.reducePositionClosed positionId instrumentId).1 := by
  cases state with
  | entryReconcilePending pending reason | entryRemainder remainder =>
    simp only [reducePositionClosed]
    split_ifs
    · exact .of_eq (congrArg some (pendingEntryState_entryCancellationEffect _))
    · exact .refl _
  | managed position | unsupportedObserved observed =>
    simp only [reducePositionClosed]
    split_ifs <;> exact .of_none rfl
  | _ => exact .refl _

theorem keepsPending_requestCancellation :
    KeepsPending state state.requestEntryRemainderCancellation.1 := by
  cases state with
  | entryRemainder remainder =>
    exact .of_eq (congrArg some (pendingEntryState_entryCancellationEffect remainder))
  | _ => exact .refl _

theorem keepsPending_settleCancellation (token : EntryCancellationToken)
    (settlement : EntryCancellationSettlement) :
    KeepsPending state (state.settleEntryCancellation token settlement) := by
  cases state with
  | entryRemainder remainder =>
    cases settlement with
    | restoreWorking =>
      simp only [settleEntryCancellation]
      split_ifs <;> exact .of_eq rfl
    | retainPending => exact .refl _
  | _ => exact .refl _

theorem keepsPending_observeCancelRejected :
    KeepsPending state (state.observeCancelRejected clientOrderId) := by
  cases state with
  | entryRemainder remainder =>
    simp only [observeCancelRejected]
    split_ifs <;> exact .of_eq rfl
  | _ => exact .refl _

theorem keepsPending_setTrackedLifecycle (lifecycle : BoltV3PositionMarketLifecycle) :
    KeepsPending state (state.setTrackedLifecycle lifecycle) := by
  cases state with
  | entryRemainder remainder =>
    simp only [setTrackedLifecycle]
    split <;> exact .of_eq rfl
  | _ => exact .refl _

theorem keepsPending_settlement :
    KeepsPending state (ExposureOwner.reduceReleaseState state .settlement).1 := by
  cases state with
  | entryRemainder remainder =>
    exact .of_eq (congrArg some (pendingEntryState_entryCancellationEffect _))
  | _ => exact .refl _

end ExposureState

namespace ExposureOwner

open ExposureState

/-- A call keeps the pending entry or drops it, unless it arms one or hands one back. -/
theorem apply_pendingEntryState {owner : ExposureOwner} {c : ExposureCall}
    {pending : PendingEntryState} (h : (owner.apply c).state.pendingEntryState = some pending) :
    owner.state.pendingEntryState = some pending ∨
      (∃ reason, c = .enterEntryReconcile pending reason) ∨
      (c = .armEntry pending ∧ owner.arms pending) := by
  cases c with
  | armEntry armed =>
    simp only [apply, armEntry] at h
    unfold arms armEntry
    split at h
    · exact .inl h
    · split at h
      · exact .inl h
      · cases h
        refine .inr (.inr ⟨rfl, ?_⟩)
        simp_all [Except.isOk, Except.toBool]
  | settleEntryArm capability settlement =>
    refine .inl ?_
    cases settlement with
    | retain => exact h
    | abort =>
      simp only [apply, settleEntryArm, reduceRelease, reduceReleaseState] at h
      split at h
      · split_ifs at h
        · cases h
        · exact h
      · exact h
  | enterEntryReconcile handed reason =>
    cases h
    exact .inr (.inl ⟨reason, rfl⟩)
  | reclassifyPendingEntry reason =>
    refine .inl ?_
    simp only [apply, reclassifyPendingEntry] at h
    split at h
    · rename_i arm harm
      rw [harm]
      exact h
    · exact h
  | observeEntryTerminal clientOrderId truth =>
    exact .inl (keepsPending_resolveEntryTerminal _ _ _ _ h)
  | materializeSupportedPosition managed keep reason =>
    exact .inl (keepsPending_materialize _ _ _ _ _ h)
  | setUnsupportedObserved unsupported keep reason =>
    exact .inl (keepsPending_setUnsupportedObserved _ _ _ _ _ h)
  | observePositionClosed positionId instrumentId =>
    exact .inl (keepsPending_reducePositionClosed _ _ _ _ h)
  | requestEntryRemainderCancellation => exact .inl (keepsPending_requestCancellation _ _ h)
  | settleEntryCancellation token settlement =>
    exact .inl (keepsPending_settleCancellation _ _ _ _ h)
  | observeCancelRejected clientOrderId =>
    exact .inl (keepsPending_observeCancelRejected _ _ _ h)
  | beginExit pendingExit authority =>
    refine .inl ?_
    simp only [apply, beginExit] at h
    split at h
    · split at h
      · exact h
      · cases h
    · exact h
  | settleExitAttempt capability settlement =>
    refine .inl ?_
    simp only [apply, settleExitAttempt] at h
    split at h
    · split_ifs at h
      · cases settlement <;> cases h
      · exact h
    · exact h
  | observeExitFlat =>
    refine .inl ?_
    simp only [apply, reduceRelease, reduceReleaseState] at h
    split at h
    all_goals first | cases h | exact h
  | observeSettlement => exact .inl (keepsPending_settlement _ _ h)
  | setTrackedLifecycle lifecycle => exact .inl (keepsPending_setTrackedLifecycle _ _ _ h)
  | _ => cases h

end ExposureOwner

/-! ## The calls of a state -/

/-- The exposure call of an effect. -/
def TakerEffect.exposureCall : TakerEffect → Option ExposureCall
  | .exposure c => some c
  | _ => none

/-- The calls that were made, in order. -/
def TakerState.calls (s : TakerState) : List ExposureCall :=
  s.effects.filterMap TakerEffect.exposureCall

@[simp] theorem calls_call (s : TakerState) (c : ExposureCall) :
    (s.call c).calls = s.calls ++ [c] := by
  simp [TakerState.calls, TakerState.call, TakerEffect.exposureCall]

end BoltV3.Taker
