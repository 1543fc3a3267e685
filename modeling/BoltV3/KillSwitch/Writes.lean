import BoltV3.KillSwitch.LossProtection

/-!
# What the loss protection writes and returns

Facts about the methods of the loss protection that its guarantees share: which states are not
armed, when a switch is below its limit, what a write does to a session, and what the methods that
halt return.
-/

namespace BoltV3.KillSwitch

open Lib Loss Action
open Lib.Action (Ends)

/-! ## States that are not armed -/

theorem failClosedRecoveryState_ne_armed (reason : KillSwitchRecoveryReason)
    (state : Option KillSwitchState) : failClosedRecoveryState reason state ≠ .armed := by
  rcases state with _ | state
  · nofun
  · cases state <;> rintro ⟨⟩

/-! ## Switches below their limit -/

namespace KillSwitchLossProtection

/-- The switch is armed and below its limit. -/
def Below (protection : KillSwitchLossProtection) : Prop :=
  protection.state = .armed ∧ protection.realizedLossBreached = false

variable {protection : KillSwitchLossProtection} {loss : LossState}

/-- A change of the loss state that leaves the daily total. -/
theorem Below.updateLoss (h : protection.Below)
    (hdaily : loss.dailyRealizedPnl = protection.loss.dailyRealizedPnl) :
    Below { protection with loss := loss } := by
  refine ⟨h.1, ?_⟩
  have hbelow := h.2
  unfold realizedLossBreached at hbelow ⊢
  rw [hdaily]
  exact hbelow

theorem Below.of_zero (h : protection.Below) (hdaily : loss.dailyRealizedPnl = .zero) :
    Below { protection with loss := loss } := by
  refine ⟨h.1, ?_⟩
  unfold realizedLossBreached
  rw [hdaily]
  simp [Decimal.lt_iff_value]

/-- A new bucket starts without a loss. -/
theorem Below.acceptBucket (h : protection.Below) {time : Nat}
    (haccept : protection.loss.acceptObservationBucket time = some loss) :
    Below { protection with loss := loss } := by
  unfold LossState.acceptObservationBucket at haccept
  dsimp only at haccept
  split at haccept
  · cases haccept
    exact h.of_zero rfl
  · split_ifs at haccept
    · cases haccept
      exact h.of_zero rfl
    · cases haccept
      exact h

/-- The limit is positive, so that a daily loss below it is no breach. -/
theorem Below.daily_loss_lt (h : protection.Below) :
    -protection.loss.dailyRealizedPnl.value < protection.config.maxUtcDailyRealizedLoss.value := by
  have hpositive := protection.config.positive
  have hbelow := h.2
  unfold realizedLossBreached at hbelow
  simp only [Bool.and_eq_false_iff, decide_eq_false_iff_not, Decimal.lt_iff_value,
    Decimal.le_iff_value, Decimal.value_zero, Decimal.value_neg] at hbelow
  by_cases hloss : protection.loss.dailyRealizedPnl.value < 0
  · exact not_le.mp (hbelow.resolve_left (not_not.mpr hloss))
  · linarith

end KillSwitchLossProtection

/-! ## Writes -/

section

variable [DecimalArith] [HaltIds] [codec : StateCodec]

omit [HaltIds] in
/-- What comes after a write: it has failed, or the file has what was written. -/
theorem write_bind {α : Type} {P : Except Failure α × Session → Prop} (s : Session)
    (state : KillSwitchState) (lossProtection : Option KillSwitchLossProtectionSnapshot)
    {k : Option KillSwitchStoreError → Act α}
    (hfailed : ∀ error io', io'.invalidate = s.io.invalidate →
      P ((k (some error)).exec { s with disk := { s.disk with failed := true }, io := io' }))
    (hwritten : ∀ io', io'.invalidate = s.io.invalidate →
      StateCodec.size (serializeStateWithLossSnapshot state lossProtection) ≤
        s.protection.maxStateFileBytes →
      P ((k none).exec { s with
        disk := { s.disk with file := some (serializeStateWithLossSnapshot state lossProtection) }
        io := io' })) : P ((write state lossProtection >>= k).exec s) := by
  have hexec : ∀ written,
      writeStateWithLossSnapshot s.disk s.io s.protection.maxStateFileBytes state
      lossProtection = written → (write state lossProtection).exec s =
        (.ok written.1, { s with disk := written.2.1, io := written.2.2 }) := by
    rintro _ rfl
    rfl
  rcases writeStateWithLossSnapshot_cases s.disk s.io s.protection.maxStateFileBytes state
    lossProtection with ⟨error, io', hinvalidate, -, hwrite⟩ | ⟨io', hinvalidate, -, hsize, hwrite⟩
  · rw [exec_bind_ok (hexec _ hwrite)]
    exact hfailed error io' hinvalidate
  · rw [exec_bind_ok (hexec _ hwrite)]
    exact hwritten io' hinvalidate hsize

/-! ## What the paths that write leave -/

/-- The file has what the object has. -/
def Session.Written (s : Session) : Prop :=
  s.disk.file = some (serializeStateWithLossSnapshot s.protection.state
    (some s.protection.lossSnapshot)) ∧
  StateCodec.size (serializeStateWithLossSnapshot s.protection.state
    (some s.protection.lossSnapshot)) ≤ s.protection.maxStateFileBytes

/-- A failed state is in the file without the loss state. Where it could not be written the file is
invalidated, if that succeeds. -/
def Session.FailureWritten (s : Session) : Prop :=
  (s.disk.file = some (serializeStateWithLossSnapshot s.protection.state none) ∧
    StateCodec.size (serializeStateWithLossSnapshot s.protection.state none) ≤
      s.protection.maxStateFileBytes) ∨
  s.disk.failed = true ∧ (s.io.invalidate = none → s.disk.file = some codec.invalidated)

/-- What every path leaves as it was. -/
structure Session.Continues (s t : Session) : Prop where
  config : t.protection.config = s.protection.config
  limit : t.protection.maxStateFileBytes = s.protection.maxStateFileBytes
  invalidate : t.io.invalidate = s.io.invalidate

/-- No actions are pending that were not. -/
def Session.Drops (s t : Session) : Prop :=
  t.protection.pendingHaltActions = none ∨
    t.protection.pendingHaltActions = s.protection.pendingHaltActions

/-- **What a path that writes leaves**: the file has the object, which is one of `kept`, or the
switch has failed. -/
inductive Leaves (s : Session) (kept : KillSwitchLossProtection → Prop) (t : Session) : Prop
  | stored (continues : s.Continues t) (kept : kept t.protection) (written : t.Written)
  | failed (continues : s.Continues t)
      (state : t.protection.state.kind = .failedManualIntervention)
      (admission : t.protection.admission = t.protection.state.kind)
      (drops : t.disk.failed = false → s.Drops t)
      (file : t.FailureWritten)

/-- An object that halts or has halted, with a loss state. -/
structure Halts (loss : LossState) (protection : KillSwitchLossProtection) : Prop where
  loss : protection.loss = loss
  admission : protection.admission = protection.state.kind
  unarmed : protection.state ≠ .armed
  pending : ∀ pending, protection.pendingHaltActions = some pending →
    pending.state = protection.state
  halting : protection.state.kind = .halting → protection.pendingHaltActions ≠ none

section

omit [HaltIds]

variable {s : Session} {kept : KillSwitchLossProtection → Prop} {failed : KillSwitchState}

theorem Leaves.mono {t : Session} {kept' : KillSwitchLossProtection → Prop} (h : Leaves s kept t)
    (hkept : ∀ protection, kept protection → kept' protection) : Leaves s kept' t := by
  cases h with
  | stored continues kept written => exact .stored continues (hkept _ kept) written
  | failed continues state admission drops file =>
    exact .failed continues state admission drops file

theorem Leaves.unarmed {t : Session} (h : Leaves s kept t)
    (hkept : ∀ protection, kept protection → protection.state ≠ .armed) :
    t.protection.state ≠ .armed := by
  cases h with
  | stored _ kept => exact hkept _ kept
  | failed _ state =>
    intro harmed
    rw [harmed] at state
    cases state

/-- A failed state is entered and written. It is an error that it can be neither written nor
invalidated. -/
theorem enterFailed_leaves (hfailed : failed.kind = .failedManualIntervention) :
    Ends (fun t => s.Continues t ∧ s.Drops t) (do
      enterState failed
      persistFailedStateOrInvalidate failed) (Leaves s kept)
      fun t => t.disk.failed = true ∧ Leaves s kept t := by
  rintro t ⟨⟨hconfig, hlimit, hinvalidate⟩, hdrops⟩
  unfold enterState persistFailedStateOrInvalidate
  rw [exec_update_bind]
  refine write_bind _ failed none (fun error io hio => ?_) fun io hio hsize => ?_
  · unfold invalidateFile invalidate
    dsimp only
    rw [bind_assoc, exec_get_bind]
    cases hnone : io.invalidate with
    | none =>
      change Leaves s kept _
      exact .failed ⟨hconfig, hlimit, hio.trans hinvalidate⟩ hfailed rfl (fun _ => hdrops)
        (.inr ⟨rfl, fun _ => rfl⟩)
    | some text =>
      change _ ∧ Leaves s kept _
      refine ⟨rfl, .failed ⟨hconfig, hlimit, hio.trans hinvalidate⟩ hfailed rfl (fun _ => hdrops)
        (.inr ⟨rfl, fun hok => ?_⟩)⟩
      cases hnone.symm.trans hok
  · change Leaves s kept _
    exact .failed ⟨hconfig, hlimit, hio.trans hinvalidate⟩ hfailed rfl (fun _ => hdrops)
      (.inl ⟨rfl, hsize⟩)

theorem failClosed_leaves {α : Type} {Q : α → Session → Prop}
    (hfailed : failed.kind = .failedManualIntervention) (reason : String) :
    Yields (fun t => s.Continues t ∧ s.Drops t) (failClosed failed reason) Q (Leaves s kept) := by
  unfold failClosed
  rw [← bind_assoc]
  exact ((enterFailed_leaves hfailed).mono_error fun _ => And.right).then_throw

/-- **A snapshot is persisted**, or the switch has failed. -/
theorem persistRuntime_leaves (protection : KillSwitchLossProtection) :
    Ends (fun t => s.Continues t ∧ t.protection = protection ∧ kept protection)
      persistRuntimeSnapshotOrFailClosed
      (fun t => Leaves s kept t ∧ t.protection = protection) (Leaves s kept) := by
  rintro t ⟨⟨hconfig, hlimit, hinvalidate⟩, rfl, hkept⟩
  unfold persistRuntimeSnapshotOrFailClosed
  rw [exec_get_bind]
  refine write_bind t _ _ (fun error io hio => ?_) fun io hio hsize => ?_
  · rw [exec_update_bind]
    exact failClosed_leaves rfl _ _ ⟨⟨hconfig, hlimit, hio.trans hinvalidate⟩, .inl rfl⟩
  · change Leaves s kept _ ∧ _
    exact ⟨.stored ⟨hconfig, hlimit, hio.trans hinvalidate⟩ hkept ⟨rfl, hsize⟩, rfl⟩

/-- The actions of a halt are pending. -/
theorem persistPending_leaves {loss : LossState} :
    Ends (fun t => s.Continues t ∧ Halts loss t.protection) persistRuntimeSnapshotOrFailClosed
      (Leaves s (Halts loss)) (Leaves s (Halts loss)) :=
  fun _ h => ((persistRuntime_leaves _).mono (fun _ h => h.1) fun _ h => h) _ ⟨h.1, rfl, h.2⟩

end

/-! ## Halts -/

/-- The switch has entered a halted state. -/
def Session.Entered (halted : KillSwitchState) (t : Session) : Prop :=
  halted.kind = .halted ∧ t.protection.state = halted ∧ t.protection.admission = halted.kind

section

variable {s : Session} {loss : LossState} (haltId : String) (trigger : KillSwitchHaltTrigger)

/-- The actions of a halt are recorded. -/
theorem recordHalted_leaves : Yields (fun t => s.Continues t ∧ t.protection.loss = loss)
      (recordHaltActionsRecorded (.halting haltId trigger))
      (fun halted t => Leaves s (Halts loss) t ∧ t.Entered halted) (Leaves s (Halts loss)) := by
  rintro t ⟨hcontinues, hloss⟩
  refine Yields.bind (persistRuntime_leaves { t.protection with
    admission := .halted, state := .halted haltId trigger, pendingHaltActions := none })
    (fun _ => ?_) _ ⟨⟨hcontinues.1, hcontinues.2, hcontinues.3⟩, rfl, hloss, rfl,
      nofun, nofun, nofun⟩
  rintro t ⟨hleaves, hsame⟩
  have hentered : t.Entered (.halted haltId trigger) := by
    unfold Session.Entered
    rw [hsame]
    exact ⟨rfl, rfl, rfl⟩
  exact ⟨hleaves, hentered⟩

theorem haltActions_leaves (time : Nat) :
    Yields (fun t => s.Continues t ∧ t.protection.loss = loss ∧
        t.protection.state = .halting haltId trigger ∧ t.protection.admission = .halting)
      (haltActions (.halting haltId trigger) time)
      (fun latched t => Leaves s (Halts loss) t ∧
        ∀ halted, latched = some halted → t.Entered halted)
      (Leaves s (Halts loss)) := by
  rintro t ⟨hcontinues, hloss, hstate, hadmission⟩
  unfold haltActions emitHaltActions
  rw [bind_assoc, exec_get_bind, pure_bind]
  split
  · rw [exec_update_bind]
    refine persistPending_leaves.then_throw _
      ⟨⟨hcontinues.1, hcontinues.2, hcontinues.3⟩, hloss, ?_, ?_, ?_, fun _ => nofun⟩
    · rw [hstate]
      exact hadmission
    · rw [hstate]
      nofun
    · rintro _ ⟨⟩
      exact hstate.symm
  · refine (recordHalted_leaves haltId trigger).bind (fun halted => ?_) _ ⟨hcontinues, hloss⟩
    rintro t ⟨hleaves, hentered⟩
    refine ⟨hleaves, ?_⟩
    rintro _ ⟨⟩
    exact hentered

/-- **What a breach leaves.** -/
theorem haltForRealizedLossBreach_leaves (source : String) (time : Nat) :
    Yields (fun t => s.Continues t ∧ s.Drops t ∧ t.protection.loss = loss)
      (haltForRealizedLossBreach source time)
      (fun latched t => Leaves s (Halts loss) t ∧
        ∀ halted, latched = some halted → t.Entered halted)
      (Leaves s (Halts loss)) := by
  rintro t ⟨⟨hconfig, hlimit, hinvalidate⟩, hdrops, hloss⟩
  unfold haltForRealizedLossBreach orFail
  simp only [transitionKillSwitchState, pure_bind, exec_get_bind]
  refine write_bind t _ _ (fun error io hio => ?_) fun io hio _ => ?_
  · exact failClosed_leaves rfl _ _ ⟨⟨hconfig, hlimit, hio.trans hinvalidate⟩, hdrops⟩
  · unfold enterState
    rw [exec_update_bind]
    exact haltActions_leaves _ _ time _ ⟨⟨hconfig, hlimit, hio.trans hinvalidate⟩, hloss, rfl, rfl⟩

end

/-! ## Polls -/

/-- What a poll may leave of an object: a halt, or its actions to be tried again. -/
def Polls (before protection : KillSwitchLossProtection) : Prop :=
  ∃ pending, before.pendingHaltActions = some pending ∧
    (Halts before.loss protection ∨ ∃ nextRetry deadline, protection =
      { before with pendingHaltActions := some ⟨pending.state, nextRetry, deadline⟩ })

/-- The session without pending actions. -/
def Session.cleared (s : Session) : Session :=
  { s with protection := { s.protection with pendingHaltActions := none } }

/-- **What a poll leaves**: the session, or what is written. -/
theorem poll_leaves (time : Nat) (s : Session) :
    Ends (· = s) (pollPendingHaltActions time)
      (fun t => t = s ∨ Leaves s.cleared (Polls s.protection) t)
      fun t => t = s ∨ Leaves s.cleared (Polls s.protection) t := by
  rintro s rfl
  unfold pollPendingHaltActions
  rw [exec_get_bind]
  split
  · exact .inl rfl
  rename_i pending hpending
  split_ifs
  · exact .inl rfl
  · cases hstate : pending.state with
    | halting haltId trigger =>
      unfold failHaltActions orFail
      simp only [transitionKillSwitchState, pure_bind]
      have hends := @enterFailed_leaves _ _ s (fun _ => False)
        (.failedManualIntervention haltId "halt_action_retry_timeout") rfl
      refine (hends.mono_error ?_).bind (fun _ => ?_) s ⟨⟨rfl, rfl, rfl⟩, .inr rfl⟩
      · rintro t ⟨hfailed, hleaves⟩
        cases hleaves with
        | stored _ kept => exact kept.elim
        | failed continues state admission _ file =>
          refine .inr (.failed ⟨continues.1, continues.2, continues.3⟩ state admission ?_ file)
          exact fun hok => by cases hfailed.symm.trans hok
      · rintro t (⟨_, kept⟩ | ⟨continues, state, admission, -, file⟩)
        · exact kept.elim
        · exact .inr (.failed ⟨continues.1, continues.2, continues.3⟩ state admission
            (fun _ => .inl rfl) file)
    | _ => exact .inl rfl
  · unfold emitHaltActions
    rw [bind_assoc, exec_get_bind, pure_bind]
    split
    · rw [exec_update_bind]
      exact ((persistRuntime_leaves (s := s.cleared) _).mono (fun _ h => Or.inr h.1)
        fun _ => Or.inr).then_throw _
        ⟨⟨rfl, rfl, rfl⟩, rfl, pending, hpending, .inr ⟨_, _, rfl⟩⟩
    · cases hstate : pending.state with
      | halting haltId trigger =>
        have hpolls : ∀ {t}, Leaves s.cleared (Halts s.protection.loss) t →
            t = s ∨ Leaves s.cleared (Polls s.protection) t :=
          fun h => .inr (h.mono fun _ h => ⟨pending, hpending, .inl h⟩)
        exact Ends.then_pure ((recordHalted_leaves haltId trigger).mono (fun _ _ h => hpolls h.1)
          fun _ => hpolls) s ⟨⟨rfl, rfl, rfl⟩, rfl⟩
      | _ => exact .inl rfl

end

end BoltV3.KillSwitch
