import BoltV3.KillSwitch.Accounting

/-!
# Recovery from the store

What `seed_from_store` makes of a file: `seeded` is the object that has what is loaded. A recovery
ends in it, or halts or fails and writes that (`seedFromStore_leaves`).
-/

namespace BoltV3.KillSwitch

open Lib Loss Action
open Lib.Action (Ends)
open Std (ExtTreeMap)

/-! ## What is loaded -/

section

variable [arith : DecimalArith] [codec : StateCodec]

/-- What is loaded under the limit of a setup. -/
abbrev Setup.load (setup : Setup) (file : Option codec.Bytes) :=
  loadRecoveryRecord file setup.maxStateFileBytes

/-- The state that it says. -/
abbrev Setup.loadedState (setup : Setup) (file : Option codec.Bytes) : KillSwitchState :=
  recoveredState (setup.load file).recoveryState

variable {setup : Setup} {file : Option codec.Bytes} {loss : LossState}
  {snapshot : KillSwitchLossProtectionSnapshot}

/-- A snapshot that is loaded passes the checks of the loader. -/
theorem loadRecoveryRecord_loadable {maxStateFileBytes : Nat}
    (h : (loadRecoveryRecord file maxStateFileBytes).lossProtection = some snapshot) :
    snapshot.Loadable := by
  unfold loadRecoveryRecord recoveryRecordOf at h
  split at h
  · cases h
  split at h
  · cases h
  split at h
  · cases h
  split at h
  · cases h
  split at h
  · cases h
  split at h
  · cases h
  · rename_i restored hrestore
    cases h
    exact loadable_of_restore hrestore

/-- The loss state can be written and loaded again. -/
def LossState.Loads (loss : LossState) : Prop :=
  KillSwitchLossProtectionSnapshot.Loadable ⟨loss, none⟩

section

omit arith

theorem LossState.Loads.maps_disjoint (h : loss.Loads) : loss.Disjoint := by
  intro positionId hopen hclosed
  obtain ⟨entry, hentry⟩ := SortedMap.mem_iff_getElem?.mp hopen
  have hdisjoint := h.disjoint
  unfold positionsOverlap at hdisjoint
  rw [List.any_eq_false] at hdisjoint
  exact hdisjoint (positionId, entry) (SortedMap.mem_toList.mpr hentry)
    (ExtTreeMap.contains_iff_mem.mpr hclosed)

/-- What the loader checks of the maps, and the dates, make a coherent state. -/
theorem LossState.Loads.coherent (h : loss.Loads) (hdates : loss.Dates) : loss.Coherent where
  dates := hdates
  disjoint := h.maps_disjoint
  currency := by
    intro hnone entry
    have hcurrency := h.currency
    rw [hnone] at hcurrency
    unfold settlementCurrencyInvalid hasLossEvidence at hcurrency
    simp only [Bool.or_eq_false_iff, Bool.not_eq_false'] at hcurrency
    obtain ⟨⟨⟨-, hcumulative⟩, hclosed⟩, hadjusted⟩ := hcurrency
    rw [ExtTreeMap.isEmpty_iff] at hcumulative hclosed hadjusted
    simp [Has, Daily, hcumulative, hclosed, hadjusted]

end

/-! ## Objects -/

/-- The object before it is seeded. -/
def fresh (setup : Setup) : KillSwitchLossProtection :=
  .new setup.config setup.maxStateFileBytes .armed

/-- The object in a state, with a snapshot if there is one. -/
def restored (setup : Setup) (state : KillSwitchState)
    (snapshot : Option KillSwitchLossProtectionSnapshot) : KillSwitchLossProtection :=
  let entered := { fresh setup with admission := state.kind, state := state }
  snapshot.elim entered entered.applyLossSnapshot

/-- The object that has what is loaded. -/
def seeded (setup : Setup) (file : Option codec.Bytes) : KillSwitchLossProtection :=
  restored setup (setup.loadedState file) (setup.load file).lossProtection

section

omit arith codec

theorem restored_fields (setup : Setup) (state : KillSwitchState)
    (snapshot : Option KillSwitchLossProtectionSnapshot) :
    (restored setup state snapshot).config = setup.config ∧
      (restored setup state snapshot).maxStateFileBytes = setup.maxStateFileBytes ∧
      (restored setup state snapshot).admission = state.kind ∧
      (restored setup state snapshot).state = state ∧
      ∀ pending, (restored setup state snapshot).pendingHaltActions = some pending →
        pending.state = state := by
  rcases snapshot with _ | ⟨loss, _ | pending⟩
  · exact ⟨rfl, rfl, rfl, rfl, nofun⟩
  · exact ⟨rfl, rfl, rfl, rfl, nofun⟩
  · exact ⟨rfl, rfl, rfl, rfl, by rintro _ ⟨⟩; rfl⟩

/-- The snapshot of the object is the one it was built with. -/
theorem restored_lossSnapshot (setup : Setup) (state : KillSwitchState)
    (snapshot : KillSwitchLossProtectionSnapshot) :
    (restored setup state (some snapshot)).lossSnapshot = snapshot := by
  rcases snapshot with ⟨loss, _ | pending⟩
  · rfl
  · rfl

end

theorem seeded_state (setup : Setup) (file : Option codec.Bytes) :
    (seeded setup file).state = setup.loadedState file :=
  (restored_fields setup _ _).2.2.2.1

/-- The loss state of the object can be written. -/
theorem seeded_loads (file : Option codec.Bytes) : (seeded setup file).loss.Loads := by
  unfold seeded
  rcases h : (setup.load file).lossProtection with _ | snapshot
  · exact ⟨rfl, rfl⟩
  · exact ⟨(loadRecoveryRecord_loadable h).disjoint, (loadRecoveryRecord_loadable h).currency⟩

/-- The object that is armed has the snapshot that is loaded. -/
theorem seeded_armed (hstate : setup.loadedState file = .armed)
    (hload : (setup.load file).lossProtection = some snapshot) :
    (fresh setup).applyLossSnapshot snapshot = seeded setup file := by
  unfold seeded
  rw [hstate, hload]
  rfl

end

/-! ## Seeding -/

section

variable [arith : DecimalArith] [HaltIds] [codec : StateCodec] {setup : Setup}
  {disk : Disk} {io : Io}
  {s : Session} {loss : LossState} {snapshot : KillSwitchLossProtectionSnapshot}

/-- The actions of a halt that has none pending. -/
theorem seedHalting_leaves (haltId : String) (trigger : KillSwitchHaltTrigger) (clock : Nat) :
    Ends (fun t => s.Continues t ∧ t.protection.loss = loss ∧
        t.protection.pendingHaltActions = none)
      (seedActions (.halting haltId trigger) clock) (Leaves s (Halts loss))
      (Leaves s (Halts loss)) := by
  rintro t ⟨⟨hconfig, hlimit, hinvalidate⟩, hloss, hpending⟩
  unfold seedActions emitHaltActions enterState
  rw [exec_update_bind, exec_get_bind, if_pos ⟨rfl, hpending⟩, bind_assoc, exec_get_bind, pure_bind]
  split
  · refine Ends.then_pure persistPending_leaves _
      ⟨⟨hconfig, hlimit, hinvalidate⟩, hloss, rfl, nofun, ?_, fun _ => nofun⟩
    rintro _ ⟨⟩
    rfl
  · exact Yields.mono (recordHalted_leaves haltId trigger) (fun _ _ h => h.1) (fun _ h => h) _
      ⟨⟨hconfig, hlimit, hinvalidate⟩, hloss⟩

/-- The last step of a recovery that has no actions to take. -/
theorem exec_seedActions {state : KillSwitchState} (clock : Nat)
    (h : ¬ (state.kind = .halting ∧ s.protection.pendingHaltActions = none)) :
    (seedActions state clock).exec s = (.ok state, { s with
      protection := { s.protection with admission := state.kind, state := state } }) := by
  unfold seedActions enterState
  rw [exec_update_bind, exec_get_bind, if_neg h]
  rfl

/-- A breach that is latched has entered its state. -/
theorem seedBreached_leaves (clock : Nat) :
    Ends (fun t => s.Continues t ∧ s.Drops t ∧ t.protection.loss = loss) (seedBreached clock)
      (Leaves s (Halts loss)) (Leaves s (Halts loss)) := by
  unfold seedBreached
  refine Yields.bind (haltForRealizedLossBreach_leaves _ clock) fun latched => ?_
  rintro t ⟨hleaves, hentered⟩
  rcases latched with _ | latched
  · exact hleaves
  · obtain ⟨hkind, hlatched, hadmission⟩ := hentered latched rfl
    rw [exec_seedActions clock (fun hactions => by rw [hkind] at hactions; cases hactions.1),
      ← hadmission, ← hlatched]
    exact hleaves

/-- The recovery of a state that is not armed, up to its last step. -/
theorem exec_seed_unarmed (clock : Nat) (hstate : setup.loadedState disk.file ≠ .armed) :
    (seedFromStore clock).exec ⟨fresh setup, disk, io⟩ =
      (seedActions (setup.loadedState disk.file) clock).exec
        ⟨seeded setup disk.file, disk, io⟩ := by
  have hload : loadRecoveryRecord disk.file (fresh setup).maxStateFileBytes =
      setup.load disk.file := rfl
  unfold seedFromStore seeded
  rw [exec_get_bind]
  dsimp only
  rw [exec_update_bind, hload, if_neg hstate]
  cases (setup.load disk.file).lossProtection with
  | none | some snapshot => rfl

theorem exec_seed_armed (clock : Nat) (hstate : setup.loadedState disk.file = .armed) :
    (seedFromStore clock).exec ⟨fresh setup, disk, io⟩ =
      (seedArmed (setup.load disk.file).lossProtection clock).exec ⟨fresh setup, disk, io⟩ := by
  have hfresh : recoveredState
      (loadRecoveryRecord disk.file (fresh setup).maxStateFileBytes).recoveryState = .armed :=
        hstate
  unfold seedFromStore
  rw [exec_get_bind]
  rw [exec_update_bind, if_pos hfresh, hfresh]
  rfl

/-- The last step where the seeded object has nothing left to do. -/
theorem exec_seedActions_seeded (clock : Nat)
    (hhalting : (setup.loadedState disk.file).kind = .halting →
      (seeded setup disk.file).pendingHaltActions ≠ none) :
    (seedActions (setup.loadedState disk.file) clock).exec ⟨seeded setup disk.file, disk, io⟩ =
      (.ok (setup.loadedState disk.file), ⟨seeded setup disk.file, disk, io⟩) := by
  rw [exec_seedActions clock fun hactions => hhalting hactions.1 hactions.2]
  unfold seeded
  cases (setup.load disk.file).lossProtection with
  | none | some snapshot => rfl

/-- The recovery of an armed snapshot. -/
theorem exec_seed_snapshot (clock : Nat) (hstate : setup.loadedState disk.file = .armed)
    (hload : (setup.load disk.file).lossProtection = some snapshot) :
    (seedFromStore clock).exec ⟨fresh setup, disk, io⟩ =
      if (seeded setup disk.file).realizedLossBreached then
        (seedBreached clock).exec ⟨seeded setup disk.file, disk, io⟩
      else (.ok .armed, ⟨seeded setup disk.file, disk, io⟩) := by
  have hactions := @exec_seedActions_seeded _ _ _ setup disk io clock (by rw [hstate]; nofun)
  rw [hstate] at hactions
  rw [exec_seed_armed clock hstate, hload, ← hactions, ← seeded_armed hstate hload]
  unfold seedArmed
  rw [exec_update_bind, exec_get_bind]
  split_ifs <;> rfl

/-- **What a recovery leaves**: the object that has what is loaded, where nothing is left to be
done, or what is written. -/
inductive Seeds (setup : Setup) (disk : Disk) (io : Io) (t : Session) : Prop
  | taken (same : t = ⟨seeded setup disk.file, disk, io⟩)
      (armed : setup.loadedState disk.file = .armed → (setup.load disk.file).lossProtection ≠ none ∧
        (seeded setup disk.file).realizedLossBreached = false)
      (halting : (setup.loadedState disk.file).kind = .halting →
        (seeded setup disk.file).pendingHaltActions ≠ none)
  | written (idle : setup.loadedState disk.file ≠ .armed →
        (seeded setup disk.file).pendingHaltActions = none)
      (leaves : Leaves ⟨seeded setup disk.file, disk, io⟩
      (Halts (seeded setup disk.file).loss) t)

theorem seed_unarmed_leaves (clock : Nat) (hstate : setup.loadedState disk.file ≠ .armed) :
    Seeds setup disk io ((seedFromStore clock).exec ⟨fresh setup, disk, io⟩).2 := by
  rw [exec_seed_unarmed clock hstate]
  by_cases hhalting : (setup.loadedState disk.file).kind = .halting →
      (seeded setup disk.file).pendingHaltActions ≠ none
  · rw [exec_seedActions_seeded clock hhalting]
    exact .taken rfl (fun harmed => absurd harmed hstate) hhalting
  · obtain ⟨hkind, hpending⟩ := Classical.not_imp.mp hhalting
    cases hrecovered : setup.loadedState disk.file with
    | halting haltId trigger =>
      exact .written (fun _ => not_not.mp hpending) (Ends.exec
        (seedHalting_leaves haltId trigger clock) ⟨⟨rfl, rfl, rfl⟩, rfl, not_not.mp hpending⟩)
    | _ =>
      rw [hrecovered] at hkind
      cases hkind

theorem seed_armed_leaves (clock : Nat) (hstate : setup.loadedState disk.file = .armed) :
    Seeds setup disk io ((seedFromStore clock).exec ⟨fresh setup, disk, io⟩).2 := by
  obtain ⟨hconfig, hlimit, -⟩ := restored_fields setup (setup.loadedState disk.file)
    (setup.load disk.file).lossProtection
  rcases hload : (setup.load disk.file).lossProtection with _ | snapshot
  · rw [exec_seed_armed clock hstate, hload]
    have hends := @enterFailed_leaves _ _ ⟨seeded setup disk.file, disk, io⟩
      (Halts (seeded setup disk.file).loss)
      (failClosedRecoveryState .missingLossProtectionSnapshot (some .armed)) rfl
    exact .written (absurd hstate) (Ends.exec (hends.mono_error fun _ => And.right).then_pure
      ⟨⟨hconfig.symm, hlimit.symm, rfl⟩, .inl rfl⟩)
  · rw [exec_seed_snapshot clock hstate hload]
    split_ifs with hbreached
    · exact .written (absurd hstate)
        (Ends.exec (seedBreached_leaves clock) ⟨⟨rfl, rfl, rfl⟩, .inr rfl, rfl⟩)
    · refine .taken rfl (fun _ => ⟨by simp [hload], Bool.eq_false_of_not_eq_true hbreached⟩) ?_
      rw [hstate]
      nofun

/-- **A recovery ends in the object that has what is loaded, or halts or fails.** -/
theorem seedFromStore_leaves (clock : Nat) :
    Seeds setup disk io ((seedFromStore clock).exec ⟨fresh setup, disk, io⟩).2 := by
  by_cases hstate : setup.loadedState disk.file = .armed
  · exact seed_armed_leaves clock hstate
  · exact seed_unarmed_leaves clock hstate

/-- **What a recovery leaves of a switch that is armed after it**: the object with what is loaded,
and the file. -/
theorem seed_stays {clock : Nat} {s' : Session} {result : Except Failure KillSwitchState}
    (hrun : (seedFromStore clock).exec ⟨fresh setup, disk, io⟩ = (result, s'))
    (hstays : s'.protection.state = .armed) :
    setup.loadedState disk.file = .armed ∧
    ∃ snapshot, (setup.load disk.file).lossProtection = some snapshot ∧
      s' = ⟨(fresh setup).applyLossSnapshot snapshot, disk, io⟩ := by
  have hseeds := @seedFromStore_leaves _ _ _ setup disk io clock
  rw [hrun] at hseeds
  rcases hseeds with ⟨rfl, harmed, -⟩ | ⟨-, hleaves⟩
  · have hstate := (seeded_state setup disk.file).symm.trans hstays
    obtain ⟨snapshot, hload⟩ := Option.ne_none_iff_exists'.mp (harmed hstate).1
    refine ⟨hstate, snapshot, hload, ?_⟩
    rw [seeded_armed hstate hload]
  · exact absurd hstays (hleaves.unarmed fun _ h => h.unarmed)

/-! ## Operations -/

/-- A method that panics has not written; every other ends in a session with `I`. -/
def Session.Keeps (I : Session → Prop) (s : Session)
    (run : Except Failure (Option KillSwitchState) × Session) : Prop :=
  (run.1 = .error .panic ∧ run.2.disk = s.disk) ∨ I run.2

/-- The position observation of an operation. -/
def positionOf : Op → Option PositionRealizedPnlObservation
  | .recordPositionRealizedPnl observation _ => some observation
  | .recordPositionEvent event _ => positionRealizedPnlObservation event
  | .restart .. | .recordRealizedPnl .. | .pollPendingHaltActions .. => none

variable {op : Op} {x : Act (Option KillSwitchState)} {I : Session → Prop}

/-- A method of a switch that is not armed does nothing but poll. -/
theorem exec_unarmed (hmethod : methodOf op = some x) (hstate : s.protection.state ≠ .armed) :
    x.exec s = (.ok none, s) ∨ ∃ time, x.exec s = (observeUnarmed time).exec s := by
  have hposition : ∀ observation, (recordPositionRealizedPnl observation).exec s = (.ok none, s) ∨
      ∃ time, (recordPositionRealizedPnl observation).exec s = (observeUnarmed time).exec s := by
    intro observation
    unfold recordPositionRealizedPnl
    rw [exec_get_bind, if_pos hstate]
    split_ifs
    · exact .inl rfl
    · exact .inr ⟨_, rfl⟩
  cases op with
  | restart clock io => cases hmethod
  | recordRealizedPnl observation io =>
    cases hmethod
    unfold recordRealizedPnl
    rw [exec_get_bind, if_pos hstate]
    exact .inr ⟨_, rfl⟩
  | recordPositionRealizedPnl observation io =>
    cases hmethod
    exact hposition observation
  | recordPositionEvent event io =>
    cases hmethod
    unfold recordPositionEvent
    split
    · exact .inl rfl
    · exact hposition _
  | pollPendingHaltActions time io =>
    cases hmethod
    exact .inr ⟨time, rfl⟩

/-- What every method keeps: a poll, and the observations of an armed switch. -/
theorem method_keeps (hmethod : methodOf op = some x) (hs : I s)
    (hpoll : ∀ time, I ((pollPendingHaltActions time).exec s).2)
    (hrealized : ∀ observation io, op = .recordRealizedPnl observation io →
      s.protection.state = .armed → s.Keeps I ((recordRealizedPnl observation).exec s))
    (hposition : ∀ observation, positionOf op = some observation →
      s.protection.state = .armed → s.Keeps I ((recordPositionRealizedPnl observation).exec s)) :
    s.Keeps I (x.exec s) := by
  have hunarmed : ∀ time, s.Keeps I ((observeUnarmed time).exec s) := by
    intro time
    unfold observeUnarmed Session.Keeps
    rw [← map_eq_pure_bind, exec_map]
    exact .inr (hpoll time)
  by_cases harmed : s.protection.state = .armed
  · cases op with
    | restart clock io => cases hmethod
    | recordRealizedPnl observation io =>
      cases hmethod
      exact hrealized observation io rfl harmed
    | recordPositionRealizedPnl observation io =>
      cases hmethod
      exact hposition observation rfl harmed
    | recordPositionEvent event io =>
      cases hmethod
      unfold recordPositionEvent
      cases hevent : positionRealizedPnlObservation event with
      | none => exact .inr hs
      | some observation => exact hposition observation hevent harmed
    | pollPendingHaltActions time io =>
      cases hmethod
      exact hunarmed time
  · rcases exec_unarmed hmethod harmed with hexec | ⟨time, hexec⟩ <;> rw [hexec]
    · exact .inr hs
    · exact hunarmed time

theorem System.step_restart (setup : Setup) (s : System) (clock : Nat) (io : Io) :
    s.step setup (.restart clock io) =
      (Session.call ⟨fresh setup, s.disk, io⟩ (some <$> seedFromStore clock)).2 := rfl

theorem System.step_position {setup : Setup} {s : System} {protection : KillSwitchLossProtection}
    (h : s.protection = some protection) (observation : PositionRealizedPnlObservation) (io : Io) :
    s.step setup (.recordPositionRealizedPnl observation io) =
      (Session.call ⟨protection, s.disk, io⟩ (recordPositionRealizedPnl observation)).2 := by
  unfold System.step System.perform
  rw [h]
  rfl

/-- An operation restarts, or calls a method of the object, or there is none. -/
theorem System.perform_cases (setup : Setup) (s : System) (op : Op) :
    (∃ clock io, op = .restart clock io ∧ s.step setup op =
      (Session.call ⟨fresh setup, s.disk, io⟩ (some <$> seedFromStore clock)).2) ∨
    (s.protection = none ∧ s.step setup op = s) ∨
    ∃ protection x, s.protection = some protection ∧ methodOf op = some x ∧
      s.perform setup op = (some (Session.call ⟨protection, s.disk, op.io⟩ x).1,
        (Session.call ⟨protection, s.disk, op.io⟩ x).2) := by
  unfold System.step System.perform
  cases op with
  | restart clock io => exact .inl ⟨clock, io, rfl, rfl⟩
  | _ =>
    right
    cases hprotection : s.protection with
    | none => exact .inl ⟨rfl, rfl⟩
    | some protection => exact .inr ⟨protection, _, rfl, rfl, rfl⟩

end

end BoltV3.KillSwitch
