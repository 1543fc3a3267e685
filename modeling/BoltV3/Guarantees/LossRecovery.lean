import BoltV3.KillSwitch.Sync
import BoltV3.Guarantees.Latch

/-!
# Restarts of the loss protection

Where all writes of the store succeed, a restart changes nothing: the object that is seeded from the
file behaves like the one that was there.

* A store may be any that the loader accepts or rejects. Only an armed snapshot has to be one that
  is written by the code: `Valid` says that its entries are dated no later than its bucket, and that
  it has no pending actions.
* A failed state is written without the loss state, so after the switch has failed a restarted
  object may have another one; it is not read any more. In every other state it has the same
  (`Alike`).
-/

namespace BoltV3.KillSwitch

open Lib Loss List
open Lib.Action (Ends)
open Std (ExtTreeMap)

section

variable [arith : DecimalArith] [HaltIds] [codec : StateCodec] {setup : Setup}

/-! ## Runs -/

/-- The file and the object of the running process. -/
structure System.Synced (setup : Setup) (s : System) : Prop where
  valid : Valid setup s.disk.file
  protection : ∀ protection, s.protection = some protection →
    KillSwitch.Synced setup protection s.disk.file

/-- The currency of what an operation observes is one the loader knows. -/
def Op.Registered : Op → Prop
  | .recordRealizedPnl observation _ => KillSwitch.Registered observation.settlementCurrency
  | .recordPositionRealizedPnl observation _ =>
    KillSwitch.Registered observation.observed.settlementCurrency
  | .recordPositionEvent event _ => ∀ observation,
    positionRealizedPnlObservation event = some observation →
      KillSwitch.Registered observation.observed.settlementCurrency
  | .restart .. | .pollPendingHaltActions .. => True

omit [HaltIds] in
/-- A call whose action keeps the file and the object together. -/
theorem System.Synced.call {session : Session} {x : Act (Option KillSwitchState)}
    (hvalid : Valid setup session.disk.file)
    (hx : session.Keeps (InSync setup) (x.exec session))
    (hok : (session.call x).2.disk.failed = false) :
    System.Synced setup (session.call x).2 := by
  rw [Session.call_disk] at hok
  have hfile : Valid setup (session.call x).2.disk.file := by
    rw [Session.call_disk]
    rcases hx with ⟨-, hdisk⟩ | hsync
    · exact hdisk ▸ hvalid
    · exact (hsync hok).valid
  refine ⟨hfile, fun protection hprotection => ?_⟩
  obtain ⟨hpanic, rfl⟩ := Session.call_protection hprotection
  rw [Session.call_disk]
  exact hx.resolve_left (fun h => hpanic h.1) hok

variable {s : System} {op : Op} {protection : KillSwitchLossProtection}

/-- **Every operation keeps the file and the object together.** -/
theorem System.Synced.step (lossless : arith.Lossless) (lawful : codec.Lawful)
    (hs : System.Synced setup s) (hop : op.Registered)
    (hok : (s.step setup op).disk.failed = false) : System.Synced setup (s.step setup op) := by
  rcases System.perform_cases setup s op with
    ⟨clock, io, rfl, hstep⟩ | ⟨-, hstep⟩ | ⟨protection, x, hprotection, hmethod, hperform⟩
  · rw [hstep] at hok ⊢
    refine .call hs.valid (.inr ?_) hok
    rw [Action.exec_map]
    exact seedFromStore_syncs lossless lawful hs.valid clock
  · rw [hstep]
    exact hs
  · have hsynced := hs.protection protection hprotection
    rw [System.step, hperform] at hok ⊢
    refine .call hs.valid (method_keeps hmethod (fun _ => hsynced)
      (poll_syncs lossless lawful hsynced) ?_ ?_) hok
    · rintro observation io rfl
      exact recordRealizedPnl_syncs lossless lawful hop hsynced
    · intro observation hposition
      refine recordPosition_syncs lossless lawful ?_ hsynced
      cases op with
      | recordPositionRealizedPnl =>
        cases hposition
        exact hop
      | recordPositionEvent => exact hop observation hposition
      | _ => cases hposition

/-- No write of the run fails. -/
def System.Writes (setup : Setup) (s : System) (ops : List Op) : Prop :=
  ∀ before after, ops = before ++ after → (s.run setup before).disk.failed = false

theorem System.writes_nil : s.Writes setup [] ↔ s.disk.failed = false := by
  constructor
  · intro h
    exact h [] [] rfl
  · intro h before after heq
    obtain ⟨rfl, -⟩ := append_eq_nil_iff.mp heq.symm
    exact h

theorem System.writes_cons {ops : List Op} : s.Writes setup (op :: ops) ↔
      s.disk.failed = false ∧ (s.step setup op).Writes setup ops := by
  constructor
  · intro h
    refine ⟨h [] (op :: ops) rfl, ?_⟩
    rintro before after rfl
    exact h (op :: before) after rfl
  · rintro ⟨hs, hops⟩ before after heq
    rcases before with _ | ⟨first, before⟩
    · exact hs
    · obtain ⟨rfl, hrest⟩ := cons.inj heq
      exact hops before after hrest

theorem System.Synced.run (lossless : arith.Lossless) (lawful : codec.Lawful)
    (hs : System.Synced setup s) {ops : List Op} (hops : ∀ op ∈ ops, op.Registered)
    (hwrites : s.Writes setup ops) : System.Synced setup (s.run setup ops) := by
  induction ops generalizing s with
  | nil => exact hs
  | cons op ops ih =>
    have hstep := hs.step lossless lawful (hops op mem_cons_self) (hwrites [op] ops rfl)
    exact ih hstep (fun op' hop' => hops op' (mem_cons_of_mem op hop'))
      (System.writes_cons.mp hwrites).2

/-! ## Objects that behave alike -/

/-- Two systems with one file whose objects behave alike. -/
structure System.Alike (s t : System) : Prop where
  disk : s.disk = t.disk
  protection : s.protection = t.protection ∨
    ∃ p q, s.protection = some p ∧ t.protection = some q ∧ KillSwitch.Alike p q

/-- The results of a run, in order. -/
def System.results (setup : Setup) (s : System) :
    List Op → List (Option (Except Failure (Option KillSwitchState)))
  | [] => []
  | op :: ops => (s.perform setup op).1 :: System.results setup (s.step setup op) ops

/-- An object that is not armed and has nothing pending does nothing. -/
theorem perform_idle
    (hprotection : s.protection = some protection) (hstate : protection.state ≠ .armed)
    (hpending : protection.pendingHaltActions = none) (hop : ∀ clock io, op ≠ .restart clock io) :
    s.perform setup op = (some (.ok none), s) := by
  rcases System.perform_cases setup s op with
    ⟨clock, io, rfl, -⟩ | ⟨hnone, -⟩ | ⟨_, x, hsome, hmethod, hperform⟩
  · exact absurd rfl (hop clock io)
  · cases hprotection.symm.trans hnone
  · cases hprotection.symm.trans hsome
    have hexec : x.exec ⟨protection, s.disk, op.io⟩ =
        (.ok none, ⟨protection, s.disk, op.io⟩) := by
      rcases exec_unarmed (s := ⟨protection, s.disk, op.io⟩) hmethod hstate with
        hexec | ⟨time, hexec⟩
      · exact hexec
      · rw [hexec]
        unfold observeUnarmed pollPendingHaltActions
        rw [bind_assoc, Action.exec_get_bind]
        rw [hpending]
        rfl
    rw [hperform, Session.call, hexec]
    dsimp only
    rw [← hprotection]

theorem System.Alike.perform {t : System} (h : s.Alike t) (op : Op) :
    (s.perform setup op).1 = (t.perform setup op).1 ∧
      System.Alike (s.step setup op) (t.step setup op) := by
  have heq : s.protection = t.protection → s = t := by
    intro hprotection
    rcases s with ⟨_, _⟩
    rcases t with ⟨_, _⟩
    cases h.disk
    cases hprotection
    rfl
  rcases h.protection with hprotection | ⟨p, q, hp, hq, halike⟩
  · cases heq hprotection
    exact ⟨rfl, rfl, .inl rfl⟩
  by_cases hread : p.state.kind ≠ .failedManualIntervention ∨ p.pendingHaltActions ≠ none
  · cases heq (by rw [hp, hq, halike.eq_of_read hread])
    exact ⟨rfl, rfl, .inl rfl⟩
  obtain ⟨hfailed, hpending⟩ := not_or.mp hread
  have hpending := not_not.mp hpending
  have hstate : p.state ≠ .armed := by
    intro harmed
    rw [harmed] at hfailed
    exact hfailed nofun
  by_cases hop : ∃ clock io, op = .restart clock io
  · -- a restart reads the file only
    obtain ⟨clock, io, rfl⟩ := hop
    have hsame : s.perform setup (.restart clock io) = t.perform setup (.restart clock io) := by
      unfold System.perform
      rw [h.disk]
    rw [System.step, System.step, hsame]
    exact ⟨rfl, rfl, .inl rfl⟩
  · have hop : ∀ clock io, op ≠ .restart clock io := fun clock io heq => hop ⟨clock, io, heq⟩
    have hq' : q.state ≠ .armed ∧ q.pendingHaltActions = none := by
      rw [halike.1]
      exact ⟨hstate, hpending⟩
    rw [System.step, System.step, perform_idle hp hstate hpending hop,
      perform_idle hq hq'.1 hq'.2 hop]
    exact ⟨rfl, h⟩

theorem System.Alike.run {t : System} (h : s.Alike t) (ops : List Op) :
    s.results setup ops = t.results setup ops ∧ (s.run setup ops).Alike (t.run setup ops) := by
  induction ops generalizing s t with
  | nil => exact ⟨rfl, h⟩
  | cons op ops ih =>
    obtain ⟨hresult, hstep⟩ : (s.perform setup op).1 = (t.perform setup op).1 ∧ _ := h.perform op
    obtain ⟨hresults, hrun⟩ := ih hstep
    refine ⟨?_, hrun⟩
    unfold System.results
    rw [hresult, hresults]

variable {file : Option codec.Bytes}

/-- A restart from the file of an object takes no action. -/
theorem Synced.exec_seed {disk : Disk} {io : Io}
    (h : Synced setup protection disk.file) (clock : Nat) :
    (seedFromStore clock).exec ⟨fresh setup, disk, io⟩ =
      (.ok protection.state, ⟨seeded setup disk.file, disk, io⟩) := by
  have hloaded := h.loadedState_eq
  by_cases hstate : protection.state = .armed
  · obtain ⟨-, hbelow, -⟩ := h.armed hstate
    obtain ⟨snapshot, hload⟩ := Option.ne_none_iff_exists'.mp (h.stored hstate)
    have hunfailed : protection.state.kind ≠ .failedManualIntervention := by
      rw [hstate]
      nofun
    rw [exec_seed_snapshot clock (hloaded.trans hstate) hload, h.alike.eq_of_read (.inl hunfailed),
      if_neg (by simp [hbelow]), hstate]
  · have hpending : (seeded setup disk.file).pendingHaltActions =
        protection.pendingHaltActions := by
      rw [h.alike.1]
    rw [exec_seed_unarmed clock (hloaded ▸ hstate), exec_seedActions_seeded clock ?_, hloaded]
    rw [hloaded, hpending]
    exact h.halting

omit [HaltIds] in
theorem Synced.load_armed (h : Synced setup protection file) (harmed : protection.state = .armed) :
    loadRecoveryRecord file setup.maxStateFileBytes =
      ⟨.recovered .armed, some ⟨protection.loss, none⟩⟩ := by
  obtain ⟨hpending, -, -⟩ := h.armed harmed
  obtain ⟨snapshot, hsnapshot⟩ := Option.ne_none_iff_exists'.mp (h.stored harmed)
  have hstate := h.loadedState_eq.trans harmed
  obtain rfl := h.snapshot_eq harmed hsnapshot
  rcases hload : loadRecoveryRecord file setup.maxStateFileBytes with
      ⟨state | ⟨reason, state⟩, _⟩ <;>
    rw [Setup.load, hload] at hsnapshot <;> rw [Setup.loadedState, Setup.load, hload] at hstate
  · cases hstate
    cases hsnapshot
    rw [KillSwitchLossProtection.lossSnapshot, hpending]
    rfl
  · exact absurd hstate (failClosedRecoveryState_ne_armed reason state)

/-- **A restart seeds an object that behaves like the one that was there.** -/
theorem System.Synced.restart_alike (hs : System.Synced setup s)
    (hprotection : s.protection ≠ none) (clock : Nat) (io : Io) :
    s.Alike (s.step setup (.restart clock io)) := by
  obtain ⟨protection, hsome⟩ := Option.ne_none_iff_exists'.mp hprotection
  have hsynced := hs.protection protection hsome
  have hexec : (some <$> seedFromStore clock).exec ⟨fresh setup, s.disk, io⟩ =
      (.ok (some protection.state), ⟨seeded setup s.disk.file, s.disk, io⟩) := by
    rw [map_eq_pure_bind, Action.exec_bind_ok (hsynced.exec_seed clock)]
    rfl
  rw [System.step_restart, Session.call, hexec]
  exact ⟨rfl, .inr ⟨protection, _, hsome, rfl, hsynced.alike⟩⟩

/-- **Restarts change nothing.** In a run that starts from a valid store, in registered currencies,
and in which no write fails, an armed object has in memory what is loaded from the store. Replacing
the object by one that is seeded changes no later result, and leads to systems that are alike. -/
theorem restarts_change_nothing (lossless : arith.Lossless) (lawful : codec.Lawful) (setup : Setup)
    (file : Option codec.Bytes) (hvalid : Valid setup file) (ops : List Op)
    (hops : ∀ op ∈ ops, op.Registered) (hwrites : (System.start file).Writes setup ops) :
    (∀ protection, ((System.start file).run setup ops).protection = some protection →
      protection.state = .armed →
      loadRecoveryRecord ((System.start file).run setup ops).disk.file setup.maxStateFileBytes =
        ⟨.recovered .armed, some ⟨protection.loss, none⟩⟩) ∧
    ∀ before after, ops = before ++ after → ∀ clock io,
      ((System.start file).run setup before).protection ≠ none →
      (((System.start file).run setup before).step setup (.restart clock io)).results setup after =
        ((System.start file).run setup before).results setup after ∧
      ((System.start file).run setup ops).Alike
        ((((System.start file).run setup before).step setup (.restart clock io)).run setup
          after) := by
  have hstart : System.Synced setup (System.start file) := ⟨hvalid, by rintro _ ⟨⟩⟩
  constructor
  · intro protection hprotection harmed
    exact ((hstart.run lossless lawful hops hwrites).protection protection hprotection).load_armed
      harmed
  · rintro before after rfl clock io hprotection
    have hbefore := hstart.run lossless lawful
      (fun op hop => hops op (mem_append_left after hop))
      (fun first rest heq => hwrites first (rest ++ after) (by rw [heq, append_assoc]))
    obtain ⟨hresults, halike⟩ := (hbefore.restart_alike hprotection clock io).run after
    rw [System.run_append]
    exact ⟨hresults.symm, halike⟩

end

namespace LimitOf100

attribute [local instance] Decimal.reference HaltIds.reference StateCodec.reference

/-- A loss of 60, and an observation in another currency, on which the switch fails closed. -/
def mixedCurrencies : List Op :=
  [.restart 1 succeeds, .recordRealizedPnl (loss 60) succeeds,
    .recordRealizedPnl ⟨"position", 2, ⟨-1, 0⟩, "USDT"⟩ succeeds]

/-- Every write of the run succeeds. The failed state is written without the loss state, so the
object that replaces the one with a loss of 60 has none. -/
theorem restart_drops_failed_loss :
    ((System.start armedFile).run setup mixedCurrencies).disk.failed = false ∧
    ∃ p q, ((System.start armedFile).run setup mixedCurrencies).protection = some p ∧
      (((System.start armedFile).run setup mixedCurrencies).step setup
        (.restart 3 succeeds)).protection = some q ∧
      p.state.kind = .failedManualIntervention ∧ q.state = p.state ∧
      p.loss.dailyRealizedPnl = ⟨-60, 0⟩ ∧ q.loss.dailyRealizedPnl = .zero :=
  ⟨rfl, _, _, rfl, rfl, by decide, by decide, by decide, by decide⟩

theorem armedFile_valid : Valid setup armedFile := by
  have hloads : setup.load armedFile =
      ⟨.recovered .armed, some initialArmedLossProtectionSnapshot⟩ := by decide
  intro _ snapshot hsnapshot
  rw [hloads] at hsnapshot
  cases hsnapshot
  exact ⟨LossState.initial_coherent.dates, rfl⟩

/-- A restart, and a loss of 60. -/
def lossOf60 : List Op := [.restart 1 succeeds, .recordRealizedPnl (loss 60) succeeds]

/-- After a loss of 60 the store has it, and a restart does not change that the next one breaches.
-/
theorem restart_keeps_loss_of_60 :
    (∃ protection, ((System.start armedFile).run setup lossOf60).protection = some protection ∧
      loadRecoveryRecord ((System.start armedFile).run setup lossOf60).disk.file
        setup.maxStateFileBytes = ⟨.recovered .armed, some ⟨protection.loss, none⟩⟩) ∧
    (((System.start armedFile).run setup lossOf60).step setup (.restart 2 succeeds)).results setup
        [.recordRealizedPnl (loss 60) succeeds] =
      ((System.start armedFile).run setup lossOf60).results setup
        [.recordRealizedPnl (loss 60) succeeds] := by
  have hregistered : Registered "USDC" := by
    unfold Registered
    decide
  have hwrites : (System.start armedFile).Writes setup
      (lossOf60 ++ [.recordRealizedPnl (loss 60) succeeds]) := by
    refine System.writes_cons.mpr ⟨rfl, System.writes_cons.mpr ⟨rfl,
      System.writes_cons.mpr ⟨rfl, System.writes_nil.mpr rfl⟩⟩⟩
  have hops : ∀ op ∈ lossOf60 ++ [.recordRealizedPnl (loss 60) succeeds], op.Registered := by
    simp only [lossOf60, cons_append, nil_append, forall_mem_cons,
      not_mem_nil, false_implies, implies_true, and_true]
    exact ⟨trivial, hregistered, hregistered⟩
  constructor
  · exact ⟨_, rfl, (restarts_change_nothing Decimal.reference_lossless StateCodec.reference_lawful
      setup armedFile armedFile_valid lossOf60 (fun op hop => hops op (mem_append_left _ hop))
      (fun before after heq => hwrites before (after ++ _) (by rw [heq, append_assoc]))).1 _ rfl
      (by decide)⟩
  · exact ((restarts_change_nothing Decimal.reference_lossless StateCodec.reference_lawful
      setup armedFile armedFile_valid _ hops hwrites).2 lossOf60 _ rfl 2 succeeds (by decide)).1

end LimitOf100

end BoltV3.KillSwitch
