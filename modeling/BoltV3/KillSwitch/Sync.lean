import BoltV3.KillSwitch.Recovery

/-!
# The object and its file

Where all writes of the store succeed, the file says between two methods what the object has in
memory.

* `Synced` compares an object with the one that is seeded from the file. A failed state is written
  without the loss state; once the switch has failed the loss state is not read any more.
* `InSync` is `Synced` where no write has failed. It holds of what a path that writes leaves
  (`Leaves.inSync`), and so after every method.
-/

namespace BoltV3.KillSwitch

open Lib Loss Action
open Lib.Action (Ends)
open Std (ExtTreeMap)

section

variable [arith : DecimalArith] [codec : StateCodec]

/-! ## What is loaded -/

omit arith codec in
/-- A state that is written is the one a recovery starts in. -/
theorem recoveredState_recoveryStateOf (state : KillSwitchState) :
    recoveredState (recoveryStateOf state) = state := by
  cases state <;> rfl

variable {maxStateFileBytes : Nat} {loss : LossState} {snapshot : KillSwitchLossProtectionSnapshot}
  {state : KillSwitchState}

theorem load_written (lossless : arith.Lossless) (lawful : codec.Lawful)
    (hloadable : snapshot.Loadable)
    (hsize : StateCodec.size (serializeStateWithLossSnapshot state (some snapshot)) ≤
      maxStateFileBytes) :
    loadRecoveryRecord (some (serializeStateWithLossSnapshot state (some snapshot)))
      maxStateFileBytes = ⟨recoveryStateOf state, some snapshot⟩ := by
  rw [loadRecoveryRecord_written lawful hsize]
  unfold recoveryRecordOf
  simp only [Option.map_some, (restore_persist lossless).mpr ⟨hloadable, rfl⟩]

/-! ## Loss states that are read back -/

/-- The currency is one the loader knows. -/
def Registered (currency : String) : Prop := settlementCurrencyInvalid (some currency) true = false

omit arith in
/-- A coherent state in a registered currency is read back. -/
theorem LossState.Coherent.loads (h : loss.Coherent) {currency : String}
    (hcurrency : loss.settlementCurrency = some currency) (hregistered : Registered currency) :
    loss.Loads := by
  constructor
  · unfold positionsOverlap
    rw [List.any_eq_false]
    rintro ⟨positionId, entry⟩ hmem hcontains
    have hopen := SortedMap.mem_iff_getElem?.mpr ⟨entry, SortedMap.mem_toList.mp hmem⟩
    exact h.disjoint positionId hopen (ExtTreeMap.contains_iff_mem.mp hcontains)
  · rw [hcurrency]
    exact hregistered

/-! ## Objects and files -/

variable {setup : Setup} {protection : KillSwitchLossProtection} {file : Option codec.Bytes}
  {failed : KillSwitchState} {α : Type}

/-- What holds of the object alone. -/
structure Upheld (setup : Setup) (protection : KillSwitchLossProtection) : Prop where
  config : protection.config = setup.config
  limit : protection.maxStateFileBytes = setup.maxStateFileBytes
  admission : protection.admission = protection.state.kind
  pending : ∀ pending, protection.pendingHaltActions = some pending →
    pending.state = protection.state
  halting : protection.state.kind = .halting → protection.pendingHaltActions ≠ none
  armed : protection.state = .armed → protection.pendingHaltActions = none ∧
    protection.realizedLossBreached = false ∧ protection.loss.Coherent

/-- Two objects of one configuration and state, with one loss state unless the switch has failed and
has no actions pending. -/
def Alike (p q : KillSwitchLossProtection) : Prop :=
  q = { p with loss := q.loss } ∧
    (p.state.kind ≠ .failedManualIntervention ∨ p.pendingHaltActions ≠ none → q.loss = p.loss)

omit arith codec in
theorem Alike.eq_of_read {p q : KillSwitchLossProtection} (h : Alike p q)
    (hread : p.state.kind ≠ .failedManualIntervention ∨ p.pendingHaltActions ≠ none) : q = p := by
  rw [h.1, h.2 hread]

/-- The file says what the object has. -/
structure Synced (setup : Setup) (protection : KillSwitchLossProtection)
    (file : Option codec.Bytes) : Prop extends Upheld setup protection where
  alike : Alike protection (seeded setup file)
  stored : protection.state = .armed → (setup.load file).lossProtection ≠ none

/-- What holds between two methods where no write has failed. -/
def InSync (setup : Setup) (s : Session) : Prop :=
  s.disk.failed = false → Synced setup s.protection s.disk.file

/-- What a write has to leave in the file: the snapshot of the object, or a failed state without it.
-/
theorem Upheld.synced (h : Upheld setup protection)
    {stored : Option KillSwitchLossProtectionSnapshot}
    (hload : setup.load file = ⟨recoveryStateOf protection.state, stored⟩)
    (hstored : stored = some protection.lossSnapshot ∨ stored = none ∧
      protection.state.kind = .failedManualIntervention ∧ protection.pendingHaltActions = none) :
    Synced setup protection file := by
  have hseeded : seeded setup file = restored setup protection.state stored := by
    unfold seeded Setup.loadedState
    rw [hload, recoveredState_recoveryStateOf]
  refine ⟨h, hseeded ▸ ?_, fun harmed => hload ▸ ?_⟩
  · rcases protection with ⟨config, limit, admission, state, loss, pending⟩
    obtain rfl : config = setup.config := h.config
    obtain rfl : limit = setup.maxStateFileBytes := h.limit
    obtain rfl : admission = state.kind := h.admission
    rcases hstored with rfl | ⟨rfl, hfailed, hnone⟩
    · rcases pending with _ | pending
      · exact ⟨rfl, fun _ => rfl⟩
      · obtain rfl : pending.state = state := h.pending pending rfl
        exact ⟨rfl, fun _ => rfl⟩
    · obtain rfl : pending = none := hnone
      exact ⟨rfl, fun hread => (hread.elim (· hfailed) (· rfl)).elim⟩
  · rcases hstored with rfl | ⟨-, hfailed, -⟩
    · nofun
    · rw [harmed] at hfailed
      cases hfailed

/-- An object whose loss state is read again has one that is in the file. -/
theorem Synced.loads (h : Synced setup protection file)
    (hread : protection.pendingHaltActions ≠ none) : protection.loss.Loads :=
  h.alike.2 (.inr hread) ▸ seeded_loads file

/-- An object that has not failed has the snapshot that is loaded. -/
theorem Synced.snapshot_eq (h : Synced setup protection file) (harmed : protection.state = .armed)
    (hload : (setup.load file).lossProtection = some snapshot) :
    snapshot = protection.lossSnapshot := by
  have hread : protection.state.kind ≠ .failedManualIntervention := by
    rw [harmed]
    nofun
  rw [← h.alike.eq_of_read (.inl hread), seeded, hload, restored_lossSnapshot]

theorem Synced.loadedState_eq (h : Synced setup protection file) :
    setup.loadedState file = protection.state := by
  obtain ⟨-, -, -, hstate, -⟩ := restored_fields setup (setup.loadedState file)
    (setup.load file).lossProtection
  have halike : (seeded setup file).state = protection.state := by rw [h.alike.1]
  exact hstate.symm.trans halike

/-! ## Methods -/

variable {s t : Session} {kept : KillSwitchLossProtection → Prop}

/-- **What a path that writes leaves is in sync**, if what it keeps can be written. -/
theorem Leaves.inSync (lossless : arith.Lossless) (lawful : codec.Lawful) (h : Leaves s kept t)
    (hconfig : s.protection.config = setup.config)
    (hlimit : s.protection.maxStateFileBytes = setup.maxStateFileBytes)
    (hpending : s.protection.pendingHaltActions = none)
    (hkept : ∀ protection, protection.config = setup.config →
      protection.maxStateFileBytes = setup.maxStateFileBytes → kept protection →
      Upheld setup protection ∧ protection.loss.Loads) : InSync setup t := by
  intro hok
  cases h with
  | stored continues kept written =>
    have hlimit := continues.limit.trans hlimit
    obtain ⟨hupheld, hloads⟩ := hkept _ (continues.config.trans hconfig) hlimit kept
    have hloadable : t.protection.lossSnapshot.Loadable := ⟨hloads.disjoint, hloads.currency⟩
    obtain ⟨hfile, hsize⟩ := written
    refine hupheld.synced ?_ (.inl rfl)
    rw [hfile]
    exact load_written lossless lawful hloadable (hlimit ▸ hsize)
  | failed continues state admission drops file =>
    have hlimit := continues.limit.trans hlimit
    have hnone : t.protection.pendingHaltActions = none := (drops hok).elim id fun h =>
      h.trans hpending
    have hupheld : Upheld setup t.protection :=
      { config := continues.config.trans hconfig, limit := hlimit, admission := admission
        pending := by
          rw [hnone]
          nofun
        halting := by
          rw [state]
          nofun
        armed := by
          intro harmed
          rw [harmed] at state
          cases state }
    rcases file with ⟨hfile, hsize⟩ | ⟨hfailed, -⟩
    · refine hupheld.synced ?_ (.inr ⟨rfl, state, hnone⟩)
      rw [hfile]
      exact loadRecoveryRecord_written lawful (hlimit ▸ hsize)
    · cases hfailed.symm.trans hok

omit arith codec in
/-- What halts is upheld. -/
theorem Halts.upheld {loss : LossState} (h : Halts loss protection)
    (hconfig : protection.config = setup.config)
    (hlimit : protection.maxStateFileBytes = setup.maxStateFileBytes) : Upheld setup protection :=
  ⟨hconfig, hlimit, h.admission, h.pending, h.halting, fun harmed => absurd harmed h.unarmed⟩

end

section

variable [arith : DecimalArith] [HaltIds] [codec : StateCodec] {setup : Setup} {s : Session}
  (lossless : arith.Lossless) (lawful : codec.Lawful)

include lossless lawful

/-- A poll keeps the file and the object together. -/
theorem poll_syncs (hs : Synced setup s.protection s.disk.file) (time : Nat) :
    InSync setup ((pollPendingHaltActions time).exec s).2 := by
  rcases (poll_leaves time s).exec rfl with hsame | hleaves
  · rw [hsame]
    exact fun _ => hs
  · refine hleaves.inSync lossless lawful hs.config hs.limit rfl fun protection hconfig hlimit => ?_
    rintro ⟨pending, hpending, hpolls⟩
    have hloads := hs.loads (by simp [hpending])
    rcases hpolls with hhalts | ⟨nextRetry, deadline, rfl⟩
    · exact ⟨hhalts.upheld hconfig hlimit, hhalts.loss ▸ hloads⟩
    · refine ⟨⟨hconfig, hlimit, hs.admission, ?_, fun _ => nofun, fun harmed => ?_⟩, hloads⟩
      · rintro _ ⟨⟩
        exact hs.pending pending hpending
      · cases hpending.symm.trans (hs.armed harmed).1

omit [HaltIds] in
/-- What an observation leaves of an armed switch. -/
theorem Observed.syncs {passes books : LossState → Prop}
    {run : Except Failure (Option KillSwitchState) × Session} (h : Observed s passes books run)
    (hs : Synced setup s.protection s.disk.file) (harmed : s.protection.state = .armed)
    (hpasses : ∀ prepared, passes prepared → prepared = s.protection.loss)
    (hbooks : ∀ loss, books loss → loss.Coherent ∧
      ∃ currency, loss.settlementCurrency = some currency ∧ Registered currency) :
    s.Keeps (InSync setup) run := by
  obtain ⟨hpending, hbelow, -⟩ := hs.armed harmed
  rcases h with ⟨hpassed, hsame⟩ | ⟨hpanic, hdisk⟩ | hleaves
  · obtain rfl := hpasses _ hpassed
    rw [Session.Keeps, hsame]
    exact .inr fun _ => hs
  · exact .inl ⟨hpanic, hdisk⟩
  · refine .inr (hleaves.inSync lossless lawful hs.config hs.limit hpending ?_)
    rintro protection hconfig hlimit ⟨loss, hbooked, hrecords⟩
    obtain ⟨hcoherent, currency, hcurrency, hregistered⟩ := hbooks loss hbooked
    have hloads := hcoherent.loads hcurrency hregistered
    rcases hrecords with ⟨rfl, hkept⟩ | hhalts
    · refine ⟨⟨hconfig, hlimit, hs.admission, hs.pending, hs.halting, fun _ => ?_⟩, hloads⟩
      exact ⟨hpending, (hkept ⟨harmed, hbelow⟩).2, hcoherent⟩
    · exact ⟨hhalts.upheld hconfig hlimit, hhalts.loss ▸ hloads⟩

theorem recordPosition_syncs {observation : PositionRealizedPnlObservation}
    (hregistered : Registered observation.observed.settlementCurrency)
    (hs : Synced setup s.protection s.disk.file) (harmed : s.protection.state = .armed) :
    s.Keeps (InSync setup) ((recordPositionRealizedPnl observation).exec s) := by
  obtain ⟨-, -, hcoherent⟩ := hs.armed harmed
  refine (recordPosition_observed harmed hcoherent.disjoint observation).syncs lossless lawful hs
    harmed (fun _ hpasses => hpasses.eq_loss hcoherent) fun loss hbooks => ?_
  obtain ⟨prepared, hprepare, happlied⟩ := id hbooks
  exact ⟨hcoherent.observe hbooks.observe, observation.observed.settlementCurrency,
    (LossState.book_bucket happlied).2.trans (LossState.prepare_bucket hprepare).2, hregistered⟩

theorem recordRealizedPnl_syncs {observation : RealizedPnlObservation}
    (hregistered : Registered observation.settlementCurrency)
    (hs : Synced setup s.protection s.disk.file) (harmed : s.protection.state = .armed) :
    s.Keeps (InSync setup) ((recordRealizedPnl observation).exec s) := by
  obtain ⟨-, -, hcoherent⟩ := hs.armed harmed
  refine (recordRealizedPnl_observed harmed observation).syncs lossless lawful hs harmed
    (fun _ h => h) ?_
  rintro _ ⟨prepared, total, hprepare, rfl⟩
  exact ⟨(hcoherent.prepare hprepare).total total, observation.settlementCurrency,
    (LossState.prepare_bucket hprepare).2, hregistered⟩

end

/-! ## Recovery -/

section

variable [arith : DecimalArith] [codec : StateCodec] {setup : Setup} {file : Option codec.Bytes}

/-- An armed snapshot of the store is one that is written by the code: no entry is dated after its
bucket, and no actions are pending. -/
def Valid (setup : Setup) (file : Option codec.Bytes) : Prop :=
  setup.loadedState file = .armed → ∀ snapshot, (setup.load file).lossProtection = some snapshot →
    snapshot.loss.Dates ∧ snapshot.pendingHaltActions = none

theorem Synced.valid {protection : KillSwitchLossProtection}
    (h : Synced setup protection file) : Valid setup file := by
  intro harmed snapshot hsnapshot
  have harmed := h.loadedState_eq.symm.trans harmed
  obtain ⟨hpending, -, hcoherent⟩ := h.armed harmed
  rw [h.snapshot_eq harmed hsnapshot]
  exact ⟨hcoherent.dates, by simp [KillSwitchLossProtection.lossSnapshot, hpending]⟩

/-- An object that is seeded armed is coherent and has no pending actions. -/
theorem Valid.seeded (h : Valid setup file) (hstate : setup.loadedState file = .armed) :
    (seeded setup file).pendingHaltActions = none ∧ (seeded setup file).loss.Coherent := by
  have hloads : (KillSwitch.seeded setup file).loss.Loads := seeded_loads file
  unfold KillSwitch.seeded at hloads ⊢
  rcases hload : (setup.load file).lossProtection with _ | ⟨loss, pending⟩
  · exact ⟨rfl, LossState.initial_coherent⟩
  · obtain ⟨hdates, hnone⟩ := h hstate _ hload
    obtain rfl : pending = none := hnone
    rw [hload] at hloads
    exact ⟨rfl, hloads.coherent hdates⟩

/-- The object has what is in the file, where nothing is left to be done. -/
theorem seeded_synced (hvalid : Valid setup file)
    (harmed : setup.loadedState file = .armed →
      (setup.load file).lossProtection ≠ none ∧ (seeded setup file).realizedLossBreached = false)
    (hhalting : (setup.loadedState file).kind = .halting →
      (seeded setup file).pendingHaltActions ≠ none) : Synced setup (seeded setup file) file := by
  obtain ⟨hconfig, hlimit, hadmission, hstate, hpending⟩ := restored_fields setup
    (setup.loadedState file) (setup.load file).lossProtection
  have hsame : (seeded setup file).state = setup.loadedState file := hstate
  exact
    { config := hconfig, limit := hlimit, admission := hadmission.trans (congrArg _ hstate.symm)
      pending := fun pending h => (hpending pending h).trans hstate.symm
      halting := by rwa [hsame]
      armed := by
        rw [hsame]
        intro hisArmed
        obtain ⟨hnone, hcoherent⟩ := hvalid.seeded hisArmed
        exact ⟨hnone, (harmed hisArmed).2, hcoherent⟩
      alike := ⟨rfl, fun _ => rfl⟩
      stored := fun hisArmed => (harmed (hsame ▸ hisArmed)).1 }

/-- **A recovery brings the object to what is in the file, or the file to what the object has.** -/
theorem seedFromStore_syncs [HaltIds] (lossless : arith.Lossless) (lawful : codec.Lawful)
    {disk : Disk} {io : Io} (hvalid : Valid setup disk.file) (clock : Nat) :
    InSync setup ((seedFromStore clock).exec ⟨fresh setup, disk, io⟩).2 := by
  obtain ⟨hconfig, hlimit, -⟩ := restored_fields setup (setup.loadedState disk.file)
    (setup.load disk.file).lossProtection
  rcases @seedFromStore_leaves _ _ _ setup disk io clock with
    ⟨hsame, harmed, hhalting⟩ | ⟨hidle, hleaves⟩
  · rw [hsame]
    exact fun _ => seeded_synced hvalid harmed hhalting
  · refine hleaves.inSync lossless lawful hconfig hlimit ?_ fun protection hconfig hlimit hhalts =>
      ⟨hhalts.upheld hconfig hlimit, hhalts.loss ▸ seeded_loads disk.file⟩
    by_cases hstate : setup.loadedState disk.file = .armed
    · exact (hvalid.seeded hstate).1
    · exact hidle hstate

end

end BoltV3.KillSwitch
