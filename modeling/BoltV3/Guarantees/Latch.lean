import BoltV3.KillSwitch.Recovery

/-!
# The latch of the kill switch

The latch lives in memory and in the file. The methods write before they enter a halting state and
after they enter a failed one, and every write may fail; what they leave says what holds of both.

* `Settled setup allowed` is what holds between two methods: the switch is not armed and the file
  says so, or it is armed below its limit, where `allowed`. Every method keeps it for both values of
  `allowed`.
* The runs are those in which an invalidation, tried only after the write of a failed state has
  failed, succeeds.
-/

namespace BoltV3.KillSwitch

open Lib Loss Action
open Lib.Action (Ends)

/-! ## What is found in the file -/

section

variable [DecimalArith] [codec : StateCodec]

theorem recoveryRecordOf_ne_armed {persisted : PersistedKillSwitchState}
    (h : persisted.state ≠ .armed) :
    recoveredState (recoveryRecordOf persisted).recoveryState ≠ .armed := by
  have hstate : recoveredState (recoveryStateOf persisted.state) ≠ .armed := by
    cases hpersisted : persisted.state <;> first | exact absurd hpersisted h | rintro ⟨⟩
  unfold recoveryRecordOf
  split
  · exact hstate
  · split
    · exact failClosedRecoveryState_ne_armed _ _
    · exact hstate

/-- A restart from the file does not find the switch armed. -/
def Unarmed (setup : Setup) (file : Option codec.Bytes) : Prop :=
  recoveredState (loadRecoveryRecord file setup.maxStateFileBytes).recoveryState ≠ .armed

variable {setup : Setup}

theorem unarmed_written (lawful : codec.Lawful) {state : KillSwitchState} (hstate : state ≠ .armed)
    {lossProtection : Option KillSwitchLossProtectionSnapshot}
    (hsize : StateCodec.size (serializeStateWithLossSnapshot state lossProtection) ≤
      setup.maxStateFileBytes) :
    Unarmed setup (some (serializeStateWithLossSnapshot state lossProtection)) := by
  unfold Unarmed
  rw [loadRecoveryRecord_written lawful hsize]
  exact recoveryRecordOf_ne_armed hstate

theorem unarmed_invalidated (lawful : codec.Lawful) : Unarmed setup (some codec.invalidated) := by
  obtain ⟨reason, hload⟩ := loadRecoveryRecord_invalidated lawful setup.maxStateFileBytes
  unfold Unarmed
  rw [hload]
  exact failClosedRecoveryState_ne_armed reason none

/-! ## Conditions -/

/-- The session is one of the setup, and an invalidation in it succeeds. -/
structure Bound (setup : Setup) (s : Session) : Prop where
  config : s.protection.config = setup.config
  limit : s.protection.maxStateFileBytes = setup.maxStateFileBytes
  invalidates : s.io.invalidate = none

/-- The switch is armed below its limit, where that is allowed, or not armed and the file says so.
-/
def Stands (setup : Setup) (allowed : Prop) (protection : KillSwitchLossProtection)
    (file : Option codec.Bytes) : Prop :=
  (allowed ∧ protection.Below ∧ protection.loss.Disjoint) ∨
    protection.state ≠ .armed ∧ Unarmed setup file

/-- What holds between two methods. -/
def Settled (setup : Setup) (allowed : Prop) (s : Session) : Prop :=
  Bound setup s ∧ Stands setup allowed s.protection s.disk.file

variable {s t : Session} {allowed : Prop} {kept : KillSwitchLossProtection → Prop}

/-- **What a path that writes leaves is settled**, if what it keeps armed is. -/
theorem Leaves.settled (lawful : codec.Lawful) (h : Leaves s kept t) (hbound : Bound setup s)
    (hkept : ∀ protection, kept protection → protection.state = .armed →
      allowed ∧ protection.Below ∧ protection.loss.Disjoint) : Settled setup allowed t := by
  have hbounds : s.Continues t → Bound setup t := fun hcontinues =>
    ⟨hcontinues.config.trans hbound.config, hcontinues.limit.trans hbound.limit,
      hcontinues.invalidate.trans hbound.invalidates⟩
  cases h with
  | stored continues kept written =>
    refine ⟨hbounds continues, ?_⟩
    by_cases harmed : t.protection.state = .armed
    · exact .inl (hkept _ kept harmed)
    · obtain ⟨hfile, hsize⟩ := written
      refine .inr ⟨harmed, ?_⟩
      rw [hfile]
      exact unarmed_written lawful harmed ((hbounds continues).limit ▸ hsize)
  | failed continues state _ _ file =>
    have hne : t.protection.state ≠ .armed := by
      intro harmed
      rw [harmed] at state
      cases state
    refine ⟨hbounds continues, .inr ⟨hne, ?_⟩⟩
    rcases file with ⟨hfile, hsize⟩ | ⟨-, hinvalidated⟩
    · rw [hfile]
      exact unarmed_written lawful hne ((hbounds continues).limit ▸ hsize)
    · rw [hinvalidated (hbounds continues).invalidates]
      exact unarmed_invalidated lawful

theorem Settled.armed (h : Settled setup allowed s) (hstate : s.protection.state = .armed) :
    allowed ∧ s.protection.Below ∧ s.protection.loss.Disjoint :=
  h.2.resolve_right fun hunarmed => hunarmed.1 hstate

end

/-! ## Methods -/

section

variable [DecimalArith] [HaltIds] [codec : StateCodec] {setup : Setup}
  {allowed : Prop} {s : Session} (lawful : codec.Lawful)

include lawful

theorem poll_settles (time : Nat) (hs : Settled setup allowed s) :
    Settled setup allowed ((pollPendingHaltActions time).exec s).2 := by
  rcases (poll_leaves time s).exec rfl with hsame | hleaves
  · rw [hsame]
    exact hs
  · refine hleaves.settled lawful ⟨hs.1.config, hs.1.limit, hs.1.invalidates⟩ ?_
    rintro protection ⟨pending, -, hhalts | ⟨nextRetry, deadline, rfl⟩⟩ harmed
    · exact absurd harmed hhalts.unarmed
    · exact hs.armed harmed

omit [HaltIds] in
/-- What an observation leaves of an armed switch. -/
theorem Observed.settled {passes books : LossState → Prop}
    {run : Except Failure (Option KillSwitchState) × Session} (h : Observed s passes books run)
    (hs : Settled setup allowed s) (harmed : s.protection.state = .armed)
    (hpasses : ∀ prepared, passes prepared →
      (s.withLoss prepared).protection.Below ∧ prepared.Disjoint)
    (hbooks : ∀ loss, books loss → loss.Disjoint) : s.Keeps (Settled setup allowed) run := by
  obtain ⟨hallowed, hbelow, -⟩ := hs.armed harmed
  rcases h with ⟨hpassed, hsame⟩ | ⟨hpanic, hdisk⟩ | hleaves
  · rw [Session.Keeps, hsame]
    exact .inr ⟨⟨hs.1.config, hs.1.limit, hs.1.invalidates⟩, .inl ⟨hallowed, hpasses _ hpassed⟩⟩
  · exact .inl ⟨hpanic, hdisk⟩
  · refine .inr (hleaves.settled lawful hs.1 ?_)
    rintro _ ⟨loss, hbooked, ⟨rfl, hkept⟩ | hhalts⟩ hstate
    · exact ⟨hallowed, hkept hbelow, hbooks loss hbooked⟩
    · exact absurd hstate hhalts.unarmed

theorem recordPosition_settles (observation : PositionRealizedPnlObservation)
    (hs : Settled setup allowed s) (harmed : s.protection.state = .armed) :
    s.Keeps (Settled setup allowed) ((recordPositionRealizedPnl observation).exec s) := by
  obtain ⟨-, hbelow, hdisjoint⟩ := hs.armed harmed
  refine (recordPosition_observed harmed hdisjoint observation).settled lawful hs harmed ?_
    fun loss hbooks => hdisjoint.observe hbooks.observe
  intro prepared hpasses
  cases hpasses with
  | unobserved | past => exact ⟨hbelow, hdisjoint⟩
  | ignored prepare => exact ⟨hbelow.prepare prepare, hdisjoint.prepare prepare⟩

theorem recordRealizedPnl_settles (observation : RealizedPnlObservation)
    (hs : Settled setup allowed s) (harmed : s.protection.state = .armed) :
    s.Keeps (Settled setup allowed) ((recordRealizedPnl observation).exec s) := by
  obtain ⟨-, hbelow, hdisjoint⟩ := hs.armed harmed
  refine (recordRealizedPnl_observed harmed observation).settled lawful hs harmed ?_ ?_
  · rintro _ rfl
    exact ⟨hbelow, hdisjoint⟩
  · rintro _ ⟨prepared, total, hprepare, rfl⟩
    have hprepared := hdisjoint.prepare hprepare
    exact hprepared

/-- **A restart arms the switch only from a file that has it armed, and below its limit.** -/
theorem seedFromStore_settles {disk : Disk} {io : Io} (hio : io.invalidate = none)
    (hfile : allowed ∨ Unarmed setup disk.file) (clock : Nat) :
    Settled setup allowed ((seedFromStore clock).exec ⟨fresh setup, disk, io⟩).2 := by
  obtain ⟨hconfig, hlimit, -⟩ := restored_fields setup (setup.loadedState disk.file)
    (setup.load disk.file).lossProtection
  have hbound : Bound setup ⟨seeded setup disk.file, disk, io⟩ := ⟨hconfig, hlimit, hio⟩
  rcases @seedFromStore_leaves _ _ _ setup disk io clock with ⟨hsame, harmed, -⟩ | ⟨-, hleaves⟩
  · rw [hsame]
    refine ⟨hbound, ?_⟩
    by_cases hstate : setup.loadedState disk.file = .armed
    · exact .inl ⟨hfile.resolve_right (absurd hstate),
        ⟨(seeded_state setup disk.file).trans hstate, (harmed hstate).2⟩,
        (seeded_loads disk.file).maps_disjoint⟩
    · exact .inr ⟨fun hseeded => hstate ((seeded_state setup disk.file).symm.trans hseeded), hstate⟩
  · exact hleaves.settled lawful hbound fun _ hhalts hstate => absurd hstate hhalts.unarmed

end

/-! ## Runs -/

section

variable [DecimalArith] [HaltIds] [codec : StateCodec] {setup : Setup} {allowed : Prop}

/-- What holds between two operations of a run. -/
structure System.Settled (setup : Setup) (allowed : Prop) (s : System) : Prop where
  file : allowed ∨ Unarmed setup s.disk.file
  protection : ∀ protection, s.protection = some protection →
    protection.config = setup.config ∧ protection.maxStateFileBytes = setup.maxStateFileBytes ∧
      Stands setup allowed protection s.disk.file

omit [HaltIds] in
theorem System.Settled.call {session : Session} {x : Act (Option KillSwitchState)}
    (hfile : allowed ∨ Unarmed setup session.disk.file)
    (hx : session.Keeps (KillSwitch.Settled setup allowed) (x.exec session)) :
    System.Settled setup allowed (session.call x).2 := by
  constructor
  · rw [Session.call_disk]
    rcases hx with ⟨-, hdisk⟩ | ⟨-, hstands⟩
    · exact hdisk ▸ hfile
    · exact hstands.imp And.left And.right
  · intro protection hprotection
    obtain ⟨hpanic, rfl⟩ := Session.call_protection hprotection
    obtain ⟨hbound, hstands⟩ := hx.resolve_left fun h => hpanic h.1
    rw [Session.call_disk]
    exact ⟨hbound.config, hbound.limit, hstands⟩

/-- **Every operation keeps what holds between two of them.** -/
theorem System.Settled.step (lawful : codec.Lawful) {s : System}
    (hs : System.Settled setup allowed s) {op : Op} (hop : op.io.invalidate = none) :
    System.Settled setup allowed (s.step setup op) := by
  rcases System.perform_cases setup s op with
    ⟨clock, io, rfl, hstep⟩ | ⟨-, hstep⟩ | ⟨protection, x, hprotection, hmethod, hperform⟩
  · rw [hstep]
    refine .call hs.file (.inr ?_)
    rw [exec_map]
    exact seedFromStore_settles lawful hop hs.file clock
  · rw [hstep]
    exact hs
  · obtain ⟨hconfig, hlimit, hstands⟩ := hs.protection protection hprotection
    have hsettled : KillSwitch.Settled setup allowed ⟨protection, s.disk, op.io⟩ :=
      ⟨⟨hconfig, hlimit, hop⟩, hstands⟩
    rw [System.step, hperform]
    refine .call hs.file (method_keeps hmethod hsettled (poll_settles lawful · hsettled) ?_ ?_)
    · exact fun observation _ _ => recordRealizedPnl_settles lawful observation hsettled
    · exact fun observation _ => recordPosition_settles lawful observation hsettled

theorem System.Settled.run (lawful : codec.Lawful) {s : System}
    (hs : System.Settled setup allowed s) {ops : List Op}
    (hops : ∀ op ∈ ops, op.io.invalidate = none) :
    System.Settled setup allowed (s.run setup ops) := by
  induction ops generalizing s with
  | nil => exact hs
  | cons op ops ih =>
    exact ih (hs.step lawful (hops op List.mem_cons_self)) fun op' hop' =>
      hops op' (List.mem_cons_of_mem op hop')

/-- There is no object yet, or one that was built and not seeded; the file may be any. -/
def System.Unused (setup : Setup) (s : System) : Prop :=
  ∀ protection, s.protection = some protection →
    protection = .new setup.config setup.maxStateFileBytes .armed

omit [HaltIds] in
theorem System.Unused.settled {s : System} (h : s.Unused setup) : System.Settled setup True s := by
  refine ⟨.inl trivial, fun protection hprotection => ?_⟩
  cases h protection hprotection
  exact ⟨rfl, rfl, .inl ⟨trivial, ⟨rfl, rfl⟩, LossState.initial_coherent.disjoint⟩⟩

/-- **The kill switch latches.** In every run of observations, polls and restarts, whatever writes
and halt actions fail, no switch is armed once one was not, and an armed switch has a daily realized
loss below its limit. An invalidation, tried where the write of a failed state failed, succeeds. -/
theorem latch_holds (lawful : codec.Lawful) (setup : Setup) (s : System) (hs : s.Unused setup)
    (ops : List Op) (hops : ∀ op ∈ ops, op.io.invalidate = none) :
    (∀ before after, ops = before ++ after → ∀ tripped later,
      (s.run setup before).protection = some tripped → tripped.state ≠ .armed →
      (s.run setup ops).protection = some later → later.state ≠ .armed) ∧
    ∀ protection, (s.run setup ops).protection = some protection → protection.state = .armed →
      -protection.loss.dailyRealizedPnl.value < setup.config.maxUtcDailyRealizedLoss.value := by
  have hstart := hs.settled
  constructor
  · rintro before after rfl tripped later htripped hne hlater
    have hbefore := hstart.run lawful fun op hop => hops op (List.mem_append_left after hop)
    obtain ⟨hconfig, hlimit, hstands⟩ := hbefore.protection tripped htripped
    -- from here on the armed case is not allowed
    have hunarmed := hstands.resolve_left fun h => hne h.2.1.1
    have hlatched : System.Settled setup False (s.run setup before) := by
      refine ⟨.inr hunarmed.2, fun protection hprotection => ?_⟩
      cases htripped.symm.trans hprotection
      exact ⟨hconfig, hlimit, .inr hunarmed⟩
    have hafter := hlatched.run lawful fun op hop => hops op (List.mem_append_right before hop)
    rw [System.run_append] at hlater
    exact ((hafter.protection later hlater).2.2.resolve_left (·.1)).1
  · intro protection hprotection harmed
    obtain ⟨hconfig, -, hstands⟩ := (hstart.run lawful hops).protection protection hprotection
    have hbelow := hstands.resolve_right fun h => h.1 harmed
    rw [← hconfig]
    exact hbelow.2.1.daily_loss_lt

end

/-! ## A limit of 100 -/

namespace LimitOf100

attribute [local instance] Decimal.reference HaltIds.reference StateCodec.reference

def setup : Setup :=
  { config :=
      { maxUtcDailyRealizedLoss := ⟨100, 0⟩, actionRetryIntervalMs := 1, actionRetryTimeoutMs := 2
        accountIds := ["A"], instrumentIds := ["YES"]
        positive := by norm_num [Decimal.value] }
    maxStateFileBytes := 1 }

/-- The file of an armed switch. -/
def armedFile : Option StateCodec.reference.Bytes :=
  some (serializeStateWithLossSnapshot .armed (some initialArmedLossProtectionSnapshot))

/-- Every effect succeeds. -/
def succeeds : Io := ⟨[], none, none⟩

/-- A loss of the day. -/
def loss (amount : Int) : RealizedPnlObservation := ⟨"position", 1, ⟨-amount, 0⟩, "USDC"⟩

/-- A breach whose halt cannot be written, and a restart. -/
def breach : List Op :=
  [.restart 1 succeeds, .recordRealizedPnl (loss 60) succeeds,
    .recordRealizedPnl (loss 60) ⟨[some "disk full"], none, none⟩]

/-- The switch that could not write its halt is not armed after a restart, and the loss of 60 before
it was below the limit. -/
theorem unwritten_halt_stays_latched :
    (∃ later, ((System.start armedFile).run setup (breach ++ [.restart 2 succeeds])).protection =
      some later ∧ later.state ≠ .armed) ∧
    ∃ protection, ((System.start armedFile).run setup (breach.take 2)).protection =
      some protection ∧ -protection.loss.dailyRealizedPnl.value <
        setup.config.maxUtcDailyRealizedLoss.value := by
  constructor
  · have hlatch := (latch_holds StateCodec.reference_lawful setup (System.start armedFile)
      (by rintro _ ⟨⟩) (breach ++ [.restart 2 succeeds]) (by decide)).1 breach
        [.restart 2 succeeds] rfl
    exact ⟨_, rfl, hlatch _ _ rfl (by decide) rfl⟩
  · have hbelow := (latch_holds StateCodec.reference_lawful setup (System.start armedFile)
      (by rintro _ ⟨⟩) (breach.take 2) (by decide)).2
    exact ⟨_, rfl, hbelow _ rfl (by decide)⟩

end LimitOf100

end BoltV3.KillSwitch
