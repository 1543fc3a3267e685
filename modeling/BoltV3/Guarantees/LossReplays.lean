import BoltV3.Guarantees.LossLifecycles

/-!
# Replays of position observations

An observation that is delivered again is ignored: it is of a day before the bucket, or its position
or its event id says that it is known.

* What a loss state has taken it `Covers`. That is kept by every later observation, by the pruning
  of a new bucket, and by a restart.
* The system with the replays is the one without them after every step, file included.
-/

namespace BoltV3.KillSwitch

open Lib Cumulative List
open Std (ExtTreeMap)

/-- The UTC day of an observation. -/
def PositionRealizedPnlObservation.day (observation : PositionRealizedPnlObservation) : Nat :=
  observation.observed.observedAtUnixNanos / nanosPerUtcDay

/-- The first observation is not a cumulative one of the same position that is as late. -/
def PositionRealizedPnlObservation.Precedes (first second : PositionRealizedPnlObservation) :
    Prop :=
  first.cumulativeRealizedPnl = true → second.cumulativeRealizedPnl = true →
    first.positionId = second.positionId →
    first.observed.observedAtUnixNanos < second.observed.observedAtUnixNanos

instance (first second : PositionRealizedPnlObservation) : Decidable (first.Precedes second) := by
  unfold PositionRealizedPnlObservation.Precedes
  infer_instance

/-! ## Covered observations -/

namespace LossState

variable [arith : DecimalArith] {loss prepared after : LossState}
  {observation later : PositionRealizedPnlObservation}

/-- The observation is past, or it is ignored in the bucket and the currency of the state. -/
def Covers (loss : LossState) (observation : PositionRealizedPnlObservation) : Prop :=
  ∃ bucket, loss.dailyBucket = some bucket ∧
    (observation.day < bucket ∨ observation.day = bucket ∧
      loss.settlementCurrency = some observation.observed.settlementCurrency ∧
      loss.book observation = .ignored)

omit arith in
theorem accept_eq_none {time : Nat} (h : loss.acceptObservationBucket time = none) :
    ∃ bucket, loss.dailyBucket = some bucket ∧ time / nanosPerUtcDay < bucket := by
  unfold acceptObservationBucket at h
  dsimp only at h
  split at h
  · cases h
  · rename_i current hbucket
    split_ifs at h with hlater hsame
    exact ⟨current, hbucket, by omega⟩

/-- What is ignored, in terms of the tracks and of the adjustments. -/
theorem book_ignored_iff (hdisjoint : loss.Disjoint) : loss.book observation = .ignored ↔
      (observation.cumulativeRealizedPnl = true ∧
        (loss.track observation.positionId).take observation.reading = none) ∨
      (observation.cumulativeRealizedPnl = false ∧
        ∃ key ∈ loss.adjustedPositionPnl, observation.eventId = some key) := by
  unfold book
  cases hcumulative : observation.cumulativeRealizedPnl with
  | true =>
    simp only [if_true, true_and, Bool.true_eq_false, false_and, or_false]
    rw [take_track hdisjoint, ite_eq_left_iff]
    simp only [reduceCtorEq, imp_false, not_not]
    unfold bookCumulative
    constructor
    · intro h
      split_ifs at h with hignores
      · exact hignores
      · split at h
        · cases h
        · split at h <;> cases h
    · intro h
      rw [if_pos h]
  | false =>
    simp only [Bool.false_eq_true, if_false, false_and, true_and, false_or]
    rcases observation.eventId with _ | key
    · simp
    · dsimp only
      split_ifs with hcontains
      · exact iff_of_true rfl ⟨key, ExtTreeMap.contains_iff_mem.mp hcontains, rfl⟩
      · refine iff_of_false (by simp) ?_
        rintro ⟨known, hmem, hkey⟩
        cases hkey
        exact hcontains (ExtTreeMap.contains_iff_mem.mpr hmem)

theorem mem_adjusted_of_applied (happlied : (loss.book later).applied loss = some after)
    {key : String} (hmem : key ∈ loss.adjustedPositionPnl) : key ∈ after.adjustedPositionPnl := by
  rcases Booking.applied_cases happlied with ⟨-, rfl⟩ | ⟨placed, total, hplaced, rfl⟩
  · exact hmem
  · rcases book_loss? hplaced with rfl | ⟨known, rfl⟩
    · rwa [(place_kept _ _).2.1]
    · exact ExtTreeMap.mem_insert.mpr (.inr hmem)

/-- A booked observation is ignored the second time. -/
theorem book_again (hdisjoint : loss.Disjoint) (hafter : after.Disjoint)
    (happlied : (loss.book observation).applied loss = some after) :
    after.book observation = .ignored := by
  rw [book_ignored_iff hafter]
  cases hcumulative : observation.cumulativeRealizedPnl with
  | true =>
    refine .inl ⟨rfl, ?_⟩
    unfold book at happlied
    rw [if_pos hcumulative] at happlied
    rw [(bookCumulative_track hdisjoint happlied).1]
    exact Track.take_step_self _ _
  | false =>
    refine .inr ⟨rfl, ?_⟩
    have hknown := happlied
    unfold book at hknown
    rw [if_neg (by simp [hcumulative])] at hknown
    split at hknown
    · cases hknown
    · rename_i key hkey
      split_ifs at hknown with hcontains
      · exact ⟨key, mem_adjusted_of_applied happlied (ExtTreeMap.contains_iff_mem.mp hcontains),
          hkey⟩
      · obtain ⟨total, -, rfl⟩ := Option.map_eq_some_iff.mp hknown
        exact ⟨key, ExtTreeMap.mem_insert_self, hkey⟩

/-- An observation that is ignored stays so after a later one. -/
theorem book_ignored_later (hdisjoint : loss.Disjoint) (hafter : after.Disjoint)
    (hignored : loss.book observation = .ignored) (hprecedes : observation.Precedes later)
    (happlied : (loss.book later).applied loss = some after) :
    after.book observation = .ignored := by
  rw [book_ignored_iff hdisjoint] at hignored
  rw [book_ignored_iff hafter]
  rcases hignored with ⟨hcumulative, htake⟩ | ⟨hadjusted, key, hmem, hkey⟩
  · refine .inl ⟨hcumulative, ?_⟩
    cases hlater : later.cumulativeRealizedPnl with
    | true =>
      unfold book at happlied
      rw [if_pos hlater] at happlied
      obtain ⟨hself, hother⟩ := bookCumulative_track hdisjoint happlied
      by_cases hsame : later.positionId = observation.positionId
      · rw [hsame] at hself
        rw [hself]
        exact Track.take_step_of_lt htake (hprecedes hcumulative hlater hsame.symm)
      · rw [hother _ hsame, htake]
    | false => rw [book_track_adjusted hlater happlied, htake]
  · exact .inr ⟨hadjusted, key, mem_adjusted_of_applied happlied hmem, hkey⟩

/-- **An observation that was delivered is covered.** -/
theorem observe_covers (hcoherent : loss.Coherent)
    (hobserve : loss.observe observation = some after) : after.Covers observation := by
  have hafter := (hcoherent.observe hobserve).disjoint
  rcases observe_cases hobserve with ⟨haccept, rfl⟩ | ⟨prepared, hprepare, happlied⟩
  · obtain ⟨bucket, hbucket, hpast⟩ := accept_eq_none haccept
    exact ⟨bucket, hbucket, .inl hpast⟩
  · obtain ⟨hbucket, hcurrency⟩ := prepare_bucket hprepare
    obtain ⟨hsameBucket, hsameCurrency⟩ := book_bucket happlied
    exact ⟨observation.day, hsameBucket.trans hbucket, .inr ⟨rfl, hsameCurrency.trans hcurrency,
      book_again (hcoherent.prepare hprepare).disjoint hafter happlied⟩⟩

/-- **A covered observation stays covered.** -/
theorem Covers.observe (h : loss.Covers observation) (hcoherent : loss.Coherent)
    (hprecedes : observation.Precedes later) (hobserve : loss.observe later = some after) :
    after.Covers observation := by
  have hafter := (hcoherent.observe hobserve).disjoint
  obtain ⟨bucket, hbucket, hcovered⟩ := h
  rcases observe_cases hobserve with ⟨-, rfl⟩ | ⟨prepared, hprepare, happlied⟩
  · exact ⟨bucket, hbucket, hcovered⟩
  obtain ⟨accepted, haccept, hsettle⟩ := Option.bind_eq_some_iff.mp hprepare
  obtain ⟨hlaterBucket, -⟩ := prepare_bucket hprepare
  obtain ⟨hsameBucket, hsameCurrency⟩ := book_bucket happlied
  have hday : after.dailyBucket = some later.day := hsameBucket.trans hlaterBucket
  rcases accept_cases haccept with ⟨hnone, -⟩ | ⟨current, hsome, hnew, -⟩ | ⟨hsome, rfl⟩
  · cases hnone.symm.trans hbucket
  · -- in a later bucket the observation is past
    cases hsome.symm.trans hbucket
    have hnew : bucket < later.day := hnew
    exact ⟨later.day, hday, .inl (by omega)⟩
  · cases hsome.symm.trans hbucket
    rcases hcovered with hpast | ⟨hsame, hcurrency, hignored⟩
    · exact ⟨later.day, hday, .inl hpast⟩
    · obtain ⟨-, rfl⟩ : accepted.settlementCurrency = some later.observed.settlementCurrency ∧
          prepared = accepted := by
        rcases settle_cases hsettle with ⟨hnone, -⟩ | hsettled
        · cases hnone.symm.trans hcurrency
        · exact hsettled
      exact ⟨later.day, hday, .inr ⟨hsame, hsameCurrency.trans hcurrency,
        book_ignored_later hcoherent.disjoint hafter hignored hprecedes happlied⟩⟩

end LossState

/-! ## Deliveries, replays and restarts -/

section

variable [arith : DecimalArith] [HaltIds] [codec : StateCodec]
  {observation : PositionRealizedPnlObservation}

/-- A covered observation does nothing. -/
theorem exec_covered {protection : KillSwitchLossProtection} (hcoherent : protection.loss.Coherent)
    (harmed : protection.state = .armed)
    (hcovers : protection.observes observation = true → protection.loss.Covers observation)
    (disk : Disk) (io : Io) :
    (recordPositionRealizedPnl observation).exec ⟨protection, disk, io⟩ =
      (.ok none, ⟨protection, disk, io⟩) := by
  unfold recordPositionRealizedPnl
  rw [Action.exec_get_bind]
  split_ifs with hobserves hstate
  · rfl
  · exact absurd harmed hstate
  obtain ⟨bucket, hbucket, hcovered⟩ := hcovers (by simpa using hobserves)
  have hday : observation.day = observation.observed.observedAtUnixNanos / nanosPerUtcDay := rfl
  unfold LossState.acceptObservationBucket
  rw [hbucket]
  dsimp only
  rcases hcovered with hpast | ⟨hsame, hcurrency, hignored⟩
  · rw [if_neg (by omega), if_neg (by omega)]
    rfl
  · rw [if_neg (by omega), if_pos (hday.symm.trans hsame)]
    unfold updateLoss guardSettlementCurrency
    rw [exec_update_bind, bind_assoc, Action.exec_get_bind]
    rw [hcurrency]
    dsimp only
    rw [if_pos rfl, pure_bind]
    change (recordNew observation).exec _ = _
    rw [exec_book hcoherent.disjoint, hignored]
    rfl

/-- An operation of a run with replays: an observation, one that was delivered before, or a
restart. -/
inductive Event
  | observe (observation : PositionRealizedPnlObservation) (io : Io)
  | replay (observation : PositionRealizedPnlObservation) (io : Io)
  | restart (clock : Nat) (io : Io)

def Event.op : Event → Op
  | .observe observation io | .replay observation io => .recordPositionRealizedPnl observation io
  | .restart clock io => .restart clock io

def Event.isReplay : Event → Bool
  | .replay .. => true
  | .observe .. | .restart .. => false

/-- The observation that an event delivers for the first time. -/
def Event.delivers : Event → Option PositionRealizedPnlObservation
  | .observe observation _ => some observation
  | .replay .. | .restart .. => none

/-- The events without the replays. -/
def originals (events : List Event) : List Event := events.filter fun event => !event.isReplay

/-- The observations of the events, without the replays. -/
def delivered (events : List Event) : List PositionRealizedPnlObservation :=
  events.filterMap Event.delivers

section

omit arith [HaltIds] codec

variable (first second : List Event)

theorem originals_append : originals (first ++ second) = originals first ++ originals second :=
  filter_append first second

theorem delivered_append : delivered (first ++ second) = delivered first ++ delivered second :=
  filterMap_append

end

/-- What is replayed was delivered before, and the cumulative observations of a position are later
and later. -/
structure Replays (events : List Event) : Prop where
  replayed : ∀ before observation io after, events = before ++ .replay observation io :: after →
    observation ∈ delivered before
  increasing : (delivered events).Pairwise PositionRealizedPnlObservation.Precedes

variable {events : List Event}

omit arith [HaltIds] codec in
theorem Replays.init {event : Event} (h : Replays (events ++ [event])) : Replays events where
  replayed := by
    rintro before observation io after rfl
    exact h.replayed before observation io (after ++ [event]) (by simp)
  increasing := by
    have hincreasing := h.increasing
    rw [delivered_append, pairwise_append] at hincreasing
    exact hincreasing.1

/-! ## The system with the replays -/

/-- The armed system with a loss state: the object has it, a snapshot that is loaded from the file
has it, and it covers what was delivered. -/
structure System.Keeping (setup : Setup) (s : System) (loss : LossState)
    (observations : List PositionRealizedPnlObservation) : Prop where
  protection : s.protection = some { fresh setup with loss := loss }
  coherent : loss.Coherent
  backed : ∀ snapshot,
    (loadRecoveryRecord s.disk.file setup.maxStateFileBytes).lossProtection = some snapshot →
    snapshot = ⟨loss, none⟩
  covers : ∀ observation ∈ observations, (fresh setup).observes observation = true →
    loss.Covers observation

variable {setup : Setup} {s : System} {loss : LossState}
  {observations : List PositionRealizedPnlObservation} {protection : KillSwitchLossProtection}
  {clock : Nat} {io : Io}

/-- What a restart leaves of a switch that is armed after it. -/
theorem restart_stays (h : (s.step setup (.restart clock io)).ArmedWith protection) :
    recoveredState (loadRecoveryRecord s.disk.file setup.maxStateFileBytes).recoveryState = .armed ∧
    ∃ snapshot,
      (loadRecoveryRecord s.disk.file setup.maxStateFileBytes).lossProtection = some snapshot ∧
      s.step setup (.restart clock io) =
        ⟨some ((fresh setup).applyLossSnapshot snapshot), s.disk⟩ := by
  rcases hrun : (seedFromStore clock).exec ⟨fresh setup, s.disk, io⟩ with ⟨result, t⟩
  have hexec : (some <$> seedFromStore clock).exec ⟨fresh setup, s.disk, io⟩ =
      (result.map some, t) := by
    rw [Action.exec_map, hrun]
  have hprotection := h.1
  rw [System.step_restart] at hprotection ⊢
  obtain ⟨-, rfl⟩ := Session.call_protection hprotection
  rw [Session.call_system hprotection, hexec] at *
  obtain ⟨hrecovered, snapshot, hload, rfl⟩ := seed_stays hrun h.2
  exact ⟨hrecovered, snapshot, hload, rfl⟩

omit [HaltIds] in
/-- A snapshot that is loaded from a file that was written with an armed object. -/
theorem backed_of_written (lossless : arith.Lossless) (lawful : codec.Lawful) {session : Session}
    (hprotection : session.protection = { fresh setup with loss := loss })
    (hwritten : session.Written) {snapshot : KillSwitchLossProtectionSnapshot}
    (hload : (loadRecoveryRecord session.disk.file setup.maxStateFileBytes).lossProtection =
      some snapshot) : snapshot = ⟨loss, none⟩ := by
  obtain ⟨hfile, hsize⟩ := hwritten
  rw [hprotection] at hfile hsize
  rw [hfile] at hload
  have hrestored := hload.symm.trans
    (congrArg (·.lossProtection) (loadRecoveryRecord_written lawful hsize))
  unfold recoveryRecordOf at hrestored
  dsimp only [Option.map_some] at hrestored
  split at hrestored
  · cases hrestored
  · rename_i restored hrestore
    cases hrestored
    exact ((restore_persist lossless).mp hrestore).2

theorem System.Keeping.of_valid (hvalid : Valid setup s.disk.file)
    (harmed : (s.step setup (.restart clock io)).ArmedWith protection) :
    ∃ loss, (s.step setup (.restart clock io)).Keeping setup loss [] := by
  obtain ⟨hrecovered, ⟨loss, pending⟩, hload, hstep⟩ := restart_stays harmed
  obtain ⟨hdates, hpending⟩ := hvalid hrecovered _ hload
  obtain rfl : pending = none := hpending
  have hloadable := loadRecoveryRecord_loadable hload
  have hloads : loss.Loads := ⟨hloadable.disjoint, hloadable.currency⟩
  rw [hstep]
  exact ⟨loss,
    { protection := rfl, coherent := hloads.coherent hdates
      backed := by
        intro snapshot hsnapshot
        exact Option.some.inj (hsnapshot.symm.trans hload)
      covers := by simp }⟩

/-- **A restart leaves the system.** -/
theorem System.Keeping.restart (h : s.Keeping setup loss observations)
    (harmed : (s.step setup (.restart clock io)).ArmedWith protection) :
    s.step setup (.restart clock io) = s := by
  obtain ⟨-, snapshot, hload, hstep⟩ := restart_stays harmed
  obtain rfl := h.backed snapshot hload
  rw [hstep]
  have hprotection := h.protection
  rcases s with ⟨_, disk⟩
  cases hprotection
  rfl

theorem System.Keeping.step_covered (h : s.Keeping setup loss observations)
    (hcovers : (fresh setup).observes observation = true → loss.Covers observation) (io : Io) :
    s.step setup (.recordPositionRealizedPnl observation io) = s := by
  rw [System.step_position h.protection]
  unfold Session.call
  rw [exec_covered h.coherent rfl hcovers]
  have hprotection := h.protection
  rcases s with ⟨_, disk⟩
  cases hprotection
  rfl

/-- **An observation is covered from then on.** -/
theorem System.Keeping.observe (lossless : arith.Lossless) (lawful : codec.Lawful)
    (h : s.Keeping setup loss observations)
    (hprecedes : ∀ earlier ∈ observations, earlier.Precedes observation)
    (harmed : (s.step setup (.recordPositionRealizedPnl observation io)).ArmedWith protection) :
    ∃ after, (s.step setup (.recordPositionRealizedPnl observation io)).Keeping setup after
      (observations ++ [observation]) := by
  by_cases hobserves : (fresh setup).observes observation = true
  · have hstep : s.step setup (.recordPositionRealizedPnl observation io) = _ :=
      System.step_position h.protection observation io
    have hprotection := harmed.1
    rw [hstep] at hprotection ⊢
    rw [Session.call_system hprotection]
    obtain ⟨hpanic, rfl⟩ := Session.call_protection hprotection
    rcases hrun : (recordPositionRealizedPnl observation).exec
      ⟨{ fresh setup with loss := loss }, s.disk, io⟩ with ⟨result, t⟩
    rw [hrun] at harmed hpanic
    obtain ⟨after, hobserve, hkept, hfile⟩ :=
      recordPosition_stays h.coherent rfl hobserves hrun hpanic harmed.2
    refine ⟨after,
      { protection := congrArg some hkept, coherent := h.coherent.observe hobserve, backed := ?_
        covers := ?_ }⟩
    · intro snapshot hload
      rcases hfile with rfl | hwritten
      · obtain rfl : loss = after := congrArg KillSwitchLossProtection.loss hkept
        exact h.backed snapshot hload
      · exact backed_of_written lossless lawful hkept hwritten hload
    · intro earlier hmem hobserved
      rcases mem_append.mp hmem with hmem | hmem
      · exact (h.covers earlier hmem hobserved).observe h.coherent (hprecedes earlier hmem) hobserve
      · rw [mem_singleton.mp hmem]
        exact LossState.observe_covers h.coherent hobserve
  · refine ⟨loss, ?_⟩
    rw [h.step_covered (fun hobserved => absurd hobserved hobserves)]
    refine { h with covers := fun earlier hmem hobserved => ?_ }
    rcases mem_append.mp hmem with hmem | hmem
    · exact h.covers earlier hmem hobserved
    · rw [mem_singleton.mp hmem] at hobserved
      exact absurd hobserved hobserves

omit arith [HaltIds] in
theorem System.exists_armedWith (h : s.protection.any (fun p => p.state = .armed) = true) :
    ∃ protection, s.ArmedWith protection := by
  rcases hprotection : s.protection with _ | protection <;> rw [hprotection] at h
  · cases h
  · exact ⟨protection, hprotection, of_decide_eq_true h⟩

/-- The switch is armed before and after every event of the run without the replays. -/
def ArmedThroughout (setup : Setup) (s : System) (events : List Event) : Prop :=
  ∀ before after, originals events = before ++ after →
    ∃ protection, (s.run setup (before.map Event.op)).ArmedWith protection

theorem ArmedThroughout.init {event : Event}
    (h : ArmedThroughout setup s (events ++ [event])) : ArmedThroughout setup s events := by
  intro before after hsplit
  refine h before (after ++ originals [event]) ?_
  rw [← append_assoc, ← hsplit]
  exact originals_append events [event]

/-- **The system with the replays is the one without them**, and covers what was delivered. -/
theorem run_keeping (lossless : arith.Lossless) (lawful : codec.Lawful)
    (hs : s.Keeping setup loss []) (hevents : Replays events)
    (harmed : ArmedThroughout setup s events) :
    s.run setup (events.map Event.op) = s.run setup ((originals events).map Event.op) ∧
      ∃ after, (s.run setup (events.map Event.op)).Keeping setup after (delivered events) := by
  induction events using reverseRecOn with
  | nil => exact ⟨rfl, loss, hs⟩
  | append_singleton events event ih =>
    obtain ⟨hsame, after, hkeeping⟩ := ih hevents.init harmed.init
    obtain ⟨protection, hprotection⟩ := harmed (originals (events ++ [event])) []
      (append_nil _).symm
    have hrun : ∀ t : System, t.run setup ((originals [event]).map Event.op) =
        if event.isReplay then t else t.step setup event.op := by
      intro t
      cases event <;> rfl
    rw [originals_append, map_append, System.run_append, hrun, ← hsame] at hprotection
    rw [originals_append, delivered_append, map_append, map_append, System.run_append,
      System.run_append, hrun, ← hsame]
    cases event with
    | observe observation io =>
      refine ⟨rfl, hkeeping.observe lossless lawful ?_ hprotection⟩
      intro earlier hearlier
      have hincreasing := hevents.increasing
      rw [delivered_append, pairwise_append] at hincreasing
      exact hincreasing.2.2 earlier hearlier observation mem_cons_self
    | replay observation io =>
      have hmem := hevents.replayed events observation io [] rfl
      have hstep : (s.run setup (events.map Event.op)).run setup
          ([Event.replay observation io].map Event.op) = s.run setup (events.map Event.op) :=
        hkeeping.step_covered (hkeeping.covers observation hmem) io
      rw [hstep]
      refine ⟨rfl, after, ?_⟩
      rw [show delivered [Event.replay observation io] = [] from rfl, append_nil]
      exact hkeeping
    | restart clock io =>
      have hstep : (s.run setup (events.map Event.op)).run setup
          ([Event.restart clock io].map Event.op) = s.run setup (events.map Event.op) :=
        hkeeping.restart hprotection
      refine ⟨rfl, after, ?_⟩
      rw [hstep, show delivered [Event.restart clock io] = [] from rfl, append_nil]
      exact hkeeping

/-- **Replays change nothing.** In a run that starts from a valid store, in which what is replayed
was delivered before and the cumulative observations of a position are later and later, the system
is after every step the one without the replays, as long as the switch is armed. -/
theorem replays_change_nothing (lossless : arith.Lossless) (lawful : codec.Lawful) (setup : Setup)
    (file : Option codec.Bytes) (hvalid : Valid setup file) (clock : Nat) (io : Io)
    (events : List Event) (hevents : Replays events)
    (harmed : ArmedThroughout setup ((System.start file).step setup (.restart clock io)) events) :
    ∀ before after, events = before ++ after →
      ((System.start file).step setup (.restart clock io)).run setup (before.map Event.op) =
        ((System.start file).step setup (.restart clock io)).run setup
          ((originals before).map Event.op) := by
  obtain ⟨protection, hstart⟩ := harmed [] (originals events) rfl
  obtain ⟨loss, hkeeping⟩ := System.Keeping.of_valid (s := System.start file) hvalid hstart
  intro before after hsplit
  suffices h : Replays before ∧ ArmedThroughout setup
      ((System.start file).step setup (.restart clock io)) before from
    (run_keeping lossless lawful hkeeping h.1 h.2).1
  -- what holds of the events holds of the first ones
  induction after using reverseRecOn generalizing events with
  | nil =>
    rw [append_nil] at hsplit
    exact hsplit ▸ ⟨hevents, harmed⟩
  | append_singleton after event ih =>
    subst hsplit
    rw [← append_assoc] at hevents harmed
    exact ih _ hevents.init harmed.init rfl

end

namespace LimitOf100

attribute [local instance] Decimal.reference HaltIds.reference StateCodec.reference

/-- A close, the close again, a restart, the close once more, a reopened position on the next day,
and the close of the day before. -/
def replayedCloses : List Event :=
  [.observe (closing 1 10) succeeds, .replay (closing 1 10) succeeds, .restart 2 succeeds,
    .replay (closing 1 10) succeeds, .observe (changing nanosPerUtcDay 4) succeeds,
    .replay (closing 1 10) succeeds]

/-- The replays of a close leave the loss of 4 of the reopened position. -/
theorem replayed_closes_leave_loss_of_4 :
    (armed.run setup (replayedCloses.map Event.op)).protection.map (·.loss.dailyRealizedPnl) =
      some ⟨-4, 0⟩ ∧
    ∀ before after, replayedCloses = before ++ after →
      ((System.start armedFile).step setup (.restart 1 succeeds)).run setup (before.map Event.op) =
        ((System.start armedFile).step setup (.restart 1 succeeds)).run setup
          ((originals before).map Event.op) := by
  refine ⟨by decide +kernel, ?_⟩
  have hevents : Replays replayedCloses :=
    { replayed := by
        intro before observation io after hsplit
        have hmem : Event.replay observation io ∈ replayedCloses :=
          hsplit ▸ mem_append_right before mem_cons_self
        obtain rfl : observation = closing 1 10 := by
          simp only [replayedCloses, mem_cons, Event.replay.injEq, not_mem_nil, reduceCtorEq,
            false_or, or_false] at hmem
          rcases hmem with h | h | h <;> exact h.1
        rcases before with _ | ⟨first, before⟩
        · cases (cons.inj hsplit).1
        · obtain ⟨rfl, -⟩ := cons.inj hsplit
          exact mem_cons_self
      increasing := by decide }
  have harmed : ArmedThroughout setup ((System.start armedFile).step setup (.restart 1 succeeds))
      replayedCloses := by
    intro before after hsplit
    have hstep : ∀ ops, ((System.start armedFile).step setup (.restart 1 succeeds)).run setup ops =
      armed.run setup ops := fun _ => rfl
    rw [hstep]
    have hinits : before ∈ [.observe (closing 1 10) succeeds, .restart 2 succeeds,
        .observe (changing nanosPerUtcDay 4) succeeds].inits :=
      (mem_inits _ _).mpr ⟨after, hsplit.symm⟩
    simp only [inits, map_cons, map_nil, mem_cons, not_mem_nil,
      or_false] at hinits
    rcases hinits with rfl | rfl | rfl | rfl <;> exact System.exists_armedWith (by decide +kernel)
  exact replays_change_nothing Decimal.reference_lossless StateCodec.reference_lawful
    setup armedFile armedFile_valid 1 succeeds replayedCloses hevents harmed

end LimitOf100

end BoltV3.KillSwitch
