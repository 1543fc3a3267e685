import BoltV3.Requote.Sound

/-!
# The windows of the requote budgets

A run takes reservations from one pair, prepares their sink invocations and settles them, in any
order and any number of them. Each reservation belongs to its holder until it is consumed.

* A sink invocation is timely if it is no earlier than the proposal of its reservation. It is asked
  for where the invocation is settled, and of nothing else.
* A run that panics is an error of the model.
-/

namespace BoltV3.Requote

open Lib SlidingWindow RequoteBudgetReservation
open Std (ExtTreeMap)

/-! ## Limits -/

namespace RequoteBudgetPairState

/-- The window and the cap of each budget. -/
def limits (s : RequoteBudgetPairState) (side : Side) : Nat × Nat := (s.budget side).limits

end RequoteBudgetPairState

/-- The limits are as they were. -/
def Limited (limits : Side → Nat × Nat) (s : RequoteBudgetPairState) : Prop := s.limits = limits

section

variable {limits : Side → Nat × Nat} (generation : Nat)

theorem record_limited (side : Side) (nowMs cost : Nat) :
    Action.Ends (Limited limits) (record generation side nowMs cost) (Limited limits)
      (Limited limits) := by
  intro s hs
  unfold record
  rw [Action.exec_get_bind]
  rcases hrecord : (s.budget side).recordReserved nowMs cost with panic | budget
  · exact hs
  · have hbudget := RequoteBudget.recordReserved_limits hrecord
    change RequoteBudgetPairState.limits _ = limits
    rw [← hs]
    funext other
    cases side <;> cases other
    · exact hbudget
    · rfl
    · rfl
    · exact hbudget

theorem recordBalance_limited (balance : LiabilityBalance) :
    Action.Ends (Limited limits) (recordBalance generation balance)
      (Limited limits) (Limited limits) := by
  unfold recordBalance
  split_ifs
  · exact (record_limited _ _ _ _).bind fun _ => record_limited _ _ _ _
  · exact record_limited _ _ _ _

theorem removeOutstanding_limited :
    Action.Ends (Limited limits) (removeOutstanding generation)
      (Limited limits) (Limited limits) := fun _ hs => hs

namespace RequoteBudgetReservation

variable (reservation : RequoteBudgetReservation)

theorem settle_limited : Action.Ends (Limited limits) reservation.settlePreparedSinkInvocation
    (Limited limits) (Limited limits) := by
  unfold settlePreparedSinkInvocation
  rcases reservation.phase with _ | nowMs
  · exact .pure reservation
  refine (removeOutstanding_limited _).bind ?_
  rintro (_ | liability)
  · exact .pure _
  cases liability with
  | oneShot balance | cancelResubmitReplacementOutstanding sinkMs =>
    exact (recordBalance_limited _ _).then_pure
  | cancelResubmitBothOutstanding proposedMs =>
    refine Action.Ends.bind (Action.Ends.modify ?_) fun _ => (record_limited _ _ _ _).then_pure
    exact fun _ hs => hs

theorem drop_limited : Action.Ends (Limited limits) reservation.drop (Limited limits)
    (Limited limits) :=
  (settle_limited reservation).bind fun _ => (removeOutstanding_limited _).bind fun _ => .pure _

theorem commit_limited : Action.Ends (Limited limits) reservation.commit (Limited limits)
    (Limited limits) := by
  refine Action.Ends.bind ?_ fun after => drop_limited after
  refine (settle_limited reservation).bind fun settled => (removeOutstanding_limited _).bind ?_
  rintro (_ | liability)
  · exact .pure _
  · exact (recordBalance_limited _ _).then_pure

theorem abort_limited : Action.Ends (Limited limits) reservation.abort (Limited limits)
    (Limited limits) := by
  refine Action.Ends.bind ?_ fun aborted => (drop_limited aborted.2).then_pure
  unfold settleAborted
  split_ifs
  · exact (settle_limited reservation).bind fun _ => (removeOutstanding_limited _).bind fun _ =>
      .pure _
  · refine (removeOutstanding_limited _).bind ?_
    rintro (_ | liability)
    · exact .pure _
    · exact .pure _

end RequoteBudgetReservation

end

/-! ## Runs -/

/-- How a reservation is settled. -/
inductive Settlement
  | sinkInvocation | commit | abort | drop

/-- The settlement of a reservation: what is left of it for its holder. -/
def RequoteBudgetReservation.settleBy (reservation : RequoteBudgetReservation) :
    Settlement → Act (Option RequoteBudgetReservation)
  | .sinkInvocation => do
    let after ← reservation.settlePreparedSinkInvocation
    return some after
  | .commit => do
    reservation.commit
    return none
  | .abort => do
    let _ ← reservation.abort
    return none
  | .drop => do
    reservation.drop
    return none

inductive Op
  | reserve (proposal : RequoteBudgetReservationProposal)
  | prepare (generation nowMs : Nat)
  | settle (generation : Nat) (settlement : Settlement)

/-- The pair, and the phases of the reservations that are not consumed. -/
structure Holders where
  pair : RequoteBudgetPairState
  live : ExtTreeMap Nat RequoteBudgetReservationPhase

namespace Holders

/-- `RequoteBudgetPair::new` of two new budgets. -/
def fresh (submitCommands restCalls : RequoteBudget) : Holders :=
  ⟨.new submitCommands restCalls, ∅⟩

/-- An operation; one on a reservation that was consumed is none. -/
def step (s : Holders) : Op → Except Panic Holders
  | .reserve proposal =>
    match (Requote.reserve proposal).exec s.pair with
    | (.error panic, _) => .error panic
    | (.ok (.error _), pair) => .ok { s with pair := pair }
    | (.ok (.ok reservation), pair) =>
      .ok ⟨pair, s.live.insert reservation.generation reservation.phase⟩
  | .prepare generation nowMs =>
    match s.live[generation]? with
    | none => .ok s
    | some phase =>
      let prepared := prepareSinkInvokedAt ⟨generation, phase⟩ nowMs
      .ok { s with live := s.live.insert generation prepared.phase }
  | .settle generation settlement =>
    match s.live[generation]? with
    | none => .ok s
    | some phase =>
      match (settleBy ⟨generation, phase⟩ settlement).exec s.pair with
      | (.error panic, _) => .error panic
      | (.ok none, pair) => .ok ⟨pair, s.live.erase generation⟩
      | (.ok (some after), pair) => .ok ⟨pair, s.live.insert generation after.phase⟩

def run : Holders → List Op → Except Panic Holders
  | s, [] => .ok s
  | s, op :: rest => do run (← s.step op) rest

/-- A settled sink invocation is no earlier than the proposal. -/
def timelyStep (s : Holders) : Op → Bool
  | .settle generation _ =>
    match s.live[generation]? with
    | some (.sinkInvoked nowMs) => s.pair.proposedAt generation ≤ nowMs
    | _ => true
  | _ => true

/-- Every step of the run is timely. -/
def timely : Holders → List Op → Bool
  | _, [] => true
  | s, op :: rest =>
    s.timelyStep op &&
      match s.step op with
      | .ok next => timely next rest
      | .error _ => true

/-! ## Soundness -/

variable {s : Holders} {limits : Side → Nat × Nat}

theorem settleBy_sound (hsound : s.pair.Sound) (hlimits : Limited limits s.pair)
    {reservation : RequoteBudgetReservation} (htime : s.pair.TimelyPhase reservation)
    (settlement : Settlement) :
    ∃ after pair, (reservation.settleBy settlement).exec s.pair = (.ok after, pair) ∧ pair.Sound ∧
      Limited limits pair := by
  cases settlement with
  | sinkInvocation =>
    obtain ⟨after, pair, hexec, hsound⟩ := hsound.settle htime
    exact ⟨_, pair, Action.exec_bind_ok hexec _, hsound,
      (settle_limited _).of_exec hlimits hexec⟩
  | commit =>
    obtain ⟨pair, hexec, hsound⟩ := hsound.commit htime
    exact ⟨_, pair, Action.exec_bind_ok hexec _, hsound,
      (commit_limited _).of_exec hlimits hexec⟩
  | abort =>
    obtain ⟨result, pair, hexec, hsound⟩ := hsound.abort htime
    exact ⟨_, pair, Action.exec_bind_ok hexec _, hsound,
      (abort_limited _).of_exec hlimits hexec⟩
  | drop =>
    obtain ⟨pair, hexec, hsound⟩ := hsound.drop htime
    exact ⟨_, pair, Action.exec_bind_ok hexec _, hsound,
      (drop_limited _).of_exec hlimits hexec⟩

/-- **A timely step does not panic and keeps the pair sound.** -/
theorem step_sound (hsound : s.pair.Sound) (hlimits : Limited limits s.pair) {op : Op}
    (htime : s.timelyStep op = true) :
    ∃ next, s.step op = .ok next ∧ next.pair.Sound ∧ Limited limits next.pair := by
  cases op with
  | reserve proposal =>
    unfold step
    dsimp only
    rcases hsound.reserve proposal with ⟨denied, hexec⟩ | ⟨hexec, hreserved⟩
    · rw [hexec]
      exact ⟨_, rfl, hsound, hlimits⟩
    · rw [hexec]
      refine ⟨_, rfl, hreserved, ?_⟩
      rw [← hlimits]
      exact funext fun side => by cases side <;> rfl
  | prepare generation nowMs =>
    unfold step
    dsimp only
    rcases s.live[generation]? with _ | phase
    · exact ⟨s, rfl, hsound, hlimits⟩
    · exact ⟨_, rfl, hsound, hlimits⟩
  | settle generation settlement =>
    unfold timelyStep at htime
    unfold step
    dsimp only at htime ⊢
    rcases hlive : s.live[generation]? with _ | phase
    · exact ⟨s, rfl, hsound, hlimits⟩
    have htime : s.pair.TimelyPhase ⟨generation, phase⟩ := by
      rintro nowMs hphase
      obtain rfl : phase = .sinkInvoked nowMs := hphase
      rw [hlive] at htime
      exact of_decide_eq_true htime
    obtain ⟨after, pair, hexec, hsound, hlimits⟩ := settleBy_sound hsound hlimits htime settlement
    dsimp only
    rw [hexec]
    rcases after with _ | after <;> exact ⟨_, rfl, hsound, hlimits⟩

theorem run_sound {ops : List Op} (hsound : s.pair.Sound) (hlimits : Limited limits s.pair)
    (htime : s.timely ops = true) :
    ∃ last, s.run ops = .ok last ∧ last.pair.Sound ∧ Limited limits last.pair := by
  induction ops generalizing s with
  | nil => exact ⟨s, rfl, hsound, hlimits⟩
  | cons op rest ih =>
    unfold timely at htime
    obtain ⟨hfirst, hrest⟩ := Bool.and_eq_true_iff.mp htime
    obtain ⟨next, hstep, hsound, hlimits⟩ := step_sound hsound hlimits hfirst
    rw [hstep] at hrest
    obtain ⟨last, hrun, hlast⟩ := ih hsound hlimits hrest
    refine ⟨last, ?_, hlast⟩
    unfold run
    rw [hstep]
    exact hrun

end Holders

/-- **The windows of both budgets**: a run of timely operations on new budgets never panics, the
charges of every interval as long as the window are within the cap, the window cost is the sum of
the emits that are kept, and no reservation is charged more than it reserved. -/
theorem windows_stay_within_caps (cap windowMs minIntervalMs : Side → Nat) (ops : List Op) :
    let budget := fun side => RequoteBudget.new (cap side) (windowMs side) (minIntervalMs side)
    let start := Holders.fresh (budget .submitCommands) (budget .restCalls)
    start.timely ops = true →
    ∃ last, start.run ops = .ok last ∧
      ∀ side,
        (∀ startMs, spent (windowMs side) (last.pair.charges side) startMs ≤ cap side) ∧
        (last.pair.budget side).emits <:+ last.pair.charges side ∧
        (last.pair.budget side).windowCost =
          RequoteBudget.emitCost (last.pair.budget side).emits ∧
        ∀ generation,
          last.pair.charged generation side ≤ owed last.pair.history.reserved[generation]?
            side := by
  intro budget start htime
  have hsound : start.pair.Sound :=
    RequoteBudgetPairState.sound_new _ _ (RequoteBudget.tracks_new _ _ _)
      (RequoteBudget.tracks_new _ _ _)
  obtain ⟨last, hrun, hsound, hlimits⟩ :=
    Holders.run_sound hsound (rfl : Limited _ start.pair) htime
  refine ⟨last, hrun, fun side => ?_⟩
  have hlimits : (last.pair.budget side).limits = (windowMs side, cap side) := by
    have hside := congrFun hlimits side
    cases side <;> exact hside
  obtain ⟨hwindow, hcap⟩ := Prod.mk.inj hlimits
  refine ⟨fun startMs => ?_, ?_, ((hsound 0).tracks side).cost, fun generation => ?_⟩
  · have hspent := ((hsound 0).within side).spent_le startMs
    rw [hwindow] at hspent
    unfold RequoteBudgetPairState.bound at hspent
    rw [hcap] at hspent
    exact hspent.trans (min_le_left _ _)
  · obtain ⟨early, hsplit, -⟩ := ((hsound 0).tracks side).kept
    exact ⟨early, hsplit.symm⟩
  · have hconserved := (hsound 0).conserved generation side
    omega

namespace TwoHolders

/-- A fresh submit and a cancel with its replacement; they are settled in the other order, when the
window of their proposals is over. -/
def ops : List Op :=
  [.reserve ⟨.oneShot ⟨10, submitCommandCost, restCallCost⟩⟩,
    .reserve ⟨.cancelResubmitBothOutstanding 12⟩,
    .prepare 2 2000, .settle 2 .sinkInvocation, .prepare 1 2500, .settle 1 .drop, .settle 2 .commit]

def cap : Side → Nat
  | .submitCommands => 2
  | .restCalls => 3

set_option maxRecDepth 8000 in
theorem windows_of_late_settlements : let start := Holders.fresh (.new 2 1000 5) (.new 3 1000 5)
    start.timely ops = true ∧ ∃ last, start.run ops = .ok last ∧
      last.pair.charged 2 .restCalls ≤ 2 ∧
      spent 1000 (last.pair.charges .restCalls) 1500 ≤ 3 := by
  have htime : (Holders.fresh (.new 2 1000 5) (.new 3 1000 5)).timely ops = true := by
    decide +kernel
  obtain ⟨last, hrun, hwindows⟩ :=
    windows_stay_within_caps cap (fun _ => 1000) (fun _ => 5) ops htime
  refine ⟨htime, last, hrun, ?_, (hwindows .restCalls).1 1500⟩
  have hreserved : ∀ final, (Holders.fresh (.new 2 1000 5) (.new 3 1000 5)).run ops = .ok final →
      owed final.pair.history.reserved[2]? .restCalls = 2 := by
    rintro final ⟨⟩
    decide +kernel
  exact ((hwindows .restCalls).2.2.2 2).trans (hreserved last hrun).le

end TwoHolders

end BoltV3.Requote
