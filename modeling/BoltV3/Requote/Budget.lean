import BoltV3.Lib.Action
import BoltV3.Lib.Rust
import BoltV3.Lib.SortedMap

/-!
# The maker requote budgets

`bolt_v3_requote_budget.rs`: the sliding window of one budget, the pair of the submit-command and
the REST-call budget, and the reservations that are taken from the pair.

* Times and costs are `Nat`s; additions of costs are checked at `u64::MAX` as in the source. Where
  the source would panic, by an `expect` or by a subtraction below zero, the model ends with a
  `Panic`.
* `RequoteBudgetPair` is a handle to a locked `RequoteBudgetPairState`. A method is an action on
  that state; a lock that is poisoned is entered all the same, so it has no error.
* A `RequoteBudgetReservation` is the handle's generation and phase. A reservation that goes out of
  scope runs `Drop`, which is `RequoteBudgetReservation.drop`; `commit` and `abort` take the
  reservation and end with it.
* `History` is not in the source. It keeps what was reserved and charged, and no function reads it.

The getters, and the counters for tests, are left out.
-/

namespace BoltV3.Requote

open Lib
open Std (ExtTreeMap)

/-- Where the source panics. -/
inductive Panic
  /-- `self.window_cost -= cost` below zero. -/
  | windowCostUnderflow
  /-- `expect("reserved budget conversion cannot overflow")`. -/
  | reservedConversionOverflow

/-! ## One budget -/

structure RequoteBudget where
  (windowMs maxCostPerWindow minIntervalMs : Nat)
  emits : List (Nat × Nat)
  windowCost : Nat
  lastEmitMs : Option Nat

namespace RequoteBudget

def new (maxCostPerWindow windowMs minIntervalMs : Nat) : RequoteBudget :=
  { windowMs := windowMs, maxCostPerWindow := maxCostPerWindow, minIntervalMs := minIntervalMs
    emits := [], windowCost := 0, lastEmitMs := none }

/-- The loop of `evict`: what is left of the emits and of their cost. -/
def evictBefore (cutoffMs : Nat) : List (Nat × Nat) → Nat → Except Panic (List (Nat × Nat) × Nat)
  | [], windowCost => .ok ([], windowCost)
  | (timestampMs, cost) :: rest, windowCost =>
    if cutoffMs ≤ timestampMs then .ok ((timestampMs, cost) :: rest, windowCost)
    else
      match checkedSub windowCost cost with
      | none => .error .windowCostUnderflow
      | some windowCost => evictBefore cutoffMs rest windowCost

variable (budget : RequoteBudget)

def evict (nowMs : Nat) : Except Panic RequoteBudget :=
  if nowMs ≤ budget.windowMs then .ok budget
  else do
    let (emits, windowCost) ← evictBefore (nowMs - budget.windowMs) budget.emits budget.windowCost
    return { budget with emits := emits, windowCost := windowCost }

/-- `try_acquire`: whether the charge is granted, and the budget after the call. -/
def tryAcquire (nowMs cost : Nat) : Except Panic (Bool × RequoteBudget) :=
  if cost = 0 ∨ budget.windowMs = 0 then .ok (false, budget)
  else if budget.lastEmitMs.any (nowMs < ·) then .ok (false, budget)
  else do
    let budget ← budget.evict nowMs
    -- emits of the same tick do not throttle each other
    if budget.lastEmitMs.any fun lastMs =>
        lastMs < nowMs && nowMs - lastMs < budget.minIntervalMs then
      return (false, budget)
    match checkedAdd u64Max budget.windowCost cost with
    | none => return (false, budget)
    | some nextCost =>
      if budget.maxCostPerWindow < nextCost then return (false, budget)
      return (true, { budget with
        emits := budget.emits ++ [(nowMs, cost)], windowCost := nextCost
        lastEmitMs := some nowMs })

/-- The time at which a reserved cost is recorded. -/
def emitMs (nowMs : Nat) : Nat :=
  match budget.lastEmitMs with
  | none => nowMs
  | some last => max last nowMs

def recordReserved (nowMs cost : Nat) : Except Panic RequoteBudget := do
  let emitMs := budget.emitMs nowMs
  let budget ← budget.evict emitMs
  match checkedAdd u64Max budget.windowCost cost with
  | none => throw .reservedConversionOverflow
  | some windowCost =>
    return { budget with
      emits := budget.emits ++ [(emitMs, cost)], windowCost := windowCost
      lastEmitMs := some emitMs }

end RequoteBudget

/-! ## Liabilities -/

/-- `SUBMIT_COMMAND_COST`. -/
def submitCommandCost : Nat := 1

/-- `REST_CALL_COST`. -/
def restCallCost : Nat := 1

/-- `CANCEL_RESUBMIT_REST_COST`. -/
def cancelResubmitRestCost : Nat := restCallCost + restCallCost

structure LiabilityBalance where
  (nowMs submitCost restCost : Nat)
deriving DecidableEq

inductive OutstandingLiability
  | oneShot (balance : LiabilityBalance)
  | cancelResubmitBothOutstanding (nowMs : Nat)
  | cancelResubmitReplacementOutstanding (nowMs : Nat)
deriving DecidableEq

def OutstandingLiability.balance : OutstandingLiability → LiabilityBalance
  | .oneShot balance => balance
  | .cancelResubmitBothOutstanding nowMs => ⟨nowMs, submitCommandCost, cancelResubmitRestCost⟩
  | .cancelResubmitReplacementOutstanding nowMs => ⟨nowMs, submitCommandCost, restCallCost⟩

structure RequoteBudgetReservationProposal where
  liability : OutstandingLiability
deriving DecidableEq

inductive RequoteBudgetReservationDenied
  | capacity | generationOverflow | staleReservation

/-! ## The pair -/

/-- The two budgets. -/
inductive Side
  | submitCommands | restCalls
deriving DecidableEq

/-- The cost of a balance in a budget. -/
def LiabilityBalance.cost (balance : LiabilityBalance) : Side → Nat
  | .submitCommands => balance.submitCost
  | .restCalls => balance.restCost

/-- A cost that was recorded in a budget, and the reservation it was recorded for. -/
structure Charge where
  generation : Nat
  side : Side
  (emitMs cost : Nat)

/-- What was reserved, by generation, and what was charged, in order. -/
structure History where
  reserved : ExtTreeMap Nat OutstandingLiability
  charges : List Charge

structure RequoteBudgetPairState where
  (submitCommands restCalls : RequoteBudget)
  nextReservationGeneration : Nat
  outstanding : ExtTreeMap Nat OutstandingLiability
  history : History

inductive RequoteBudgetReservationPhase
  | refundable
  | sinkInvoked (nowMs : Nat)
deriving DecidableEq

structure RequoteBudgetReservation where
  generation : Nat
  phase : RequoteBudgetReservationPhase
deriving DecidableEq

namespace RequoteBudgetPairState

def new (submitCommands restCalls : RequoteBudget) : RequoteBudgetPairState :=
  { submitCommands := submitCommands, restCalls := restCalls, nextReservationGeneration := 0
    outstanding := ∅, history := ⟨∅, []⟩ }

variable (state : RequoteBudgetPairState)

def budget : Side → RequoteBudget
  | .submitCommands => state.submitCommands
  | .restCalls => state.restCalls

def withBudget (side : Side) (budget : RequoteBudget) : RequoteBudgetPairState :=
  match side with
  | .submitCommands => { state with submitCommands := budget }
  | .restCalls => { state with restCalls := budget }

/-- The checked sum of `has_capacity` over what is outstanding in a budget. -/
def outstandingCost (side : Side) : Option Nat :=
  (state.outstanding.toList.map Prod.snd).foldlM
    (fun total liability => checkedAdd u64Max total (liability.balance.cost side)) 0

def hasCapacity (nowMs submitCost restCost : Nat) : Except Panic Bool :=
  match state.outstandingCost .submitCommands, state.outstandingCost .restCalls with
  | some outstandingSubmit, some outstandingRest =>
    match checkedAdd u64Max outstandingSubmit submitCost with
    | none => .ok false
    | some requiredSubmit =>
      match checkedAdd u64Max outstandingRest restCost with
      | none => .ok false
      | some requiredRest => do
        let submitOk ←
          if requiredSubmit = 0 then pure true
          else Prod.fst <$> state.submitCommands.tryAcquire nowMs requiredSubmit
        let restOk ← Prod.fst <$> state.restCalls.tryAcquire nowMs requiredRest
        return submitOk && restOk
  | _, _ => .ok false

/-- What a proposal returns. -/
abbrev Proposed :=
  Except Panic (Except RequoteBudgetReservationDenied RequoteBudgetReservationProposal)

def propose (liability : OutstandingLiability) : Proposed := do
  let balance := liability.balance
  if ← state.hasCapacity balance.nowMs balance.submitCost balance.restCost then
    return .ok ⟨liability⟩
  return .error .capacity

variable (nowMs : Nat)

def proposeFreshSubmit : Proposed :=
  state.propose (.oneShot ⟨nowMs, submitCommandCost, restCallCost⟩)

def proposeCancelResubmit : Proposed :=
  state.propose (.cancelResubmitBothOutstanding nowMs)

def proposeRest : Proposed :=
  state.propose (.oneShot ⟨nowMs, 0, restCallCost⟩)

end RequoteBudgetPairState

/-- A method on the locked state. -/
abbrev Act := Action RequoteBudgetPairState Panic

def reserve (proposal : RequoteBudgetReservationProposal) :
    Act (Except RequoteBudgetReservationDenied RequoteBudgetReservation) := do
  let state ← get
  let balance := proposal.liability.balance
  match state.hasCapacity balance.nowMs balance.submitCost balance.restCost with
  | .error panic => throw panic
  | .ok false => return .error .capacity
  | .ok true =>
    match checkedAdd u64Max state.nextReservationGeneration 1 with
    | none => return .error .generationOverflow
    | some generation =>
      set { state with
        nextReservationGeneration := generation
        outstanding := state.outstanding.insert generation proposal.liability
        history := { state.history with
          reserved := state.history.reserved.insert generation proposal.liability } }
      return .ok ⟨generation, .refundable⟩

/-- `record_reserved` on one of the budgets. -/
def record (generation : Nat) (side : Side) (nowMs cost : Nat) : Act Unit := do
  let state ← get
  match (state.budget side).recordReserved nowMs cost with
  | .error panic => throw panic
  | .ok budget =>
    set { state.withBudget side budget with
      history := { state.history with
        charges := state.history.charges ++
          [Charge.mk generation side ((state.budget side).emitMs nowMs) cost] } }

namespace RequoteBudgetReservation

def recordBalance (generation : Nat) (balance : LiabilityBalance) : Act Unit := do
  if 0 < balance.submitCost then
    record generation .submitCommands balance.nowMs balance.submitCost
  record generation .restCalls balance.nowMs balance.restCost

variable (reservation : RequoteBudgetReservation)

def prepareSinkInvokedAt (nowMs : Nat) : RequoteBudgetReservation :=
  if reservation.phase = .refundable then { reservation with phase := .sinkInvoked nowMs }
  else reservation

/-- `outstanding.remove(&self.generation)`. -/
def removeOutstanding (generation : Nat) : Act (Option OutstandingLiability) := do
  let state ← get
  set { state with outstanding := state.outstanding.erase generation }
  return state.outstanding[generation]?

/-- `settle_prepared_sink_invocation`: the reservation after the call. -/
def settlePreparedSinkInvocation :
    Act RequoteBudgetReservation := do
  match reservation.phase with
  | .refundable => return reservation
  | .sinkInvoked nowMs =>
    match ← removeOutstanding reservation.generation with
    | none => pure ()
    | some (.cancelResubmitBothOutstanding _) =>
      modify fun state => { state with
        outstanding := state.outstanding.insert reservation.generation
          (.cancelResubmitReplacementOutstanding nowMs) }
      record reservation.generation .restCalls nowMs restCallCost
    | some (.oneShot balance) =>
      recordBalance reservation.generation { balance with nowMs := nowMs }
    | some (.cancelResubmitReplacementOutstanding _) =>
      recordBalance reservation.generation ⟨nowMs, submitCommandCost, restCallCost⟩
    return { reservation with phase := .refundable }

def drop : Act Unit := do
  let reservation ← reservation.settlePreparedSinkInvocation
  let _ ← removeOutstanding reservation.generation

def settleCommitted : Act RequoteBudgetReservation := do
  let reservation ← reservation.settlePreparedSinkInvocation
  match ← removeOutstanding reservation.generation with
  | none => return reservation
  | some liability =>
    recordBalance reservation.generation liability.balance
    return reservation

/-- `commit`; it has no error. -/
def commit : Act Unit := do
  let reservation ← reservation.settleCommitted
  reservation.drop

def settleAborted :
    Act (Except RequoteBudgetReservationDenied Unit × RequoteBudgetReservation) := do
  if reservation.phase ≠ .refundable then
    let reservation ← reservation.settlePreparedSinkInvocation
    let _ ← removeOutstanding reservation.generation
    return (.ok (), reservation)
  match ← removeOutstanding reservation.generation with
  | none => return (.error .staleReservation, reservation)
  | some _ => return (.ok (), reservation)

def abort :
    Act (Except RequoteBudgetReservationDenied Unit) := do
  let (result, reservation) ← reservation.settleAborted
  reservation.drop
  return result

end RequoteBudgetReservation

end BoltV3.Requote
