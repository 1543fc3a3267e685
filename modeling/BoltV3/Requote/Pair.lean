import BoltV3.Requote.Budget
import BoltV3.Lib.SlidingWindow

/-!
# The pair of budgets and its reservations

What the methods of the pair and of a reservation do, where they do not panic. A cost that was
reserved is outstanding until it is charged or given back. A method of a reservation changes its own
entry and charges, and no other (`Effect`).
-/

namespace BoltV3.Requote

open Lib SlidingWindow Action List
open Std (ExtTreeMap)

/-! ## The window of one budget

A budget keeps the emits that its window may still reach. Next to all charges that were recorded in
it, in the order of their times, what it keeps is a tail (`RequoteBudget.Tracks`), so that the cost
it reads off is that of the recent charges. -/

namespace RequoteBudget

variable {budget : RequoteBudget} {charges : List (Nat × Nat)} {nowMs cost : Nat}

/-- The cost of the retained emits. -/
def emitCost (emits : List (Nat × Nat)) : Nat := (emits.map Prod.snd).sum

/-- The budget without the emits before the window that ends now. -/
def evicted (budget : RequoteBudget) (nowMs : Nat) : RequoteBudget :=
  let emits := budget.emits.dropWhile fun emit => emit.1 < nowMs - budget.windowMs
  { budget with emits := emits, windowCost := emitCost emits }

theorem evictBefore_eq (cutoffMs : Nat) (emits : List (Nat × Nat)) :
    evictBefore cutoffMs emits (emitCost emits) =
      .ok (emits.dropWhile fun emit => emit.1 < cutoffMs,
        emitCost (emits.dropWhile fun emit => emit.1 < cutoffMs)) := by
  induction emits with
  | nil => rfl
  | cons emit rest ih =>
    obtain ⟨timestampMs, cost⟩ := emit
    unfold evictBefore
    by_cases hkept : cutoffMs ≤ timestampMs
    · rw [if_pos hkept, dropWhile_cons_of_neg (by simpa using hkept)]
    · have hcost : emitCost ((timestampMs, cost) :: rest) = cost + emitCost rest := by
        simp [emitCost]
      have hsub : checkedSub (cost + emitCost rest) cost = some (emitCost rest) :=
        checkedSub_eq_some.mpr ⟨by omega, by omega⟩
      rw [if_neg hkept, hcost, hsub, dropWhile_cons_of_pos (by simpa using hkept)]
      exact ih

/-- `evict` does not underflow where the window cost is that of the emits. -/
theorem evict_eq (hcost : budget.windowCost = emitCost budget.emits) (nowMs : Nat) :
    budget.evict nowMs = .ok (budget.evicted nowMs) := by
  unfold evict evicted
  split_ifs with hearly
  · have hcutoff : nowMs - budget.windowMs = 0 := by omega
    have hkept : budget.emits.dropWhile (fun emit => emit.1 < 0) = budget.emits := by
      cases budget.emits with
      | nil => rfl
      | cons emit rest => simp
    simp only [hcutoff, hkept, ← hcost]
  · rw [hcost, evictBefore_eq]
    rfl

/-- The window and the cap of a budget. -/
def limits (budget : RequoteBudget) : Nat × Nat := (budget.windowMs, budget.maxCostPerWindow)

variable {after : RequoteBudget}

theorem evict_limits (h : budget.evict nowMs = .ok after) : after.limits = budget.limits := by
  unfold evict at h
  split_ifs at h
  · cases h
    rfl
  · rcases hloop : evictBefore (nowMs - budget.windowMs) budget.emits budget.windowCost with
        _ | left <;>
      rw [hloop] at h
    · cases h
    · cases h
      rfl

theorem recordReserved_limits
    (h : budget.recordReserved nowMs cost = .ok after) : after.limits = budget.limits := by
  unfold recordReserved at h
  dsimp only at h
  rcases hevicted : budget.evict (budget.emitMs nowMs) with _ | evicted <;> rw [hevicted] at h
  · cases h
  · dsimp only [bind, Except.bind] at h
    split at h
    · cases h
    · cases h
      have hlimits := evict_limits hevicted
      exact hlimits

/-! ## Budgets and their charges -/

/-- The budget keeps a tail of the charges, and those before it are out of reach of its window. -/
structure Tracks (budget : RequoteBudget) (charges : List (Nat × Nat)) : Prop where
  ordered : charges.Pairwise fun first second => first.1 ≤ second.1
  last : ∀ charge ∈ charges, ∃ lastMs, budget.lastEmitMs = some lastMs ∧ charge.1 ≤ lastMs
  kept : ∃ early, charges = early ++ budget.emits ∧
    ∀ charge ∈ early, ∀ lastMs, budget.lastEmitMs = some lastMs →
      charge.1 < lastMs - budget.windowMs
  cost : budget.windowCost = emitCost budget.emits

theorem tracks_new (maxCostPerWindow windowMs minIntervalMs : Nat) :
    (new maxCostPerWindow windowMs minIntervalMs).Tracks [] where
  ordered := .nil
  last := by simp
  kept := ⟨[], rfl, by simp⟩
  cost := rfl

namespace Tracks

section

variable (h : budget.Tracks charges)

include h

theorem le_emitMs (nowMs : Nat) : ∀ charge ∈ charges, charge.1 ≤ budget.emitMs nowMs := by
  intro charge hcharge
  obtain ⟨lastMs, hlast, hle⟩ := h.last charge hcharge
  unfold emitMs
  rw [hlast]
  exact hle.trans (le_max_left _ _)

/-- What is kept at a time no earlier than the last emit is what the window reaches. -/
theorem evicted_emits (hnow : ∀ lastMs, budget.lastEmitMs = some lastMs → lastMs ≤ nowMs) :
    ∃ early, charges = early ++ (budget.evicted nowMs).emits ∧
      (∀ charge ∈ early, charge.1 < nowMs - budget.windowMs) ∧
      (budget.evicted nowMs).windowCost = since charges (nowMs - budget.windowMs) := by
  obtain ⟨early, hsplit, hearly⟩ := h.kept
  set cutoffMs := nowMs - budget.windowMs with hcutoff
  have hordered : budget.emits.Pairwise fun first second => first.1 ≤ second.1 :=
    (pairwise_append.mp (hsplit ▸ h.ordered)).2.1
  have hbefore : ∀ charge ∈ early, charge.1 < cutoffMs := by
    intro charge hcharge
    obtain ⟨lastMs, hlast, -⟩ := h.last charge (hsplit ▸ mem_append_left _ hcharge)
    have hlt := hearly charge hcharge lastMs hlast
    have hle := hnow lastMs hlast
    omega
  refine ⟨early ++ budget.emits.takeWhile (fun emit => emit.1 < cutoffMs), ?_, ?_, ?_⟩
  · rw [append_assoc, hsplit]
    congr 1
    exact takeWhile_append_dropWhile.symm
  · refine forall_mem_append.mpr ⟨hbefore, fun charge hcharge => ?_⟩
    simpa using all_eq_true.mp all_takeWhile charge hcharge
  · rw [hsplit, since_append_of_lt hbefore]
    unfold evicted emitCost since
    rw [dropWhile_eq_filter Prod.fst hordered]

/-- An acquisition does not panic. -/
theorem tryAcquire_ok (nowMs cost : Nat) :
    ∃ granted, budget.tryAcquire nowMs cost = .ok granted := by
  unfold tryAcquire
  rw [evict_eq h.cost]
  split_ifs
  · exact ⟨_, rfl⟩
  · exact ⟨_, rfl⟩
  dsimp only [bind, Except.bind]
  split_ifs
  · exact ⟨_, rfl⟩
  split
  · exact ⟨_, rfl⟩
  · split_ifs
    · exact ⟨_, rfl⟩
    · exact ⟨_, rfl⟩

/-- **A granted acquisition**: the charges that the window reaches leave room for the cost. -/
theorem tryAcquire_granted {after : RequoteBudget}
    (hgranted : budget.tryAcquire nowMs cost = .ok (true, after)) :
    since charges (nowMs - budget.windowMs) + cost ≤ min budget.maxCostPerWindow u64Max := by
  unfold tryAcquire at hgranted
  rw [evict_eq h.cost] at hgranted
  split_ifs at hgranted with hzero hlate
  · cases hgranted
  · cases hgranted
  have hnow : ∀ lastMs, budget.lastEmitMs = some lastMs → lastMs ≤ nowMs := by
    intro lastMs hlast
    rw [hlast] at hlate
    simpa using hlate
  obtain ⟨-, -, -, hcost⟩ := h.evicted_emits hnow
  dsimp only [bind, Except.bind] at hgranted
  split_ifs at hgranted
  · cases hgranted
  split at hgranted
  · cases hgranted
  · rename_i nextCost hadd
    split_ifs at hgranted with hcap
    · cases hgranted
    obtain ⟨hmax, rfl⟩ := checkedAdd_eq_some.mp hadd
    rw [hcost] at hmax hcap
    have hcap : since charges (nowMs - budget.windowMs) + cost ≤ budget.maxCostPerWindow :=
      not_lt.mp hcap
    exact le_min hcap hmax

/-- **A reserved cost that fits is recorded**, at a time no earlier than any charge. -/
theorem recordReserved
    (hfits : since charges (budget.emitMs nowMs - budget.windowMs) + cost ≤ u64Max) :
    ∃ after, budget.recordReserved nowMs cost = .ok after ∧
      after.windowMs = budget.windowMs ∧ after.maxCostPerWindow = budget.maxCostPerWindow ∧
      after.Tracks (charges ++ [(budget.emitMs nowMs, cost)]) := by
  have hemit : ∀ lastMs, budget.lastEmitMs = some lastMs → lastMs ≤ budget.emitMs nowMs := by
    intro lastMs hlast
    unfold emitMs
    rw [hlast]
    exact le_max_left _ _
  obtain ⟨early, hsplit, hearly, hcost⟩ := h.evicted_emits hemit
  have hadd := checkedAdd_eq_some.mpr ⟨hcost ▸ hfits, rfl⟩
  refine ⟨{ budget with
    emits := (budget.evicted (budget.emitMs nowMs)).emits ++ [(budget.emitMs nowMs, cost)]
    windowCost := emitCost (budget.evicted (budget.emitMs nowMs)).emits + cost
    lastEmitMs := some (budget.emitMs nowMs) }, ?_, rfl, rfl, ?_⟩
  · unfold RequoteBudget.recordReserved
    dsimp only
    rw [evict_eq h.cost]
    dsimp only [bind, Except.bind]
    rw [hadd]
    rfl
  · exact
      { ordered := by
          refine pairwise_append.mpr ⟨h.ordered, pairwise_singleton _ _, ?_⟩
          intro charge hcharge new hnew
          rw [mem_singleton.mp hnew]
          exact h.le_emitMs nowMs charge hcharge
        last := by
          intro charge hcharge
          refine ⟨_, rfl, ?_⟩
          rcases mem_append.mp hcharge with hcharge | hcharge
          · exact h.le_emitMs nowMs charge hcharge
          · rw [mem_singleton.mp hcharge]
        kept := by
          refine ⟨early, ?_, ?_⟩
          · rw [← append_assoc, ← hsplit]
          · intro charge hcharge lastMs hlast
            cases hlast
            exact hearly charge hcharge
        cost := by simp [emitCost] }

end

end Tracks

end RequoteBudget

/-! ## The pair -/

/-- The cost of a liability, if there is one. -/
def owed (liability : Option OutstandingLiability) (side : Side) : Nat :=
  liability.elim 0 (·.balance.cost side)

namespace RequoteBudgetPairState

variable {s s' : RequoteBudgetPairState} {generation : Nat} {side : Side}

/-- The charges of a budget, with their times. -/
def charges (s : RequoteBudgetPairState) (side : Side) : List (Nat × Nat) :=
  (s.history.charges.filter (·.side = side)).map fun charge => (charge.emitMs, charge.cost)

/-- What a reservation was charged in a budget. -/
def charged (s : RequoteBudgetPairState) (generation : Nat) (side : Side) : Nat :=
  ((s.history.charges.filter fun charge => charge.generation = generation && charge.side = side).map
    Charge.cost).sum

/-- The time of the proposal that was reserved. -/
def proposedAt (s : RequoteBudgetPairState) (generation : Nat) : Nat :=
  (s.history.reserved[generation]?).elim 0 (·.balance.nowMs)

/-- The outstanding cost that may be charged until a time. -/
def due (s : RequoteBudgetPairState) (side : Side) (time : Nat) : Nat :=
  SortedMap.sumOver (fun generation liability =>
    if s.proposedAt generation ≤ time then liability.balance.cost side else 0) s.outstanding

/-- The most that a window of a budget may hold. -/
def bound (s : RequoteBudgetPairState) (side : Side) : Nat :=
  min (s.budget side).maxCostPerWindow u64Max

/-! ## Effects on the entries -/

/-- A method on a reservation leaves it with an entry, and charges it some cost in each budget; the
other reservations keep their entries and charges. -/
structure Effect (s s' : RequoteBudgetPairState) (generation : Nat)
    (entry : Option OutstandingLiability) (cost : Side → Nat) : Prop where
  next : s'.nextReservationGeneration = s.nextReservationGeneration
  reserved : s'.history.reserved = s.history.reserved
  entry : s'.outstanding[generation]? = entry
  others : s'.outstanding.erase generation = s.outstanding.erase generation
  charged : ∀ side, s'.charged generation side = s.charged generation side + cost side
  uncharged : ∀ other, other ≠ generation → ∀ side, s'.charged other side = s.charged other side

theorem Effect.refl (s : RequoteBudgetPairState) (generation : Nat) :
    Effect s s generation s.outstanding[generation]? fun _ => 0 :=
  ⟨rfl, rfl, rfl, rfl, fun _ => rfl, fun _ _ _ => rfl⟩

variable {entry : Option OutstandingLiability} {entry' : Option OutstandingLiability}
  {cost cost' : Side → Nat}

theorem Effect.of_outstanding {outstanding : ExtTreeMap Nat OutstandingLiability}
    (hentry : outstanding[generation]? = entry)
    (hothers : outstanding.erase generation = s.outstanding.erase generation) :
    Effect s { s with outstanding := outstanding } generation entry fun _ => 0 :=
  ⟨rfl, rfl, hentry, hothers, fun _ => rfl, fun _ _ _ => rfl⟩

section

variable (h : Effect s s' generation entry cost)

include h

theorem Effect.trans {u : RequoteBudgetPairState} (h' : Effect s' u generation entry' cost') :
    Effect s u generation entry' fun side => cost side + cost' side where
  next := h'.next.trans h.next
  reserved := h'.reserved.trans h.reserved
  entry := h'.entry
  others := h'.others.trans h.others
  charged side := by rw [h'.charged, h.charged, add_assoc]
  uncharged other hother side :=
    (h'.uncharged other hother side).trans (h.uncharged other hother side)

theorem Effect.congr (hentry : entry = entry')
    (hcost : ∀ side, cost side = cost' side) : Effect s s' generation entry' cost' :=
  hentry ▸ funext hcost ▸ h

theorem Effect.proposedAt : s'.proposedAt = s.proposedAt := by
  funext other
  unfold RequoteBudgetPairState.proposedAt
  rw [h.reserved]

theorem Effect.entry_of_ne {other : Nat} (hother : other ≠ generation) :
    s'.outstanding[other]? = s.outstanding[other]? := by
  have hget := congrArg (fun m => m[other]?) h.others
  simpa [SortedMap.getElem?_erase, hother.symm] using hget

end

end RequoteBudgetPairState

open RequoteBudgetPairState

/-- The cost of one charge. -/
def costOf (side : Side) (cost : Nat) : Side → Nat := fun other => if other = side then cost else 0

section

variable {s s' : RequoteBudgetPairState} {generation nowMs cost : Nat} {side : Side}

/-- The state after a charge. -/
def RequoteBudgetPairState.recorded (s : RequoteBudgetPairState) (generation : Nat) (side : Side)
    (nowMs cost : Nat) (budget : RequoteBudget) : RequoteBudgetPairState :=
  { s.withBudget side budget with
    history := { s.history with
      charges := s.history.charges ++
        [Charge.mk generation side ((s.budget side).emitMs nowMs) cost] } }

variable (budget : RequoteBudget) (other : Side)

theorem recorded_budget : (s.recorded generation side nowMs cost budget).budget other =
      if other = side then budget else s.budget other := by
  cases side <;> cases other <;> rfl

theorem recorded_outstanding :
    (s.recorded generation side nowMs cost budget).outstanding = s.outstanding := by
  cases side <;> rfl

theorem recorded_history : (s.recorded generation side nowMs cost budget).history.charges =
    s.history.charges ++ [⟨generation, side, (s.budget side).emitMs nowMs, cost⟩] := rfl

theorem recorded_charges : (s.recorded generation side nowMs cost budget).charges other =
      if other = side then s.charges side ++ [((s.budget side).emitMs nowMs, cost)]
      else s.charges other := by
  unfold RequoteBudgetPairState.charges
  rw [recorded_history, filter_append, map_append]
  split_ifs with hside
  · subst hside
    simp
  · simp [Ne.symm hside]

/-- A charge changes what its reservation was charged, and nothing else of the ledger. -/
theorem recorded_effect :
    Effect s (s.recorded generation side nowMs cost budget) generation s.outstanding[generation]?
      (costOf side cost) := by
  refine ⟨?_, rfl, ?_, ?_, ?_, ?_⟩
  · cases side <;> rfl
  · rw [recorded_outstanding]
  · rw [recorded_outstanding]
  · intro other
    unfold RequoteBudgetPairState.charged costOf
    rw [recorded_history, filter_append, map_append, sum_append]
    congr 1
    split_ifs with hside
    · simp [hside]
    · simp [Ne.symm hside]
  · intro other hother otherSide
    unfold RequoteBudgetPairState.charged
    rw [recorded_history, filter_append, map_append, sum_append]
    simp [Ne.symm hother]

theorem record_effect {result : Unit}
    (h : (record generation side nowMs cost).exec s = (.ok result, s')) :
    Effect s s' generation s.outstanding[generation]? (costOf side cost) := by
  unfold record at h
  rw [exec_get_bind] at h
  split at h
  · cases h
  · rename_i budget _
    cases h
    exact recorded_effect budget

/-- The charges of a balance. -/
theorem recordBalance_effect {balance : LiabilityBalance} {result : Unit}
    (h : (RequoteBudgetReservation.recordBalance generation balance).exec s = (.ok result, s')) :
    Effect s s' generation s.outstanding[generation]? balance.cost := by
  unfold RequoteBudgetReservation.recordBalance at h
  have hcost : balance.cost = fun side =>
      costOf .submitCommands balance.submitCost side + costOf .restCalls balance.restCost side := by
    funext side
    cases side <;> simp [LiabilityBalance.cost, costOf]
  split_ifs at h with hsubmit
  · obtain ⟨_, t, hfirst, hrest⟩ := exec_bind_eq_ok.mp h
    have hfirst := record_effect hfirst
    have hrest := record_effect hrest
    rw [hfirst.entry] at hrest
    rw [hcost]
    exact hfirst.trans hrest
  · have hrest := record_effect h
    have hzero : balance.submitCost = 0 := by omega
    rw [hcost]
    refine ⟨hrest.next, hrest.reserved, hrest.entry, hrest.others, ?_, hrest.uncharged⟩
    intro side
    rw [hrest.charged]
    simp [costOf, hzero]

/-- What the settlement of a sink invocation makes of a liability, and what is charged of it. -/
def OutstandingLiability.settled (nowMs : Nat) :
    OutstandingLiability → Option OutstandingLiability × (Side → Nat)
  | .cancelResubmitBothOutstanding _ =>
    (some (.cancelResubmitReplacementOutstanding nowMs), costOf .restCalls restCallCost)
  | .oneShot balance => (none, balance.cost)
  | .cancelResubmitReplacementOutstanding sinkMs =>
    (none, (OutstandingLiability.cancelResubmitReplacementOutstanding sinkMs).balance.cost)

namespace RequoteBudgetReservation

variable {reservation after : RequoteBudgetReservation}

theorem exec_removeOutstanding (generation : Nat) (s : RequoteBudgetPairState) :
    (removeOutstanding generation).exec s =
      (.ok s.outstanding[generation]?, { s with outstanding := s.outstanding.erase generation }) :=
  rfl

theorem removed_effect (s : RequoteBudgetPairState) (generation : Nat) :
    Effect s { s with outstanding := s.outstanding.erase generation } generation none fun _ => 0 :=
  .of_outstanding (by rw [SortedMap.getElem?_erase, if_pos rfl])
    (SortedMap.erase_eq_self (by rw [SortedMap.getElem?_erase, if_pos rfl]))

variable (phase : RequoteBudgetReservationPhase) (entry : Option OutstandingLiability)

/-- What a settlement makes of the entry of a reservation. -/
def settledEntry : Option OutstandingLiability × (Side → Nat) :=
  match phase, entry with
  | .sinkInvoked nowMs, some liability => OutstandingLiability.settled nowMs liability
  | _, entry => (entry, fun _ => 0)

/-- What `settle_prepared_sink_invocation` does where it does not panic. -/
theorem settle_effect (h : reservation.settlePreparedSinkInvocation.exec s = (.ok after, s')) :
    after = { reservation with phase := .refundable } ∧
      Effect s s' reservation.generation
        (settledEntry reservation.phase s.outstanding[reservation.generation]?).1
        (settledEntry reservation.phase s.outstanding[reservation.generation]?).2 := by
  unfold settlePreparedSinkInvocation at h
  rcases hphase : reservation.phase with _ | nowMs <;> rw [hphase] at h
  · cases h
    exact ⟨by rw [← hphase], .refl s reservation.generation⟩
  · rw [exec_bind_ok (exec_removeOutstanding _ s)] at h
    have hremoved := removed_effect s reservation.generation
    rcases hentry : s.outstanding[reservation.generation]? with _ | liability <;> rw [hentry] at h
    · cases h
      exact ⟨rfl, hremoved⟩
    · cases liability with
      | cancelResubmitBothOutstanding proposedMs =>
        rw [exec_modify_bind] at h
        obtain ⟨_, t, hrecord, hrest⟩ := exec_bind_eq_ok.mp h
        cases hrest
        have hinserted : Effect s { s with
            outstanding := (s.outstanding.erase reservation.generation).insert
              reservation.generation
              (.cancelResubmitReplacementOutstanding nowMs) } reservation.generation
            (some (.cancelResubmitReplacementOutstanding nowMs)) fun _ => 0 :=
          .of_outstanding (by rw [SortedMap.getElem?_insert, if_pos rfl])
            (SortedMap.erase_insert hremoved.entry _)
        refine ⟨rfl, (hinserted.trans (record_effect hrecord)).congr hinserted.entry ?_⟩
        exact fun side => zero_add _
      | _ =>
        obtain ⟨_, t, hrecord, hrest⟩ := exec_bind_eq_ok.mp h
        cases hrest
        refine ⟨rfl, (hremoved.trans (recordBalance_effect hrecord)).congr hremoved.entry ?_⟩
        intro side
        cases side <;> exact zero_add _

/-- A reservation that is dropped has no entry; what was prepared is charged. -/
theorem drop_effect {result : Unit} (h : reservation.drop.exec s = (.ok result, s')) :
    Effect s s' reservation.generation none
      (settledEntry reservation.phase s.outstanding[reservation.generation]?).2 := by
  unfold drop at h
  obtain ⟨after, t, hsettle, hrest⟩ := exec_bind_eq_ok.mp h
  rw [exec_bind_ok (exec_removeOutstanding _ t)] at hrest
  cases hrest
  obtain ⟨rfl, heffect⟩ := settle_effect hsettle
  exact (heffect.trans (removed_effect t reservation.generation)).congr rfl fun side => add_zero _

theorem settledEntry_owed (side : Side) :
    (settledEntry phase entry).2 side + owed (settledEntry phase entry).1 side =
      owed entry side := by
  unfold settledEntry
  split
  · rename_i nowMs liability
    cases liability <;> cases side <;> rfl
  · exact zero_add _

theorem commit_effect {result : Unit} (h : reservation.commit.exec s = (.ok result, s')) :
    Effect s s' reservation.generation none (owed s.outstanding[reservation.generation]?) := by
  unfold commit settleCommitted at h
  obtain ⟨after, u, hcommitted, hdrop⟩ := exec_bind_eq_ok.mp h
  obtain ⟨settled, t, hsettle, hrest⟩ := exec_bind_eq_ok.mp hcommitted
  obtain ⟨rfl, hsettled⟩ := settle_effect hsettle
  have howed := settledEntry_owed reservation.phase s.outstanding[reservation.generation]?
  have hremoved := removed_effect t reservation.generation
  rw [exec_bind_ok (exec_removeOutstanding _ t)] at hrest
  -- what is left after the settlement is charged too
  obtain ⟨rfl, hcharged⟩ : after = { reservation with phase := .refundable } ∧
      Effect s u reservation.generation none (owed s.outstanding[reservation.generation]?) := by
    rw [hsettled.entry] at hrest
    rcases hleft : (settledEntry reservation.phase s.outstanding[reservation.generation]?).1 with
      _ | liability <;> rw [hleft] at hrest howed
    · cases hrest
      refine ⟨rfl, (hsettled.trans hremoved).congr rfl fun side => ?_⟩
      exact (add_zero _).trans (howed side)
    · obtain ⟨_, v, hrecord, hpure⟩ := exec_bind_eq_ok.mp hrest
      cases hpure
      refine ⟨rfl, (hsettled.trans (hremoved.trans (recordBalance_effect hrecord))).congr
        hremoved.entry fun side => ?_⟩
      rw [zero_add]
      exact howed side
  have hdropped := drop_effect hdrop
  exact (hcharged.trans hdropped).congr rfl fun side => add_zero _

/-- A reservation that is aborted before its sink invocation is given back. -/
theorem abort_effect {result : Except RequoteBudgetReservationDenied Unit}
    (hphase : reservation.phase = .refundable) (h : reservation.abort.exec s = (.ok result, s')) :
    Effect s s' reservation.generation none (fun _ => 0) ∧
      (s.outstanding[reservation.generation]? ≠ none → result = .ok ()) := by
  unfold abort settleAborted at h
  rw [if_neg (not_not.mpr hphase)] at h
  obtain ⟨⟨aborted, after⟩, t, hremove, hrest⟩ := exec_bind_eq_ok.mp h
  rw [exec_bind_ok (exec_removeOutstanding _ s)] at hremove
  obtain ⟨_, u, hdrop, hpure⟩ := exec_bind_eq_ok.mp hrest
  have hremoved := removed_effect s reservation.generation
  have hafter : after = reservation ∧
      t = { s with outstanding := s.outstanding.erase reservation.generation } ∧
      (s.outstanding[reservation.generation]? ≠ none → aborted = .ok ()) := by
    split at hremove
    · rename_i hentry
      cases hremove
      exact ⟨rfl, rfl, absurd hentry⟩
    · cases hremove
      exact ⟨rfl, rfl, fun _ => rfl⟩
  obtain ⟨rfl, rfl, hresult⟩ := hafter
  cases hpure
  refine ⟨(hremoved.trans (drop_effect hdrop)).congr rfl fun side => ?_, hresult⟩
  rw [hphase]
  rfl

end RequoteBudgetReservation

end

end BoltV3.Requote
