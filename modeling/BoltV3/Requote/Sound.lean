import BoltV3.Requote.Pair

/-!
# Sound pairs of budgets

In a sound pair the charges of every window leave room for all that may still be charged in it. The
capacity is checked when a cost is reserved, at the time of the proposal, and the cost is charged
later; what makes up for that is that it is not charged before its proposal.

Between the removal of a liability and its charges it is neither outstanding nor charged.
`SoundWith` counts it as spare.
-/

namespace BoltV3.Requote

open Lib SlidingWindow SortedMap Action RequoteBudgetReservation
open Std (ExtTreeMap)

namespace RequoteBudgetPairState

variable {s s' : RequoteBudgetPairState} {generation nowMs cost : Nat} {side : Side}
  {spare spare' : Side → Nat}

/-- The pair, while some of the cost of a reservation is neither outstanding nor charged. -/
structure SoundWith (s : RequoteBudgetPairState) (generation : Nat) (spare : Side → Nat) :
    Prop where
  tracks : ∀ side, (s.budget side).Tracks (s.charges side)
  within : ∀ side, Within (s.budget side).windowMs (s.bound side) (s.charges side) fun time =>
    s.due side time + if s.proposedAt generation ≤ time then spare side else 0
  timed : ∀ (other : Nat) (liability : _), s.outstanding[other]? = some liability →
    s.proposedAt other ≤ liability.balance.nowMs
  known : ∀ other : Nat, s.outstanding[other]? ≠ none → s.history.reserved[other]? ≠ none
  fresh : ∀ other : Nat, s.nextReservationGeneration < other → s.history.reserved[other]? = none
  conserved : ∀ (other : Nat) (side : Side),
    s.charged other side + owed s.outstanding[other]? side +
      (if other = generation then spare side else 0) ≤ owed s.history.reserved[other]? side

/-- Every cost that was reserved and neither charged nor given back is outstanding. -/
def Sound (s : RequoteBudgetPairState) : Prop := ∀ generation, s.SoundWith generation fun _ => 0

theorem SoundWith.sound (h : s.SoundWith generation spare) : s.Sound := fun _ =>
  { tracks := h.tracks
    within := fun side => (h.within side).mono fun time => by
      rw [ite_self, add_zero]
      exact Nat.le_add_right _ _
    timed := h.timed, known := h.known, fresh := h.fresh
    conserved := by
      intro other side
      have hconserved := h.conserved other side
      rw [ite_self]
      omega }

theorem sound_new (submit rest : RequoteBudget) (hsubmit : submit.Tracks [])
    (hrest : rest.Tracks []) :
    (new submit rest).Sound := fun _ =>
  { tracks := by
      rintro (_ | _)
      · exact hsubmit
      · exact hrest
    within := by
      intro side start
      have hdue : ∀ time, (new submit rest).due side time = 0 := by
        intro time
        have hnil : (∅ : ExtTreeMap Nat OutstandingLiability).toList = [] := rfl
        unfold due new sumOver
        rw [hnil]
        rfl
      dsimp only
      rw [hdue, ite_self]
      exact Nat.zero_le _
    timed := by simp [new]
    known := by simp [new]
    fresh := by simp [new]
    conserved := by simp [new, charged, owed] }

/-! ## Entries -/

theorem due_erase (s : RequoteBudgetPairState) (generation : Nat) (side : Side) (time : Nat) :
    s.due side time = (if s.proposedAt generation ≤ time then owed s.outstanding[generation]? side
      else 0) + sumOver (fun other liability =>
        if s.proposedAt other ≤ time then liability.balance.cost side else 0)
          (s.outstanding.erase generation) := by
  unfold due
  rw [sumOver_erase _ s.outstanding generation]
  congr 1
  rcases s.outstanding[generation]? with _ | liability
  · exact (ite_self 0).symm
  · rfl

/-- **Another entry of the reservation**, at the cost of what is spare. -/
theorem SoundWith.swap (h : s.SoundWith generation spare) (hbudget : s'.budget = s.budget)
    (hhistory : s'.history = s.history)
    (hnext : s'.nextReservationGeneration = s.nextReservationGeneration)
    (hothers : s'.outstanding.erase generation = s.outstanding.erase generation)
    (howed : ∀ side, owed s'.outstanding[generation]? side + spare' side ≤
      owed s.outstanding[generation]? side + spare side)
    (htimed : ∀ liability : OutstandingLiability, s'.outstanding[generation]? = some liability →
      s.proposedAt generation ≤ liability.balance.nowMs)
    (hknown : s'.outstanding[generation]? ≠ none → s.history.reserved[generation]? ≠ none) :
    s'.SoundWith generation spare' := by
  have hother : ∀ other : Nat, other ≠ generation →
      s'.outstanding[other]? = s.outstanding[other]? := by
    intro other hother
    have hget := congrArg (fun m => m[other]?) hothers
    simpa [getElem?_erase, hother.symm] using hget
  have hcharges : s'.charges = s.charges := by
    unfold RequoteBudgetPairState.charges
    rw [hhistory]
  have hcharged : s'.charged = s.charged := by
    unfold RequoteBudgetPairState.charged
    rw [hhistory]
  have hproposed : s'.proposedAt = s.proposedAt := by
    unfold RequoteBudgetPairState.proposedAt
    rw [hhistory]
  exact
    { tracks := by
        rw [hbudget, hcharges]
        exact h.tracks
      within := by
        intro side
        unfold bound
        rw [hbudget, hcharges]
        refine (h.within side).mono fun time => ?_
        have howed := howed side
        rw [due_erase s' generation, due_erase s generation, hothers, hproposed]
        split_ifs
        · omega
        · exact le_rfl
      timed := by
        intro other liability hliability
        rw [hproposed]
        by_cases hsame : other = generation
        · subst hsame
          exact htimed liability hliability
        · exact h.timed other liability (hother other hsame ▸ hliability)
      known := by
        intro other hentry
        rw [hhistory]
        by_cases hsame : other = generation
        · subst hsame
          exact hknown hentry
        · exact h.known other (hother other hsame ▸ hentry)
      fresh := by
        rw [hnext, hhistory]
        exact h.fresh
      conserved := by
        intro other side
        have hconserved := h.conserved other side
        rw [hcharged, hhistory]
        by_cases hsame : other = generation
        · subst hsame
          have howed := howed side
          rw [if_pos rfl] at hconserved ⊢
          omega
        · rw [if_neg hsame] at hconserved ⊢
          rw [hother other hsame]
          exact hconserved }

theorem Sound.remove (h : s.Sound) (generation : Nat) :
    SoundWith { s with outstanding := s.outstanding.erase generation } generation
      (owed s.outstanding[generation]?) := by
  have hnone : (s.outstanding.erase generation)[generation]? = none := by
    rw [getElem?_erase, if_pos rfl]
  refine (h generation).swap rfl rfl rfl (erase_eq_self hnone) ?_ ?_ ?_
  · intro side
    rw [hnone]
    exact (Nat.add_comm _ _).le
  · rw [hnone]
    nofun
  · exact absurd hnone

/-! ## Charges -/

theorem bound_le_max (s : RequoteBudgetPairState) (side : Side) : s.bound side ≤ u64Max :=
  min_le_right _ _

/-- **A spare cost is recorded**, no earlier than its proposal. -/
theorem SoundWith.record (h : s.SoundWith generation spare) (side : Side) (cost : Nat)
    (spare' : Side → Nat) (htime : s.proposedAt generation ≤ nowMs)
    (hspare : ∀ other, spare' other + costOf side cost other ≤ spare other) :
    ∃ s', (record generation side nowMs cost).exec s = (.ok (), s') ∧
      s'.SoundWith generation spare' ∧
      s'.outstanding = s.outstanding ∧ s'.history.reserved = s.history.reserved := by
  have hside : spare' side + cost ≤ spare side := by
    have hside := hspare side
    unfold costOf at hside
    rwa [if_pos rfl] at hside
  have hemit : s.proposedAt generation ≤ (s.budget side).emitMs nowMs := by
    unfold RequoteBudget.emitMs
    split
    · exact htime
    · exact htime.trans (le_max_right _ _)
  have hfits : since (s.charges side) ((s.budget side).emitMs nowMs - (s.budget side).windowMs) +
      cost ≤ s.bound side := by
    refine (h.within side).since_add_le hemit ((h.tracks side).le_emitMs nowMs)
      fun time hlater => ?_
    rw [if_pos hlater]
    omega
  obtain ⟨budget, hrecord, hwindow, hcap, htracks⟩ :=
    (h.tracks side).recordReserved (hfits.trans (bound_le_max s side))
  refine ⟨s.recorded generation side nowMs cost budget, ?_, ?_, recorded_outstanding budget, rfl⟩
  · unfold Requote.record
    rw [exec_get_bind, hrecord]
    rfl
  have heffect : Effect s (s.recorded generation side nowMs cost budget) generation
      s.outstanding[generation]? (costOf side cost) := recorded_effect budget
  have hdue : ∀ other, (s.recorded generation side nowMs cost budget).due other = s.due other := by
    intro other
    funext time
    unfold due
    rw [recorded_outstanding, heffect.proposedAt]
  exact
    { tracks := by
        intro other
        rw [recorded_budget, recorded_charges]
        split_ifs
        · exact htracks
        · exact h.tracks other
      within := by
        intro other
        unfold bound
        rw [recorded_budget, recorded_charges, heffect.proposedAt, hdue]
        have hother := hspare other
        unfold costOf at hother
        split_ifs with hsame
        · subst hsame
          rw [hwindow, hcap]
          refine (h.within other).charge hemit fun time => ?_
          split_ifs <;> omega
        · refine (h.within other).mono fun time => ?_
          split_ifs <;> omega
      timed := by
        rw [recorded_outstanding, heffect.proposedAt]
        exact h.timed
      known := by
        rw [recorded_outstanding]
        exact h.known
      fresh := by
        rw [heffect.next]
        exact h.fresh
      conserved := by
        intro other otherSide
        have hconserved := h.conserved other otherSide
        have hother := hspare otherSide
        rw [recorded_outstanding]
        change _ ≤ owed s.history.reserved[other]? otherSide
        by_cases hsame : other = generation
        · subst hsame
          rw [heffect.charged, if_pos rfl]
          rw [if_pos rfl] at hconserved
          omega
        · rw [heffect.uncharged other hsame, if_neg hsame]
          rw [if_neg hsame] at hconserved
          exact hconserved }

/-! ## Reservations -/

theorem foldlM_checkedAdd {values : List OutstandingLiability} {first total : Nat}
    (h : values.foldlM (fun total liability =>
      checkedAdd u64Max total (liability.balance.cost side)) first = some total) :
    total = first + (values.map (·.balance.cost side)).sum := by
  induction values generalizing first with
  | nil =>
    cases h
    rfl
  | cons liability rest ih =>
    rw [List.foldlM_cons] at h
    obtain ⟨next, hadd, hrest⟩ := Option.bind_eq_some_iff.mp h
    obtain ⟨-, rfl⟩ := checkedAdd_eq_some.mp hadd
    rw [ih hrest, List.map_cons, List.sum_cons, add_assoc]

/-- What is due at some time is part of what is outstanding. -/
theorem due_le_outstandingCost {total : Nat} (h : s.outstandingCost side = some total)
    (time : Nat) : s.due side time ≤ total := by
  rw [foldlM_checkedAdd h, zero_add, List.map_map]
  unfold due sumOver
  refine List.sum_le_sum fun entry _ => ?_
  dsimp only [Function.comp]
  split_ifs
  · exact le_rfl
  · exact Nat.zero_le _

/-- **What the check of the capacity says** about one of the budgets: the recent charges, all that
is outstanding and the new cost are within the cap, or there is neither. -/
theorem Sound.hasCapacity (h : s.Sound) (nowMs submitCost restCost : Nat) :
    ∃ capacity, s.hasCapacity nowMs submitCost restCost = .ok capacity ∧
      (capacity = true → ∀ side, ∃ total, s.outstandingCost side = some total ∧
        let cost := (LiabilityBalance.mk nowMs submitCost restCost).cost side
        (total + cost = 0 ∨
          since (s.charges side) (nowMs - (s.budget side).windowMs) + total + cost ≤
            s.bound side)) := by
  have htracks := (h 0).tracks
  unfold RequoteBudgetPairState.hasCapacity
  split
  · rename_i outstandingSubmit outstandingRest hsubmit hrest
    split
    · exact ⟨false, rfl, nofun⟩
    rename_i requiredSubmit hrequiredSubmit
    split
    · exact ⟨false, rfl, nofun⟩
    rename_i requiredRest hrequiredRest
    obtain ⟨-, rfl⟩ := checkedAdd_eq_some.mp hrequiredSubmit
    obtain ⟨-, rfl⟩ := checkedAdd_eq_some.mp hrequiredRest
    have hgrants : ∀ side total cost, ∃ granted after,
        (s.budget side).tryAcquire nowMs (total + cost) = .ok (granted, after) ∧
        (granted = true → since (s.charges side) (nowMs - (s.budget side).windowMs) + total +
          cost ≤ s.bound side) := by
      intro side total cost
      obtain ⟨⟨granted, after⟩, hacquire⟩ := (htracks side).tryAcquire_ok nowMs (total + cost)
      refine ⟨granted, after, hacquire, ?_⟩
      rintro rfl
      rw [add_assoc]
      exact (htracks side).tryAcquire_granted hacquire
    obtain ⟨submitGranted, submitAfter, hsubmitAcquire, hsubmitFits⟩ :=
      hgrants .submitCommands outstandingSubmit submitCost
    obtain ⟨restGranted, restAfter, hrestAcquire, hrestFits⟩ :=
      hgrants .restCalls outstandingRest restCost
    dsimp only [budget] at hsubmitAcquire hrestAcquire
    rw [hsubmitAcquire, hrestAcquire]
    by_cases hzero : outstandingSubmit + submitCost = 0
    · rw [if_pos hzero]
      refine ⟨restGranted, rfl, ?_⟩
      rintro hgranted (_ | _)
      · exact ⟨outstandingSubmit, hsubmit, .inl hzero⟩
      · exact ⟨outstandingRest, hrest, .inr (hrestFits hgranted)⟩
    · rw [if_neg hzero]
      refine ⟨submitGranted && restGranted, rfl, ?_⟩
      intro hgranted
      obtain ⟨hsubmitGranted, hrestGranted⟩ := Bool.and_eq_true_iff.mp hgranted
      rintro (_ | _)
      · exact ⟨outstandingSubmit, hsubmit, .inr (hsubmitFits hsubmitGranted)⟩
      · exact ⟨outstandingRest, hrest, .inr (hrestFits hrestGranted)⟩
  · exact ⟨false, rfl, nofun⟩

/-- The state with a new reservation. -/
def reserved (s : RequoteBudgetPairState) (liability : OutstandingLiability) :
    RequoteBudgetPairState :=
  { s with
    nextReservationGeneration := s.nextReservationGeneration + 1
    outstanding := s.outstanding.insert (s.nextReservationGeneration + 1) liability
    history := { s.history with
      reserved := s.history.reserved.insert (s.nextReservationGeneration + 1) liability } }

theorem reserved_proposedAt (s : RequoteBudgetPairState) (liability : OutstandingLiability)
    (other : Nat) : (s.reserved liability).proposedAt other =
      if s.nextReservationGeneration + 1 = other then liability.balance.nowMs
      else s.proposedAt other := by
  unfold proposedAt reserved
  rw [getElem?_insert]
  split_ifs <;> rfl

theorem Sound.reserved_due (h : s.Sound) (liability : OutstandingLiability) (side : Side)
    (time : Nat) : (s.reserved liability).due side time =
      s.due side time +
        if liability.balance.nowMs ≤ time then liability.balance.cost side else 0 := by
  have hnone : s.outstanding[s.nextReservationGeneration + 1]? = none := by
    by_contra hentry
    exact (h 0).known _ hentry ((h 0).fresh _ (Nat.lt_succ_self _))
  rw [due_erase _ (s.nextReservationGeneration + 1), reserved_proposedAt, if_pos rfl]
  have hentry : (s.reserved liability).outstanding[s.nextReservationGeneration + 1]? =
      some liability := by
    unfold reserved
    rw [getElem?_insert, if_pos rfl]
  have herase : (s.reserved liability).outstanding.erase (s.nextReservationGeneration + 1) =
      s.outstanding := erase_insert hnone liability
  rw [hentry, herase, add_comm]
  congr 1
  refine sumOver_congr fun other value hvalue => ?_
  have hother : s.nextReservationGeneration + 1 ≠ other := by
    rintro rfl
    cases hnone.symm.trans hvalue
  rw [reserved_proposedAt, if_neg hother]

/-- **A reservation that passes the check keeps the pair sound.** -/
theorem Sound.reserved (h : s.Sound) {liability : OutstandingLiability}
    (hcapacity : s.hasCapacity liability.balance.nowMs liability.balance.submitCost
      liability.balance.restCost = .ok true) : (s.reserved liability).Sound := by
  obtain ⟨capacity, hok, hfits⟩ := h.hasCapacity liability.balance.nowMs
    liability.balance.submitCost liability.balance.restCost
  obtain rfl : capacity = true := Except.ok.inj (hok.symm.trans hcapacity)
  set new := s.nextReservationGeneration + 1 with hnew
  have hfresh : s.history.reserved[new]? = none := (h 0).fresh new (Nat.lt_succ_self _)
  intro generation
  exact
    { tracks := (h 0).tracks
      within := by
        intro side
        obtain ⟨total, htotal, hroom⟩ := hfits rfl side
        have hwithin := (h 0).within side
        simp only [ite_self, add_zero] at hwithin ⊢
        rcases hroom with hzero | hroom
        · refine hwithin.mono fun time => ?_
          rw [h.reserved_due]
          have hcost : liability.balance.cost side = 0 := (Nat.add_eq_zero_iff.mp hzero).2
          rw [hcost, ite_self]
          exact le_rfl
        · exact hwithin.commit (due_le_outstandingCost htotal) hroom
            fun time => (h.reserved_due liability side time).le
      timed := by
        intro other value hvalue
        rw [reserved_proposedAt]
        have hvalue : (s.outstanding.insert new liability)[other]? = some value := hvalue
        rw [getElem?_insert] at hvalue
        split_ifs at hvalue ⊢
        · cases hvalue
          exact le_rfl
        · exact (h 0).timed other value hvalue
      known := by
        intro other hentry
        have hentry : (s.outstanding.insert new liability)[other]? ≠ none := hentry
        change (s.history.reserved.insert new liability)[other]? ≠ none
        rw [getElem?_insert] at hentry ⊢
        split_ifs at hentry ⊢
        · exact hentry
        · exact (h 0).known other hentry
      fresh := by
        intro other hother
        have hother : new < other := hother
        change (s.history.reserved.insert new liability)[other]? = none
        rw [getElem?_insert, if_neg (by omega)]
        exact (h 0).fresh other (by omega)
      conserved := by
        intro other side
        have hconserved := (h 0).conserved other side
        change s.charged other side + owed (s.outstanding.insert new liability)[other]? side + _ ≤
          owed (s.history.reserved.insert new liability)[other]? side
        rw [ite_self] at hconserved ⊢
        rw [getElem?_insert, getElem?_insert]
        split_ifs with hsame
        · subst hsame
          rw [hfresh] at hconserved
          have hzero : owed (none : Option OutstandingLiability) side = 0 := rfl
          omega
        · exact hconserved }

/-- **A reservation does not panic**, and is refused or granted at the next generation. -/
theorem Sound.reserve (h : s.Sound) (proposal : RequoteBudgetReservationProposal) :
    (∃ denied, (reserve proposal).exec s = (.ok (.error denied), s)) ∨
    ((reserve proposal).exec s =
      (.ok (.ok ⟨s.nextReservationGeneration + 1, .refundable⟩), s.reserved proposal.liability) ∧
      (s.reserved proposal.liability).Sound) := by
  obtain ⟨capacity, hok, -⟩ := h.hasCapacity proposal.liability.balance.nowMs
    proposal.liability.balance.submitCost proposal.liability.balance.restCost
  unfold Requote.reserve
  rw [exec_get_bind]
  dsimp only
  rw [hok]
  cases capacity with
  | false => exact .inl ⟨_, rfl⟩
  | true =>
    rcases hgeneration : checkedAdd u64Max s.nextReservationGeneration 1 with _ | generation
    · exact .inl ⟨_, rfl⟩
    · obtain ⟨-, rfl⟩ := checkedAdd_eq_some.mp hgeneration
      exact .inr ⟨rfl, h.reserved hok⟩

/-! ## The methods of a reservation -/

theorem SoundWith.recordBalance {balance : LiabilityBalance} (h : s.SoundWith generation spare)
    (htime : s.proposedAt generation ≤ balance.nowMs)
    (hspare : ∀ side, balance.cost side ≤ spare side) :
    ∃ s', (recordBalance generation balance).exec s = (.ok (), s') ∧
      s'.Sound := by
  have hsubmit := hspare .submitCommands
  have hrest := hspare .restCalls
  unfold RequoteBudgetReservation.recordBalance
  split_ifs
  · obtain ⟨t, hfirst, hsound, -, hreserved⟩ := h.record .submitCommands
      balance.submitCost (costOf .restCalls balance.restCost) htime (by
        rintro (_ | _)
        · exact (zero_add _).trans_le hsubmit
        · exact (add_zero _).trans_le hrest)
    have hproposed : t.proposedAt generation = s.proposedAt generation := by
      unfold proposedAt
      rw [hreserved]
    obtain ⟨s', hsecond, hsound, -⟩ := hsound.record .restCalls balance.restCost (fun _ => 0)
      (hproposed.trans_le htime) fun _ => (zero_add _).le
    exact ⟨s', (exec_bind_ok hfirst _).trans hsecond, hsound.sound⟩
  · obtain ⟨s', hrecord, hsound, -⟩ := h.record .restCalls balance.restCost (fun _ => 0) htime (by
        rintro (_ | _)
        · exact Nat.zero_le _
        · exact (zero_add _).trans_le hrest)
    exact ⟨s', hrecord, hsound.sound⟩

/-- The time of a sink invocation is no earlier than the proposal. -/
def TimelyPhase (s : RequoteBudgetPairState) (reservation : RequoteBudgetReservation) : Prop :=
  ∀ nowMs, reservation.phase = .sinkInvoked nowMs → s.proposedAt reservation.generation ≤ nowMs

variable {reservation : RequoteBudgetReservation}

theorem timelyPhase_refundable (s : RequoteBudgetPairState) (generation : Nat) :
    s.TimelyPhase ⟨generation, .refundable⟩ := by
  nofun

section

variable (h : s.Sound)

include h

/-- A removed liability is recorded at a time of its own. -/
theorem Sound.recordRemoved {liability : OutstandingLiability}
    (hentry : s.outstanding[generation]? = some liability) (balance : LiabilityBalance)
    (htime : s.proposedAt generation ≤ balance.nowMs)
    (hcost : ∀ side, balance.cost side ≤ liability.balance.cost side) :
    ∃ s', (recordBalance generation balance).exec
      { s with outstanding := s.outstanding.erase generation } = (.ok (), s') ∧ s'.Sound := by
  refine (h.remove generation).recordBalance htime fun side => ?_
  rw [hentry]
  exact hcost side

/-- Where only the replacement stays outstanding, the cancel's call is spare. -/
theorem Sound.splitCancel {proposedMs : Nat}
    (hentry : s.outstanding[generation]? = some (.cancelResubmitBothOutstanding proposedMs))
    (htime : s.proposedAt generation ≤ nowMs) :
    SoundWith { s with
      outstanding := (s.outstanding.erase generation).insert generation
        (.cancelResubmitReplacementOutstanding nowMs) }
      generation (costOf .restCalls restCallCost) := by
  have hnone : (s.outstanding.erase generation)[generation]? = none := by
    rw [getElem?_erase, if_pos rfl]
  have hnew : ((s.outstanding.erase generation).insert generation
      (.cancelResubmitReplacementOutstanding nowMs))[generation]? =
        some (.cancelResubmitReplacementOutstanding nowMs) := by
    rw [getElem?_insert, if_pos rfl]
  refine (h generation).swap rfl rfl rfl (erase_insert hnone _) ?_ ?_ ?_
  · intro side
    rw [hnew, hentry]
    cases side <;> exact le_rfl
  · rw [hnew]
    rintro _ ⟨⟩
    exact htime
  · intro _
    exact (h generation).known generation (by rw [hentry]; exact Option.some_ne_none _)

section

variable (htime : s.TimelyPhase reservation)

include htime

/-- **The settlement of a prepared sink invocation does not panic.** -/
theorem Sound.settle :
    ∃ after s', reservation.settlePreparedSinkInvocation.exec s = (.ok after, s') ∧ s'.Sound := by
  unfold settlePreparedSinkInvocation
  rcases hphase : reservation.phase with _ | nowMs
  · exact ⟨reservation, s, rfl, h⟩
  have htime := htime nowMs hphase
  rw [exec_bind_ok (exec_removeOutstanding _ s)]
  rcases hentry : s.outstanding[reservation.generation]? with _ | liability
  · exact ⟨_, _, rfl, (h.remove reservation.generation).sound⟩
  cases liability with
  | oneShot balance =>
    obtain ⟨s', hrecord, hsound⟩ := h.recordRemoved hentry { balance with nowMs := nowMs } htime
      fun side => by cases side <;> exact le_rfl
    exact ⟨_, s', exec_bind_ok hrecord _, hsound⟩
  | cancelResubmitReplacementOutstanding sinkMs =>
    obtain ⟨s', hrecord, hsound⟩ := h.recordRemoved hentry
      ⟨nowMs, submitCommandCost, restCallCost⟩ htime fun side => by cases side <;> exact le_rfl
    exact ⟨_, s', exec_bind_ok hrecord _, hsound⟩
  | cancelResubmitBothOutstanding proposedMs =>
    rw [exec_modify_bind]
    obtain ⟨s', hrecord, hsound, -⟩ := (h.splitCancel hentry htime).record .restCalls restCallCost
      (fun _ => 0) htime fun _ => (zero_add _).le
    exact ⟨_, s', exec_bind_ok hrecord _, hsound.sound⟩

/-- **A reservation goes out of scope without a panic.** -/
theorem Sound.drop : ∃ s', reservation.drop.exec s = (.ok (), s') ∧ s'.Sound := by
  obtain ⟨after, t, hsettle, hsound⟩ := h.settle htime
  unfold RequoteBudgetReservation.drop
  rw [exec_bind_ok hsettle]
  exact ⟨_, rfl, (hsound.remove after.generation).sound⟩

/-- **A reservation is committed without a panic**: what is left of it was outstanding since its
proposal or its sink invocation. -/
theorem Sound.commit : ∃ s', reservation.commit.exec s = (.ok (), s') ∧ s'.Sound := by
  obtain ⟨after, t, hsettle, hsound⟩ := h.settle htime
  obtain ⟨rfl, -⟩ := settle_effect hsettle
  have hcommitted : ∃ u, reservation.settleCommitted.exec s =
      (.ok { reservation with phase := .refundable }, u) ∧ u.Sound := by
    unfold settleCommitted
    rw [exec_bind_ok hsettle,
      exec_bind_ok (exec_removeOutstanding _ t)]
    rcases hentry : t.outstanding[reservation.generation]? with _ | liability
    · exact ⟨_, rfl, (hsound.remove reservation.generation).sound⟩
    · obtain ⟨u, hrecord, hafter⟩ := hsound.recordRemoved hentry liability.balance
        ((hsound 0).timed _ _ hentry) fun _ => le_rfl
      exact ⟨u, exec_bind_ok hrecord _, hafter⟩
  obtain ⟨u, hcommitted, hafter⟩ := hcommitted
  obtain ⟨s', hdrop, hdropped⟩ := hafter.drop (timelyPhase_refundable u reservation.generation)
  exact ⟨s', (exec_bind_ok hcommitted _).trans hdrop, hdropped⟩

/-- **A reservation is aborted without a panic.** -/
theorem Sound.abort : ∃ result s', reservation.abort.exec s = (.ok result, s') ∧ s'.Sound := by
  have haborted : ∃ result t, reservation.settleAborted.exec s =
      (.ok (result, { reservation with phase := .refundable }), t) ∧ t.Sound := by
    unfold settleAborted
    split_ifs with hphase
    · obtain ⟨after, t, hsettle, hsound⟩ := h.settle htime
      obtain ⟨rfl, -⟩ := settle_effect hsettle
      rw [exec_bind_ok hsettle]
      exact ⟨_, _, rfl, (hsound.remove reservation.generation).sound⟩
    · have hphase : reservation.phase = .refundable := not_not.mp hphase
      have hremoved := (h.remove reservation.generation).sound
      rw [← hphase, exec_bind_ok (exec_removeOutstanding _ s)]
      rcases s.outstanding[reservation.generation]? with _ | liability <;>
        exact ⟨_, _, rfl, hremoved⟩
  obtain ⟨result, t, haborted, hsound⟩ := haborted
  obtain ⟨s', hdrop, hdropped⟩ := hsound.drop (timelyPhase_refundable t reservation.generation)
  refine ⟨result, s', ?_, hdropped⟩
  unfold RequoteBudgetReservation.abort
  rw [exec_bind_ok haborted]
  exact exec_bind_ok hdrop _

end

end

end RequoteBudgetPairState

end BoltV3.Requote
