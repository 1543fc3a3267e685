import BoltV3.KillSwitch.Tracks
import BoltV3.Guarantees.LossRecovery
import Mathlib.Algebra.BigOperators.Group.Finset.Basic
import Mathlib.Algebra.BigOperators.Ring.Finset

/-!
# The daily total over the lifecycles of positions

NautilusTrader reuses the id of a position: it goes through lifecycles, each of which reports its
realized profit or loss from zero, and ends with a close. What was realized in a day is the latest
report of every lifecycle of that day.

The code does not see where a lifecycle starts. A lifecycle whose first report is its close is taken
for a correction of the close before.
-/

namespace BoltV3.KillSwitch

open Lib Cumulative List
open PositionRealizedPnlObservation (reading)

/-! ## What was realized -/

variable (observations : List PositionRealizedPnlObservation)

/-- The readings of a position. -/
def readings (positionId : String) : List (Reading ℚ Nat) :=
  (observations.filter (·.positionId = positionId)).map reading

/-- The latest report of every lifecycle of every position. -/
def realized : ℚ :=
  ∑ positionId ∈ (observations.map (·.positionId)).toFinset,
    total (readings observations positionId)

/-- The total after an observation, and what it adds to the total before, are of a kind. -/
def Adds (fits : ℚ → Prop) (observation : PositionRealizedPnlObservation) : Prop :=
  fits (realized (observations ++ [observation])) ∧
    fits (realized (observations ++ [observation]) - realized observations)

variable {observations} {observation : PositionRealizedPnlObservation}

theorem readings_append_self : readings (observations ++ [observation]) observation.positionId =
    readings observations observation.positionId ++ [observation.reading] := by
  simp [readings]

theorem readings_append_of_ne {positionId : String} (h : observation.positionId ≠ positionId) :
    readings (observations ++ [observation]) positionId = readings observations positionId := by
  simp [readings, h]

/-- A position without an observation has realized nothing. -/
theorem total_readings_of_notMem {positionId : String}
    (h : positionId ∉ (observations.map (·.positionId)).toFinset) :
    total (readings observations positionId) = 0 := by
  have hnil : readings observations positionId = [] := by
    simp only [readings, map_eq_nil_iff, filter_eq_nil_iff, decide_eq_true_eq]
    intro observation hmem heq
    exact h (mem_toFinset.mpr (mem_map.mpr ⟨observation, hmem, heq⟩))
  rw [hnil]
  rfl

/-- An observation changes what was realized by its own position only. -/
theorem realized_append {new : ℚ}
    (h : total (readings observations observation.positionId ++ [observation.reading]) =
      total (readings observations observation.positionId) + new) :
    realized (observations ++ [observation]) = realized observations + new := by
  classical
  set positions := (observations.map (·.positionId)).toFinset with hpositions
  have hinsert : ((observations ++ [observation]).map (·.positionId)).toFinset =
      insert observation.positionId positions := by
    ext positionId
    simp [hpositions]
  have hother : ∀ positionId ∈ (insert observation.positionId positions).erase
      observation.positionId, total (readings (observations ++ [observation]) positionId) =
        total (readings observations positionId) := by
    intro positionId hmem
    rw [readings_append_of_ne (Finset.ne_of_mem_erase hmem).symm]
  have hold : realized observations =
      ∑ positionId ∈ insert observation.positionId positions,
        total (readings observations positionId) := by
    by_cases hmem : observation.positionId ∈ positions
    · rw [Finset.insert_eq_of_mem hmem]
      rfl
    · rw [Finset.sum_insert hmem, total_readings_of_notMem hmem, zero_add]
      rfl
  rw [hold]
  unfold realized
  rw [hinsert, ← Finset.add_sum_erase _ _ (Finset.mem_insert_self _ _),
    ← Finset.add_sum_erase _ _ (Finset.mem_insert_self _ _), readings_append_self, h,
    Finset.sum_congr rfl hother]
  abel

/-! ## One observation -/

/-- The loss state has added up the observations of the day. -/
structure Accounts (loss : LossState) (day : Nat)
    (observations : List PositionRealizedPnlObservation) : Prop where
  bucket : loss.dailyBucket = some day
  daily : loss.dailyRealizedPnl.value = realized observations
  follows : ∀ positionId, (loss.track positionId).Follows (readings observations positionId)

/-- No observation of the day was made, and no position is open. -/
structure BeforeDay (loss : LossState) (day : Nat) : Prop where
  bucket : ∀ bucket, loss.dailyBucket = some bucket → bucket < day
  flat : ∀ positionId : String, loss.cumulativePositionPnl[positionId]? = none

variable {loss after : LossState} {day : Nat}

/-- A loss state without positions in its bucket has added up nothing. -/
theorem Accounts.of_empty (hbucket : loss.dailyBucket = some day)
    (hdaily : loss.dailyRealizedPnl = .zero)
    (hopen : ∀ positionId : String, loss.cumulativePositionPnl[positionId]? = none)
    (hclosed : ∀ positionId : String, loss.closedPositionPnl[positionId]? = none) :
    Accounts loss day [] where
  bucket := hbucket
  daily := by
    rw [hdaily, Decimal.value_zero]
    rfl
  follows := by
    intro positionId
    unfold LossState.track
    rw [hopen, hclosed]
    rfl

/-- The first observation of a day finds nothing of it. -/
theorem BeforeDay.accept (h : BeforeDay loss day) (hcoherent : loss.Coherent) {time : Nat}
    (htime : time / nanosPerUtcDay = day) :
    ∃ accepted, loss.acceptObservationBucket time = some accepted ∧ Accounts accepted day [] := by
  unfold LossState.acceptObservationBucket
  rw [htime]
  rcases hbucket : loss.dailyBucket with _ | bucket
  · -- without a bucket there are no entries
    refine ⟨_, rfl, .of_empty rfl rfl h.flat fun positionId => ?_⟩
    rcases hclosed : loss.closedPositionPnl[positionId]? with _ | entry
    · rfl
    · obtain ⟨current, hcurrent, -⟩ := hcoherent.dates entry (.inr (.inl ⟨_, hclosed⟩))
      cases hbucket.symm.trans hcurrent
  · have hlt := h.bucket bucket hbucket
    dsimp only
    rw [if_pos hlt]
    refine ⟨_, rfl, .of_empty rfl rfl h.flat fun positionId => ?_⟩
    -- the closed positions are of earlier days and were pruned
    rcases hclosed : (LossState.prune _ day).closedPositionPnl[positionId]? with _ | entry
    · rfl
    · obtain ⟨hclosed, hkept⟩ := LossState.getElem?_filter_prune hclosed
      obtain ⟨current, hcurrent, hdated⟩ := hcoherent.dates entry (.inr (.inl ⟨_, hclosed⟩))
      cases hbucket.symm.trans hcurrent
      omega

theorem Accounts.accept (h : Accounts loss day observations) {time : Nat}
    (htime : time / nanosPerUtcDay = day) : loss.acceptObservationBucket time = some loss := by
  unfold LossState.acceptObservationBucket
  rw [h.bucket, htime]
  simp

section

variable [arith : DecimalArith]

/-- **An observation is added up.** -/
theorem Accounts.book {fits : ℚ → Prop} (exact : arith.ExactOn fits)
    (h : Accounts loss day observations)
    (hdisjoint : loss.Disjoint) (hcumulative : observation.cumulativeRealizedPnl = true)
    (hlater : ∀ earlier ∈ observations,
      earlier.observed.observedAtUnixNanos ≤ observation.observed.observedAtUnixNanos)
    (hdistinct : Distinct (readings observations observation.positionId) observation.reading)
    (happlied : (loss.book observation).applied loss = some after)
    (hfits : Adds observations fits observation) :
    Accounts after day (observations ++ [observation]) := by
  have htimes : ∀ last, (readings observations observation.positionId).getLast? = some last →
      last.time ≤ observation.reading.time := by
    intro last hlast
    obtain ⟨earlier, hmem, rfl⟩ := mem_map.mp (mem_of_getLast? hlast)
    exact hlater earlier (mem_filter.mp hmem).1
  obtain ⟨hfollows, htotal⟩ := Track.step_total (h.follows observation.positionId) htimes hdistinct
  have hrealized := realized_append htotal
  obtain ⟨hself, hother, hdaily⟩ := LossState.book_track exact hdisjoint hcumulative happlied
    (by rw [← sub_eq_of_eq_add' hrealized]; exact hfits.2)
    (by rw [h.daily, ← hrealized]; exact hfits.1)
  exact
    { bucket := (LossState.book_bucket happlied).1.trans h.bucket
      daily := by
        rw [hdaily, h.daily, hrealized]
      follows := by
        intro positionId
        by_cases hsame : observation.positionId = positionId
        · subst hsame
          rw [hself, readings_append_self]
          exact hfollows
        · rw [hother positionId hsame, readings_append_of_ne hsame]
          exact h.follows positionId }

/-- The loss state before or within the day. -/
def Ledger (loss : LossState) (day : Nat)
    (observations : List PositionRealizedPnlObservation) : Prop :=
  observations = [] ∧ BeforeDay loss day ∨ Accounts loss day observations

/-- **An observation of the day is added up.** -/
theorem Ledger.observe {fits : ℚ → Prop} (exact : arith.ExactOn fits)
    (h : Ledger loss day observations)
    (hcoherent : loss.Coherent) (hcumulative : observation.cumulativeRealizedPnl = true)
    (hday : observation.observed.observedAtUnixNanos / nanosPerUtcDay = day)
    (hlater : ∀ earlier ∈ observations,
      earlier.observed.observedAtUnixNanos ≤ observation.observed.observedAtUnixNanos)
    (hdistinct : Distinct (readings observations observation.positionId) observation.reading)
    (hobserve : loss.observe observation = some after)
    (hfits : Adds observations fits observation) :
    Accounts after day (observations ++ [observation]) := by
  obtain ⟨accepted, haccept, haccounts⟩ : ∃ accepted, loss.acceptObservationBucket
      observation.observed.observedAtUnixNanos = some accepted ∧
        Accounts accepted day observations := by
    rcases h with ⟨rfl, hbefore⟩ | haccounts
    · exact hbefore.accept hcoherent hday
    · exact ⟨loss, haccounts.accept hday, haccounts⟩
  unfold LossState.observe at hobserve
  rw [haccept] at hobserve
  obtain ⟨prepared, hsettle, happlied⟩ := Option.bind_eq_some_iff.mp hobserve
  have hdisjoint := ((hcoherent.accept haccept).settle hsettle).disjoint
  -- the currency is not part of the account
  have hprepared : Accounts prepared day observations := by
    rcases LossState.settle_cases hsettle with ⟨-, rfl⟩ | ⟨-, rfl⟩
    · exact ⟨haccounts.bucket, haccounts.daily, haccounts.follows⟩
    · exact haccounts
  exact hprepared.book exact hdisjoint hcumulative hlater hdistinct happlied hfits

end

/-! ## Days -/

section

variable [arith : DecimalArith] [HaltIds] [codec : StateCodec]

/-- An observation with the outcomes of its effects. -/
abbrev Delivery := PositionRealizedPnlObservation × Io

/-- The operations that deliver observations. -/
def deliver (deliveries : List Delivery) : List Op :=
  deliveries.map fun delivery => .recordPositionRealizedPnl delivery.1 delivery.2

/-- The object of a system whose switch is armed. -/
def System.ArmedWith (s : System) (protection : KillSwitchLossProtection) : Prop :=
  s.protection = some protection ∧ protection.state = .armed

variable {setup : Setup} {s : System} {delivery : Delivery} {deliveries : List Delivery}

/-- What a delivery leaves of an armed switch that stays armed. -/
theorem deliver_stays {before after : KillSwitchLossProtection}
    (hbefore : s.ArmedWith before) (hcoherent : before.loss.Coherent)
    (hobserves : before.observes delivery.1 = true)
    (hafter : (s.run setup (deliver [delivery])).ArmedWith after) :
    ∃ loss, before.loss.observe delivery.1 = some loss ∧ after = { before with loss := loss } := by
  have hrun : (Session.call ⟨before, s.disk, delivery.2⟩
      (recordPositionRealizedPnl delivery.1)).2.protection = some after := by
    rw [← hafter.1]
    exact congrArg System.protection (System.step_position hbefore.1 delivery.1 delivery.2).symm
  obtain ⟨hpanic, rfl⟩ := Session.call_protection hrun
  obtain ⟨loss, hobserve, hkept, -⟩ :=
    recordPosition_stays hcoherent hbefore.2 hobserves rfl hpanic hafter.2
  exact ⟨loss, hobserve, hkept⟩

/-- Cumulative observations of one day, in the order of their times. -/
structure OneDay (protection : KillSwitchLossProtection) (day : Nat) (deliveries : List Delivery) :
    Prop where
  observed : ∀ delivery ∈ deliveries, protection.observes delivery.1 = true
  cumulative : ∀ delivery ∈ deliveries, delivery.1.cumulativeRealizedPnl = true
  sameDay : ∀ delivery ∈ deliveries,
    delivery.1.observed.observedAtUnixNanos / nanosPerUtcDay = day
  ordered : deliveries.Pairwise fun first second =>
    first.1.observed.observedAtUnixNanos ≤ second.1.observed.observedAtUnixNanos

/-- The switch is armed before and after every delivery. -/
def StaysArmed (setup : Setup) (s : System) (deliveries : List Delivery) : Prop :=
  ∀ before after, deliveries = before ++ after →
    ∃ protection, (s.run setup (deliver before)).ArmedWith protection

/-- No lifecycle starts like a correction or a repetition of the close before: with a close, or with
the time and the value of the close. -/
def StartsApart (deliveries : List Delivery) : Prop :=
  ∀ before delivery after, deliveries = before ++ delivery :: after →
    Distinct (readings (before.map Prod.fst) delivery.1.positionId) delivery.1.reading

/-- After every delivery the total, and what the delivery adds, are decimals of the format. -/
def StaysRepresentable (deliveries : List Delivery) : Prop :=
  ∀ before delivery after, deliveries = before ++ delivery :: after →
    Adds (before.map Prod.fst) Representable delivery.1

variable {protection : KillSwitchLossProtection}

omit arith [HaltIds] codec in
theorem OneDay.init {day : Nat}
    (h : OneDay protection day (deliveries ++ [delivery])) : OneDay protection day deliveries where
  observed d hd := h.observed d (mem_append_left _ hd)
  cumulative d hd := h.cumulative d (mem_append_left _ hd)
  sameDay d hd := h.sameDay d (mem_append_left _ hd)
  ordered := (pairwise_append.mp h.ordered).1

theorem StaysArmed.init (h : StaysArmed setup s (deliveries ++ [delivery])) :
    StaysArmed setup s deliveries := by
  rintro before after rfl
  exact h before (after ++ [delivery]) (append_assoc _ _ _)

omit arith [HaltIds] codec in
theorem StartsApart.init (h : StartsApart (deliveries ++ [delivery])) : StartsApart deliveries := by
  rintro before first after rfl
  exact h before first (after ++ [delivery]) (by simp)

omit arith [HaltIds] codec in
theorem StaysRepresentable.init (h : StaysRepresentable (deliveries ++ [delivery])) :
    StaysRepresentable deliveries := by
  rintro before first after rfl
  exact h before first (after ++ [delivery]) (by simp)

/-- **After every delivery of the day the loss state has added up what was delivered.** -/
theorem deliver_ledger (documented : arith.Documented) (hs : s.protection = some protection)
    (hcoherent : protection.loss.Coherent) {day : Nat} (hbefore : BeforeDay protection.loss day)
    (hday : OneDay protection day deliveries)
    (harmed : StaysArmed setup s deliveries) (hapart : StartsApart deliveries)
    (hfits : StaysRepresentable deliveries) :
    ∃ loss, (s.run setup (deliver deliveries)).protection = some { protection with loss := loss } ∧
      loss.Coherent ∧ Ledger loss day (deliveries.map Prod.fst) := by
  induction deliveries using reverseRecOn with
  | nil => exact ⟨protection.loss, hs, hcoherent, .inl ⟨rfl, hbefore⟩⟩
  | append_singleton deliveries delivery ih =>
    obtain ⟨loss, hloss, hcoherent', hledger⟩ := ih hday.init harmed.init hapart.init hfits.init
    obtain ⟨before, hbefore'⟩ := harmed deliveries [delivery] rfl
    obtain ⟨after, hafter⟩ := harmed (deliveries ++ [delivery]) [] (append_nil _).symm
    obtain rfl : before = { protection with loss := loss } :=
      Option.some.inj (hbefore'.1.symm.trans hloss)
    have hmem : delivery ∈ deliveries ++ [delivery] := mem_append_right _ mem_cons_self
    have hsplit : deliver (deliveries ++ [delivery]) = deliver deliveries ++ deliver [delivery] :=
      map_append
    rw [hsplit, System.run_append] at hafter ⊢
    obtain ⟨loss', hobserve, rfl⟩ :=
      deliver_stays hbefore' hcoherent' (hday.observed delivery hmem) hafter
    have hlater : ∀ earlier ∈ deliveries.map Prod.fst,
        earlier.observed.observedAtUnixNanos ≤ delivery.1.observed.observedAtUnixNanos := by
      intro earlier hearlier
      obtain ⟨d, hd, rfl⟩ := mem_map.mp hearlier
      exact (pairwise_append.mp hday.ordered).2.2 d hd delivery mem_cons_self
    have haccounts := hledger.observe documented hcoherent' (hday.cumulative delivery hmem)
      (hday.sameDay delivery hmem) hlater (hapart deliveries delivery [] rfl) hobserve
      (hfits deliveries delivery [] rfl)
    refine ⟨loss', hafter.1, hcoherent'.observe hobserve, .inr ?_⟩
    rw [map_append]
    exact haccounts

/-- **The daily total is what the lifecycles of the day have realized**, where none of them starts
like a correction or a repetition of the close before and no sum of the day is rounded. -/
theorem lifecycles_add_up (documented : arith.Documented) (setup : Setup) (s : System)
    (protection : KillSwitchLossProtection) (hs : s.protection = some protection)
    (hcoherent : protection.loss.Coherent) (day : Nat) (hbefore : BeforeDay protection.loss day)
    (deliveries : List Delivery) (hne : deliveries ≠ []) (hday : OneDay protection day deliveries)
    (harmed : StaysArmed setup s deliveries) (hapart : StartsApart deliveries)
    (hfits : StaysRepresentable deliveries) :
    ∃ after, (s.run setup (deliver deliveries)).protection = some after ∧
      after.loss.dailyBucket = some day ∧
      after.loss.dailyRealizedPnl.value = realized (deliveries.map Prod.fst) := by
  obtain ⟨loss, hloss, -, hledger⟩ :=
    deliver_ledger documented hs hcoherent hbefore hday harmed hapart hfits
  have haccounts : Accounts loss day (deliveries.map Prod.fst) := by
    rcases hledger with ⟨hnil, -⟩ | haccounts
    · exact absurd (map_eq_nil_iff.mp hnil) hne
    · exact haccounts
  exact ⟨_, hloss, haccounts.bucket, haccounts.daily⟩

end

namespace LimitOf100

attribute [local instance] Decimal.reference HaltIds.reference StateCodec.reference

/-- The armed system. -/
def armed : System := (System.start armedFile).run setup [.restart 1 succeeds]

/-- The observation of a closed position. -/
def closing (time : Nat) (amount : Int) : PositionRealizedPnlObservation :=
  { accountId := "A", instrumentId := "YES", positionId := "P", eventId := none
    observed := ⟨"nt_position_closed", time, ⟨-amount, 0⟩, "USDC"⟩, cumulativeRealizedPnl := true
    closesPosition := true }

/-- Two lifecycles of a position that only close, each with a loss of 10: the daily total has one of
the losses, and the switch is armed. -/
theorem second_close_not_counted : (∃ after, (armed.run setup
        (deliver [(closing 1 10, succeeds), (closing 2 10, succeeds)])).ArmedWith after ∧
      after.loss.dailyBucket = some 0 ∧ after.loss.dailyRealizedPnl = ⟨-10, 0⟩) ∧
    realized [closing 1 10, closing 2 10] = -20 := by
  constructor
  · exact ⟨_, ⟨rfl, by decide⟩, by decide, by decide⟩
  · simp [realized, readings, closing, total, lifecycles, latest,
      reading, Decimal.value]
    norm_num

/-- The observation of the position while it is open. -/
def changing (time : Nat) (amount : Int) : PositionRealizedPnlObservation :=
  { closing time amount with
    observed := ⟨"nt_position_changed", time, ⟨-amount, 0⟩, "USDC"⟩, closesPosition := false }

/-- A close with a loss of 10, and a reopened position with a loss of 4. -/
def reopened : List Delivery := [(closing 1 10, succeeds), (changing 2 4, succeeds)]

/-- A reopened position adds to the loss of its lifecycle before. -/
theorem reopened_position_adds_up :
    ∃ after, (armed.run setup (deliver reopened)).protection = some after ∧
      after.loss.dailyBucket = some 0 ∧
      after.loss.dailyRealizedPnl.value = realized (reopened.map Prod.fst) := by
  obtain ⟨protection, hprotection, hloss⟩ : ∃ protection, armed.protection = some protection ∧
      protection.loss = .initial ∧ ∀ delivery ∈ reopened, protection.observes delivery.1 = true :=
    ⟨_, rfl, by decide, by decide⟩
  have hday : OneDay protection 0 reopened :=
    { observed := hloss.2
      cumulative := by decide
      sameDay := by decide
      ordered := by decide }
  have harmed : StaysArmed setup armed reopened := by
    intro before after hsplit
    have hinits : before ∈ reopened.inits := (mem_inits _ _).mpr ⟨after, hsplit.symm⟩
    simp only [reopened, inits, map_cons, map_nil, mem_cons, not_mem_nil,
      or_false] at hinits
    rcases hinits with rfl | rfl | rfl <;> exact ⟨_, rfl, by decide⟩
  have hsplits : ∀ before delivery after, reopened = before ++ delivery :: after →
      before = [] ∧ delivery.1 = closing 1 10 ∨
        before.map Prod.fst = [closing 1 10] ∧ delivery.1 = changing 2 4 := by
    intro before delivery after hsplit
    rcases before with _ | ⟨first, before⟩
    · cases hsplit
      exact .inl ⟨rfl, rfl⟩
    obtain ⟨rfl, hrest⟩ := cons.inj hsplit
    rcases before with _ | ⟨second, before⟩
    · cases hrest
      exact .inr ⟨rfl, rfl⟩
    · obtain ⟨-, hnil⟩ := cons.inj hrest
      cases (append_eq_nil_iff.mp hnil.symm).2
  have hapart : StartsApart reopened := by
    intro before delivery after hsplit last hlast _ _
    rcases hsplits before delivery after hsplit with ⟨rfl, -⟩ | ⟨hbefore, hdelivery⟩
    · cases hlast
    · rw [hbefore, hdelivery] at hlast
      cases hlast
      rw [hdelivery]
      exact ⟨rfl, by simp [changing, closing, reading]⟩
  have hfits : StaysRepresentable reopened := by
    intro before delivery after hsplit
    rcases hsplits before delivery after hsplit with ⟨rfl, hdelivery⟩ | ⟨hbefore, hdelivery⟩
    · rw [hdelivery]
      exact ⟨⟨⟨-10, 0⟩, by decide, by decide, by decide +kernel⟩,
        ⟨-10, 0⟩, by decide, by decide, by decide +kernel⟩
    · rw [hbefore, hdelivery]
      exact ⟨⟨⟨-14, 0⟩, by decide, by decide, by decide +kernel⟩,
        ⟨-4, 0⟩, by decide, by decide, by decide +kernel⟩
  exact lifecycles_add_up Decimal.reference_exact setup armed protection hprotection
    (hloss.1 ▸ LossState.initial_coherent) 0
    (hloss.1 ▸ ⟨by rintro _ ⟨⟩, fun _ => by simp [LossState.initial]⟩) reopened (by simp [reopened])
    hday harmed hapart hfits

end LimitOf100

end BoltV3.KillSwitch
