import Mathlib.Algebra.BigOperators.Group.List.Basic
import Mathlib.Algebra.GroupWithZero.Nat
import Mathlib.Algebra.Order.BigOperators.Group.List
import Mathlib.Algebra.Order.Group.Nat
import Mathlib.Data.List.DropRight
import Mathlib.Data.List.Induction
import Mathlib.Tactic.Common

/-!
# Sliding windows and commitments

A list of charges, each with its time and its cost, is bounded when no interval of a given length
has more than the cap. Costs that are committed and not charged yet have no time. A commitment says
only how early it may be charged, so it counts in every interval that ends no earlier (`Within`).

Commitments are given by the function `due`: what may be charged until a time.
-/

namespace BoltV3.Lib.SlidingWindow

open List

variable {length cap start time cost : Nat} {charges : List (Nat × Nat)}

/-! ## Costs of intervals -/

/-- The cost of the charges between `start` and `start + length`. -/
def spent (length : Nat) (charges : List (Nat × Nat)) (start : Nat) : Nat :=
  ((charges.filter fun charge => start ≤ charge.1 && charge.1 ≤ start + length).map Prod.snd).sum

/-- The cost of the charges from `start` on. -/
def since (charges : List (Nat × Nat)) (start : Nat) : Nat :=
  ((charges.filter fun charge => start ≤ charge.1).map Prod.snd).sum

theorem spent_append : spent length (charges ++ [(time, cost)]) start =
    spent length charges start + if start ≤ time ∧ time ≤ start + length then cost else 0 := by
  unfold spent
  rw [filter_append, map_append, sum_append]
  congr 1
  by_cases h : start ≤ time ∧ time ≤ start + length
  · simp [h]
  · simp [h]

theorem spent_le_since {earlier : Nat} (h : earlier ≤ start) :
    spent length charges start ≤ since charges earlier := by
  have hsublist : (charges.filter fun c => start ≤ c.1 && c.1 ≤ start + length).Sublist
      (charges.filter fun c => earlier ≤ c.1) := by
    refine monotone_filter_right charges fun c hc => ?_
    simp only [Bool.and_eq_true, decide_eq_true_eq] at hc ⊢
    exact h.trans hc.1
  exact (hsublist.map Prod.snd).sum_le_sum fun _ _ => Nat.zero_le _

theorem since_eq_spent (h : ∀ charge ∈ charges, charge.1 ≤ start + length) :
    since charges start = spent length charges start := by
  unfold since spent
  congr 2
  refine filter_congr fun charge hcharge => ?_
  simp [h charge hcharge]

/-- What is left of items in the order of their times when the early ones are dropped. -/
theorem dropWhile_eq_filter {α : Type*} (time : α → Nat) {items : List α}
    (h : items.Pairwise fun first second => time first ≤ time second) :
    items.dropWhile (fun item => time item < start) =
      items.filter fun item => start ≤ time item := by
  induction items with
  | nil => rfl
  | cons item rest ih =>
    obtain ⟨hfirst, hrest⟩ := pairwise_cons.mp h
    by_cases hearly : time item < start
    · rw [dropWhile_cons_of_pos (by simpa using hearly),
        filter_cons_of_neg (by simpa using hearly), ih hrest]
    · have hlate : start ≤ time item := not_lt.mp hearly
      rw [dropWhile_cons_of_neg (by simpa using hearly), filter_eq_self.mpr]
      refine forall_mem_cons.mpr ⟨by simpa using hlate, fun other hmem => ?_⟩
      simpa using hlate.trans (hfirst other hmem)

/-- The last items, and those from a time on, are taken in either order. -/
theorem rtake_filter {α : Type*} (time : α → Nat) (start count : Nat) {items : List α}
    (h : items.Pairwise fun first second => time first ≤ time second) :
    (items.filter fun item => start ≤ time item).rtake count =
      (items.rtake count).filter fun item => start ≤ time item := by
  induction items using reverseRecOn generalizing count with
  | nil => simp
  | append_singleton items item ih =>
    obtain ⟨hitems, -, hlast⟩ := pairwise_append.mp h
    cases count with
    | zero => simp
    | succ count =>
      by_cases hlate : start ≤ time item
      · simp [hlate, ih count hitems]
      · have hearly : ∀ other ∈ items, time other < start := fun other hother =>
          (hlast other hother item (by simp)).trans_lt (not_le.mp hlate)
        have hnone : items.filter (fun item => start ≤ time item) = [] := by simpa using hearly
        simp [hlate, hnone, ← ih count hitems]

theorem rtake_rtake_concat {α : Type*} (count : Nat) (items : List α) (item : α) :
    (items.rtake count ++ [item]).rtake count = (items ++ [item]).rtake count := by
  cases count with
  | zero => simp
  | succ count =>
    rw [rtake_concat_succ, rtake_concat_succ]
    simp only [rtake, drop_drop, length_drop]
    congr 2
    omega

/-- **One more item of a bounded window**: nothing is needed that an earlier window has dropped. -/
theorem rtake_dropWhile_concat {α : Type*} (time : α → Nat) {earlier start : Nat} (count : Nat)
    {items : List α} {item : α} (hstart : earlier ≤ start)
    (h : (items ++ [item]).Pairwise fun first second => time first ≤ time second) :
    ((((items.rtake count).filter fun item => earlier ≤ time item) ++ [item]).dropWhile
        fun item => time item < start).rtake count =
      ((items ++ [item]).rtake count).filter fun item => start ≤ time item := by
  have hrecent : (items.rtake count ++ [item]).Sublist (items ++ [item]) :=
    (drop_sublist _ items).append_right _
  have hboth : ((items.rtake count).filter fun item => earlier ≤ time item).filter
      (fun item => start ≤ time item) =
        (items.rtake count).filter fun item => start ≤ time item := by
    rw [filter_filter]
    refine filter_congr fun other _ => ?_
    by_cases hother : start ≤ time other
    · simp [hother, hstart.trans hother]
    · simp [hother]
  rw [dropWhile_eq_filter time
    (h.sublist (((filter_sublist).append_right _).trans hrecent)), filter_append, hboth,
    ← filter_append, rtake_filter time start count (h.sublist hrecent), rtake_rtake_concat]

/-- Charges before the interval do not count. -/
theorem since_append_of_lt {early : List (Nat × Nat)} (h : ∀ charge ∈ early, charge.1 < start) :
    since (early ++ charges) start = since charges start := by
  unfold since
  rw [filter_append, filter_eq_nil_iff.mpr, nil_append]
  intro charge hcharge
  simpa using h charge hcharge

/-! ## Charges and commitments -/

/-- Every interval has room for its charges and for what may still be charged in it. -/
def Within (length cap : Nat) (charges : List (Nat × Nat)) (due : Nat → Nat) : Prop :=
  ∀ start, spent length charges start + due (start + length) ≤ cap

variable {due due' : Nat → Nat}

section

variable (h : Within length cap charges due)

include h

/-- **No interval has more than the cap.** -/
theorem Within.spent_le (start : Nat) : spent length charges start ≤ cap :=
  (Nat.le_add_right _ _).trans (h start)

theorem Within.mono (hle : ∀ time, due' time ≤ due time) : Within length cap charges due' :=
  fun start => (Nat.add_le_add_left (hle _) _).trans (h start)

/-- **A commitment that may be charged from `time` on**, where no charge is later and it fits in
next to the charges since `time - length` and all other commitments. -/
theorem Within.commit {total : Nat}
    (htotal : ∀ time, due time ≤ total) (hfits : since charges (time - length) + total + cost ≤ cap)
    (hdue : ∀ t, due' t ≤ due t + if time ≤ t then cost else 0) :
    Within length cap charges due' := by
  intro start
  have hnew := hdue (start + length)
  have hall := htotal (start + length)
  split_ifs at hnew with hlater
  · have hrecent : spent length charges start ≤ since charges (time - length) :=
      spent_le_since (by omega)
    omega
  · have hbefore := h start
    omega

/-- **A committed cost is charged**, no earlier than it may be. -/
theorem Within.charge {earliest : Nat} (htime : earliest ≤ time)
    (hdue : ∀ t, (due' t + if earliest ≤ t then cost else 0) ≤ due t) :
    Within length cap (charges ++ [(time, cost)]) due' := by
  intro start
  have hbefore := h start
  have hcharged := hdue (start + length)
  rw [spent_append]
  split_ifs at hcharged ⊢ with hin hwindow hwindow
  · omega
  · omega
  · omega
  · omega

/-- The charges since the start of the interval that ends at a charge leave room for it. -/
theorem Within.since_add_le {earliest : Nat}
    (htime : earliest ≤ time) (hlast : ∀ charge ∈ charges, charge.1 ≤ time)
    (hcost : ∀ t, earliest ≤ t → cost ≤ due t) :
    since charges (time - length) + cost ≤ cap := by
  have hroom := h (time - length)
  have hdue := hcost (time - length + length) (by omega)
  have hend : time ≤ time - length + length := by omega
  rw [since_eq_spent fun charge hcharge => (hlast charge hcharge).trans hend]
  omega

end

end BoltV3.Lib.SlidingWindow
