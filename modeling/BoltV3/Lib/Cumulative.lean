import Mathlib.Algebra.Group.Basic
import Mathlib.Algebra.BigOperators.Group.List.Basic
import Mathlib.Order.Lattice
import Mathlib.Tactic.Abel

/-!
# Cumulative readings

A meter goes through lifecycles and reports its running total, from zero in each of them; a closing
reading ends a lifecycle. What it has measured is the sum of the latest reading of every lifecycle.

A `Track` adds up what is new of each reading. It keeps the last reading and whether that one
closed, and is not told where a lifecycle starts. A closing reading after a close it takes for a
correction of that close, and the close again for a repetition.
-/

namespace BoltV3.Lib.Cumulative

open List

variable {V T : Type}

/-- A reading of the running total. -/
structure Reading (V T : Type) where
  value : V
  time : T
  closing : Bool

/-! ## Lifecycles -/

/-- The lifecycles of a list of readings. -/
def lifecycles : List (Reading V T) → List (List (Reading V T))
  | [] => []
  | r :: rest =>
    if r.closing then [r] :: lifecycles rest
    else
      match lifecycles rest with
      | [] => [[r]]
      | first :: others => (r :: first) :: others

section

variable [AddCommGroup V] (readings : List (Reading V T))

/-- The latest value of a lifecycle. -/
def latest : V := (readings.getLast?.map Reading.value).getD 0

/-- What has been measured: the latest value of every lifecycle. -/
def total : V := ((lifecycles readings).map latest).sum

/-- What has been measured in the lifecycle that is not closed. -/
def ongoing : V :=
  match readings.getLast? with
  | none => 0
  | some r => if r.closing then 0 else r.value

omit [AddCommGroup V] in
/-- The first lifecycle of some readings has a reading. -/
theorem lifecycles_cons (r : Reading V T) (rest : List (Reading V T)) :
    ∃ a first others, lifecycles (r :: rest) = (a :: first) :: others := by
  unfold lifecycles
  split_ifs
  · exact ⟨r, [], _, rfl⟩
  · split
    · exact ⟨r, [], [], rfl⟩
    · exact ⟨r, _, _, rfl⟩

/-- A reading that is not the last one counts if it closes. -/
theorem total_cons_cons (r a : Reading V T) (rest : List (Reading V T)) :
    total (r :: a :: rest) = (if r.closing then r.value else 0) + total (a :: rest) := by
  obtain ⟨b, first, others, hlifecycles⟩ := lifecycles_cons a rest
  unfold total
  rw [lifecycles]
  split_ifs
  · rfl
  · rw [hlifecycles, map_cons, sum_cons, map_cons, sum_cons, zero_add]
    unfold latest
    rw [getLast?_cons_cons]

theorem total_singleton (r : Reading V T) : total [r] = r.value := by
  unfold total lifecycles
  split_ifs <;> simp [lifecycles, latest]

/-- **A reading replaces what has been measured in its lifecycle.** -/
theorem total_append (r : Reading V T) :
    total (readings ++ [r]) = total readings - ongoing readings + r.value := by
  induction readings with
  | nil =>
    rw [nil_append, total_singleton]
    simp [total, lifecycles, ongoing]
  | cons a rest ih =>
    cases rest with
    | nil =>
      rw [cons_append, nil_append, total_cons_cons, total_singleton, total_singleton]
      unfold ongoing
      simp only [getLast?_singleton]
      split_ifs <;> simp
    | cons b rest =>
      rw [cons_append, cons_append, total_cons_cons, ← cons_append, ih,
        total_cons_cons]
      unfold ongoing
      rw [getLast?_cons_cons]
      abel

end

/-! ## Tracks -/

/-- The last reading that was taken, and whether it closed. -/
inductive Track (V T : Type)
  | unseen
  | live (value : V) (time : T)
  | closed (value : V) (time : T)

variable [AddCommGroup V] [DecidableEq V] [LinearOrder T]

/-- The reading is older than the one before, or the same. -/
def Reading.repeats (r : Reading V T) (value : V) (time : T) : Prop :=
  r.time < time ∨ r.time = time ∧ r.value = value

instance (r : Reading V T) (value : V) (time : T) : Decidable (r.repeats value time) := by
  unfold Reading.repeats
  infer_instance

/-- What is new of a reading, and the track after it, unless it is ignored. -/
def Track.take (track : Track V T) (r : Reading V T) : Option (Track V T × V) :=
  match track with
  | .unseen => some (if r.closing then .closed r.value r.time else .live r.value r.time, r.value)
  | .live value time =>
    if r.closing then
      if r.time < time then none else some (.closed r.value r.time, r.value - value)
    else
      if r.repeats value time then none else some (.live r.value r.time, r.value - value)
  | .closed value time =>
    if r.closing then
      if r.time < time ∨ r.value = value then none
      else some (.closed r.value r.time, r.value - value)
    else
      if r.repeats value time then none else some (.live r.value r.time, r.value)

/-- The track after a reading, and what it adds. -/
def Track.step (track : Track V T) (r : Reading V T) : Track V T × V :=
  (track.take r).getD (track, 0)

section

variable {track : Track V T} {r later : Reading V T}

theorem Track.take_eq_some {after : Track V T} {new : V} (h : track.take r = some (after, new)) :
    after = if r.closing then .closed r.value r.time else .live r.value r.time := by
  unfold Track.take at h
  cases track with
  | unseen =>
    obtain ⟨rfl, -⟩ := Prod.mk.inj (Option.some.inj h)
    rfl
  | live value time | closed value time =>
    dsimp only at h
    by_cases hclosing : r.closing = true
    · rw [if_pos hclosing] at h ⊢
      split_ifs at h
      exact (Prod.mk.inj (Option.some.inj h)).1.symm
    · rw [if_neg hclosing] at h ⊢
      split_ifs at h
      exact (Prod.mk.inj (Option.some.inj h)).1.symm

theorem Track.step_cases (track : Track V T) (r : Reading V T) :
    track.take r = none ∧ (track.step r).1 = track ∨
      (track.step r).1 = if r.closing then .closed r.value r.time else .live r.value r.time := by
  unfold Track.step
  rcases htake : track.take r with _ | ⟨after, new⟩
  · exact .inl ⟨rfl, rfl⟩
  · exact .inr (Track.take_eq_some htake)

/-- **A reading is ignored the second time.** -/
theorem Track.take_step_self (track : Track V T) (r : Reading V T) :
    (track.step r).1.take r = none := by
  rcases track.step_cases r with ⟨hnone, hsame⟩ | htaken
  · rw [hsame, hnone]
  · rw [htaken]
    unfold Track.take
    by_cases hclosing : r.closing = true
    · simp [hclosing]
    · simp [hclosing, Reading.repeats]

/-- **A reading that is ignored stays so after a later one.** -/
theorem Track.take_step_of_lt (h : track.take r = none) (hlater : r.time < later.time) :
    (track.step later).1.take r = none := by
  rcases track.step_cases later with ⟨-, hsame⟩ | htaken
  · rw [hsame, h]
  · rw [htaken]
    unfold Track.take
    by_cases hclosing : later.closing = true
    · simp [hclosing, Reading.repeats, hlater]
    · simp [hclosing, Reading.repeats, hlater]

end

/-- The reading does not start a lifecycle like a correction or a repetition of the close before. -/
def Distinct (readings : List (Reading V T)) (r : Reading V T) : Prop :=
  ∀ last, readings.getLast? = some last → last.closing = true → last.value ≠ 0 →
    r.closing = false ∧ ¬ (r.time = last.time ∧ r.value = last.value)

/-- The track has added up the readings. -/
def Track.Follows (track : Track V T) (readings : List (Reading V T)) : Prop :=
  match track with
  | .unseen => readings = []
  | .live value time => ∃ last, readings.getLast? = some last ∧ last.closing = false ∧
      last.value = value ∧ last.time = time
  | .closed value time => ∃ last, readings.getLast? = some last ∧ time ≤ last.time ∧
      last.value = value ∧
      (last.closing = true ∧ (value ≠ 0 → last.time = time) ∨ last.closing = false ∧ value = 0)

section

variable {readings : List (Reading V T)} {r : Reading V T} {value : V} {time : T}

section

omit [DecidableEq V]

theorem Track.Follows.ongoing_live (h : (Track.live value time).Follows readings) :
    ongoing readings = value := by
  obtain ⟨last, hlast, hopen, rfl, -⟩ := h
  simp [ongoing, hlast, hopen]

theorem Track.Follows.ongoing_closed (h : (Track.closed value time).Follows readings) :
    ongoing readings = 0 := by
  obtain ⟨last, hlast, -, rfl, ⟨hclosing, -⟩ | ⟨hopen, hzero⟩⟩ := h
  · simp [ongoing, hlast, hclosing]
  · simp [ongoing, hlast, hopen, hzero]

theorem Track.follows_taken (readings : List (Reading V T)) (r : Reading V T) :
    (if r.closing then Track.closed r.value r.time else .live r.value r.time).Follows
      (readings ++ [r]) := by
  split_ifs with hclosing
  · exact ⟨r, getLast?_concat, le_rfl, rfl, .inl ⟨hclosing, fun _ => rfl⟩⟩
  · exact ⟨r, getLast?_concat, Bool.eq_false_iff.mpr hclosing, rfl, rfl⟩

end

theorem Track.step_live (h : (Track.live value time).Follows readings)
    (hlater : ∀ last, readings.getLast? = some last → last.time ≤ r.time) :
    ((Track.live value time).step r).1.Follows (readings ++ [r]) ∧
      total (readings ++ [r]) = total readings + ((Track.live value time).step r).2 := by
  have htotal : total (readings ++ [r]) = total readings + (r.value - value) := by
    rw [total_append, h.ongoing_live]
    abel
  have htaken := Track.follows_taken readings r
  obtain ⟨last, hlast, -, rfl, rfl⟩ := h
  have htime := hlater last hlast
  unfold Track.step Track.take
  by_cases hclosing : r.closing = true
  · simp only [if_pos hclosing, if_neg (not_lt.mpr htime)] at htaken ⊢
    exact ⟨htaken, htotal⟩
  · simp only [if_neg hclosing] at htaken ⊢
    split_ifs with hrepeats
    · -- the reading is the last one again
      obtain ⟨hsame, hvalue⟩ := hrepeats.resolve_left (not_lt.mpr htime)
      rw [hvalue, hsame] at htaken
      rw [hvalue, sub_self] at htotal
      exact ⟨htaken, htotal⟩
    · exact ⟨htaken, htotal⟩

theorem Track.step_closed (h : (Track.closed value time).Follows readings)
    (hlater : ∀ last, readings.getLast? = some last → last.time ≤ r.time)
    (hdistinct : Distinct readings r) :
    ((Track.closed value time).step r).1.Follows (readings ++ [r]) ∧
      total (readings ++ [r]) = total readings + ((Track.closed value time).step r).2 := by
  have htotal : total (readings ++ [r]) = total readings + r.value := by
    rw [total_append, h.ongoing_closed, sub_zero]
  have htaken := Track.follows_taken readings r
  obtain ⟨last, hlast, htime, rfl, hcase⟩ := h
  have htime := htime.trans (hlater last hlast)
  have hzero : r.closing = true ∨ r.time = time ∧ r.value = last.value → last.value = 0 := by
    intro hstarts
    rcases hcase with ⟨hclosing, hsame⟩ | ⟨-, hzero⟩
    · by_contra hne
      obtain ⟨hopen, hnew⟩ := hdistinct last hlast hclosing hne
      rw [hsame hne] at hnew
      exact hstarts.elim (fun h => by rw [hopen] at h; cases h) hnew
    · exact hzero
  unfold Track.step Track.take
  by_cases hclosing : r.closing = true
  · simp only [if_pos hclosing] at htaken ⊢
    have hzero := hzero (.inl hclosing)
    split_ifs with hignored
    · have hvalue := hignored.resolve_left (not_lt.mpr htime)
      refine ⟨⟨r, getLast?_concat, htime, hvalue, .inl ⟨hclosing, absurd hzero⟩⟩, ?_⟩
      rw [htotal, hvalue, hzero]
      rfl
    · refine ⟨htaken, ?_⟩
      simp only [Option.getD_some, hzero, sub_zero]
      exact htotal
  · simp only [if_neg hclosing] at htaken ⊢
    split_ifs with hrepeats
    · obtain ⟨hsame, hvalue⟩ := hrepeats.resolve_left (not_lt.mpr htime)
      have hzero := hzero (.inr ⟨hsame, hvalue⟩)
      refine ⟨⟨r, getLast?_concat, htime, hvalue,
        .inr ⟨Bool.eq_false_iff.mpr hclosing, hzero⟩⟩, ?_⟩
      rw [htotal, hvalue, hzero]
      rfl
    · exact ⟨htaken, htotal⟩

/-- **The track adds up the sum**, where no lifecycle starts like a correction or a repetition of
the close before. -/
theorem Track.step_total {track : Track V T} (h : track.Follows readings)
    (hlater : ∀ last, readings.getLast? = some last → last.time ≤ r.time)
    (hdistinct : Distinct readings r) :
    (track.step r).1.Follows (readings ++ [r]) ∧
      total (readings ++ [r]) = total readings + (track.step r).2 := by
  cases track with
  | unseen =>
    obtain rfl : readings = [] := h
    refine ⟨Track.follows_taken [] r, ?_⟩
    rw [nil_append, total_singleton]
    exact (zero_add _).symm
  | live value time => exact Track.step_live h hlater
  | closed value time => exact Track.step_closed h hlater hdistinct

end

end BoltV3.Lib.Cumulative
