import BoltV3.Exit.Authority
import Mathlib.Data.List.Basic

/-!
# Runs of an exit authority

An exit authority on its feed, next to other leases that come and go. A system carries the proof
that the feed counts its live leases, so the entry of the authority's own lease stays while the
authority lives, and with it the generation of its reports.
-/

namespace BoltV3.Exit

open Lib List

/-- The authority, the feed, and the other leases. -/
structure ExitSystem where
  feed : PositionAuthorityFeedState
  others : List BoltV3PositionAuthorityKey
  authority : BoltV3ExitOrderAuthorityState
  counted : ∀ key, feed.leaseCount key = (authority.lease :: others).count key

inductive ExitOp
  | observeOrder (order : Order) (eventNs : Nat) (correction : BoltV3ExitOrderCorrection)
  | report (report : PositionStatusReport)
  | acquire (key : BoltV3PositionAuthorityKey)
  | dropLease (key : BoltV3PositionAuthorityKey)

/-- An observation leaves everything but the fills and the progress. -/
theorem observeOrder_keeps (feed : PositionAuthorityFeedState) (order : Order) (eventNs : Nat)
    (correction : BoltV3ExitOrderCorrection) (state : BoltV3ExitOrderAuthorityState) :
    ((observeOrder feed order eventNs correction).exec state).2.lease = state.lease ∧
      ((observeOrder feed order eventNs correction).exec state).2.baseline = state.baseline := by
  rcases observeOrder_exec feed order eventNs correction state with
    ⟨error, hexec⟩ | ⟨progress, reduction, -, hexec⟩
  · rw [hexec]
    exact ⟨rfl, rfl⟩
  · rw [hexec]
    exact ⟨rfl, rfl⟩

namespace ExitSystem

/-- What `observe_order` returns. -/
def observation (s : ExitSystem) (order : Order) (eventNs : Nat)
    (correction : BoltV3ExitOrderCorrection) :
    Except ExitAuthorityError BoltV3ExitOrderLifecycleReduction :=
  ((observeOrder s.feed order eventNs correction).exec s.authority).1

/-- The other leases after a lease was acquired or refused. -/
def othersAfter (s : ExitSystem) (key : BoltV3PositionAuthorityKey) :
    List BoltV3PositionAuthorityKey :=
  match (s.feed.acquire key).1 with
  | .ok lease => lease :: s.others
  | .error _ => s.others

variable (s : ExitSystem)

theorem counted_acquire (key other : BoltV3PositionAuthorityKey) :
    (s.feed.acquire key).2.leaseCount other =
      (s.authority.lease :: s.othersAfter key).count other := by
  unfold othersAfter
  rcases s.feed.acquire_entry key with ⟨error, herror, hentry⟩ | ⟨hok, hentry⟩
  · rw [herror, (hentry other).1, s.counted]
  · rw [hok, (hentry other).1, s.counted]
    rw [count_cons, count_cons, count_cons]
    by_cases hsame : other = key
    · subst hsame
      simp
      omega
    · simp [hsame, Ne.symm hsame]

theorem counted_dropLease {key : BoltV3PositionAuthorityKey} (h : key ∈ s.others)
    (other : BoltV3PositionAuthorityKey) : (s.feed.dropLease key).leaseCount other =
      (s.authority.lease :: s.others.erase key).count other := by
  have hpositive : 0 < s.others.count key := count_pos_iff.mpr h
  have hlive : 0 < s.feed.leaseCount key := by
    rw [s.counted, count_cons]
    omega
  rw [PositionAuthorityFeedState.dropLease_count hlive, s.counted, count_cons,
    count_cons]
  by_cases hsame : other = key
  · subst hsame
    rw [if_pos rfl, count_erase_self]
    omega
  · rw [if_neg hsame, count_erase_of_ne hsame]
    rfl

def step (s : ExitSystem) : ExitOp → ExitSystem
  | .observeOrder order eventNs correction =>
    { s with
      authority := ((observeOrder s.feed order eventNs correction).exec s.authority).2
      counted := fun key => by rw [(observeOrder_keeps _ _ _ _ _).1, s.counted] }
  | .report report =>
    { s with
      feed := (s.feed.observe report).2
      counted := fun key => by
        rw [PositionAuthorityFeedState.observe_count, s.counted] }
  | .acquire key =>
    { s with
      feed := (s.feed.acquire key).2, others := s.othersAfter key
      counted := s.counted_acquire key }
  | .dropLease key =>
    if h : key ∈ s.others then
      { s with
        feed := s.feed.dropLease key, others := s.others.erase key
        counted := s.counted_dropLease h }
    else s

def run (s : ExitSystem) (ops : List ExitOp) : ExitSystem := ops.foldl step s

variable {s} {op : ExitOp} {ops before after : List ExitOp}

theorem run_append (before after : List ExitOp) :
    s.run (before ++ after) = (s.run before).run after :=
  foldl_append

theorem run_concat (ops : List ExitOp) (op : ExitOp) :
    s.run (ops ++ [op]) = (s.run ops).step op := by
  rw [run_append]
  rfl

/-- An observation is refused and leaves the authority, or is one of its cases; no other step
touches the authority. -/
theorem step_authority (op : ExitOp) :
    ((s.step op).authority = s.authority ∧ ∀ order eventNs correction,
        op = .observeOrder order eventNs correction →
        ∃ error, s.observation order eventNs correction = .error error) ∨
      ∃ order eventNs correction progress reduction,
        op = .observeOrder order eventNs correction ∧
        s.observation order eventNs correction = .ok reduction ∧
        Observes s.feed s.authority order eventNs correction progress reduction ∧
        (s.step op).authority = s.authority.observed order progress := by
  cases op with
  | observeOrder order eventNs correction =>
    have hstep : (s.step (.observeOrder order eventNs correction)).authority =
      ((observeOrder s.feed order eventNs correction).exec s.authority).2 := rfl
    have hresult : s.observation order eventNs correction =
      ((observeOrder s.feed order eventNs correction).exec s.authority).1 := rfl
    rcases observeOrder_exec s.feed order eventNs correction s.authority with
      ⟨error, hexec⟩ | ⟨progress, reduction, hobserves, hexec⟩
    · rw [hexec] at hstep hresult
      refine .inl ⟨hstep, ?_⟩
      rintro _ _ _ ⟨⟩
      exact ⟨error, hresult⟩
    · rw [hexec] at hstep hresult
      exact .inr ⟨order, eventNs, correction, progress, reduction, rfl, hresult, hobserves, hstep⟩
  | report report | acquire key =>
    refine .inl ⟨rfl, ?_⟩
    nofun
  | dropLease key =>
    refine .inl ⟨?_, ?_⟩
    · unfold step
      dsimp only
      split_ifs <;> rfl
    · nofun

/-! ## What is reported of the lease -/

/-- What was reported of the position of the authority. -/
def reported (s : ExitSystem) : BoltV3PositionAuthorityLeaseState :=
  s.feed.authority s.authority.lease

theorem reported_observe (order : Order) (eventNs : Nat) (correction : BoltV3ExitOrderCorrection) :
    (s.step (.observeOrder order eventNs correction)).reported = s.reported := by
  change s.feed.authority ((observeOrder s.feed order eventNs correction).exec s.authority).2.lease
    = s.feed.authority s.authority.lease
  rw [(observeOrder_keeps _ _ _ _ _).1]

theorem reported_eq_of_entry {entry : PositionAuthorityKeyState}
    (hentry : s.feed.keys s.authority.lease = some entry) : s.reported = entry.authority := by
  unfold reported PositionAuthorityFeedState.authority
  rw [hentry]
  rfl

/-- A report that is accepted, with the next generation. -/
def Accepts (s : ExitSystem) (report : PositionStatusReport) : Prop :=
  s.reported.isConflicted = false ∧
    (s.step (.report report)).reported =
      .coherent (report.snapshot (s.reported.generation + 1))

/-- **A step leaves what was reported**, or is a report that is accepted or in conflict. -/
theorem step_reported (op : ExitOp) :
    (s.step op).reported = s.reported ∨ (s.step op).reported.isConflicted = true ∨
      ∃ report, op = .report report ∧ s.Accepts report := by
  cases op with
  | observeOrder order eventNs correction => exact .inl (s.reported_observe _ _ _)
  | report report =>
    rcases s.feed.observe_authority report s.authority.lease with heq | ⟨entry, hentry, heq⟩
    · exact .inl heq
    · have hbefore := reported_eq_of_entry hentry
      rcases entry.observe_cases report with hsame | hconflict | ⟨hagreed, haccepted⟩
      · exact .inl (heq.trans (hsame.trans hbefore.symm))
      · right
        left
        have hafter : (s.step (.report report)).reported = (entry.observe report).authority := heq
        rw [hafter]
        exact hconflict
      · refine .inr (.inr ⟨report, rfl, ?_, ?_⟩)
        · rw [hbefore]
          exact hagreed
        · rw [hbefore]
          exact heq.trans haccepted
  | acquire key =>
    rcases s.feed.acquire_entry key with ⟨_, -, hentry⟩ | ⟨-, hentry⟩ <;> exact .inl (hentry _).2
  | dropLease key =>
    left
    unfold step
    dsimp only
    split_ifs with h
    · refine PositionAuthorityFeedState.dropLease_authority ?_
      by_cases hsame : s.authority.lease = key
      · right
        have hpositive : 0 < s.others.count key := count_pos_iff.mpr h
        rw [s.counted, hsame, count_cons_self]
        omega
      · exact .inl hsame
    · rfl

theorem step_generation (h : (s.step op).reported.isConflicted = false) :
    s.reported.isConflicted = false ∧ s.reported.generation ≤ (s.step op).reported.generation := by
  rcases s.step_reported op with heq | hconflict | ⟨report, rfl, hagreed, haccepted⟩
  · rw [heq] at h ⊢
    exact ⟨h, le_refl _⟩
  · rw [h] at hconflict
    cases hconflict
  · rw [haccepted]
    exact ⟨hagreed, Nat.le_succ _⟩

/-- **Generations do not go back.** -/
theorem run_generation (h : (s.run ops).reported.isConflicted = false) :
    s.reported.isConflicted = false ∧ s.reported.generation ≤ (s.run ops).reported.generation := by
  induction ops generalizing s with
  | nil => exact ⟨h, le_refl _⟩
  | cons op ops ih =>
    have hrest := ih (s := s.step op) h
    obtain ⟨hagreed, hle⟩ := step_generation hrest.1
    exact ⟨hagreed, hle.trans hrest.2⟩

/-- **A generation that is new was accepted in the run.** -/
theorem run_accepts {snapshot : BoltV3PositionAuthoritySnapshot}
    (h : (s.run ops).reported = .coherent snapshot)
    (hnew : s.reported.generation < snapshot.generation) :
    ∃ before report after, ops = before ++ .report report :: after ∧
      (s.run before).Accepts report ∧
      snapshot = report.snapshot ((s.run before).reported.generation + 1) := by
  induction ops using reverseRecOn with
  | nil =>
    have hsame : s.reported = .coherent snapshot := h
    rw [hsame] at hnew
    exact absurd hnew (lt_irrefl _)
  | append_singleton ops op ih =>
    rw [run_concat] at h
    rcases (s.run ops).step_reported op with heq | hconflict | ⟨report, rfl, haccepts⟩
    · rw [heq] at h
      obtain ⟨before, report, after, rfl, haccepts, hsnapshot⟩ := ih h
      refine ⟨before, report, after ++ [op], ?_, haccepts, hsnapshot⟩
      simp
    · rw [h] at hconflict
      cases hconflict
    · have hsnapshot := haccepts.2
      rw [h] at hsnapshot
      cases hsnapshot
      exact ⟨ops, report, [], rfl, haccepts, rfl⟩

end ExitSystem

end BoltV3.Exit
