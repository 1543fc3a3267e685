import BoltV3.Requote.Sound

/-!
# The ledger of the reservations

A reservation of one part stands as held, given back or charged. One of a cancel with its
replacement has two parts: the call of the cancel is charged at its sink, and from then on the
replacement is held, charged or given back by itself.

* `Standing` names these cases, and `StandsAs` what they say about the entry of the reservation and
  its charges. For the proposals that the pair makes they exclude each other (`StandsAs.unique`).
* `Books` is the ledger of all reservations, sound where the sink invocations are timely.
* A holder has at most one reservation. What it knows of it is `Free`, `Fresh`, `Prepaid`, `Invoked`
  or `PrepaidPending`, and each method of a reservation leads from one to another.
-/

namespace BoltV3.Requote

open Lib Action
open RequoteBudgetPairState (Effect TimelyPhase)

/-! ## Standings -/

/-- Where a reservation stands. The last two are of a cancel with its replacement, when the cancel
is charged. -/
inductive Standing
  | held | refunded | charged | replacementHeld | replacementRefunded

/-- What the cancel of a replaced order costs. -/
def cancelCost : Side → Nat := costOf .restCalls restCallCost

variable (liability : OutstandingLiability)

/-- The entry and the charges of a reservation that stands so. -/
def StandsAs (entry : Option OutstandingLiability)
    (charged : Side → Nat) : Standing → Prop
  | .held => entry = some liability ∧ ∀ side, charged side = 0
  | .refunded => entry = none ∧ ∀ side, charged side = 0
  | .charged => entry = none ∧ ∀ side, charged side = liability.balance.cost side
  | .replacementHeld =>
    (∃ proposedMs, liability = .cancelResubmitBothOutstanding proposedMs) ∧
      (∃ sinkMs, entry = some (.cancelResubmitReplacementOutstanding sinkMs)) ∧
      ∀ side, charged side = cancelCost side
  | .replacementRefunded =>
    (∃ proposedMs, liability = .cancelResubmitBothOutstanding proposedMs) ∧ entry = none ∧
      ∀ side, charged side = cancelCost side

/-- The liabilities of `propose_fresh_submit`, `propose_rest` and `propose_cancel_resubmit`. -/
def OutstandingLiability.Made : Prop :=
  ∃ nowMs, liability = .oneShot ⟨nowMs, submitCommandCost, restCallCost⟩ ∨
    liability = .oneShot ⟨nowMs, 0, restCallCost⟩ ∨
    liability = .cancelResubmitBothOutstanding nowMs

section

variable {liability} {entry : Option OutstandingLiability} {charged : Side → Nat}
  {standing : Standing}

/-- The REST calls that are charged of a reservation that stands so. -/
def Standing.restCalls (liability : OutstandingLiability) : Standing → Nat
  | .held | .refunded => 0
  | .charged => liability.balance.restCost
  | .replacementHeld | .replacementRefunded => restCallCost

def Standing.isHeld : Standing → Bool
  | .held | .replacementHeld => true
  | _ => false

section

variable (h : StandsAs liability entry charged standing)

include h

theorem StandsAs.restCalls : charged .restCalls = standing.restCalls liability := by
  cases standing with
  | replacementHeld => exact h.2.2 .restCalls
  | replacementRefunded => exact h.2.2 .restCalls
  | _ => exact h.2 .restCalls

theorem StandsAs.isHeld : entry.isSome = standing.isHeld := by
  cases standing with
  | replacementHeld =>
    obtain ⟨-, ⟨sinkMs, rfl⟩, -⟩ := h
    rfl
  | replacementRefunded => rw [h.2.1]; rfl
  | _ => rw [h.1]; rfl

theorem StandsAs.dropped :
    ∃ after, StandsAs liability none (fun side => charged side + 0) after := by
  cases standing with
  | held | refunded => exact ⟨.refunded, rfl, h.2⟩
  | charged => exact ⟨.charged, rfl, h.2⟩
  | replacementHeld | replacementRefunded => exact ⟨.replacementRefunded, h.1, rfl, h.2.2⟩

/-- A method that has nothing to do where nothing is outstanding, and charges a replacement. -/
theorem StandsAs.moved
    {f : Option OutstandingLiability → Option OutstandingLiability × (Side → Nat)}
    (hnone : f none = (none, fun _ => 0))
    (hreplacement : ∀ sinkMs, f (some (.cancelResubmitReplacementOutstanding sinkMs)) =
      (none, owed (some (.cancelResubmitReplacementOutstanding sinkMs))))
    (hheld : ∃ after, StandsAs liability (f (some liability)).1 (f (some liability)).2 after) :
    ∃ after,
      StandsAs liability (f entry).1 (fun side => charged side + (f entry).2 side) after := by
  cases standing with
  | held =>
    obtain ⟨rfl, hcharged⟩ := h
    simp only [hcharged, zero_add]
    exact hheld
  | refunded =>
    obtain ⟨rfl, hcharged⟩ := h
    rw [hnone]
    exact ⟨.refunded, rfl, hcharged⟩
  | charged =>
    obtain ⟨rfl, hcharged⟩ := h
    rw [hnone]
    exact ⟨.charged, rfl, hcharged⟩
  | replacementHeld =>
    obtain ⟨⟨proposedMs, rfl⟩, ⟨sinkMs, rfl⟩, hcharged⟩ := h
    rw [hreplacement]
    refine ⟨.charged, rfl, fun side => ?_⟩
    beta_reduce
    rw [hcharged]
    cases side <;> rfl
  | replacementRefunded =>
    obtain ⟨hboth, rfl, hcharged⟩ := h
    rw [hnone]
    exact ⟨.replacementRefunded, hboth, rfl, hcharged⟩

theorem StandsAs.committed :
    ∃ after, StandsAs liability none (fun side => charged side + owed entry side) after :=
  h.moved (f := fun entry => (none, owed entry)) rfl (fun _ => rfl) ⟨.charged, rfl, fun _ => rfl⟩

/-- What reached the sink is charged; of a cancel with its replacement, the cancel. -/
theorem StandsAs.settled (hmade : liability.Made) (nowMs : Nat) :
    ∃ after, StandsAs liability (RequoteBudgetReservation.settledEntry (.sinkInvoked nowMs) entry).1
      (fun side => charged side +
        (RequoteBudgetReservation.settledEntry (.sinkInvoked nowMs) entry).2 side) after := by
  refine h.moved rfl (fun _ => rfl) ?_
  obtain ⟨proposedMs, rfl | rfl | rfl⟩ := hmade
  · exact ⟨.charged, rfl, fun _ => rfl⟩
  · exact ⟨.charged, rfl, fun _ => rfl⟩
  · exact ⟨.replacementHeld, ⟨proposedMs, rfl⟩, ⟨nowMs, rfl⟩, fun _ => rfl⟩

end

/-- **The standings of a proposal exclude each other.** -/
theorem StandsAs.unique (hmade : liability.Made) {first second : Standing}
    (h : StandsAs liability entry charged first) (h' : StandsAs liability entry charged second) :
    first = second := by
  have hrest : first.restCalls liability = second.restCalls liability :=
    h.restCalls.symm.trans h'.restCalls
  have hheld : first.isHeld = second.isHeld := h.isHeld.symm.trans h'.isHeld
  obtain ⟨nowMs, rfl | rfl | rfl⟩ := hmade
  all_goals
    cases first <;> cases second <;>
      first
      | rfl
      | exact absurd hheld (by decide)
      | (obtain ⟨⟨_, ⟨⟩⟩, -⟩ := h; done)
      | (obtain ⟨⟨_, ⟨⟩⟩, -⟩ := h'; done)
      | exact absurd hrest (by simp [Standing.restCalls, OutstandingLiability.balance, restCallCost,
          cancelResubmitRestCost])

end

/-! ## The ledger -/

namespace RequoteBudgetPairState

variable {s s' : RequoteBudgetPairState} {generation : Nat}

/-- Where a reservation stands in the pair. -/
def Stands (s : RequoteBudgetPairState) (generation : Nat) (liability : OutstandingLiability)
    (standing : Standing) : Prop :=
  StandsAs liability s.outstanding[generation]? (s.charged generation) standing

/-- Every reservation stands somewhere, and nothing else is outstanding or charged. -/
structure Ledger (s : RequoteBudgetPairState) : Prop where
  made : ∀ (generation : Nat) (liability : _), s.history.reserved[generation]? = some liability →
    liability.Made
  stands : ∀ (generation : Nat) (liability : _), s.history.reserved[generation]? = some liability →
    ∃ standing, s.Stands generation liability standing
  known : ∀ generation : Nat, s.history.reserved[generation]? = none →
    s.outstanding[generation]? = none ∧ ∀ side, s.charged generation side = 0
  fresh : ∀ generation : Nat, s.nextReservationGeneration < generation →
    s.history.reserved[generation]? = none

theorem ledger_new (submit rest : RequoteBudget) : (new submit rest).Ledger where
  made := by simp [new]
  stands := by simp [new]
  known := by simp [new, charged]
  fresh := by simp [new]

variable {entry : Option OutstandingLiability} {cost : Side → Nat}

/-- A method that leaves the reservation standing somewhere keeps the ledger. -/
theorem Ledger.effect (h : s.Ledger) (heffect : Effect s s' generation entry cost)
    (hstands : ∀ liability standing, liability.Made → s.Stands generation liability standing →
      ∃ after, StandsAs liability entry (fun side => s.charged generation side + cost side) after)
    (hnone : s.outstanding[generation]? = none → entry = none ∧ ∀ side, cost side = 0) :
    s'.Ledger where
  made := by
    rw [heffect.reserved]
    exact h.made
  stands := by
    rw [heffect.reserved]
    intro other liability hliability
    obtain ⟨standing, hstanding⟩ := h.stands other liability hliability
    by_cases hsame : other = generation
    · subst hsame
      obtain ⟨after, hafter⟩ := hstands liability standing (h.made _ _ hliability) hstanding
      refine ⟨after, ?_⟩
      unfold Stands
      rw [heffect.entry, funext heffect.charged]
      exact hafter
    · refine ⟨standing, ?_⟩
      unfold Stands
      rw [heffect.entry_of_ne hsame, funext (heffect.uncharged other hsame)]
      exact hstanding
  known := by
    rw [heffect.reserved]
    intro other hother
    obtain ⟨hentry, hcharged⟩ := h.known other hother
    by_cases hsame : other = generation
    · subst hsame
      obtain ⟨rfl, hcost⟩ := hnone hentry
      refine ⟨heffect.entry, fun side => ?_⟩
      rw [heffect.charged, hcharged, hcost]
    · refine ⟨(heffect.entry_of_ne hsame).trans hentry, fun side => ?_⟩
      rw [heffect.uncharged other hsame, hcharged]
  fresh := by
    rw [heffect.reserved, heffect.next]
    exact h.fresh

/-- The reservations that may be outstanding. -/
def Only (s : RequoteBudgetPairState) (generations : List Nat) : Prop :=
  ∀ generation : Nat, s.outstanding[generation]? ≠ none → generation ∈ generations

theorem Only.effect {others : List Nat}
    (h : s.Only (generation :: others)) (heffect : Effect s s' generation entry cost)
    (hentry : entry = none) : s'.Only others := by
  intro other hother
  by_cases hsame : other = generation
  · subst hsame
    exact absurd (heffect.entry.trans hentry) hother
  · rw [heffect.entry_of_ne hsame] at hother
    exact List.mem_of_ne_of_mem hsame (h other hother)

theorem Only.effect_held
    {generations : List Nat} (h : s.Only generations) (heffect : Effect s s' generation entry cost)
    (hmem : generation ∈ generations) : s'.Only generations := by
  intro other hother
  by_cases hsame : other = generation
  · exact hsame ▸ hmem
  · rw [heffect.entry_of_ne hsame] at hother
    exact h other hother

end RequoteBudgetPairState

/-! ## Holders -/

variable (timely : Prop) (reservation : RequoteBudgetReservation) (s : RequoteBudgetPairState)

/-- The ledger, which is sound where the sink invocations are timely. -/
def Books : Prop := s.Ledger ∧ (timely → s.Sound)

/-- Nothing is held. -/
def Free : Prop := Books timely s ∧ s.Only []

/-- At most this reservation is held, and its sink was not invoked. -/
structure Refundable (timely : Prop) (reservation : RequoteBudgetReservation)
    (s : RequoteBudgetPairState) : Prop where
  phase : reservation.phase = .refundable
  books : Books timely s
  only : s.Only [reservation.generation]

/-- A reservation that was taken; `cancels` says that it is for the cancel of a replaced order. -/
def Fresh (timely cancels : Prop) (reservation : RequoteBudgetReservation)
    (s : RequoteBudgetPairState) : Prop :=
  Refundable timely reservation s ∧ ∃ liability,
    s.outstanding[reservation.generation]? = some liability ∧
      (cancels → ∃ proposedMs, liability = .cancelResubmitBothOutstanding proposedMs)

/-- The replacement of a canceled order. -/
def Prepaid : Prop :=
  Refundable timely reservation s ∧ ∃ sinkMs,
    s.outstanding[reservation.generation]? = some (.cancelResubmitReplacementOutstanding sinkMs)

/-- A reservation whose sink was invoked. -/
structure Invoked (timely : Prop) (reservation : RequoteBudgetReservation)
    (s : RequoteBudgetPairState) : Prop where
  phase : ∃ nowMs, reservation.phase = .sinkInvoked nowMs
  timed : timely → s.TimelyPhase reservation
  books : Books timely s
  only : s.Only [reservation.generation]
  entry : s.outstanding[reservation.generation]? ≠ none

/-- The sink of a cancel whose replacement is to follow. -/
def PrepaidPending : Prop :=
  Invoked timely reservation s ∧ ∃ proposedMs,
    s.outstanding[reservation.generation]? = some (.cancelResubmitBothOutstanding proposedMs)

section

variable {timely reservation s} {cancels : Prop} {after : RequoteBudgetReservation}
  {s' : RequoteBudgetPairState} {α : Type} {x : Act α}

/-- A method that does not panic on a sound pair keeps it sound, or the invocations are not timely.
-/
theorem endsIn_books {R : α → RequoteBudgetPairState → Prop}
    (hsound : timely → ∃ value final, x.exec s = (.ok value, final) ∧ final.Sound)
    (hvalue : ∀ value final, x.exec s = (.ok value, final) → (timely → final.Sound) →
      R value final) : EndsIn R (fun _ => ¬timely) (x.exec s) := by
  rcases hrun : x.exec s with ⟨panic | value, final⟩
  · intro htimely
    obtain ⟨value, final, hok, -⟩ := hsound htimely
    cases hrun.symm.trans hok
  · refine hvalue value final hrun fun htimely => ?_
    obtain ⟨value', final', hok, hfinal⟩ := hsound htimely
    cases hrun.symm.trans hok
    exact hfinal

theorem Refundable.timelyPhase (h : Refundable timely reservation s) :
    s.TimelyPhase reservation := by
  intro nowMs hphase
  rw [h.phase] at hphase
  cases hphase

namespace RequoteBudgetReservation

/-- **A reservation goes out of scope.** -/
theorem drop_yields : Yields (Refundable timely reservation) reservation.drop
    (fun _ => Free timely) fun _ => ¬timely := by
  intro s h
  refine endsIn_books (fun htimely => ⟨(), (h.books.2 htimely).drop h.timelyPhase⟩)
    fun _ final hrun hsound => ?_
  have heffect := drop_effect hrun
  rw [h.phase] at heffect
  exact ⟨⟨h.books.1.effect heffect (fun _ _ _ hstands => hstands.dropped)
    fun _ => ⟨rfl, fun _ => rfl⟩, hsound⟩, h.only.effect heffect rfl⟩

/-- **A reservation is committed.** -/
theorem commit_yields : Yields (Refundable timely reservation) reservation.commit
    (fun _ => Free timely) fun _ => ¬timely := by
  intro s h
  refine endsIn_books (fun htimely => ⟨(), (h.books.2 htimely).commit h.timelyPhase⟩)
    fun _ final hrun hsound => ?_
  have heffect := commit_effect hrun
  refine ⟨⟨h.books.1.effect heffect (fun _ _ _ hstands => hstands.committed) fun hnone => ?_,
    hsound⟩, h.only.effect heffect rfl⟩
  rw [hnone]
  exact ⟨rfl, fun _ => rfl⟩

/-- **A reservation is aborted before its sink.** -/
theorem abort_yields : Yields (Fresh timely cancels reservation) reservation.abort
    (fun result s => result = .ok () ∧ Free timely s) fun _ => ¬timely := by
  rintro s ⟨h, liability, hentry, -⟩
  refine endsIn_books (fun htimely => (h.books.2 htimely).abort h.timelyPhase)
    fun result final hrun hsound => ?_
  obtain ⟨heffect, hresult⟩ := abort_effect h.phase hrun
  refine ⟨hresult (by rw [hentry]; exact Option.some_ne_none _), ⟨?_, hsound⟩,
    h.only.effect heffect rfl⟩
  exact h.books.1.effect heffect (fun _ _ _ hstands => hstands.dropped) fun _ => ⟨rfl, fun _ => rfl⟩

/-- **The sink invocation of a reservation is settled.** -/
theorem settle_yields : Yields (Invoked timely reservation) reservation.settlePreparedSinkInvocation
    (Refundable timely) fun _ => ¬timely := by
  intro s h
  refine endsIn_books (fun htimely => (h.books.2 htimely).settle (h.timed htimely))
    fun after final hrun hsound => ?_
  obtain ⟨nowMs, hphase⟩ := h.phase
  obtain ⟨rfl, heffect⟩ := settle_effect hrun
  rw [hphase] at heffect
  refine ⟨rfl, ⟨h.books.1.effect heffect (fun _ _ hmade hstands => hstands.settled hmade nowMs)
    fun hnone => absurd hnone h.entry, hsound⟩, h.only.effect_held heffect
      (List.mem_singleton_self _)⟩

/-- **The cancel of a replaced order is settled**, and its replacement is prepaid. -/
theorem settle_prepaid : Yields (PrepaidPending timely reservation)
    reservation.settlePreparedSinkInvocation (Prepaid timely) fun _ => ¬timely := by
  rintro s ⟨h, proposedMs, hentry⟩
  have hend := settle_yields s h
  rcases hrun : reservation.settlePreparedSinkInvocation.exec s with ⟨panic | after, final⟩ <;>
    rw [hrun] at hend
  · exact hend
  · obtain ⟨nowMs, hphase⟩ := h.phase
    obtain ⟨rfl, heffect⟩ := settle_effect hrun
    refine ⟨hend, nowMs, ?_⟩
    rw [heffect.entry, hphase, hentry]
    rfl

theorem invoked_of_refundable (h : Refundable timely reservation s)
    (hentry : s.outstanding[reservation.generation]? ≠ none) {nowMs : Nat}
    (htimely : timely → s.proposedAt reservation.generation ≤ nowMs) :
    Invoked timely (reservation.prepareSinkInvokedAt nowMs) s := by
  have hprepared : reservation.prepareSinkInvokedAt nowMs =
      { reservation with phase := .sinkInvoked nowMs } := by
    unfold prepareSinkInvokedAt
    rw [if_pos h.phase]
  rw [hprepared]
  refine ⟨⟨nowMs, rfl⟩, ?_, h.books, h.only, hentry⟩
  rintro ht _ ⟨⟩
  exact htimely ht

end RequoteBudgetReservation

end

/-! ## Reservations -/

namespace RequoteBudgetPairState

variable {s liability}

theorem reserved_outstanding (s : RequoteBudgetPairState) (liability : OutstandingLiability)
    (other : Nat) : (s.reserved liability).outstanding[other]? =
      if s.nextReservationGeneration + 1 = other then some liability
      else s.outstanding[other]? :=
  SortedMap.getElem?_insert _ _ _ _

theorem Ledger.reserved (h : s.Ledger) (hmade : liability.Made) :
    (s.reserved liability).Ledger := by
  have hreserved : ∀ other : Nat, (s.reserved liability).history.reserved[other]? =
      if s.nextReservationGeneration + 1 = other then some liability
      else s.history.reserved[other]? := fun other => SortedMap.getElem?_insert _ _ other _
  have hnew := h.fresh _ (Nat.lt_succ_self s.nextReservationGeneration)
  have hcharged : (s.reserved liability).charged = s.charged := rfl
  exact
    { made := by
        intro other value hvalue
        rw [hreserved] at hvalue
        split_ifs at hvalue
        · cases hvalue
          exact hmade
        · exact h.made other value hvalue
      stands := by
        intro other value hvalue
        unfold Stands
        rw [hreserved] at hvalue
        rw [reserved_outstanding, hcharged]
        split_ifs at hvalue ⊢ with hsame
        · cases hvalue
          subst hsame
          exact ⟨.held, rfl, (h.known _ hnew).2⟩
        · exact h.stands other value hvalue
      known := by
        intro other hother
        rw [hreserved] at hother
        rw [reserved_outstanding, hcharged]
        split_ifs at hother ⊢
        exact h.known other hother
      fresh := by
        intro other hother
        have hother : s.nextReservationGeneration + 1 < other := hother
        rw [hreserved, if_neg (by omega)]
        exact h.fresh other (by omega) }

theorem Only.reserved {generations : List Nat} (h : s.Only generations) :
    (s.reserved liability).Only ((s.nextReservationGeneration + 1) :: generations) := by
  intro other hother
  rw [reserved_outstanding] at hother
  split_ifs at hother with hsame
  · exact List.mem_cons.mpr (.inl hsame.symm)
  · exact List.mem_cons_of_mem _ (h other hother)

theorem Ledger.ne_next (h : s.Ledger) {generation : Nat}
    (hentry : s.outstanding[generation]? ≠ none) :
    s.nextReservationGeneration + 1 ≠ generation := by
  rintro rfl
  exact hentry (h.known _ (h.fresh _ (Nat.lt_succ_self _))).1

end RequoteBudgetPairState

section

variable {timely s} {cancels : Prop} {proposal : RequoteBudgetReservationProposal}
  {s' : RequoteBudgetPairState} {old new : RequoteBudgetReservation}

theorem reserve_cases {result : Except RequoteBudgetReservationDenied RequoteBudgetReservation}
    (h : (reserve proposal).exec s = (.ok result, s')) :
    (∃ denied, result = .error denied ∧ s' = s) ∨
      (result = .ok ⟨s.nextReservationGeneration + 1, .refundable⟩ ∧
        s' = s.reserved proposal.liability) := by
  unfold reserve at h
  rw [Action.exec_get_bind] at h
  dsimp only at h
  split at h
  · cases h
  · cases h
    exact .inl ⟨_, rfl, rfl⟩
  · split at h
    · cases h
      exact .inl ⟨_, rfl, rfl⟩
    · rename_i generation hgeneration
      obtain ⟨-, rfl⟩ := checkedAdd_eq_some.mp hgeneration
      cases h
      exact .inr ⟨rfl, rfl⟩

/-- A reservation that is taken while another one is held. -/
structure Replacing (timely cancels : Prop) (old new : RequoteBudgetReservation)
    (s : RequoteBudgetPairState) : Prop where
  oldPhase : old.phase = .refundable
  newPhase : new.phase = .refundable
  books : Books timely s
  only : s.Only [old.generation, new.generation]
  other : new.generation ≠ old.generation
  entry : ∃ liability, s.outstanding[new.generation]? = some liability ∧
    (cancels → ∃ proposedMs, liability = .cancelResubmitBothOutstanding proposedMs)

/-- A reservation that is granted, or denied with everything as it was. -/
def Granted (denied : RequoteBudgetPairState → Prop)
    (granted : RequoteBudgetReservation → RequoteBudgetPairState → Prop) :
    Except RequoteBudgetReservationDenied RequoteBudgetReservation → RequoteBudgetPairState → Prop
  | .ok reservation => granted reservation
  | .error _ => denied

theorem reserve_sound (h : s.Sound) : ∃ result final,
    (reserve proposal).exec s = (.ok result, final) ∧ final.Sound := by
  rcases h.reserve proposal with ⟨denied, hexec⟩ | ⟨hexec, hreserved⟩
  · exact ⟨_, s, hexec, h⟩
  · exact ⟨_, _, hexec, hreserved⟩

section

variable (hmade : proposal.liability.Made)
  (hcancels : cancels →
    ∃ proposedMs, proposal.liability = .cancelResubmitBothOutstanding proposedMs)

include hmade hcancels

/-- **A reservation is taken.** -/
theorem reserve_yields :
    Yields (Free timely) (reserve proposal) (Granted (Free timely) (Fresh timely cancels))
      fun _ => ¬timely := by
  rintro s ⟨hbooks, honly⟩
  refine endsIn_books (fun htimely => reserve_sound (hbooks.2 htimely))
    fun result final hrun hsound => ?_
  rcases reserve_cases hrun with ⟨denied, rfl, rfl⟩ | ⟨rfl, rfl⟩
  · exact ⟨hbooks, honly⟩
  · refine ⟨⟨rfl, ⟨hbooks.1.reserved hmade, hsound⟩, honly.reserved⟩,
      proposal.liability, ?_, hcancels⟩
    rw [RequoteBudgetPairState.reserved_outstanding, if_pos rfl]

/-- **A reservation is taken while a replacement is prepaid.** -/
theorem reserve_over_prepaid :
    Yields (Prepaid timely old) (reserve proposal)
      (Granted (Prepaid timely old) (Replacing timely cancels old)) fun _ => ¬timely := by
  rintro s ⟨hold, sinkMs, hentry⟩
  refine endsIn_books (fun htimely => reserve_sound (hold.books.2 htimely))
    fun result final hrun hsound => ?_
  rcases reserve_cases hrun with ⟨denied, rfl, rfl⟩ | ⟨rfl, rfl⟩
  · exact ⟨hold, sinkMs, hentry⟩
  · have hnext := hold.books.1.ne_next (by rw [hentry]; exact Option.some_ne_none _)
    have honly : (s.reserved proposal.liability).Only
        [old.generation, s.nextReservationGeneration + 1] := by
      intro other hother
      have hmem := hold.only.reserved other hother
      simp only [List.mem_cons, List.not_mem_nil, or_false] at hmem ⊢
      exact hmem.symm
    refine ⟨hold.phase, rfl, ⟨hold.books.1.reserved hmade, hsound⟩, honly, hnext,
      proposal.liability, ?_, hcancels⟩
    rw [RequoteBudgetPairState.reserved_outstanding, if_pos rfl]

end

/-- **The prepaid reservation that was replaced goes out of scope.** -/
theorem drop_replaced : Yields (Replacing timely cancels old new) old.drop
    (fun _ => Fresh timely cancels new) fun _ => ¬timely := by
  intro s h
  have htimed : s.TimelyPhase old := by
    intro nowMs hphase
    rw [h.oldPhase] at hphase
    cases hphase
  refine endsIn_books (fun htimely => ⟨(), (h.books.2 htimely).drop htimed⟩)
    fun _ final hrun hsound => ?_
  have heffect := RequoteBudgetReservation.drop_effect hrun
  rw [h.oldPhase] at heffect
  have hledger := h.books.1.effect heffect (fun _ _ _ hstands => hstands.dropped)
    fun _ => ⟨rfl, fun _ => rfl⟩
  obtain ⟨liability, hentry, hcancels⟩ := h.entry
  exact ⟨⟨h.newPhase, ⟨hledger, hsound⟩, h.only.effect heffect rfl⟩, liability,
    (heffect.entry_of_ne h.other).trans hentry, hcancels⟩

end

end BoltV3.Requote
