import BoltV3.Exit.System

/-!
# Releases of an exit authority

An exit authority lets the next exit go when its order is terminal and the canonical position is
known to have the fills. Either the position has every trade of the order, or a report of the venue
was accepted after the last news of the order and agrees with the position.

* `ObservedAt` and `Changes` speak about the observations of a run: an observation brings news when
  it changes the fills or the trades, or is an event (of a fill, a terminal order or a correction)
  that is later than all events before it.
* `FenceTracks` relates the fence to the run; its floor is no lower than the generation of the
  reports at any news.
-/

namespace BoltV3.Exit

open Lib List
open BoltV3PositionReductionFence

namespace ExitSystem

/-! ## Observations of a run -/

/-- An observation that was accepted after `before`. -/
structure ObservedAt (s : ExitSystem) (ops before after : List ExitOp) (order : Order)
    (eventNs : Nat) (correction : BoltV3ExitOrderCorrection) : Prop where
  split : ops = before ++ .observeOrder order eventNs correction :: after
  accepted : ∃ reduction, (s.run before).observation order eventNs correction = .ok reduction

variable (s : ExitSystem)

/-- The observation of a fill, of a terminal order or of a correction. -/
def IsEvent (order : Order) (correction : BoltV3ExitOrderCorrection) : Prop :=
  orderAuthorityChanged s.authority order = true ∨ order.isClosed = true ∨
    correction = .fillAuthorityChanged

/-- The events before are all earlier. -/
def Later (before : List ExitOp) (eventNs : Nat) : Prop :=
  ∀ first rest order earlierNs correction,
    s.ObservedAt before first rest order earlierNs correction →
    (s.run first).IsEvent order correction → earlierNs < eventNs

/-- The authority has a fence after a run. -/
def Fenced (ops : List ExitOp) : Prop := (s.run ops).authority.progress.fence ≠ none

/-- An observation changes the fills, the trades or the event time. -/
def Changes (before : List ExitOp) (order : Order) (eventNs : Nat)
    (correction : BoltV3ExitOrderCorrection) : Prop :=
  orderAuthorityChanged (s.run before).authority order = true ∨
    ((s.run before).IsEvent order correction ∧ s.Later before eventNs)

variable {s} {op : ExitOp} {ops before after : List ExitOp} {order : Order} {eventNs : Nat}
  {correction : BoltV3ExitOrderCorrection}

theorem ObservedAt.concat (h : s.ObservedAt ops before after order eventNs correction)
    (op : ExitOp) : s.ObservedAt (ops ++ [op]) before (after ++ [op]) order eventNs correction :=
  ⟨by rw [h.split]; simp, h.accepted⟩

/-- An observation of a longer run is one of the shorter run, or the last step. -/
theorem ObservedAt.of_concat
    (h : s.ObservedAt (ops ++ [op]) before after order eventNs correction) :
    (∃ rest, s.ObservedAt ops before rest order eventNs correction) ∨
      (before = ops ∧ op = .observeOrder order eventNs correction) := by
  rcases eq_nil_or_concat after with rfl | ⟨rest, last, rfl⟩
  · obtain ⟨hbefore, hop⟩ := append_inj' h.split rfl
    cases hop
    exact .inr ⟨hbefore.symm, rfl⟩
  · have hsplit := h.split
    rw [concat_eq_append, ← cons_append, ← append_assoc] at hsplit
    obtain ⟨hops, -⟩ := append_inj' hsplit rfl
    exact .inl ⟨rest, hops, h.accepted⟩

theorem run_generation_of_split (hops : ops = before ++ after)
    (h : (s.run ops).reported.isConflicted = false) :
    (s.run before).reported.isConflicted = false ∧
      (s.run before).reported.generation ≤ (s.run ops).reported.generation := by
  rw [hops, run_append] at h ⊢
  exact run_generation h

/-! ## Fences and runs -/

/-- The fence of a run. -/
structure FenceTracks (s : ExitSystem) (ops : List ExitOp) (fence : BoltV3PositionReductionFence) :
    Prop where
  filled : fence.effectiveFilledQuantity.value =
    (s.run ops).authority.latestEffectiveFilledQuantity.value
  tradeIds : fence.requiredTradeIds = (s.run ops).authority.latestFillIds
  baseline : (s.run ops).authority.baseline = ⟨fence.baselineSignedQuantity, fence.baselineSide⟩
  event : ∃ before after order correction,
    s.ObservedAt ops before after order fence.latestTerminalOrCorrectionNs correction ∧
      (s.run before).IsEvent order correction
  start : (s.run ops).reported.isConflicted = false →
    s.reported.generation ≤ fence.proofFloorGeneration
  news : ∀ before after order eventNs correction,
    s.ObservedAt ops before after order eventNs correction →
    ((s.run before).IsEvent order correction →
      s.Fenced (before ++ [.observeOrder order eventNs correction]) →
      eventNs ≤ fence.latestTerminalOrCorrectionNs) ∧
    (s.Changes before order eventNs correction → (s.run ops).reported.isConflicted = false →
      (s.run before).reported.generation ≤ fence.proofFloorGeneration)

/-- The last order that was observed. -/
structure LastObserved (s : ExitSystem) (ops : List ExitOp) (order : Order) (eventNs : Nat) :
    Prop where
  observed : ∃ before after correction, s.ObservedAt ops before after order eventNs correction ∧
    ∀ first rest other otherNs correction, s.ObservedAt ops first rest other otherNs correction →
      first.length ≤ before.length
  filled : (s.run ops).authority.latestEffectiveFilledQuantity = order.filledQty.asDecimal
  tradeIds : (s.run ops).authority.latestFillIds = order.tradeIds.toFinset

/-- The authority follows its run. -/
structure Tracks (s : ExitSystem) (ops : List ExitOp) : Prop where
  fence : ∀ fence, (s.run ops).authority.progress.fence = some fence → s.FenceTracks ops fence
  terminal : ∀ fence, (s.run ops).authority.progress = .terminalFenced fence →
    ∃ order eventNs, s.LastObserved ops order eventNs ∧ order.isClosed = true

theorem tracks_nil (h : s.authority.progress = .working) : s.Tracks [] where
  fence := by
    intro fence hfence
    have hnone : s.authority.progress.fence = some fence := hfence
    rw [h] at hnone
    cases hnone
  terminal := by
    intro fence hfence
    have hnone : s.authority.progress = .terminalFenced fence := hfence
    rw [h] at hnone
    cases hnone

/-! ## Steps -/

/-- The observation of the last step is not one of the run before it. -/
theorem not_observedAt_of_refused (hrefused : ∀ order eventNs correction,
      op = .observeOrder order eventNs correction →
      ∃ error, (s.run ops).observation order eventNs correction = .error error)
    (h : s.ObservedAt (ops ++ [op]) before after order eventNs correction) :
    ∃ rest, s.ObservedAt ops before rest order eventNs correction := by
  rcases h.of_concat with hrun | ⟨rfl, rfl⟩
  · exact hrun
  · obtain ⟨error, herror⟩ := hrefused order eventNs correction rfl
    obtain ⟨reduction, hok⟩ := h.accepted
    cases herror.symm.trans hok

theorem agreed_of_concat (h : (s.run (ops ++ [op])).reported.isConflicted = false) :
    (s.run ops).reported.isConflicted = false :=
  (run_generation_of_split (show ops ++ [op] = ops ++ [op] from rfl) h).1

theorem Tracks.skip (h : s.Tracks ops)
    (hsame : (s.run (ops ++ [op])).authority = (s.run ops).authority)
    (hrefused : ∀ order eventNs correction, op = .observeOrder order eventNs correction →
      ∃ error, (s.run ops).observation order eventNs correction = .error error) :
    s.Tracks (ops ++ [op]) where
  fence := by
    intro fence hfence
    rw [hsame] at hfence
    have htracks := h.fence fence hfence
    obtain ⟨before, after, order, correction, hat, hevent⟩ := htracks.event
    exact
      { filled := by rw [hsame]; exact htracks.filled
        tradeIds := by rw [hsame]; exact htracks.tradeIds
        baseline := by rw [hsame]; exact htracks.baseline
        event := ⟨before, _, order, correction, hat.concat op, hevent⟩
        start := fun hagreed => htracks.start (agreed_of_concat hagreed)
        news := by
          intro before after order eventNs correction hat
          obtain ⟨rest, hat⟩ := not_observedAt_of_refused hrefused hat
          obtain ⟨hlatest, hfloor⟩ := htracks.news before rest order eventNs correction hat
          exact ⟨hlatest, fun hchanges hagreed => hfloor hchanges (agreed_of_concat hagreed)⟩ }
  terminal := by
    intro fence hfence
    rw [hsame] at hfence
    obtain ⟨order, eventNs, hlast, hclosed⟩ := h.terminal fence hfence
    obtain ⟨before, after, correction, hat, hothers⟩ := hlast.observed
    refine ⟨order, eventNs, ⟨⟨before, _, correction, hat.concat op, ?_⟩, ?_, ?_⟩, hclosed⟩
    · intro first rest other otherNs otherCorrection hother
      obtain ⟨rest, hother⟩ := not_observedAt_of_refused hrefused hother
      exact hothers first rest other otherNs otherCorrection hother
    · rw [hsame]
      exact hlast.filled
    · rw [hsame]
      exact hlast.tradeIds

/-- The floor of a fence that is set now is above every generation before. -/
theorem generation_le_of_observedAt {entry : PositionAuthorityKeyState}
    (hentry : (s.run ops).feed.keys (s.run ops).authority.lease = some entry)
    (hagreed : (s.run ops).reported.isConflicted = false) (hops : ops = before ++ after) :
    (s.run before).reported.generation ≤ entry.authority.generation := by
  rw [← reported_eq_of_entry hentry]
  exact (run_generation_of_split hops hagreed).2

variable {fence : BoltV3PositionReductionFence} {reduction : BoltV3ExitOrderLifecycleReduction}

theorem fencedProgress_fence (order : Order) (fence : BoltV3PositionReductionFence) :
    (order.fencedProgress fence).fence = some fence := by
  unfold Order.fencedProgress
  split_ifs <;> rfl

theorem fencedProgress_terminal {other : BoltV3PositionReductionFence}
    (h : order.fencedProgress fence = .terminalFenced other) :
    order.isClosed = true ∧ other = fence := by
  unfold Order.fencedProgress at h
  split_ifs at h with hclosed
  · cases h
    exact ⟨hclosed, rfl⟩

/-- A fence is not given up. -/
theorem Fenced.append (h : s.Fenced before) : s.Fenced (before ++ after) := by
  induction after using reverseRecOn with
  | nil => rwa [append_nil]
  | append_singleton after op ih =>
    have hfence : (s.run (before ++ after)).authority.progress ≠ .working := by
      intro hworking
      rw [Fenced, hworking] at ih
      exact ih rfl
    unfold Fenced
    rw [← append_assoc, run_concat]
    rcases (s.run (before ++ after)).step_authority op with
      ⟨hsame, -⟩ | ⟨order, _, _, progress, _, -, -, hobserves, hafter⟩
    · rw [hsame]
      exact ih
    · rw [hafter]
      cases hobserves with
      | working hworking | zeroFill hworking | fenced hworking => exact absurd hworking hfence
      | kept | advanced =>
        change (order.fencedProgress _).fence ≠ none
        rw [fencedProgress_fence]
        nofun

section

variable (hauthority : (s.run (ops ++ [.observeOrder order eventNs correction])).authority =
  (s.run ops).authority.observed order (order.fencedProgress fence))

include hauthority

theorem FenceTracks.keep (h : s.FenceTracks ops fence)
    (hkept : (correction = .unchanged ∧ orderAuthorityChanged (s.run ops).authority order = false ∧
        order.isClosed = false) ∨
      ¬fence.advances order.filledQty.asDecimal order.tradeIds.toFinset correction eventNs) :
    s.FenceTracks (ops ++ [.observeOrder order eventNs correction]) fence := by
  have hunchanged : orderAuthorityChanged (s.run ops).authority order = false := by
    rcases hkept with ⟨-, hunchanged, -⟩ | hnot
    · exact hunchanged
    · unfold advances at hnot
      simp only [not_or, not_not] at hnot
      obtain ⟨hfilled, hids, -⟩ := hnot
      unfold orderAuthorityChanged
      rw [Decimal.numEq_iff_value, h.filled, ← Decimal.numEq_iff_value] at hfilled
      rw [h.tradeIds] at hids
      simp [hfilled, hids]
  have hfills : order.filledQty.asDecimal.value =
      (s.run ops).authority.latestEffectiveFilledQuantity.value ∧
      order.tradeIds.toFinset = (s.run ops).authority.latestFillIds := by
    unfold orderAuthorityChanged at hunchanged
    simp only [Bool.or_eq_false_iff, decide_eq_false_iff_not, not_not, ne_eq,
      Decimal.numEq_iff_value] at hunchanged
    exact hunchanged
  have hnotLater : (s.run ops).IsEvent order correction →
      eventNs ≤ fence.latestTerminalOrCorrectionNs := by
    intro hisEvent
    rcases hkept with ⟨rfl, -, hopen⟩ | hnot
    · -- what changes nothing of an open order is no event
      rcases hisEvent with hchanged | hclosed | hcorrection
      · cases hunchanged.symm.trans hchanged
      · cases hopen.symm.trans hclosed
      · cases hcorrection
    · exact not_lt.mp fun hlater => hnot (.inr (.inr (.inr hlater)))
  obtain ⟨before, after, eventOrder, eventCorrection, hat, hevent⟩ := h.event
  refine
    { filled := by rw [hauthority, h.filled]; exact hfills.1.symm
      tradeIds := by rw [hauthority, h.tradeIds]; exact hfills.2.symm
      baseline := by rw [hauthority]; exact h.baseline
      event := ⟨before, _, eventOrder, eventCorrection, hat.concat _, hevent⟩
      start := fun hagreed => h.start (agreed_of_concat hagreed), news := ?_ }
  intro first rest other otherNs otherCorrection hother
  rcases hother.of_concat with ⟨rest, hrun⟩ | ⟨rfl, hop⟩
  · obtain ⟨hlatest, hfloor⟩ := h.news first rest other otherNs otherCorrection hrun
    exact ⟨hlatest, fun hchanges hagreed => hfloor hchanges (agreed_of_concat hagreed)⟩
  · cases hop
    refine ⟨fun hisEvent _ => hnotLater hisEvent, ?_⟩
    rintro (hchanged | ⟨hisEvent, hlater⟩)
    · cases hunchanged.symm.trans hchanged
    · exact absurd (hlater before after eventOrder _ eventCorrection hat hevent)
        (not_lt.mpr (hnotLater hisEvent))

variable (hok : (s.run ops).observation order eventNs correction = .ok reduction)

include hok

theorem fenceTracks_set {entry : PositionAuthorityKeyState}
    (hevent : (s.run ops).IsEvent order correction)
    (hentry : (s.run ops).feed.keys (s.run ops).authority.lease = some entry)
    (hfilled : fence.effectiveFilledQuantity = order.filledQty.asDecimal)
    (htradeIds : fence.requiredTradeIds = order.tradeIds.toFinset)
    (hbaseline : (s.run ops).authority.baseline =
      ⟨fence.baselineSignedQuantity, fence.baselineSide⟩)
    (hns : fence.latestTerminalOrCorrectionNs = eventNs)
    (hfloor : fence.proofFloorGeneration = entry.authority.generation)
    (hlatest : ∀ before after other otherNs otherCorrection,
      s.ObservedAt ops before after other otherNs otherCorrection →
      (s.run before).IsEvent other otherCorrection →
      s.Fenced (before ++ [.observeOrder other otherNs otherCorrection]) → otherNs ≤ eventNs) :
    s.FenceTracks (ops ++ [.observeOrder order eventNs correction]) fence where
  filled := by
    rw [hauthority, hfilled]
    rfl
  tradeIds := by
    rw [hauthority, htradeIds]
    rfl
  baseline := by
    rw [hauthority]
    exact hbaseline
  event := ⟨ops, [], order, correction, ⟨by rw [hns], reduction, by rw [hns]; exact hok⟩, hevent⟩
  start := by
    intro hagreed
    rw [hfloor]
    exact generation_le_of_observedAt hentry (agreed_of_concat hagreed)
      (show ops = [] ++ ops from rfl)
  news := by
    intro before after other otherNs otherCorrection hat
    rw [hns, hfloor]
    rcases hat.of_concat with ⟨rest, hrun⟩ | ⟨rfl, hop⟩
    · exact ⟨hlatest before rest other otherNs otherCorrection hrun, fun _ hagreed =>
        generation_le_of_observedAt hentry (agreed_of_concat hagreed) hrun.split⟩
    · cases hop
      exact ⟨fun _ _ => le_refl _, fun _ hagreed =>
        generation_le_of_observedAt hentry (agreed_of_concat hagreed) (append_nil before).symm⟩

/-- The last step observes the order. -/
theorem lastObserved_concat :
    s.LastObserved (ops ++ [.observeOrder order eventNs correction]) order eventNs where
  observed := by
    refine ⟨ops, [], correction, ⟨rfl, reduction, hok⟩, ?_⟩
    intro first rest other otherNs otherCorrection hother
    rcases hother.of_concat with ⟨rest, hrun⟩ | ⟨rfl, -⟩
    · rw [hrun.split, length_append]
      exact Nat.le_add_right _ _
    · exact le_refl _
  filled := by
    rw [hauthority]
    rfl
  tradeIds := by
    rw [hauthority]
    rfl

/-- A fence that was set, advanced or kept is that of the run. -/
theorem tracks_fenced
    (hfence : s.FenceTracks (ops ++ [.observeOrder order eventNs correction]) fence) :
    s.Tracks (ops ++ [.observeOrder order eventNs correction]) where
  fence := by
    intro other hother
    rw [hauthority] at hother
    cases (fencedProgress_fence order fence).symm.trans hother
    exact hfence
  terminal := by
    intro other hother
    rw [hauthority] at hother
    obtain ⟨hclosed, rfl⟩ := fencedProgress_terminal hother
    exact ⟨order, eventNs, lastObserved_concat hauthority hok, hclosed⟩

end

theorem tracks_working
    (hauthority : (s.run (ops ++ [op])).authority = (s.run ops).authority.observed order .working) :
    s.Tracks (ops ++ [op]) where
  fence := by
    intro fence hfence
    rw [hauthority] at hfence
    cases hfence
  terminal := by
    intro fence hfence
    rw [hauthority] at hfence
    cases hfence

/-- **Every step keeps the authority in line with its run.** -/
theorem Tracks.concat (h : s.Tracks ops) (op : ExitOp) : s.Tracks (ops ++ [op]) := by
  have hstep : (s.run (ops ++ [op])).authority = ((s.run ops).step op).authority := by
    rw [run_concat]
  rcases (s.run ops).step_authority op with
    ⟨hsame, hrefused⟩ |
        ⟨order, eventNs, correction, progress, reduction, rfl, hok, hobserves, hafter⟩
  · exact h.skip (hstep.trans hsame) hrefused
  · have hauthority := hstep.trans hafter
    cases hobserves with
    | working hworking hopen | zeroFill hworking hclosed hcorrection =>
      exact tracks_working hauthority
    | fenced hworking hclosed hentry =>
      have hprogress : ∀ fence, order.fencedProgress fence = .terminalFenced fence := by
        intro fence
        unfold Order.fencedProgress
        rw [if_pos hclosed]
      rw [← hprogress] at hauthority
      refine tracks_fenced hauthority hok
        (fenceTracks_set hauthority hok (.inr (.inl hclosed)) hentry
        rfl rfl rfl rfl rfl fun before after other otherNs otherCorrection hat _ hfenced => ?_)
      -- without a fence now there was none before
      have hops : s.Fenced ops := by
        have hsplit := hat.split
        rw [← singleton_append, ← append_assoc] at hsplit
        rw [hsplit]
        exact hfenced.append
      rw [Fenced, hworking] at hops
      exact absurd rfl hops
    | kept hfence hkept =>
      exact tracks_fenced hauthority hok ((h.fence _ hfence).keep hauthority hkept)
    | advanced hfence hevent hns hentry =>
      have htracks := h.fence _ hfence
      refine tracks_fenced hauthority hok (fenceTracks_set hauthority hok hevent hentry rfl rfl
        htracks.baseline rfl rfl
          fun before after other otherNs otherCorrection hat hother hfenced => ?_)
      exact ((htracks.news before after other otherNs otherCorrection hat).1 hother hfenced).trans
        hns

theorem run_tracks (h : s.authority.progress = .working) (ops : List ExitOp) : s.Tracks ops := by
  induction ops using reverseRecOn with
  | nil => exact tracks_nil h
  | append_singleton ops op ih => exact ih.concat op

theorem run_baseline (s : ExitSystem) (ops : List ExitOp) :
    (s.run ops).authority.baseline = s.authority.baseline := by
  induction ops using reverseRecOn with
  | nil => rfl
  | append_singleton ops op ih =>
    rw [run_concat]
    rcases (s.run ops).step_authority op with
      ⟨hsame, -⟩ | ⟨order, _, _, progress, _, -, -, -, hafter⟩
    · rw [hsame, ih]
    · rw [hafter]
      exact ih

/-- A report of a generation above that of an observation was accepted after it. -/
theorem lt_of_accepts {mid rest : List ExitOp} {report : PositionStatusReport}
    (hmid : ops = mid ++ .report report :: rest) (haccepts : (s.run mid).Accepts report)
    (hagreed : (s.run ops).reported.isConflicted = false)
    (hat : s.ObservedAt ops before after order eventNs correction)
    (hgeneration : (s.run before).reported.generation < (s.run mid).reported.generation + 1) :
    before.length < mid.length := by
  have hsplit := hmid.symm.trans hat.split
  rcases append_eq_append_iff.mp hsplit with ⟨middle, hbefore, htail⟩ | ⟨middle, hmiddle, htail⟩
  · rcases middle with _ | ⟨op, middle⟩
    · cases htail
    · exfalso
      obtain ⟨rfl, -⟩ := cons.inj htail
      -- the report is before the observation, so its generation is no later
      have hrun : s.run before = ((s.run mid).step (.report report)).run middle := by
        rw [hbefore, run_append]
        rfl
      have hstill := (run_generation_of_split hat.split hagreed).1
      rw [hrun] at hstill hgeneration
      have hlater := (run_generation hstill).2
      rw [haccepts.2] at hlater
      have hsnapshot : (s.run mid).reported.generation + 1 ≤
        (((s.run mid).step (.report report)).run middle).reported.generation := hlater
      omega
  · rcases middle with _ | ⟨op, middle⟩
    · cases htail
    · rw [hmiddle, length_append, length_cons]
      omega

end ExitSystem

open ExitSystem

/-- **Every release is proved**: for every run of an authority that starts without a fence, a
release rests on the canonical position, which is flat or on the side of the baseline and within
what the fills of the last observed order leave of it. That order is closed, and either the position
has all its trades, or a report that agrees with the position was accepted after every observation
that changed the fills, the trades or the event time, and is not before any event from the
observation on that put up the fence. An observation that is refused leaves the authority as it was.
-/
theorem released_exits_are_proved [arith : DecimalArith] (documented : arith.Documented)
    (s : ExitSystem) (hworking : s.authority.progress = .working) (ops : List ExitOp)
    (hfits : ∀ order eventNs correction, .observeOrder order eventNs correction ∈ ops →
      LeavesRepresentable s.authority.baseline order.filledQty.asDecimal) :
    (∀ capability cache released,
      (s.run ops).authority.release (s.run ops).feed capability cache = .ok released →
      released ≠ .awaitingAuthority →
      ∃ canonical order eventNs,
        capability.canonicalPosition cache (s.run ops).authority.positionId
          (s.run ops).authority.instrumentId = .ok (some canonical) ∧
        released = (if canonical.signedQuantity.NumEq Decimal.zero then .flat
          else .residual canonical.signedQuantity) ∧
        s.LastObserved ops order eventNs ∧ order.isClosed = true ∧
        WithinReduction s.authority.baseline order.filledQty.asDecimal canonical ∧
        (order.tradeIds.toFinset ⊆ canonical.tradeIds ∨
          ∃ mid report rest, ops = mid ++ .report report :: rest ∧ (s.run mid).Accepts report ∧
            report.signedDecimalQty.NumEq canonical.signedQuantity ∧
            report.positionSide = canonical.side ∧
            ∀ before after other otherNs correction,
              s.ObservedAt ops before after other otherNs correction →
              (s.Changes before other otherNs correction → before.length < mid.length) ∧
              ((s.run before).IsEvent other correction →
                s.Fenced (before ++ [.observeOrder other otherNs correction]) →
                otherNs ≤ report.tsLast))) ∧
    ∀ order eventNs correction error,
      (s.run ops).observation order eventNs correction = .error error →
      ((s.run ops).step (.observeOrder order eventNs correction)).authority =
        (s.run ops).authority := by
  refine ⟨?_, ?_⟩
  · intro capability cache released hrelease hreleased
    obtain ⟨canonical, fence, hcanonical, hreleases⟩ := release_cases hrelease hreleased
    have htracks := run_tracks hworking ops
    obtain ⟨order, eventNs, hlast, hclosed⟩ := htracks.terminal fence hreleases.terminal
    have hfence := htracks.fence fence (by rw [hreleases.terminal]; rfl)
    have hbaseline : s.authority.baseline = ⟨fence.baselineSignedQuantity, fence.baselineSide⟩ :=
      (run_baseline s ops).symm.trans hfence.baseline
    have hfilled : fence.effectiveFilledQuantity.value = order.filledQty.asDecimal.value := by
      rw [hfence.filled, hlast.filled]
    have hleaves : LeavesRepresentable s.authority.baseline fence.effectiveFilledQuantity := by
      obtain ⟨before, after, correction, hat, -⟩ := hlast.observed
      have hmem := hfits order eventNs correction (by rw [hat.split]; simp)
      unfold LeavesRepresentable at hmem ⊢
      rwa [hfilled]
    have hwithin : WithinReduction s.authority.baseline
        fence.effectiveFilledQuantity canonical := by
      rw [hbaseline] at hleaves ⊢
      exact withinReduction_of_bound documented hleaves hreleases.within
    refine ⟨canonical, order, eventNs, hcanonical, hreleases.released, hlast, hclosed, ?_, ?_⟩
    · unfold WithinReduction at hwithin ⊢
      rw [hfilled] at hwithin
      exact hwithin
    · rcases hreleases.proof with hcomplete | ⟨snapshot, hcoherent, hproves⟩
      · left
        unfold completeFillApplication at hcomplete
        simp only [Bool.and_eq_true, decide_eq_true_eq] at hcomplete
        rw [hfence.tradeIds, hlast.tradeIds] at hcomplete
        exact hcomplete.2
      · right
        unfold provesPostEvent at hproves
        simp only [Bool.and_eq_true, decide_eq_true_eq] at hproves
        obtain ⟨⟨⟨hfloor, htime⟩, hquantity⟩, hside⟩ := hproves
        obtain ⟨mid, report, rest, hsplit, haccepts, rfl⟩ :=
          run_accepts hcoherent (lt_of_le_of_lt (hfence.start hreleases.agreed) hfloor)
        refine ⟨mid, report, rest, hsplit, haccepts, hquantity, hside, ?_⟩
        intro before after other otherNs correction hat
        obtain ⟨hlatest, hgeneration⟩ := hfence.news before after other otherNs correction hat
        constructor
        · intro hchanges
          exact lt_of_accepts hsplit haccepts hreleases.agreed hat
            (lt_of_le_of_lt (hgeneration hchanges hreleases.agreed) hfloor)
        · intro hevent hfenced
          exact (hlatest hevent hfenced).trans htime
  · intro order eventNs correction error herror
    rcases (s.run ops).step_authority (.observeOrder order eventNs correction) with
      ⟨hsame, -⟩ | ⟨_, _, _, _, _, ⟨⟩, hok, -⟩
    · exact hsame
    · cases herror.symm.trans hok

namespace EarlyTerminalEvent

attribute [local instance] Decimal.reference

def instrument : InstrumentId := ⟨"YES", "VENUE"⟩

def lease : BoltV3PositionAuthorityKey := ⟨"CLIENT", "ACCOUNT", instrument, none⟩

/-- A feed with one lease and no report. -/
def feed : PositionAuthorityFeedState :=
  ⟨fun accountId => if accountId = "ACCOUNT" then some ⟨"CLIENT", "VENUE"⟩ else none,
    Function.update (fun _ => none) lease (some ⟨1, .awaiting, none⟩)⟩

def five : Quantity := ⟨⟨5, 0⟩, by decide⟩

def two : Quantity := ⟨⟨2, 0⟩, by decide⟩

/-- A long position of ten, and an exit order of five. -/
def authority : BoltV3ExitOrderAuthorityState :=
  ⟨"EXIT-1", instrument, "P-1", Decimal.zero, ∅, lease, .working, ⟨⟨10, 0⟩, .long⟩, five⟩

def start : ExitSystem where
  feed := feed
  others := []
  authority := authority
  counted := by
    intro key
    have hcount : feed.leaseCount key = if key = lease then 1 else 0 := by
      unfold feed PositionAuthorityFeedState.leaseCount
      dsimp only
      rw [Function.update_apply]
      split_ifs <;> rfl
    have hlease : authority.lease = lease := rfl
    rw [hcount, hlease, count_singleton]
    by_cases h : key = lease
    · simp [h]
    · simp [h, Ne.symm h]

/-- The order with a fill of two. -/
def order (isClosed : Bool) : Order :=
  ⟨"EXIT-1", instrument, some "P-1", five, two, ["T-1"], isClosed⟩

def report (tsLast : Nat) : PositionStatusReport :=
  ⟨"ACCOUNT", instrument, none, "R-1", ⟨8, 0⟩, .long, tsLast, tsLast⟩

def capability : BoltV3PositionAuthorityCapability := ⟨"CLIENT", "ACCOUNT", .netting⟩

/-- The cached position, with its trades. -/
def cache (tradeIds : List String) : List Position :=
  [⟨"P-1", "ACCOUNT", instrument, .long, ⟨8, 0⟩, tradeIds, true⟩]

/-- What the authority is released to after a run. -/
def released (ops : List ExitOp) (tradeIds : List String) : Option BoltV3PositionReductionRelease :=
  ((start.run ops).authority.release (start.run ops).feed capability (cache tradeIds)).toOption

/-- The fill is at 20 and the end of the order at 10. -/
def ops : List ExitOp :=
  [.observeOrder (order false) 20 .unchanged, .observeOrder (order true) 10 .unchanged,
    .report (report 15)]

/-- **A report before the fill**: the position does not have the trade, and the report is of a time
before the fill that was observed. -/
theorem report_before_the_fill : orderAuthorityChanged start.authority (order false) = true ∧
    (start.observation (order false) 20 .unchanged).toOption = some .working ∧
    (report 15).tsLast < 20 ∧ "T-1" ∉ (cache []).flatMap Position.tradeIds ∧
    released ops [] = some (.residual ⟨8, 0⟩) := by
  refine ⟨?_, ?_, ?_, ?_, ?_⟩ <;> decide +kernel

theorem release_is_proved : ∃ canonical order eventNs,
    start.LastObserved ops order eventNs ∧ order.isClosed = true ∧
      WithinReduction start.authority.baseline order.filledQty.asDecimal canonical := by
  have hreleased : released ops [] = some (.residual ⟨8, 0⟩) := by decide +kernel
  have hfits : ∀ order eventNs correction, ExitOp.observeOrder order eventNs correction ∈ ops →
      LeavesRepresentable start.authority.baseline order.filledQty.asDecimal := by
    intro order eventNs correction hmem
    simp only [ops, mem_cons, ExitOp.observeOrder.injEq, reduceCtorEq, not_mem_nil,
      or_false] at hmem
    rcases hmem with ⟨rfl, -, -⟩ | ⟨rfl, -, -⟩ <;>
      exact ⟨⟨8, 0⟩, by decide, by decide, by norm_num [Decimal.value, start, authority,
        EarlyTerminalEvent.order, two, Quantity.asDecimal]⟩
  obtain ⟨canonical, order, eventNs, -, -, hlast, hclosed, hwithin, -⟩ :=
    (released_exits_are_proved Decimal.reference_exact start rfl ops hfits).1
      capability (cache []) _
      (eq_ok_of_toOption hreleased) (by decide)
  exact ⟨canonical, order, eventNs, hlast, hclosed, hwithin⟩

end EarlyTerminalEvent

/-! ## Corrections -/

namespace ExitSystem

/-- A correction that the authority keeps: of an order that is terminal or was, with news if there
was a correction before. -/
def remembers (s : ExitSystem) : ExitOp → Bool
  | .observeOrder order eventNs .fillAuthorityChanged =>
    match s.authority.progress.fence with
    | none => order.isClosed
    | some fence =>
      decide (fence.advances order.filledQty.asDecimal order.tradeIds.toFinset .fillAuthorityChanged
        eventNs)
  | _ => true

/-- Every correction of a run is kept. -/
def remembersAll : ExitSystem → List ExitOp → Bool
  | _, [] => true
  | s, op :: rest => s.remembers op && remembersAll (s.step op) rest

/-- A fence that asks for a report after a generation. -/
def Corrected (s : ExitSystem) (generation : Nat) : Prop :=
  ∃ fence, s.authority.progress.fence = some fence ∧
    fence.fillSetProof = .requiresPostEventReport ∧
    (s.reported.isConflicted = false →
      generation ≤ fence.proofFloorGeneration ∧ generation ≤ s.reported.generation)

variable {s : ExitSystem} {op : ExitOp} {ops : List ExitOp} {order : Order}
  {eventNs generation : Nat}

/-- **A correction that is remembered** asks for a report. -/
theorem corrected_of_remembers {reduction : BoltV3ExitOrderLifecycleReduction}
    (hremembers : s.remembers (.observeOrder order eventNs .fillAuthorityChanged) = true)
    (hok : s.observation order eventNs .fillAuthorityChanged = .ok reduction) :
    (s.step (.observeOrder order eventNs .fillAuthorityChanged)).Corrected s.reported.generation ∧
      reduction ≠ .terminalZeroFill := by
  rcases s.step_authority (.observeOrder order eventNs .fillAuthorityChanged) with
    ⟨-, hrefused⟩ | ⟨_, _, _, progress, _, ⟨⟩, hresult, hobserves, hafter⟩
  · obtain ⟨error, herror⟩ := hrefused order eventNs .fillAuthorityChanged rfl
    cases herror.symm.trans hok
  · cases hresult.symm.trans hok
    unfold Corrected
    rw [hafter, reported_observe]
    have hreduction : order.fencedReduction ≠ .terminalZeroFill := by
      unfold Order.fencedReduction
      split_ifs <;> decide
    unfold remembers at hremembers
    cases hobserves with
    | working hworking hopen =>
      rw [hworking] at hremembers
      have hclosed : order.isClosed = true := hremembers
      rw [hopen] at hclosed
      cases hclosed
    | zeroFill hworking hclosed hcorrection => cases hcorrection
    | fenced hworking hclosed hentry =>
      refine ⟨⟨_, rfl, rfl, fun _ => ⟨?_, le_refl _⟩⟩, by decide⟩
      rw [reported_eq_of_entry hentry]
      exact le_refl _
    | kept hfence hkept =>
      rw [hfence] at hremembers
      have hadvances := of_decide_eq_true hremembers
      rcases hkept with ⟨⟨⟩, -⟩ | hnot
      exact absurd hadvances hnot
    | advanced hfence hevent hns hentry =>
      refine ⟨⟨_, fencedProgress_fence order _, rfl, fun _ => ⟨?_, le_refl _⟩⟩, hreduction⟩
      rw [reported_eq_of_entry hentry]
      exact le_refl _

/-- **Every step remembers it.** -/
theorem Corrected.step (h : s.Corrected generation) (op : ExitOp) :
    (s.step op).Corrected generation := by
  obtain ⟨fence, hfence, hproof, hfloor⟩ := h
  have hagreed : (s.step op).reported.isConflicted = false →
      s.reported.isConflicted = false ∧ generation ≤ (s.step op).reported.generation := by
    intro hstill
    obtain ⟨hbefore, hle⟩ := step_generation hstill
    exact ⟨hbefore, (hfloor hbefore).2.trans hle⟩
  unfold Corrected
  rcases s.step_authority op with
    ⟨hsame, -⟩ | ⟨order, eventNs, correction, progress, reduction, -, -, hobserves, hafter⟩
  · rw [hsame]
    exact ⟨fence, hfence, hproof, fun hstill =>
      ⟨(hfloor (hagreed hstill).1).1, (hagreed hstill).2⟩⟩
  · rw [hafter]
    cases hobserves with
    | working hworking hopen | zeroFill hworking hclosed hcorrection
    | fenced hworking hclosed hentry =>
      rw [hworking] at hfence
      cases hfence
    | kept hother hkept =>
      cases hfence.symm.trans hother
      exact ⟨fence, fencedProgress_fence order _, hproof, fun hstill =>
        ⟨(hfloor (hagreed hstill).1).1, (hagreed hstill).2⟩⟩
    | advanced hother hevent hns hentry =>
      cases hfence.symm.trans hother
      refine ⟨_, fencedProgress_fence order _, ?_, fun hstill => ⟨?_, (hagreed hstill).2⟩⟩
      · unfold advanced
        split_ifs
        · rfl
        · exact hproof
      · have hle := (hfloor (hagreed hstill).1).2
        rw [reported_eq_of_entry hentry] at hle
        exact hle

theorem Corrected.run (h : s.Corrected generation) (ops : List ExitOp) :
    (s.run ops).Corrected generation := by
  induction ops generalizing s with
  | nil => exact h
  | cons op ops ih => exact ih (h.step op)

/-- An authority that is corrected does not reduce to a terminal order without fills. -/
theorem Corrected.not_zeroFill {correction : BoltV3ExitOrderCorrection} (h : s.Corrected generation)
    (order : Order) (eventNs : Nat) :
    s.observation order eventNs correction ≠ .ok .terminalZeroFill := by
  intro hzero
  obtain ⟨fence, hfence, -⟩ := h
  rcases s.step_authority (.observeOrder order eventNs correction) with
    ⟨-, hrefused⟩ | ⟨_, _, _, progress, _, ⟨⟩, hresult, hobserves, -⟩
  · obtain ⟨error, herror⟩ := hrefused order eventNs correction rfl
    cases herror.symm.trans hzero
  · have hreduction := hresult.symm.trans hzero
    cases hobserves with
    | working hworking hopen => cases hreduction
    | zeroFill hworking hclosed hcorrection =>
      rw [hworking] at hfence
      cases hfence
    | fenced hworking hclosed hentry => cases hreduction
    | _ =>
      unfold Order.fencedReduction at hreduction
      split_ifs at hreduction <;> cases hreduction

theorem remembers_of_split {before after : List ExitOp}
    (h : s.remembersAll (before ++ op :: after) = true) : (s.run before).remembers op = true := by
  induction before generalizing s with
  | nil => exact (Bool.and_eq_true_iff.mp h).1
  | cons first before ih => exact ih (Bool.and_eq_true_iff.mp h).2

end ExitSystem

/-- **A corrected exit needs a report**: in a run that keeps its corrections, every release after a
correction rests on a report that was accepted after it and agrees with the canonical position, and
no observation from then on reduces the order as terminal without fills. -/
theorem corrected_exits_need_a_report [DecimalArith] (s : ExitSystem) (ops : List ExitOp)
    (hremembers : s.remembersAll ops = true) :
    ∀ before after order eventNs,
      s.ObservedAt ops before after order eventNs .fillAuthorityChanged →
      (∀ capability cache released,
        (s.run ops).authority.release (s.run ops).feed capability cache = .ok released →
        released ≠ .awaitingAuthority →
        ∃ canonical mid report rest,
          capability.canonicalPosition cache (s.run ops).authority.positionId
            (s.run ops).authority.instrumentId = .ok (some canonical) ∧
          after = mid ++ .report report :: rest ∧
          (s.run (before ++ .observeOrder order eventNs .fillAuthorityChanged :: mid)).Accepts
            report ∧
          report.signedDecimalQty.NumEq canonical.signedQuantity ∧
          report.positionSide = canonical.side) ∧
      (s.run before).observation order eventNs .fillAuthorityChanged ≠ .ok .terminalZeroFill ∧
      ∀ mid other otherNs correction rest,
        after = mid ++ .observeOrder other otherNs correction :: rest →
        (s.run (before ++ .observeOrder order eventNs .fillAuthorityChanged :: mid)).observation
          other
          otherNs correction ≠ .ok .terminalZeroFill := by
  intro before after order eventNs hat
  obtain ⟨reduction, hok⟩ := hat.accepted
  have hsplit := hat.split
  subst hsplit
  obtain ⟨hcorrected, hreduction⟩ := corrected_of_remembers (remembers_of_split hremembers) hok
  have hrun : ∀ later,
      s.run (before ++ .observeOrder order eventNs .fillAuthorityChanged :: later) =
      ((s.run before).step (.observeOrder order eventNs .fillAuthorityChanged)).run later := by
    intro later
    rw [run_append]
    rfl
  refine ⟨?_, ?_, ?_⟩
  · intro capability cache released hrelease hreleased
    obtain ⟨canonical, fence, hcanonical, hreleases⟩ := release_cases hrelease hreleased
    have hlast := hcorrected.run after
    rw [← hrun] at hlast
    obtain ⟨other, hother, hproof, hfloor⟩ := hlast
    rw [hreleases.terminal] at hother
    cases hother
    rcases hreleases.proof with hcomplete | ⟨snapshot, hcoherent, hproves⟩
    · unfold completeFillApplication at hcomplete
      rw [hproof] at hcomplete
      cases hcomplete
    · unfold provesPostEvent at hproves
      simp only [Bool.and_eq_true, decide_eq_true_eq] at hproves
      obtain ⟨⟨⟨hnewer, -⟩, hquantity⟩, hside⟩ := hproves
      have hstart : ((s.run before).step (.observeOrder order eventNs
          .fillAuthorityChanged)).reported.generation < snapshot.generation := by
        rw [reported_observe]
        exact lt_of_le_of_lt (hfloor hreleases.agreed).1 hnewer
      have hlater : (((s.run before).step (.observeOrder order eventNs
          .fillAuthorityChanged)).run after).reported = .coherent snapshot := by
        rw [← hrun]
        exact hcoherent
      obtain ⟨mid, report, rest, rfl, haccepts, rfl⟩ := run_accepts hlater hstart
      rw [← hrun] at haccepts
      exact ⟨canonical, mid, report, rest, hcanonical, rfl, haccepts, hquantity, hside⟩
  · intro hzero
    exact hreduction (by cases hok.symm.trans hzero; rfl)
  · rintro mid other otherNs correction rest rfl
    rw [hrun]
    exact (hcorrected.run mid).not_zeroFill other otherNs

namespace LostCorrection

open EarlyTerminalEvent

attribute [local instance] Decimal.reference

def zero : Quantity := ⟨⟨0, 0⟩, by decide⟩

/-- The order after its fill was voided. -/
def voided (isClosed : Bool) : Order :=
  ⟨"EXIT-1", instrument, some "P-1", five, zero, [], isClosed⟩

/-- The order is corrected while it is open, keeps a fill, and is canceled. -/
def partlyVoided : List ExitOp :=
  [.observeOrder (order false) 10 .unchanged, .observeOrder (order false) 20 .fillAuthorityChanged,
    .observeOrder (order true) 30 .unchanged]

/-- A correction of the terminal order, a report, and the same correction again. -/
def repeated : List ExitOp :=
  [.observeOrder (order true) 10 .unchanged, .observeOrder (order true) 10 .fillAuthorityChanged,
    .report (report 15), .observeOrder (order true) 10 .fillAuthorityChanged]

/-- **A voided fill is forgotten**: while the order is open and was never terminal, a correction
leaves no trace. The order then reduces as terminal without fills, or is released because its trades
are contained. A correction that repeats another one does not ask for a report of its own. -/
theorem forgets_the_voided_fill :
    (start.observation (voided false) 10 .fillAuthorityChanged).toOption = some .working ∧
    ((start.run [.observeOrder (voided false) 10 .fillAuthorityChanged]).observation
      (voided true) 20
      .unchanged).toOption = some .terminalZeroFill ∧
    released partlyVoided ["T-1"] = some (.residual ⟨8, 0⟩) ∧
    released repeated [] = some (.residual ⟨8, 0⟩) := by
  refine ⟨?_, ?_, ?_, ?_⟩ <;> decide +kernel

/-- The fill of the terminal order is voided and a report comes after it. -/
def reported : List ExitOp :=
  [.observeOrder (order true) 10 .unchanged, .observeOrder (order true) 20 .fillAuthorityChanged,
    .report (report 25)]

theorem release_needs_the_report : start.remembersAll reported = true ∧
    ∃ canonical mid report rest,
      capability.canonicalPosition (cache []) (start.run reported).authority.positionId
        (start.run reported).authority.instrumentId = .ok (some canonical) ∧
      [ExitOp.report (EarlyTerminalEvent.report 25)] = mid ++ .report report :: rest ∧
      report.positionSide = canonical.side := by
  have hremembers : start.remembersAll reported = true := by decide +kernel
  have hreleased : released reported [] = some (.residual ⟨8, 0⟩) := by decide +kernel
  have hok : ((start.run [.observeOrder (order true) 10 .unchanged]).observation (order true) 20
      .fillAuthorityChanged).toOption = some .terminalAwaitingPosition := by decide +kernel
  have hat : start.ObservedAt reported [.observeOrder (order true) 10 .unchanged]
      [.report (EarlyTerminalEvent.report 25)] (order true) 20 .fillAuthorityChanged :=
    ⟨rfl, _, eq_ok_of_toOption hok⟩
  obtain ⟨canonical, mid, report, rest, hcanonical, hafter, -, -, hside⟩ :=
    (corrected_exits_need_a_report start reported hremembers _ _ _ _ hat).1 capability (cache []) _
      (eq_ok_of_toOption hreleased) (by decide)
  exact ⟨hremembers, canonical, mid, report, rest, hcanonical, hafter, hside⟩

end LostCorrection

end BoltV3.Exit
