import BoltV3.Submit.Admit

/-!
# What an admission attempts

The three admissions of the source evaluate their orders one after the other and end in one of two
ways: everything reserved on the way is rolled back, or a permit is granted. `Attempted` is the
common part, the evaluations, and `Ended` the two ends; one theorem for each admission.

`Inner.grants` is the part of the state that only a decision changes: limits, counters, the
evidence-free orders and the committed authority. The loss governor, the ledger and a rollback leave
it as it is.
-/

namespace BoltV3.Submit

open Lib Loss Capital Evidence List
open Std (ExtTreeMap)

/-! ## The grants of a state -/

/-- What decisions about orders leave in the state. -/
structure Grants where
  limits : ExtTreeMap String LiveSubmitApprovalLimits
  orderCount : Nat
  clientCounts : ExtTreeMap String Nat
  evidenceFree : ExtTreeMap String EvidenceFreeNonReservationPhase
  authority : ReservationRecoveryFacts

def Inner.grants (inner : Inner) : Grants :=
  { limits := inner.liveSubmitApprovalLimits, orderCount := inner.admittedOrderCount
    clientCounts := inner.admittedOrderCountByExecutionClient
    evidenceFree := inner.evidenceFreeNonReservationAdmissions
    authority := inner.committedAdmissionAuthority }

namespace Grants

variable (grants : Grants) (executionClientId : String)

/-- The admitted count of an execution client. -/
def count : Nat := (grants.clientCounts[executionClientId]?).getD 0

def withAuthority (authority : ReservationRecoveryFacts) : Grants :=
  { grants with authority := authority }

/-- `orders` more orders of an execution client, the evidence-free ones held by a permit. -/
def admitting (orders : Nat) (evidenceFree : List String) : Grants :=
  { grants with
    orderCount := grants.orderCount + orders
    clientCounts := grants.clientCounts.insert executionClientId
      (grants.count executionClientId + orders)
    evidenceFree := evidenceFree.foldl (·.insert · .permitHeld) grants.evidenceFree }

/-- `orders` fewer orders of an execution client, the evidence-free ones released. -/
def releasing (orders : Nat) (evidenceFree : List String) : Grants :=
  { grants with
    orderCount := grants.orderCount - orders
    clientCounts :=
      if grants.count executionClientId - orders = 0 then
        grants.clientCounts.erase executionClientId
      else grants.clientCounts.insert executionClientId (grants.count executionClientId - orders)
    evidenceFree := evidenceFree.foldl (·.erase ·) grants.evidenceFree }

/-- The evidence-free orders of a permit cross the submit boundary. -/
def invoking (evidenceFree : List String) : Grants :=
  { grants with evidenceFree := evidenceFree.foldl (·.insert · .sinkInvoked) grants.evidenceFree }

/-- What `evaluate` has checked of an order it admits: it is authorised for the first time, and
within the order cap of its client. -/
structure Admissible (grants : Grants) (request : SubmitAdmissionRequest) : Prop where
  unauthorized : grants.authority.authorizesOrder request.clientOrderId = false
  unheld : grants.evidenceFree[request.clientOrderId]? = none
  capped : ∀ limits, grants.limits[request.executionClientId]? = some limits →
    grants.count request.executionClientId + 1 ≤ limits.maxOrderCount

end Grants

variable (inner : Inner) (authority : ReservationRecoveryFacts)
  (rollbacks : List CapitalAdmissionReservationRollback)

@[simp] theorem grants_withAuthority :
    (inner.withAuthority authority).grants = inner.grants.withAuthority authority := rfl

theorem withAuthority_self {inner : Inner} {authority : ReservationRecoveryFacts}
    (h : inner.committedAdmissionAuthority = authority) :
    inner.withAuthority authority = inner := by
  rw [← h]
  rfl

theorem grants_rollbackReservations :
    (rollbackCapitalAdmissionReservations inner rollbacks).grants = inner.grants := by
  unfold rollbackCapitalAdmissionReservations
  split <;> rfl

theorem rollbackIfReserved_eq (rollback : Option CapitalAdmissionReservationRollback) :
    rollbackIfReserved inner rollback =
      rollbackCapitalAdmissionReservations inner rollback.toList := by
  cases rollback <;> rfl

/-- A rollback neither reads nor writes the authority. -/
theorem rollbackReservations_withAuthority :
    rollbackCapitalAdmissionReservations (inner.withAuthority authority) rollbacks =
      (rollbackCapitalAdmissionReservations inner rollbacks).withAuthority authority := by
  unfold rollbackCapitalAdmissionReservations
  have hprepare : prepareCapitalAdmissionReservationRollback (inner.withAuthority authority)
      rollbacks = prepareCapitalAdmissionReservationRollback inner rollbacks := rfl
  rw [hprepare]
  split <;> rfl

theorem liveSubmitCountCapOutcome_admitted {current claims cap : Nat}
    (h : liveSubmitCountCapOutcome current claims cap ≠ .rejected .countCapExhausted) :
    current + claims ≤ cap := by
  unfold liveSubmitCountCapOutcome at h
  split at h
  · rename_i total htotal
    obtain ⟨-, rfl⟩ := checkedAdd_eq_some.mp htotal
    by_contra hexceeded
    rw [if_neg hexceeded] at h
    exact h rfl
  · exact absurd rfl h

theorem checkedAdmissionCounterValues_eq_some {admitted client claims : Nat}
    {values : SubmitAdmissionCounterValues} :
    checkedAdmissionCounterValues admitted client claims = some values ↔
      admitted + claims ≤ u32Max ∧ client + claims ≤ u32Max ∧
        values = ⟨admitted + claims, client + claims⟩ := by
  unfold checkedAdmissionCounterValues
  cases hadmitted : checkedAdd u32Max admitted claims with
  | none =>
    have := checkedAdd_eq_none.mp hadmitted
    simp only [reduceCtorEq, false_iff]
    omega
  | some a =>
    obtain ⟨hbound, rfl⟩ := checkedAdd_eq_some.mp hadmitted
    cases hclient : checkedAdd u32Max client claims with
    | none =>
      have := checkedAdd_eq_none.mp hclient
      simp only [reduceCtorEq, false_iff]
      omega
    | some c =>
      obtain ⟨hbound', rfl⟩ := checkedAdd_eq_some.mp hclient
      simp only [hbound, hbound', true_and, Option.some.injEq]
      exact eq_comm

/-! ## Evaluations -/

/-- A loss halt is counted in its episodes and nowhere else. -/
def Inner.withEpisodes (inner : Inner) (episodes : ExtTreeMap String LossHaltEpisode) : Inner :=
  { inner with lossHaltEpisodes := episodes }

/-- An evaluation that admits nothing, and holds nothing. -/
structure SubmitAdmissionEvaluation.Refuses (evaluation : SubmitAdmissionEvaluation) : Prop where
  outcome : evaluation.outcome ≠ .admitted
  rollback : evaluation.rollback = none
  attribution : evaluation.reservationAttribution = none

theorem recordStaleLossGovernorHalt_episodes (policy : LossGovernorPolicy) (nowNs : Nat) :
    ∃ episodes, (recordStaleLossGovernorHalt inner policy nowNs).1 =
      inner.withEpisodes episodes := by
  unfold recordStaleLossGovernorHalt
  split
  · exact ⟨inner.lossHaltEpisodes, rfl⟩
  · exact ⟨_, rfl⟩

section

variable [DecimalArith]

/-- The loss governor only counts its halts, and a halted order is refused. -/
theorem evaluateLoss_cases (inner : Inner) (request : SubmitAdmissionRequest) (nowNs : Nat) :
    ∃ episodes, (evaluateLoss inner request nowNs).1 = inner.withEpisodes episodes ∧
      ∀ evaluation, (evaluateLoss inner request nowNs).2 = .error (.ok evaluation) →
        evaluation.Refuses := by
  have hhalt : ∀ reasons diagnostics,
      (SubmitAdmissionEvaluation.lossHalt reasons diagnostics).Refuses :=
    fun _ _ => ⟨nofun, rfl, rfl⟩
  unfold evaluateLoss
  split
  · rename_i policy _ _
    split
    · exact ⟨inner.lossHaltEpisodes, rfl, by rintro _ ⟨⟩⟩
    split
    · exact ⟨∅, rfl, by rintro _ ⟨⟩⟩
    split
    · obtain ⟨episodes, hepisodes⟩ := recordStaleLossGovernorHalt_episodes inner policy nowNs
      split
      · rename_i hrecord
        rw [hrecord] at hepisodes
        exact ⟨episodes, hepisodes, by rintro _ ⟨⟩⟩
      · rename_i hrecord
        rw [hrecord] at hepisodes
        exact ⟨episodes, hepisodes, by rintro _ ⟨⟩; exact hhalt _ _⟩
    · exact ⟨inner.lossHaltEpisodes, rfl, by rintro _ ⟨⟩; exact hhalt _ _⟩
  · exact ⟨inner.lossHaltEpisodes, rfl, by rintro _ ⟨⟩⟩

variable {inner} {inner₁ : Inner} {request : SubmitAdmissionRequest} {nowNs : Nat}
  {evaluation : SubmitAdmissionEvaluation}

omit [DecimalArith] in
theorem authorityRefusal_eq_none (h : authorityRefusal inner request = none) :
    inner.grants.authority.authorizesOrder request.clientOrderId = false ∧
      inner.grants.evidenceFree[request.clientOrderId]? = none := by
  unfold authorityRefusal at h
  simp only [firstRefusal_eq_none, mem_cons, not_mem_nil, or_false, forall_eq_or_imp,
    forall_eq, Bool.or_eq_false_iff] at h
  obtain ⟨⟨hunauthorized, hunheld⟩, -⟩ := h
  refine ⟨hunauthorized, ?_⟩
  rw [← Bool.not_eq_true, ExtTreeMap.contains_iff_mem, SortedMap.notMem_iff_getElem?] at hunheld
  exact hunheld

omit [DecimalArith] in
theorem orderRefusal_eq_none (h : orderRefusal inner request = none) :
    ∀ limits, inner.grants.limits[request.executionClientId]? = some limits →
      inner.grants.count request.executionClientId + 1 ≤ limits.maxOrderCount := by
  intro limits hlimits
  unfold orderRefusal at h
  simp only [firstRefusal_eq_none, mem_cons, not_mem_nil, or_false, forall_eq_or_imp,
    forall_eq] at h
  obtain ⟨-, -, hcount, -⟩ := h
  change inner.liveSubmitApprovalLimits[request.executionClientId]? = some limits at hlimits
  rw [hlimits, Option.any_some, beq_eq_false_iff_ne] at hcount
  exact liveSubmitCountCapOutcome_admitted hcount

/-- **An evaluation refuses the order, or every check before the capital has passed.** -/
theorem evaluate_cases (inner : Inner) (request : SubmitAdmissionRequest) (nowNs : Nat) :
    (∃ episodes result, evaluate inner request nowNs = (inner.withEpisodes episodes, result) ∧
      ∀ evaluation, result = .ok evaluation → evaluation.Refuses) ∨
    ∃ episodes diagnostics inner₁ result, inner.grants.Admissible request ∧
      evaluateOrderCapital (inner.withEpisodes episodes) request nowNs = (inner₁, result) ∧
      evaluate inner request nowNs =
        (inner₁, result.map (·.withLossSnapshotDiagnostics diagnostics)) := by
  unfold evaluate
  cases inner.rollbackOwnershipLatch with
  | some invariant => exact .inl ⟨inner.lossHaltEpisodes, _, rfl, by rintro _ ⟨⟩⟩
  | none =>
    cases hauthority : authorityRefusal inner request with
    | some reason =>
      refine .inl ⟨inner.lossHaltEpisodes, _, rfl, ?_⟩
      rintro _ ⟨⟩
      exact ⟨nofun, rfl, rfl⟩
    | none =>
      obtain ⟨hunauthorized, hunheld⟩ := authorityRefusal_eq_none hauthority
      obtain ⟨episodes, hepisodes, hhalted⟩ := evaluateLoss_cases inner request nowNs
      rcases hloss : evaluateLoss inner request nowNs with ⟨inner₁, result | diagnostics⟩
      · rw [hloss] at hepisodes hhalted
        refine .inl ⟨episodes, result, congrArg (·, result) hepisodes, ?_⟩
        rintro evaluation rfl
        exact hhalted evaluation rfl
      · rw [hloss] at hepisodes
        obtain rfl : inner₁ = inner.withEpisodes episodes := hepisodes
        dsimp only
        cases horder : orderRefusal (inner.withEpisodes episodes) request with
        | some reason =>
          refine .inl ⟨episodes, _, rfl, ?_⟩
          rintro _ ⟨⟩
          exact ⟨nofun, rfl, rfl⟩
        | none =>
          exact .inr ⟨episodes, diagnostics, _, _,
            ⟨hunauthorized, hunheld, orderRefusal_eq_none horder⟩, rfl, rfl⟩

/-- Neither the grants nor the latch have changed. -/
def Inner.KeepsGrants (inner inner₁ : Inner) : Prop :=
  inner₁.grants = inner.grants ∧ inner₁.rollbackOwnershipLatch = inner.rollbackOwnershipLatch

theorem grants_evaluateCapitalAdmissionSubmit {result : CapitalAdmissionSubmitDecision}
    (h : evaluateCapitalAdmissionSubmit inner request nowNs = (inner₁, result)) :
    inner.KeepsGrants inner₁ := by
  unfold evaluateCapitalAdmissionSubmit at h
  split at h <;> cases h <;> exact ⟨rfl, rfl⟩

variable {result : Except SubmitAdmissionError SubmitAdmissionEvaluation}

theorem grants_evaluateOrderCapital
    (h : evaluateOrderCapital inner request nowNs = (inner₁, result)) :
    inner.KeepsGrants inner₁ := by
  unfold evaluateOrderCapital at h
  split at h
  · cases h
    exact ⟨rfl, rfl⟩
  · split at h <;> rename_i heval <;> cases h <;>
      exact grants_evaluateCapitalAdmissionSubmit heval

/-- An evaluation changes no grant and latches nothing. -/
theorem evaluate_grants (h : evaluate inner request nowNs = (inner₁, result)) :
    inner.KeepsGrants inner₁ := by
  rcases evaluate_cases inner request nowNs with
    ⟨episodes, result, heval, -⟩ | ⟨episodes, diagnostics, _, _, -, hcapital, heval⟩
  · cases heval.symm.trans h
    exact ⟨rfl, rfl⟩
  · obtain ⟨rfl, -⟩ := Prod.mk.inj (heval.symm.trans h)
    have hgrants := grants_evaluateOrderCapital hcapital
    exact hgrants

theorem evaluate_admissible (h : evaluate inner request nowNs = (inner₁, .ok evaluation))
    (hadmitted : evaluation.outcome = .admitted) : inner.grants.Admissible request := by
  rcases evaluate_cases inner request nowNs with
    ⟨episodes, result, heval, hrefuses⟩ | ⟨episodes, diagnostics, _, _, hadmissible, -⟩
  · cases heval.symm.trans h
    exact absurd hadmitted (hrefuses evaluation rfl).outcome
  · exact hadmissible

/-- What an evaluation holds: nothing, or the reservation of an admitted entry. -/
def Holds (request : SubmitAdmissionRequest) (evaluation : SubmitAdmissionEvaluation) : Prop :=
  evaluation.rollback = none ∧ evaluation.reservationAttribution = none ∨
    evaluation.outcome = .admitted ∧ request.intentKind = .entry ∧
      ∃ rollback attribution, evaluation.rollback = some rollback ∧
        evaluation.reservationAttribution = some attribution ∧
        attribution.clientOrderId = request.clientOrderId

theorem evaluateCapitalAdmissionSubmit_accepted {acceptance : CapitalAdmissionAcceptance}
    (h : (evaluateCapitalAdmissionSubmit inner request nowNs).2 = .accepted acceptance) :
    acceptance = ⟨none, none⟩ ∨ request.intentKind = .entry ∧
      ∃ rollback attribution, acceptance = ⟨some rollback, some attribution⟩ ∧
        attribution.clientOrderId = request.clientOrderId := by
  unfold evaluateCapitalAdmissionSubmit at h
  split at h
  · cases h
    exact .inl rfl
  · rename_i capital _
    rcases evaluateCapital_cases capital inner.capitalAdmissionStateRevision request nowNs with
      ⟨_, heval, ⟨rfl, -⟩ | ⟨reason, rfl⟩⟩ | ⟨-, -, heval⟩ | ⟨reason, heval⟩ |
      ⟨evidence, state, position, quote, additive, before, -, hkind, -, -, heval⟩ <;>
      rw [heval] at h <;> cases h
    · exact .inl rfl
    · exact .inr ⟨hkind, _, _, rfl, rfl⟩

theorem evaluateOrderCapital_holds
    (h : (evaluateOrderCapital inner request nowNs).2 = .ok evaluation) :
    Holds request evaluation := by
  unfold evaluateOrderCapital at h
  split at h
  · cases h
    exact .inl ⟨rfl, rfl⟩
  · split at h
    · cases h
      exact .inl ⟨rfl, rfl⟩
    · rename_i acceptance heval
      cases h
      rcases evaluateCapitalAdmissionSubmit_accepted (congrArg Prod.snd heval) with
        rfl | ⟨hkind, rollback, attribution, rfl, hid⟩
      · exact .inl ⟨rfl, rfl⟩
      · exact .inr ⟨rfl, hkind, rollback, attribution, rfl, rfl, hid⟩
    · cases h

theorem evaluate_holds (h : evaluate inner request nowNs = (inner₁, .ok evaluation)) :
    Holds request evaluation := by
  rcases evaluate_cases inner request nowNs with
    ⟨episodes, result, heval, hrefuses⟩ |
    ⟨episodes, diagnostics, _, error | evaluation, -, hcapital, heval⟩ <;>
    cases heval.symm.trans h
  · exact .inl ⟨(hrefuses evaluation rfl).rollback, (hrefuses evaluation rfl).attribution⟩
  · have hheld := evaluateOrderCapital_holds (congrArg Prod.snd hcapital)
    exact hheld

omit [DecimalArith] in
/-- A refused evaluation holds nothing. -/
theorem Holds.of_refused (h : Holds request evaluation)
    (hrefused : evaluation.outcome ≠ .admitted) :
    evaluation.rollback = none ∧ evaluation.reservationAttribution = none := by
  rcases h with hnone | ⟨hadmitted, -⟩
  · exact hnone
  · exact absurd hadmitted hrefused

omit [DecimalArith] in
/-- An order is authorised under its own id. -/
theorem Holds.authorizedId_eq (h : Holds request evaluation) :
    authorizedId evaluation.reservationAttribution request.clientOrderId =
      request.clientOrderId := by
  rcases h with ⟨-, hnone⟩ | ⟨-, -, _, attribution, -, hsome, hid⟩
  · rw [hnone]
    rfl
  · rw [hsome]
    exact hid

/-- The authority after an evaluation whose reservation is rolled back. -/
theorem rollback_evaluate_authority (h : evaluate inner request nowNs = (inner₁, result))
    (rollbacks : List CapitalAdmissionReservationRollback) :
    (rollbackCapitalAdmissionReservations inner₁ rollbacks).committedAdmissionAuthority =
      inner.committedAdmissionAuthority := by
  have hgrants := (grants_rollbackReservations inner₁ rollbacks).trans (evaluate_grants h).1
  exact congrArg Grants.authority hgrants

/-! ## Attempts -/

/-- Evaluations of orders one after the other: those admitted, then at most one that is refused. -/
inductive Attempted (nowNs : Nat) :
    Inner → List SubmitAdmissionRequest → List SubmitAdmissionEvaluation → Inner → Prop
  | stop (inner : Inner) (requests : List SubmitAdmissionRequest) :
      Attempted nowNs inner requests [] inner
  | refused {inner : Inner} {request : SubmitAdmissionRequest}
      (requests : List SubmitAdmissionRequest)
      (refuses : ∀ evaluation, (evaluate inner request nowNs).2 = .ok evaluation →
        evaluation.outcome ≠ .admitted) :
      Attempted nowNs inner (request :: requests) [] (evaluate inner request nowNs).1
  | admitted {inner inner' : Inner} {request : SubmitAdmissionRequest}
      {requests : List SubmitAdmissionRequest} {evaluation : SubmitAdmissionEvaluation}
      {evaluations : List SubmitAdmissionEvaluation}
      (evaluated : (evaluate inner request nowNs).2 = .ok evaluation)
      (outcome : evaluation.outcome = .admitted)
      (rest : Attempted nowNs (evaluate inner request nowNs).1 requests evaluations inner') :
      Attempted nowNs inner (request :: requests) (evaluation :: evaluations) inner'

/-- The reservations that evaluations hold. -/
def rollbacksOf (evaluations : List SubmitAdmissionEvaluation) :
    List CapitalAdmissionReservationRollback :=
  evaluations.flatMap (·.rollback.toList)

omit [DecimalArith] in
@[simp] theorem rollbacksOf_nil : rollbacksOf [] = [] := rfl

variable (evaluation)

omit [DecimalArith] in
@[simp] theorem rollbacksOf_cons (evaluations : List SubmitAdmissionEvaluation) :
    rollbacksOf (evaluation :: evaluations) =
      evaluation.rollback.toList ++ rollbacksOf evaluations := rfl

omit [DecimalArith] in
theorem rollbacksOf_singleton :
    rollbacksOf [evaluation] = evaluation.rollback.toList := by simp

namespace Attempted

variable {inner' : Inner} {requests : List SubmitAdmissionRequest}
  {evaluations : List SubmitAdmissionEvaluation}

section

theorem refuse {result : Except SubmitAdmissionError SubmitAdmissionEvaluation}
    (heval : evaluate inner request nowNs = (inner₁, result))
    (hrefused : ∀ evaluation, result = .ok evaluation → evaluation.outcome ≠ .admitted) :
    Attempted nowNs inner (request :: requests) [] inner₁ := by
  obtain rfl : (evaluate inner request nowNs).1 = inner₁ := by rw [heval]
  refine .refused requests ?_
  rw [congrArg Prod.snd heval]
  exact hrefused

variable {evaluation} (heval : evaluate inner request nowNs = (inner₁, .ok evaluation))

include heval

theorem grant (hadmitted : evaluation.outcome = .admitted)
    (rest : Attempted nowNs inner₁ requests evaluations inner') :
    Attempted nowNs inner (request :: requests) (evaluation :: evaluations) inner' := by
  obtain rfl : (evaluate inner request nowNs).1 = inner₁ := by rw [heval]
  exact .admitted (congrArg Prod.snd heval) hadmitted rest

end

theorem grants_eq (h : Attempted nowNs inner requests evaluations inner') :
    inner.KeepsGrants inner' := by
  induction h with
  | stop => exact ⟨rfl, rfl⟩
  | refused => exact evaluate_grants (Prod.snd_eq_iff.mp rfl)
  | admitted evaluated _ _ ih =>
    obtain ⟨hgrants, hlatch⟩ := evaluate_grants (Prod.snd_eq_iff.mp evaluated)
    exact ⟨ih.1.trans hgrants, ih.2.trans hlatch⟩

theorem admissible (h : Attempted nowNs inner requests evaluations inner')
    (hcomplete : evaluations.length = requests.length) :
    ∀ request ∈ requests, inner.grants.Admissible request := by
  induction h with
  | stop _ requests =>
    obtain rfl : requests = [] := length_eq_zero_iff.mp hcomplete.symm
    simp
  | refused => simp at hcomplete
  | admitted evaluated outcome _ ih =>
    intro request hrequest
    rcases mem_cons.mp hrequest with rfl | hrequest
    · exact evaluate_admissible (Prod.snd_eq_iff.mp evaluated) outcome
    · rw [← (evaluate_grants (Prod.snd_eq_iff.mp evaluated)).1]
      exact ih (by simpa using hcomplete) request hrequest

end Attempted

/-! ## Recording -/

/-- The attributions an event carries. -/
def attributionsOf : ReservationRecoveryEvent → List ReservationAttribution
  | .admittedEntry admission => admission.reservation.toList
  | .basketGranted grant => grant.admittedLegs.flatMap (·.reservation.toList)
  | .riskReducingExit _ => []
  | .fill _ => []

/-- What an admitted decision leaves on record: the order is authorised, or it is a risk-reducing
exit whose append failed. -/
def Evidenced (ids : List String) (events : List ReservationRecoveryEvent)
    (evidenceFree : List String) : Prop :=
  evidenceFree = [] ∧ events.flatMap (·.authorizedIds) = ids ∨
    evidenceFree = ids ∧ events = [] ∧ ids.Nodup

theorem replay_single {facts facts' : ReservationRecoveryFacts} {event : ReservationRecoveryEvent}
    (h : facts.apply event = .ok facts') : facts.replay [event] = .ok facts' := by
  simp only [ReservationRecoveryFacts.replay, h]

/-- **A decision that is recorded advances the authority by what is recorded**, and every
attribution on record is the one of the evaluation. -/
theorem recordAdmissionDecision_recorded (inner : Inner) (request : SubmitAdmissionRequest)
    (evaluation : SubmitAdmissionEvaluation) (economics : Option EconomicsAdmission)
    (append : Except String Unit) :
    let out := recordAdmissionDecision inner request evaluation economics append
    ∃ authority, out.inner = inner.withAuthority authority ∧
      inner.committedAdmissionAuthority.replay out.recorded = .ok authority ∧
      ∀ a ∈ out.recorded.flatMap attributionsOf, evaluation.reservationAttribution = some a := by
  have hnone : inner = inner.withAuthority inner.committedAdmissionAuthority := rfl
  unfold recordAdmissionDecision
  split
  · exact ⟨_, hnone, rfl, by simp⟩
  split
  · exact ⟨_, hnone, rfl, by simp⟩
  dsimp only
  split
  · unfold recordAdmittedEntry
    split
    · exact ⟨_, hnone, rfl, by simp⟩
    rename_i authority happly
    split
    · exact ⟨_, hnone, rfl, by simp⟩
    · exact ⟨authority, rfl, replay_single happly, by simp [attributionsOf]⟩
  · exact ⟨_, hnone, rfl, by simp⟩
  · unfold recordRiskReducingExit
    split
    · split
      · exact ⟨_, hnone, rfl, by simp⟩
      rename_i authority happly
      split
      · exact ⟨_, hnone, rfl, by simp⟩
      · exact ⟨authority, rfl, replay_single happly, by simp [attributionsOf]⟩
    · rename_i hrejected
      split
      · exact ⟨_, hnone, rfl, by simp⟩
      · refine ⟨_, hnone, replay_single ?_, by simp [attributionsOf]⟩
        simp only [ReservationRecoveryFacts.apply, if_neg hrejected]

variable {evaluation} {requests : List SubmitAdmissionRequest}
  {evaluations : List SubmitAdmissionEvaluation}

/-- An admitted decision whose recording yields an authority is on record, or evidence-free. -/
theorem recordAdmissionDecision_evidenced {economics : Option EconomicsAdmission}
    {append : Except String Unit} {authority : RecordedAdmissionAuthority}
    (hadmitted : evaluation.outcome = .admitted) (hholds : Holds request evaluation)
    (h : (recordAdmissionDecision inner request evaluation economics append).result =
      .ok authority) :
    Evidenced [request.clientOrderId]
      (recordAdmissionDecision inner request evaluation economics append).recorded
      (if evaluation.reservationAttribution.isNone && authority == .riskReducing false then
        [request.clientOrderId] else []) := by
  unfold recordAdmissionDecision at h ⊢
  split at h; · cases h
  split at h; · cases h
  rw [hadmitted] at h ⊢
  cases hkind : request.intentKind with
  | entry =>
    rw [hkind] at h
    dsimp only at h ⊢
    unfold recordAdmittedEntry at h ⊢
    split at h; · cases h
    split at h; · cases h
    cases h
    refine .inl ⟨by simp, ?_⟩
    simpa [ReservationRecoveryEvent.authorizedIds, admissionDetails] using hholds.authorizedId_eq
  | riskReducingExit =>
    have hattribution : evaluation.reservationAttribution = none := by
      rcases hholds with ⟨-, hnone⟩ | ⟨-, hentry, -⟩
      · exact hnone
      · rw [hkind] at hentry
        cases hentry
    rw [hkind] at h
    unfold recordRiskReducingExit at h ⊢
    dsimp only at h ⊢
    rw [if_pos rfl] at h ⊢
    split at h; · cases h
    split at h
    · cases h
      exact .inr ⟨by simp [hattribution], rfl, by simp⟩
    · cases h
      exact .inl ⟨by simp, by simp [ReservationRecoveryEvent.authorizedIds, admissionDetails]⟩

/-! ## How an admission ends -/

/-- The end of an admission of `requests`: what it held is rolled back, or a permit is granted. -/
inductive Ended (nowNs : Nat) (inner : Inner) (executionClientId : String)
    (requests : List SubmitAdmissionRequest) (events : List ReservationRecoveryEvent)
    (inner' : Inner) : Option SubmitAdmissionPermit → Prop
  | withdrawn {evaluations : List SubmitAdmissionEvaluation} {inner₁ : Inner}
      {authority : ReservationRecoveryFacts}
      (attempted : Attempted nowNs inner requests evaluations inner₁)
      (replayed : inner.committedAdmissionAuthority.replay events = .ok authority)
      (attributed : ∀ a ∈ events.flatMap attributionsOf,
        ∃ e ∈ evaluations, e.reservationAttribution = some a)
      (inner_eq : inner' = (rollbackCapitalAdmissionReservations inner₁
        (rollbacksOf evaluations)).withAuthority authority) :
      Ended nowNs inner executionClientId requests events inner' none
  | granted {evaluations : List SubmitAdmissionEvaluation} {inner₁ : Inner}
      {authority : ReservationRecoveryFacts} {evidenceFree : List String}
      (submitAuthority : SubmitEvidenceAuthority)
      (attempted : Attempted nowNs inner requests evaluations inner₁)
      (nonempty : requests ≠ [])
      (complete : evaluations.length = requests.length)
      (client : ∀ request ∈ requests, request.executionClientId = executionClientId)
      (replayed : inner.committedAdmissionAuthority.replay events = .ok authority)
      (attributed : ∀ a ∈ events.flatMap attributionsOf,
        ∃ e ∈ evaluations, e.reservationAttribution = some a)
      (evidenced : Evidenced (requests.map (·.clientOrderId)) events evidenceFree)
      (counted : inner.grants.orderCount + requests.length ≤ u32Max ∧
        inner.grants.count executionClientId + requests.length ≤ u32Max)
      (capped : ∀ limits, inner.grants.limits[executionClientId]? = some limits →
        inner.grants.count executionClientId + requests.length ≤ limits.maxOrderCount)
      (inner_eq : inner' = (grantPermit (inner₁.withAuthority authority) executionClientId
        requests.length ⟨inner.grants.orderCount + requests.length,
          inner.grants.count executionClientId + requests.length⟩ evidenceFree
        (rollbacksOf evaluations) submitAuthority).1) :
      Ended nowNs inner executionClientId requests events inner'
        (some ⟨rollbacksOf evaluations,
          some ⟨executionClientId, requests.length, evidenceFree⟩, some submitAuthority, false⟩)

/-- The end of an admission that may grant a permit. -/
abbrev EndedBy (nowNs : Nat) (inner : Inner) (executionClientId : String)
    (requests : List SubmitAdmissionRequest)
    (out : Outcome (Except SubmitAdmissionError SubmitAdmissionPermit)) : Prop :=
  Ended nowNs inner executionClientId requests out.recorded out.inner out.result.toOption

theorem Ended.unattempted (nowNs : Nat) (inner : Inner) (executionClientId : String)
    (requests : List SubmitAdmissionRequest) :
    Ended nowNs inner executionClientId requests [] inner none :=
  .withdrawn (.stop inner requests) rfl (by simp) rfl

variable {executionClientId : String}

/-- Evaluations of which nothing is recorded are rolled back. -/
theorem Ended.rolledBack (h : Attempted nowNs inner requests evaluations inner₁) :
    Ended nowNs inner executionClientId requests []
      (rollbackCapitalAdmissionReservations inner₁ (rollbacksOf evaluations)) none := by
  have hauthority : (rollbackCapitalAdmissionReservations inner₁
      (rollbacksOf evaluations)).committedAdmissionAuthority = inner.committedAdmissionAuthority :=
    congrArg Grants.authority ((grants_rollbackReservations _ _).trans h.grants_eq.1)
  exact .withdrawn h rfl (by simp) (withAuthority_self hauthority).symm

theorem Ended.failed {error : SubmitAdmissionError}
    (heval : evaluate inner request nowNs = (inner₁, .error error)) :
    Ended nowNs inner executionClientId [request] [] inner₁ none :=
  .rolledBack (.refuse heval (by rintro _ ⟨⟩))

section

variable {economics : Option EconomicsAdmission} {append : Except String Unit}
  (heval : evaluate inner request nowNs = (inner₁, .ok evaluation))

include heval

variable (executionClientId) in
/-- One evaluation that is not granted: what it holds is rolled back, whatever was recorded. -/
theorem Ended.single {events : List ReservationRecoveryEvent} {authority : ReservationRecoveryFacts}
    (replayed : inner.committedAdmissionAuthority.replay events = .ok authority)
    (attributed : ∀ a ∈ events.flatMap attributionsOf,
      evaluation.reservationAttribution = some a) :
    Ended nowNs inner executionClientId [request] events
      ((rollbackCapitalAdmissionReservations inner₁ evaluation.rollback.toList).withAuthority
        authority) none := by
  by_cases hadmitted : evaluation.outcome = .admitted
  · refine .withdrawn (.grant heval hadmitted (.stop _ [])) replayed ?_ ?_
    · exact fun a ha => ⟨evaluation, mem_singleton_self _, attributed a ha⟩
    · rw [rollbacksOf_singleton]
  · obtain ⟨hnone, hattribution⟩ := (evaluate_holds heval).of_refused hadmitted
    refine .withdrawn (.refuse heval (by rintro _ ⟨⟩; exact hadmitted)) replayed ?_ ?_
    · intro a ha
      have := attributed a ha
      rw [hattribution] at this
      cases this
    · rw [hnone]
      rfl

theorem Ended.unrecorded : Ended nowNs inner executionClientId [request] []
    (rollbackCapitalAdmissionReservations inner₁ evaluation.rollback.toList) none := by
  rw [← withAuthority_self (rollback_evaluate_authority heval evaluation.rollback.toList)]
  exact .single _ heval rfl (by simp)

variable (economics append) in
/-- The decision about an evaluation is recorded, and its authority is the one before with that. -/
theorem recorded_evaluation : ∃ authority,
    let out := recordAdmissionDecision inner₁ request evaluation economics append
    out.inner = inner₁.withAuthority authority ∧
      inner.committedAdmissionAuthority.replay out.recorded = .ok authority ∧
      ∀ a ∈ out.recorded.flatMap attributionsOf, evaluation.reservationAttribution = some a := by
  have hauthority : inner₁.committedAdmissionAuthority = inner.committedAdmissionAuthority :=
    congrArg Grants.authority (evaluate_grants heval).1
  rw [← hauthority]
  exact recordAdmissionDecision_recorded inner₁ request evaluation economics append

theorem admitRejected_ends {reason : AdmissionRejectionReason}
    (hrejected : evaluation.outcome = .rejected reason) :
    EndedBy nowNs inner request.executionClientId [request]
      (admitRejected inner₁ request evaluation reason economics append) := by
  obtain ⟨authority, hinner, hreplay, hattributed⟩ := recorded_evaluation economics append heval
  have hnone : evaluation.rollback = none :=
    ((evaluate_holds heval).of_refused (by rw [hrejected]; rintro ⟨⟩)).1
  have hended := Ended.single request.executionClientId heval hreplay hattributed
  rw [← rollbackReservations_withAuthority, ← hinner, hnone] at hended
  unfold admitRejected
  dsimp only
  rw [hnone]
  split
  · exact hended
  · exact hended

theorem admitCountCapExhausted_ends :
    EndedBy nowNs inner request.executionClientId [request]
      (admitCountCapExhausted inner₁ request evaluation economics append) := by
  unfold admitCountCapExhausted
  dsimp only
  rw [rollbackIfReserved_eq]
  -- What is recorded is a refusal, so it carries no attribution.
  let rejected := (SubmitAdmissionEvaluation.withoutLossHalt (.rejected .countCapExhausted)
    evaluation.admissionNowNs).withLossSnapshotDiagnostics evaluation.lossSnapshotDiagnostics
  obtain ⟨authority, hinner, hreplay, hattributed⟩ := recordAdmissionDecision_recorded
    (rollbackCapitalAdmissionReservations inner₁ evaluation.rollback.toList) request rejected
    economics append
  rw [rollback_evaluate_authority heval] at hreplay
  have hended := Ended.single request.executionClientId heval hreplay
    fun a ha => absurd (hattributed a ha) nofun
  rw [← hinner] at hended
  split
  · exact hended
  · exact hended

theorem admitCounted_ends (hadmitted : evaluation.outcome = .admitted)
    {values : SubmitAdmissionCounterValues}
    (hvalues : checkedAdmissionCounterValues inner₁.admittedOrderCount
      (inner₁.executionClientCount request.executionClientId) 1 = some values) :
    EndedBy nowNs inner request.executionClientId [request]
      (admitCounted inner₁ request evaluation economics append values) := by
  have hgrants := (evaluate_grants heval).1
  obtain ⟨hcount, hclient, rfl⟩ := checkedAdmissionCounterValues_eq_some.mp hvalues
  change inner₁.grants.orderCount + 1 ≤ u32Max at hcount
  change inner₁.grants.count request.executionClientId + 1 ≤ u32Max at hclient
  obtain ⟨authority, hinner, hreplay, hattributed⟩ := recorded_evaluation economics append heval
  have hwithdrawn := Ended.single request.executionClientId heval hreplay hattributed
  rw [← rollbackReservations_withAuthority, ← hinner, ← rollbackIfReserved_eq] at hwithdrawn
  unfold admitCounted
  dsimp only
  split
  · exact hwithdrawn
  rename_i recordedAuthority hresult
  split
  · exact hwithdrawn
  rename_i submitAuthority hsubmit
  rw [hgrants] at hcount hclient
  have hsame : SubmitAdmissionCounterValues.mk (inner₁.admittedOrderCount + 1)
      (inner₁.executionClientCount request.executionClientId + 1) =
        ⟨inner.grants.orderCount + 1, inner.grants.count request.executionClientId + 1⟩ := by
    rw [← hgrants]
    rfl
  have hgranted := Ended.granted submitAuthority (.grant heval hadmitted (.stop _ []))
    (cons_ne_nil _ _) rfl (by simp) hreplay
    (fun a ha => ⟨evaluation, mem_singleton_self _, hattributed a ha⟩)
    (recordAdmissionDecision_evidenced hadmitted (evaluate_holds heval) hresult)
    ⟨hcount, hclient⟩ (evaluate_admissible heval hadmitted).capped rfl
  rw [rollbacksOf_singleton] at hgranted
  rw [hsame, hinner]
  exact hgranted

end

section

variable (inner request nowNs) (economics : Option EconomicsAdmission) (append : Except String Unit)

/-- **An evaluation that consumes no capacity withdraws.** -/
theorem evaluateAndRecord_ends (executionClientId : String) :
    let out := evaluateAndRecordWithoutConsumingCapacityAt inner request economics nowNs append
    Ended nowNs inner executionClientId [request] out.recorded out.inner none := by
  unfold evaluateAndRecordWithoutConsumingCapacityAt withEvaluation
  split
  · exact .unattempted nowNs inner _ _
  split
  · rename_i heval
    exact .failed heval
  rename_i heval
  split
  · rw [rollbackIfReserved_eq]
    exact .unrecorded heval
  obtain ⟨authority, hinner, hreplay, hattributed⟩ := recorded_evaluation economics append heval
  dsimp only
  rw [hinner, rollbackIfReserved_eq, rollbackReservations_withAuthority]
  split <;> exact .single _ heval hreplay hattributed

/-- **Admitting one order grants a permit, or withdraws.** -/
theorem admitAtInner_ends : EndedBy nowNs inner request.executionClientId [request]
    (admitAtInner inner request economics nowNs append) := by
  unfold admitAtInner withEvaluation
  split
  · exact .unattempted nowNs inner _ _
  split
  · rename_i heval
    exact .failed heval
  rename_i heval
  split
  · rw [rollbackIfReserved_eq]
    exact .unrecorded heval
  dsimp only
  split
  · rename_i hrejected
    exact admitRejected_ends heval hrejected
  rename_i hadmitted
  split
  · exact admitCountCapExhausted_ends heval
  · rename_i hvalues
    exact admitCounted_ends heval hadmitted hvalues

end

/-! ## Baskets -/

/-- **The loop over a basket is an attempt at its claims.** -/
theorem basketLoop_attempted (strategyId executionClientId : String) (nowNs : Nat)
    (claims : List BasketSubmitSlotClaim) (inner : Inner)
    (rollbacks : List CapitalAdmissionReservationRollback)
    (attributions : List (Option ReservationAttribution)) :
    let requests := claims.map (basketSubmitRequest strategyId executionClientId)
    match basketLoop strategyId executionClientId nowNs inner rollbacks attributions claims with
    | .failed inner' _ => ∃ evaluations inner₁, Attempted nowNs inner requests evaluations inner₁ ∧
        inner' = rollbackCapitalAdmissionReservations inner₁ (rollbacks ++ rollbacksOf evaluations)
    | .rejected inner' rollbacks' _ => ∃ evaluations,
        Attempted nowNs inner requests evaluations inner' ∧
        rollbacks' = rollbacks ++ rollbacksOf evaluations
    | .admitted inner' rollbacks' attributions' => ∃ evaluations,
        Attempted nowNs inner requests evaluations inner' ∧
        evaluations.length = requests.length ∧ rollbacks' = rollbacks ++ rollbacksOf evaluations ∧
        attributions' = attributions ++ evaluations.map (·.reservationAttribution) := by
  induction claims generalizing inner rollbacks attributions with
  | nil => exact ⟨[], .stop _ _, rfl, by simp, by simp⟩
  | cons claim claims ih =>
    rw [map_cons, basketLoop]
    generalize basketSubmitRequest strategyId executionClientId claim = request
    intro requests
    rcases heval : evaluate inner request nowNs with ⟨inner₁, error | evaluation⟩
    · exact ⟨[], _, .refuse heval (by rintro _ ⟨⟩), by simp⟩
    · dsimp only
      by_cases hadmitted : evaluation.outcome = .admitted
      · cases evaluation.validate with
        | error invariant =>
          exact ⟨[evaluation], _, .grant heval hadmitted (.stop _ _), by simp⟩
        | ok _ =>
          have hrest := ih inner₁ (rollbacks ++ evaluation.rollback.toList)
            (attributions ++ [evaluation.reservationAttribution])
          dsimp only at hrest ⊢
          rw [if_pos hadmitted]
          split <;> rename_i hloop <;> rw [hloop] at hrest <;> dsimp only at hrest
          · obtain ⟨evaluations, inner₂, hattempted, hinner⟩ := hrest
            exact ⟨evaluation :: evaluations, inner₂, .grant heval hadmitted hattempted,
              by rw [hinner, rollbacksOf_cons, append_assoc]⟩
          · obtain ⟨evaluations, hattempted, hrollbacks⟩ := hrest
            exact ⟨evaluation :: evaluations, .grant heval hadmitted hattempted,
              by rw [hrollbacks, rollbacksOf_cons, append_assoc]⟩
          · obtain ⟨evaluations, hattempted, hcomplete, hrollbacks, hattributions⟩ := hrest
            refine ⟨evaluation :: evaluations, .grant heval hadmitted hattempted, ?_,
              by rw [hrollbacks, rollbacksOf_cons, append_assoc], by simp [hattributions]⟩
            rw [length_cons, length_cons, hcomplete]
      · have hnone := ((evaluate_holds heval).of_refused hadmitted).1
        cases evaluation.validate with
        | error invariant =>
          exact ⟨[], _, .refuse heval (by rintro _ ⟨⟩; exact hadmitted), by simp [hnone]⟩
        | ok _ =>
          rw [if_neg hadmitted]
          exact ⟨[], .refuse heval (by rintro _ ⟨⟩; exact hadmitted), by simp⟩

variable {claims : List BasketSubmitSlotClaim}

/-- Admitted orders hold the reservations of their own ids. -/
theorem Attempted.holds {nowNs : Nat} {inner inner' : Inner}
    {requests : List SubmitAdmissionRequest} (h : Attempted nowNs inner requests evaluations inner')
    (hcomplete : evaluations.length = requests.length) :
    Forall₂ Holds requests evaluations := by
  induction h with
  | stop _ requests =>
    obtain rfl : requests = [] := length_eq_zero_iff.mp hcomplete.symm
    exact .nil
  | refused => simp at hcomplete
  | admitted evaluated _ _ ih => 
    exact .cons (evaluate_holds (Prod.snd_eq_iff.mp evaluated)) (ih (by simpa using hcomplete))

omit [DecimalArith] in
/-- The legs of a granted basket authorise the orders of its claims. -/
theorem basketLegs_authorizedIds (strategyId executionClientId : String)
    (h : Forall₂ Holds (claims.map (basketSubmitRequest strategyId executionClientId))
      evaluations) :
    (basketLegs claims (evaluations.map (·.reservationAttribution))).map
        (fun leg => authorizedId leg.reservation leg.clientOrderId) =
      claims.map (·.clientOrderId) := by
  induction claims generalizing evaluations with
  | nil => simp [basketLegs]
  | cons claim claims ih =>
    cases h with
    | @cons _ evaluation _ evaluations hholds hrest =>
      have := ih hrest
      simp only [basketLegs, map_map, map_cons, zip_cons_cons] at this ⊢
      rw [this]
      exact congrArg (· :: _) hholds.authorizedId_eq

omit [DecimalArith] in
/-- Every attribution of a basket's legs is one of the evaluations. -/
theorem mem_basketLegs {a : ReservationAttribution}
    (h : a ∈ (basketLegs claims (evaluations.map (·.reservationAttribution))).flatMap
      (·.reservation.toList)) : ∃ e ∈ evaluations, e.reservationAttribution = some a := by
  obtain ⟨leg, hleg, ha⟩ := mem_flatMap.mp h
  obtain ⟨⟨claim, reservation⟩, hmem, rfl⟩ := mem_map.mp hleg
  obtain ⟨e, he, heq⟩ := mem_map.mp (of_mem_zip hmem).2
  exact ⟨e, he, heq.trans (by simpa using ha)⟩

section

variable {strategyId : String}

theorem grantBasket_ends (details : BasketAdmissionDetails) (append : Except String Unit)
    (hrequests : claims.map (basketSubmitRequest strategyId executionClientId) = requests)
    (h : Attempted nowNs inner requests evaluations inner₁) (hnonempty : claims ≠ [])
    (hcomplete : evaluations.length = requests.length)
    (hcounted : inner.grants.orderCount + claims.length ≤ u32Max ∧
      inner.grants.count executionClientId + claims.length ≤ u32Max)
    (hcapped : ∀ limits, inner.grants.limits[executionClientId]? = some limits →
      inner.grants.count executionClientId + claims.length ≤ limits.maxOrderCount) :
    EndedBy nowNs inner executionClientId requests
      (grantBasket inner₁ executionClientId claims details (rollbacksOf evaluations)
        (evaluations.map (·.reservationAttribution))
        ⟨inner.grants.orderCount + claims.length,
          inner.grants.count executionClientId + claims.length⟩ append) := by
  have hauthority : inner₁.committedAdmissionAuthority = inner.committedAdmissionAuthority :=
    congrArg Grants.authority h.grants_eq.1
  have hids := basketLegs_authorizedIds strategyId executionClientId
    (hrequests ▸ h.holds hcomplete)
  have hclaims : requests.map (·.clientOrderId) = claims.map (·.clientOrderId) := by
    rw [← hrequests, map_map]
    rfl
  have hclient : ∀ request ∈ requests, request.executionClientId = executionClientId := by
    intro request hrequest
    obtain ⟨claim, -, rfl⟩ := mem_map.mp (hrequests ▸ hrequest)
    rfl
  have hlength : requests.length = claims.length := by rw [← hrequests, length_map]
  have hsome : requests ≠ [] := by rwa [← hrequests, ne_eq, map_eq_nil_iff]
  unfold grantBasket
  dsimp only
  split
  · exact .rolledBack h
  rename_i authority happly
  rw [hauthority] at happly
  rw [← hlength] at hcounted hcapped ⊢
  split
  · refine .granted .committedBasket h hsome hcomplete hclient (replay_single happly)
      ?_ ?_ hcounted hcapped rfl
    · intro a ha
      rw [flatMap_singleton] at ha
      exact mem_basketLegs ha
    · rw [hclaims]
      exact .inl ⟨rfl, (flatMap_singleton _ _).trans hids⟩
  · split
    · have hnodup := (ReservationRecoveryFacts.apply_authorizes happly).nodup
      rw [ReservationRecoveryEvent.authorizedIds, hids] at hnodup
      rw [← withAuthority_self hauthority]
      refine .granted .riskReducing h hsome hcomplete hclient rfl (by simp) ?_
        hcounted hcapped rfl
      rw [hclaims]
      exact .inr ⟨rfl, rfl, hnodup⟩
    · exact .rolledBack h

/-- **Admitting a basket grants one permit for all its claims, or withdraws.** -/
theorem reserveBasket_ends (inner : Inner) (executionClientId : String)
    (claims : List BasketSubmitSlotClaim) (details : BasketAdmissionDetails) (nowNs : Nat)
    (append : Except String Unit) :
    EndedBy nowNs inner executionClientId
      (claims.map (basketSubmitRequest details.strategyId executionClientId))
      (reserveBasketSubmitSlotsWithEvidence inner executionClientId claims details nowNs
        append) := by
  unfold reserveBasketSubmitSlotsWithEvidence
  split
  · exact .unattempted _ _ _ _
  split
  · exact .unattempted _ _ _ _
  rename_i hclaims
  have hloop := basketLoop_attempted details.strategyId executionClientId nowNs claims inner [] []
  dsimp only at hloop ⊢
  split <;> rename_i hresult <;> rw [hresult] at hloop <;> dsimp only at hloop
  · obtain ⟨evaluations, inner₁, hattempted, rfl⟩ := hloop
    exact .rolledBack hattempted
  · obtain ⟨evaluations, hattempted, rfl⟩ := hloop
    split <;> exact .rolledBack hattempted
  · obtain ⟨evaluations, hattempted, hcomplete, rfl, rfl⟩ := hloop
    obtain ⟨hgrants, -⟩ := hattempted.grants_eq
    rw [nil_append, nil_append]
    split
    · exact .rolledBack hattempted
    rename_i inner₁ hcapped
    split
    · exact .rolledBack hattempted
    rename_i values hvalues
    obtain ⟨hcount, hclient, rfl⟩ := checkedAdmissionCounterValues_eq_some.mp hvalues
    change inner₁.grants.orderCount + claims.length ≤ u32Max at hcount
    change inner₁.grants.count executionClientId + claims.length ≤ u32Max at hclient
    have hvalues' : SubmitAdmissionCounterValues.mk (inner₁.admittedOrderCount + claims.length)
        (inner₁.executionClientCount executionClientId + claims.length) =
          ⟨inner.grants.orderCount + claims.length,
            inner.grants.count executionClientId + claims.length⟩ := by
      rw [← hgrants]
      rfl
    rw [hvalues']
    rw [hgrants] at hcount hclient
    refine grantBasket_ends details append rfl hattempted (by simpa using hclaims) hcomplete
      ⟨hcount, hclient⟩ ?_
    intro limits hlimits
    rw [← hgrants] at hlimits ⊢
    change inner₁.liveSubmitApprovalLimits[executionClientId]? = some limits at hlimits
    rw [hlimits, Option.elim_some, not_not] at hcapped
    refine liveSubmitCountCapOutcome_admitted ?_
    change liveSubmitCountCapOutcome (inner₁.executionClientCount executionClientId) _ _ ≠ _
    rw [hcapped]
    nofun

end

end

end BoltV3.Submit
