import BoltV3.Submit.Book
import BoltV3.Submit.Lifecycle

/-!
# The admission state represents a book

`Represents terms market inner book`: the client-order index of `inner` is the records of the book,
the live reservations of its ledger are the entries of the book in some order, and gate and revision
agree. Every function of the source that touches the capital state is a run of moves of the book.
The configuration `terms` and the `market` of the projection are parameters: what a function leaves
of them is part of its theorem.
-/

namespace BoltV3.Submit

open Lib Loss Capital Evidence
open Std (ExtTreeMap)

/-! ## The relation -/

structure RepresentsCapital (capital : SubmitCapitalAdmissionState) (book : Book) : Prop where
  pool : capital.capitalPool.poolId = book.poolId
  index : capital.clientOrderReservations = book.orders.map fun _ => Holding.record
  ledger : SortedMap.Lists Holding.entry book.orders capital.gate.liveReservations
  reconciled : capital.gate.reconciliationComplete = book.gate.reconciled
  captureSource : capital.captureFailureSource = book.gate.captureFailure.map Prod.fst
  captureObserved : capital.captureFailureObservedAtNs = book.gate.captureFailure.map Prod.snd
  fillFailed : capital.fillEvidenceIntegrityFailed = book.gate.fillFailed

structure Represents (terms : Option CapitalTerms) (market : Option Market) (inner : Inner)
    (book : Book) : Prop where
  terms_eq : inner.terms = terms
  market_eq : inner.market = market
  revision : inner.capitalAdmissionStateRevision = book.revision
  absent : inner.capitalAdmission = none → book.orders = ∅ ∧ book.gate = .initial
  present : ∀ capital, inner.capitalAdmission = some capital → RepresentsCapital capital book

/-- The test a total of liabilities passes: under exact decimals it is within the budget, unless
the configuration leaves none. -/
def termsWithin [arith : DecimalArith] (terms : Option CapitalTerms) (total : ℚ) : Prop :=
  arith.Exact → ∀ t, terms = some t → 0 ≤ t.budget → total ≤ t.budget

theorem termsWithin_down [DecimalArith] {terms : Option CapitalTerms} :
    ∀ a b, a ≤ b → termsWithin terms b → termsWithin terms a :=
  fun _ _ hle h exact t ht hbudget => hle.trans (h exact t ht hbudget)

/-- The moves of the book under the budget of `terms`. -/
abbrev BookStep [DecimalArith] (terms : Option CapitalTerms) : Book → Move → Book → Prop :=
  Book.Step (termsWithin terms)

section

variable {terms : Option CapitalTerms} {market market' : Option Market} {inner inner' : Inner}
  {book : Book} {capital capital' : SubmitCapitalAdmissionState} {id : String} {holding : Holding}

section

variable (h : RepresentsCapital capital book)

include h

theorem RepresentsCapital.getElem?_index (id : String) :
    capital.clientOrderReservations[id]? = (book.orders[id]?).map Holding.record := by
  rw [h.index, ExtTreeMap.getElem?_map]

theorem RepresentsCapital.nodup_keys :
    (capital.gate.liveReservations.map LiveReservation.key).Nodup :=
  h.ledger.nodup_iff.mpr book.distinct

/-- A name that the ledger has not taken is not the name of an order. -/
theorem RepresentsCapital.fresh_name
    {poolId requestId : String} (hfresh : capital.gate.duplicate poolId requestId = false)
    (held : book.orders[id]? = some holding) :
    holding.name ≠ (poolId, requestId) := by
  intro hname
  refine ReservationLedger.duplicate_eq_false.mp hfresh
    (List.mem_map.mpr ⟨holding.entry, ?_, hname⟩)
  exact h.ledger.mem_iff.mpr ⟨id, holding, held, rfl⟩

section

variable (held : book.orders[id]? = some holding)

include held

/-- The ledger has the entry of an order under its name. -/
theorem RepresentsCapital.find? :
    capital.gate.liveReservations.find? (·.named holding.record.attribution.capitalPoolId
      holding.record.attribution.submitReservationId) = some holding.entry := by
  have hmem : holding.entry ∈ capital.gate.liveReservations :=
    h.ledger.mem_iff.mpr ⟨id, holding, held, rfl⟩
  exact find?_named h.nodup_keys hmem

theorem RepresentsCapital.retainedReservation :
    capital.gate.retainedReservation holding.record.attribution.capitalPoolId
      holding.record.attribution.collateralGroupId
      holding.record.attribution.submitReservationId = .ok holding.entry := by
  unfold ReservationLedger.retainedReservation
  rw [h.find? held]
  exact if_neg (not_not.mpr rfl)

theorem RepresentsCapital.erased :
    SortedMap.Lists Holding.entry (book.orders.erase id)
      (capital.gate.liveReservations.eraseP (·.named holding.record.attribution.capitalPoolId
        holding.record.attribution.submitReservationId)) :=
  h.ledger.erase held (perm_cons_eraseP (h.find? held))

end

/-- Every entry of the ledger is in the pool, with a positive liability. -/
theorem RepresentsCapital.entries {r : LiveReservation} (hr : r ∈ capital.gate.liveReservations) :
    r.poolId = capital.capitalPool.poolId ∧ 0 < r.liability.value := by
  obtain ⟨id, holding, held, rfl⟩ := h.ledger.mem_iff.mp hr
  exact ⟨by rw [h.pool]; exact book.pooled id holding held, holding.positive⟩

theorem RepresentsCapital.total : reservedValue capital.gate.liveReservations = book.total :=
  h.ledger.sum_eq _

/-! ## Closing -/

theorem RepresentsCapital.close : RepresentsCapital capital.invalidateReconciliation book.close :=
  ⟨h.pool, h.index, h.ledger, rfl, h.captureSource, h.captureObserved, h.fillFailed⟩

end

variable (h : Represents terms market inner book)

include h

/-- Only the capital state and the revision are represented. -/
theorem Represents.congr (hcapital : inner'.capitalAdmission = inner.capitalAdmission)
    (hrevision : inner'.capitalAdmissionStateRevision = inner.capitalAdmissionStateRevision) :
    Represents terms market inner' book where
  terms_eq := by rw [Inner.terms, hcapital, ← h.terms_eq, Inner.terms]
  market_eq := by rw [Inner.market, hcapital, ← h.market_eq, Inner.market]
  revision := by rw [hrevision, h.revision]
  absent := by rw [hcapital]; exact h.absent
  present := by rw [hcapital]; exact h.present

theorem Represents.market_of
    (hcapital : inner.capitalAdmission = some capital) : capital.market = market := by
  rw [← h.market_eq, Inner.market, hcapital, Option.bind_some]

theorem Represents.of_some (hcapital : inner.capitalAdmission = some capital) {book' : Book}
    (hinner' : inner'.capitalAdmission = some capital') (hterms : capital'.terms = capital.terms)
    (hmarket : capital'.market = market')
    (hrevision : inner'.capitalAdmissionStateRevision = book'.revision)
    (hrep : RepresentsCapital capital' book') : Represents terms market' inner' book' where
  terms_eq := by rw [← h.terms_eq, Inner.terms, Inner.terms, hinner', hcapital, Option.map_some,
    Option.map_some, hterms]
  market_eq := by rw [Inner.market, hinner', Option.bind_some, hmarket]
  revision := hrevision
  absent := by rw [hinner']; rintro ⟨⟩
  present := by
    rw [hinner']
    rintro _ ⟨⟩
    exact hrep

/-- A state whose gate is closed and whose revision is the next, if there is one. -/
theorem Represents.closed
    (hterms : inner'.terms = inner.terms) (hmarket : inner'.market = inner.market)
    (habsent : inner'.capitalAdmission = none → inner.capitalAdmission = none)
    (hpresent : ∀ capital', inner'.capitalAdmission = some capital' →
      RepresentsCapital capital' book.close) (hrevision : inner'.capitalAdmissionStateRevision =
      saturatingSucc u64Max inner.capitalAdmissionStateRevision) :
    Represents terms market inner' book.close where
  terms_eq := by rw [hterms, h.terms_eq]
  market_eq := by rw [hmarket, h.market_eq]
  revision := by rw [hrevision, h.revision]; rfl
  absent := by
    intro hnone
    obtain ⟨horders, hgate⟩ := h.absent (habsent hnone)
    refine ⟨horders, ?_⟩
    change book.gate.close = Gate.initial
    rw [hgate]
    rfl
  present := hpresent

theorem Represents.close : Represents terms market inner.close book.close := by
  refine h.closed ?_ ?_ (by simp [Inner.close]) ?_ rfl
  · simp only [Inner.terms, Inner.close, Option.map_map]
    rfl
  · simp only [Inner.market, Inner.close, Option.bind_map]
    rfl
  · intro capital' hcapital'
    obtain ⟨capital, hcapital, rfl⟩ := Option.map_eq_some_iff.mp hcapital'
    exact (h.present capital hcapital).close

theorem Represents.latch :
    Represents terms market (latchSubmitAdmissionRollbackOwnershipFailure inner) book.close :=
  h.close.congr rfl rfl

end

/-! ## Reserving -/

/-- A rollback names the reservation of an order. -/
structure CapitalAdmissionReservationRollback.Names
    (rollback : CapitalAdmissionReservationRollback) (holding : Holding) : Prop where
  order : holding.record.attribution.clientOrderId = rollback.clientOrderId
  reservation : holding.record.attribution.submitReservationId = rollback.submitReservationId
  pool : holding.record.attribution.capitalPoolId = rollback.poolId

section

variable [arith : DecimalArith] {terms : Option CapitalTerms} {market : Option Market}
  {inner : Inner} {book : Book} {capital : SubmitCapitalAdmissionState}

/-- The holding of an entry that is reserved. -/
def entryHolding (capital : SubmitCapitalAdmissionState) (revision : Nat)
    (request : SubmitAdmissionRequest) (evidence : CompiledOrderAdmissionEvidence)
    (state : NtDerivedCapitalAdmissionState) (quote : LiabilityQuote) (additive : Decimal)
    (nowNs : Nat) (positive : 0 < quote.reservedLiability.value) : Holding :=
  { record := reservedRecord
      (entryAttribution capital request evidence state quote additive nowNs) (revision + 1)
      request.instrumentId evidence.side
    liability := quote.reservedLiability, observedAtNs := nowNs, positive := positive }

/-- A reservation that the ledger accepts fits the budget of the terms. -/
theorem RepresentsCapital.fits (h : RepresentsCapital capital book)
    (hterms : terms = some capital.terms) {request : ReservationRequest} {before : Decimal}
    (hok : capital.gate.Reservable capital.capitalPool request before) :
    termsWithin terms (book.total + request.liability.value) := by
  rintro exact t ht -
  rw [hterms] at ht
  cases ht
  have hbudget := reserve_within_budget exact (fun r hr => (h.entries hr).2.le) hok
  have hall : capital.gate.liveReservations.filter (·.poolId == capital.capitalPool.poolId) =
      capital.gate.liveReservations :=
    List.filter_eq_self.mpr fun r hr => by simp [(h.entries hr).1]
  rw [hall, h.total] at hbudget
  exact hbudget

/-- The reserving step is a move of the book. -/
theorem RepresentsCapital.reserve (h : RepresentsCapital capital book)
    (hterms : terms = some capital.terms) {request : SubmitAdmissionRequest} {nowNs : Nat}
    {evidence : CompiledOrderAdmissionEvidence} {state : NtDerivedCapitalAdmissionState}
    {position : Decimal} {quote : LiabilityQuote} {additive before : Decimal}
    (hchecked : CheckedOrder capital request evidence state position)
    (headroom : book.revision + 1 ≤ u64Max)
    (hreserves : Reserves capital.sequenced request nowNs evidence state quote additive before) :
    ∃ book' holding,
      RepresentsCapital (reservedState capital.sequenced book.revision request evidence state quote
        additive nowNs) book' ∧ book'.revision = book.revision + 1 ∧
      BookStep terms book (.reserve request.clientOrderId holding) book' ∧
      holding.record.attribution =
        entryAttribution capital.sequenced request evidence state quote additive nowNs ∧
      holding.liability = quote.reservedLiability := by
  have hok := hreserves.reservable
  have hpositive : 0 < quote.reservedLiability.value := by
    have := hok.positive
    rwa [Decimal.le_iff_value, Decimal.value_zero, not_le] at this
  let holding := entryHolding capital.sequenced book.revision request evidence state quote additive
    nowNs hpositive
  have hfresh : book.orders[request.clientOrderId]? = none := by
    have := hchecked.fresh
    rwa [h.getElem?_index, Option.map_eq_none_iff] at this
  let book' := book.insert request.clientOrderId holding rfl h.pool
    (fun other held _ hheld => h.fresh_name hok.fresh hheld) headroom
  refine ⟨book', holding, ?_, rfl, ?_, rfl, rfl⟩
  · refine ⟨h.pool, ?_, h.ledger.insert hfresh holding, h.reconciled, h.captureSource,
      h.captureObserved, h.fillFailed⟩
    change capital.clientOrderReservations.insert request.clientOrderId holding.record =
      (book.orders.insert request.clientOrderId holding).map fun _ => Holding.record
    rw [SortedMap.map_insert, h.index]
  · refine .reserve hfresh ?_ ?_ ⟨rfl, rfl, rfl⟩ (h.fits hterms hok) rfl rfl rfl
    · rw [← h.reconciled]
      exact hchecked.reconciled
    · have := hchecked.captured
      rwa [h.captureSource, Option.map_eq_none_iff] at this

/-- **What evaluating an order's capital does to the book**: it reserves the order, or moves
nothing, or closes an exhausted book. -/
theorem evaluateCapitalAdmissionSubmit_moves (h : Represents terms market inner book)
    (request : SubmitAdmissionRequest) (nowNs : Nat) :
    (∃ book' holding,
      Represents terms market (evaluateCapitalAdmissionSubmit inner request nowNs).1 book' ∧
      BookStep terms book (.reserve request.clientOrderId holding) book' ∧
      request.intentKind = .entry ∧
      EntryReserved inner request nowNs holding.record.attribution holding.liability ∧
      ∃ rollback, rollback.Names holding ∧ rollback.clientOrderId = request.clientOrderId ∧
        (evaluateCapitalAdmissionSubmit inner request nowNs).2 =
          .accepted ⟨some rollback, some holding.record.attribution⟩) ∨
    (Represents terms market (evaluateCapitalAdmissionSubmit inner request nowNs).1 book ∧
      ∀ acceptance, (evaluateCapitalAdmissionSubmit inner request nowNs).2 = .accepted acceptance →
        acceptance = ⟨none, none⟩ ∧
          (inner.capitalAdmission = none ∨ request.intentKind = .riskReducingExit)) ∨
    (Represents terms market (evaluateCapitalAdmissionSubmit inner request nowNs).1 book.close ∧
      book.revision = u64Max ∧
        ∃ reason, (evaluateCapitalAdmissionSubmit inner request nowNs).2 = .rejected reason) := by
  unfold evaluateCapitalAdmissionSubmit
  cases hcapital : inner.capitalAdmission with
  | none => exact .inr (.inl ⟨h, by rintro _ ⟨⟩; exact ⟨rfl, .inl rfl⟩⟩)
  | some capital =>
    have hrep := h.present capital hcapital
    have hmarket := h.market_of hcapital
    have hterms : terms = some capital.terms := by
      rw [← h.terms_eq, Inner.terms, hcapital, Option.map_some]
    dsimp only
    rcases evaluateCapital_cases capital inner.capitalAdmissionStateRevision request nowNs with
      ⟨decision, heval, hdecision⟩ | ⟨hexhausted, -, heval⟩ | ⟨reason, heval⟩ |
      ⟨evidence, state, position, quote, additive, before, hchecked, hkind, hheadroom, hreserves,
        heval⟩
    · rw [heval]
      refine .inr (.inl ⟨h.of_some hcapital rfl rfl hmarket h.revision hrep, ?_⟩)
      rcases hdecision with ⟨rfl, hkind⟩ | ⟨reason, rfl⟩ <;> rintro _ ⟨⟩
      exact ⟨rfl, .inr hkind⟩
    · rw [heval]
      rw [h.revision] at hexhausted
      have hmax : book.revision = u64Max := le_antisymm book.bounded hexhausted
      refine .inr (.inr ⟨h.of_some hcapital rfl rfl hmarket ?_ hrep.close, hmax, _, rfl⟩)
      exact h.revision.trans (saturatingSucc_exhausted (by omega)).symm
    · rw [heval]
      refine .inr (.inl ⟨h.of_some hcapital rfl rfl hmarket h.revision ?_,
        nofun⟩)
      exact ⟨hrep.pool, hrep.index, hrep.ledger, hrep.reconciled, hrep.captureSource,
        hrep.captureObserved, hrep.fillFailed⟩
    · rw [heval, h.revision]
      rw [h.revision] at hheadroom
      obtain ⟨book', holding, hrep', hrevision, hstep, hattribution, hliability⟩ :=
        hrep.reserve hterms hchecked hheadroom hreserves
      refine .inl ⟨book', holding,
        h.of_some hcapital rfl rfl hmarket hrevision.symm hrep', hstep, hkind,
        ⟨capital, evidence, state, position, quote, additive, before, hcapital, hchecked, hreserves,
          hattribution, hliability⟩,
        ⟨request.clientOrderId, reservationIdOf capital.sequenced request,
          capital.sequenced.capitalPool.poolId, nowNs⟩, ?_, rfl, ?_⟩
      · constructor <;> rw [hattribution] <;> rfl
      · rw [hattribution]; rfl

end

end BoltV3.Submit
