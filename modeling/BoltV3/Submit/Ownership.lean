import BoltV3.Submit.Represents

/-!
# Ownership of reservations

A permit re-finds its reservations by identity and phase when it is rolled back or crosses the
submit boundary. `Owned book rollbacks` says that they are in the book as they were granted, each
under a client order id of its own. Owned reservations are rolled back and invoked without failure
while the revision has room for them, and no other move of the book takes them away.
-/

namespace BoltV3.Submit

open Lib Loss Capital Evidence List
open Std (ExtTreeMap)

/-- The reservations are in the book as they were granted. -/
structure Owned (book : Book) (rollbacks : List CapitalAdmissionReservationRollback) : Prop where
  held : ∀ rollback ∈ rollbacks, ∃ holding, book.orders[rollback.clientOrderId]? = some holding ∧
    holding.record.phase = .reserved ∧ rollback.Names holding
  nodup : (rollbacks.map (·.clientOrderId)).Nodup

namespace Owned

variable {book : Book} {rollback : CapitalAdmissionReservationRollback}
  {rollbacks others : List CapitalAdmissionReservationRollback}

theorem nil (book : Book) : Owned book [] := ⟨by simp, by simp⟩

theorem sublist (h : Owned book rollbacks) (hsub : others.Sublist rollbacks) : Owned book others :=
  ⟨fun r hr => h.held r (hsub.subset hr), h.nodup.sublist (hsub.map _)⟩

theorem perm (h : Owned book rollbacks) (hperm : others.Perm rollbacks) : Owned book others :=
  ⟨fun r hr => h.held r (hperm.subset hr), (hperm.map _).nodup_iff.mpr h.nodup⟩

/-- An owned order holds capital. -/
theorem orders_ne_empty (h : Owned book (rollback :: rollbacks)) : book.orders ≠ ∅ := by
  intro hempty
  obtain ⟨holding, held, -⟩ := h.held rollback mem_cons_self
  rw [hempty] at held
  simp at held

variable {within : ℚ → Prop}

/-- A move that concerns no owned order leaves them all owned. -/
theorem step {before after : Book} {move : Move}
    (h : Owned before rollbacks) (hstep : Book.Step within before move after)
    (hrollback : ∀ r ∈ rollbacks, move ≠ .rollback r.clientOrderId)
    (hinvoke : ∀ r ∈ rollbacks, move ≠ .invoke r.clientOrderId) : Owned after rollbacks := by
  refine ⟨fun r hr => ?_, h.nodup⟩
  obtain ⟨holding, held, phase, hnames⟩ := h.held r hr
  exact ⟨holding, hstep.owns held phase (hrollback r hr) (hinvoke r hr), phase, hnames⟩

theorem run {before after : Book} {moves : List Move}
    (h : Owned before rollbacks) (hrun : Run (Book.Step within) before moves after)
    (hmoves : ∀ r ∈ rollbacks, ∀ move ∈ moves,
      move ≠ .rollback r.clientOrderId ∧ move ≠ .invoke r.clientOrderId) :
    Owned after rollbacks := by
  induction hrun with
  | nil _ => exact h
  | cons first _ ih =>
    refine ih (h.step first ?_ ?_) fun r hr move hmove =>
      hmoves r hr move (mem_cons_of_mem _ hmove)
    · exact fun r hr => (hmoves r hr _ mem_cons_self).1
    · exact fun r hr => (hmoves r hr _ mem_cons_self).2

end Owned

/-! ## Loops over reservations -/

/-- **A loop over owned orders makes a move for each of them**, or the revision runs out, if that is
what each round does. -/
theorem foldlM_owned {σ ε : Type} {round : σ → CapitalAdmissionReservationRollback → Except ε σ}
    {R : σ → Book → Prop} {within : ℚ → Prop} (move : String → Move)
    (hround : ∀ {state book rollback holding}, R state book →
      book.orders[rollback.clientOrderId]? = some holding → holding.record.phase = .reserved →
      rollback.Names holding → book.revision + 1 ≤ u64Max →
      ∃ state' book', round state rollback = .ok state' ∧ R state' book' ∧
        Book.Step within book (move rollback.clientOrderId) book' ∧
        book'.revision = book.revision + 1)
    (hexhausted : ∀ {state book}, R state book → u64Max < book.revision + 1 →
      ∀ rollback, ∃ reason, round state rollback = .error reason)
    (hmove : ∀ id other, move id = .rollback other ∨ move id = .invoke other → other = id) :
    ∀ {rollbacks : List CapitalAdmissionReservationRollback} {state : σ} {book : Book},
      R state book → Owned book rollbacks →
      (∃ state' book', rollbacks.foldlM round state = .ok state' ∧ R state' book' ∧
        Run (Book.Step within) book (rollbacks.map fun r => move r.clientOrderId) book') ∨
      (∃ reason, rollbacks.foldlM round state = .error reason) ∧
        u64Max < book.revision + rollbacks.length
  | [], state, book, h, _ => .inl ⟨state, book, rfl, h, .nil book⟩
  | rollback :: rollbacks, state, book, h, howned => by
    rw [foldlM_cons, length_cons]
    by_cases headroom : book.revision + 1 ≤ u64Max
    · obtain ⟨holding, held, phase, hnames⟩ := howned.held rollback mem_cons_self
      obtain ⟨next, book', hnext, hrep, hstep, hrevision⟩ := hround h held phase hnames headroom
      have hne : ∀ r ∈ rollbacks, r.clientOrderId ≠ rollback.clientOrderId := by
        have hnodup := howned.nodup
        rw [map_cons, nodup_cons] at hnodup
        exact fun r hr heq => hnodup.1 (heq ▸ mem_map_of_mem hr)
      have hrest : Owned book' rollbacks :=
        (howned.sublist (sublist_cons_self _ _)).step hstep
          (fun r hr heq => hne r hr (hmove _ _ (.inl heq)))
          fun r hr heq => hne r hr (hmove _ _ (.inr heq))
      rw [hnext]
      rcases foldlM_owned (R := R) move hround hexhausted hmove hrep hrest with
        ⟨final, book'', hloop, hrep', hrun⟩ | ⟨hloop, hexhausted⟩
      · exact .inl ⟨final, book'', hloop, hrep', .cons hstep hrun⟩
      · exact .inr ⟨hloop, by omega⟩
    · obtain ⟨reason, herror⟩ := hexhausted h (by omega) rollback
      rw [herror]
      exact .inr ⟨⟨reason, rfl⟩, by omega⟩

/-- The capital state and the revision of a loop represent a book. -/
structure LoopRepresents (terms : CapitalTerms) (market : Option Market)
    (progress : SubmitCapitalAdmissionState × Nat) (book : Book) : Prop where
  capital : RepresentsCapital progress.1 book
  terms_eq : progress.1.terms = terms
  market_eq : progress.1.market = market
  revision : progress.2 = book.revision

/-! ## Rolling back -/

/-- The variables of the rollback loop represent a book from which the ids and names gone through
are absent. -/
structure RollbackRepresents (terms : CapitalTerms) (market : Option Market)
    (progress : RollbackProgress) (book : Book) : Prop extends
    LoopRepresents terms market (progress.capital, progress.revision) book where
  ids : ∀ id ∈ progress.clientOrderIds, book.orders[id]? = none
  names : ∀ name ∈ progress.reservationIds, ∀ (id : String) holding,
    book.orders[id]? = some holding → holding.name ≠ name

section

variable {t : CapitalTerms} {market : Option Market} {progress : RollbackProgress} {book : Book}
  {rollback : CapitalAdmissionReservationRollback} {holding : Holding} {within : ℚ → Prop}

theorem rollbackStep_exhausted (h : RollbackRepresents t market progress book)
    (hexhausted : u64Max < book.revision + 1) (rollback : CapitalAdmissionReservationRollback) :
    ∃ reason, rollbackStep progress rollback = .error reason := by
  have hnext : nextRevision progress.revision = none :=
    nextRevision_eq_none.mpr (by have : progress.revision = _ := h.revision; omega)
  unfold rollbackStep
  split
  · exact ⟨_, rfl⟩
  · rw [hnext]
    exact ⟨_, rfl⟩

/-- One round of the loop takes an owned order out. -/
theorem rollbackStep_owned (h : RollbackRepresents t market progress book)
    (held : book.orders[rollback.clientOrderId]? = some holding)
    (phase : holding.record.phase = .reserved) (hnames : rollback.Names holding)
    (headroom : book.revision + 1 ≤ u64Max) :
    ∃ progress' book', rollbackStep progress rollback = .ok progress' ∧
      RollbackRepresents t market progress' book' ∧
      Book.Step within book (.rollback rollback.clientOrderId) book' ∧
      book'.revision = book.revision + 1 := by
  have hid : rollback.clientOrderId ∉ progress.clientOrderIds := fun hmem => by
    rw [h.ids _ hmem] at held
    cases held
  have hkey : holding.name = (rollback.poolId, rollback.submitReservationId) := by
    rw [← hnames.pool, ← hnames.reservation]
    rfl
  have hname : (rollback.poolId, rollback.submitReservationId) ∉ progress.reservationIds :=
    fun hmem => h.names _ hmem _ _ held hkey
  have hnext : nextRevision progress.revision = some (book.revision + 1) :=
    nextRevision_eq_some.mpr (by have : progress.revision = _ := h.revision; omega)
  have hrecord : progress.capital.clientOrderReservations[rollback.clientOrderId]? =
      some holding.record := by rw [h.capital.getElem?_index, held, Option.map_some]
  have hretained := h.capital.retainedReservation held
  have hfind := h.capital.find? held
  rw [hnames.pool, hnames.reservation] at hretained hfind
  let gate := { progress.capital.gate with
    liveReservations := progress.capital.gate.liveReservations.eraseP
      (·.named rollback.poolId rollback.submitReservationId) }
  refine ⟨progress.released rollback gate (book.revision + 1),
    book.erase rollback.clientOrderId headroom, ?_, ?_, .rollback held phase rfl rfl rfl, rfl⟩
  · unfold rollbackStep
    rw [if_neg (by simp [hid, hname]), hnext]
    rw [hrecord]
    dsimp only
    rw [if_neg (by simp [phase, hnames.order, hnames.reservation, hnames.pool]), hretained]
    unfold ReservationLedger.rollbackUncommitted
    rw [hfind]
  · have herased := h.capital.erased held
    rw [hnames.pool, hnames.reservation] at herased
    refine ⟨⟨⟨h.capital.pool, ?_, herased, h.capital.reconciled, h.capital.captureSource,
      h.capital.captureObserved, h.capital.fillFailed⟩, h.terms_eq, h.market_eq, rfl⟩, ?_, ?_⟩
    · change progress.capital.clientOrderReservations.erase rollback.clientOrderId =
        (book.orders.erase rollback.clientOrderId).map fun _ => Holding.record
      rw [SortedMap.map_erase, h.capital.index]
    · intro id hmem
      change (book.orders.erase rollback.clientOrderId)[id]? = none
      rw [SortedMap.getElem?_erase]
      split
      · rfl
      · rename_i hne
        rcases mem_cons.mp hmem with rfl | hmem
        · exact absurd rfl hne
        · exact h.ids id hmem
    · intro name hmem id other hother
      change (book.orders.erase rollback.clientOrderId)[id]? = some other at hother
      rw [SortedMap.getElem?_erase] at hother
      split at hother
      · cases hother
      · rename_i hne
        rcases mem_cons.mp hmem with rfl | hmem
        · intro hsame
          rw [← hkey] at hsame
          exact hne (book.distinct _ _ _ _ held hother hsame.symm)
        · exact h.names name hmem id other hother

theorem RollbackRepresents.finish (h : RollbackRepresents t market progress book) :
    RepresentsCapital progress.finish book ∧ progress.finish.terms = t ∧
      progress.finish.market = market := by
  have hcapital := h.capital
  rw [← h.terms_eq, ← h.market_eq]
  unfold RollbackProgress.finish
  cases progress.observedAtNs with
  | none | some _ =>
    refine ⟨⟨hcapital.pool, hcapital.index, hcapital.ledger, hcapital.reconciled,
      hcapital.captureSource, hcapital.captureObserved, hcapital.fillFailed⟩, rfl, ?_⟩
    first | rfl | exact SubmitCapitalAdmissionState.market_refreshed _ _ _ _

end

section

variable [DecimalArith] {terms : Option CapitalTerms} {market : Option Market} {inner : Inner}
  {book : Book} {rollbacks : List CapitalAdmissionReservationRollback}

omit [DecimalArith] in
/-- Owned reservations need a configured capital admission. -/
theorem Owned.configured (h : Represents terms market inner book) (howned : Owned book rollbacks)
    (hne : rollbacks ≠ []) : ∃ capital, inner.capitalAdmission = some capital := by
  obtain ⟨rollback, rest, rfl⟩ := exists_cons_of_ne_nil hne
  cases hcapital : inner.capitalAdmission with
  | none => exact absurd (h.absent hcapital).1 howned.orders_ne_empty
  | some capital => exact ⟨capital, rfl⟩

/-- **Owned reservations are rolled back, unless the revision runs out.** -/
theorem prepareRollback_owned (h : Represents terms market inner book)
    (howned : Owned book rollbacks) :
    (∃ prepared book', prepareCapitalAdmissionReservationRollback inner rollbacks = .ok prepared ∧
      Represents terms market (commitCapitalAdmissionReservationRollback inner prepared) book' ∧
      Run (BookStep terms) book (rollbacks.reverse.map fun r => .rollback r.clientOrderId) book') ∨
    (∃ reason, prepareCapitalAdmissionReservationRollback inner rollbacks = .error reason) ∧
      u64Max < book.revision + rollbacks.length := by
  unfold prepareCapitalAdmissionReservationRollback
  by_cases hne : rollbacks = []
  · subst hne
    exact .inl ⟨_, book, rfl, h.congr rfl rfl, .nil book⟩
  · rw [if_neg (by simpa using hne)]
    obtain ⟨capital, hcapital⟩ := howned.configured h hne
    rw [hcapital]
    dsimp only
    have hstart : RollbackRepresents capital.terms market
        ⟨capital, inner.capitalAdmissionStateRevision, [], [], none⟩ book :=
      ⟨⟨h.present capital hcapital, rfl, h.market_of hcapital, h.revision⟩, by simp, by simp⟩
    rcases foldlM_owned (R := RollbackRepresents capital.terms market) .rollback rollbackStep_owned
        rollbackStep_exhausted (by simp [eq_comm]) hstart (howned.perm rollbacks.reverse_perm) with
      ⟨progress, book', hloop, hrep, hrun⟩ | ⟨⟨reason, hloop⟩, hexhausted⟩
    · refine .inl ⟨_, book', by rw [hloop], ?_, hrun⟩
      obtain ⟨hfinish, hterms, hmarket⟩ := hrep.finish
      exact h.of_some hcapital rfl hterms hmarket hrep.revision hfinish
    · rw [length_reverse] at hexhausted
      exact .inr ⟨⟨reason, by rw [hloop]⟩, hexhausted⟩

/-! ## Invoking -/

variable {t : CapitalTerms} {progress : SubmitCapitalAdmissionState × Nat}
  {rollback : CapitalAdmissionReservationRollback} {holding : Holding} {within : ℚ → Prop}

/-- The book in which an order has crossed the submit boundary. -/
def Book.invoke (book : Book) (id : String) (holding : Holding)
    (held : book.orders[id]? = some holding) (headroom : book.revision + 1 ≤ u64Max) : Book :=
  book.insert id (holding.invoked (book.revision + 1)) (book.keyed id holding held)
    (book.pooled id holding held)
    (fun _ _ hne hother hsame => hne (book.distinct _ _ _ _ hother held hsame)) headroom

omit [DecimalArith] in
/-- One round of the loop takes an owned order over the boundary. -/
theorem invokeStep_owned (h : LoopRepresents t market progress book)
    (held : book.orders[rollback.clientOrderId]? = some holding)
    (phase : holding.record.phase = .reserved) (hnames : rollback.Names holding)
    (headroom : book.revision + 1 ≤ u64Max) :
    ∃ progress' book', Function.uncurry invokeStep progress rollback = .ok progress' ∧
      LoopRepresents t market progress' book' ∧
      Book.Step within book (.invoke rollback.clientOrderId) book' ∧
      book'.revision = book.revision + 1 := by
  obtain ⟨capital, revision⟩ := progress
  obtain ⟨hcapital, hterms, hmarket, rfl⟩ := h
  have hrecord : capital.clientOrderReservations[rollback.clientOrderId]? =
      some holding.record := by rw [hcapital.getElem?_index, held, Option.map_some]
  have hnext : nextRevision book.revision = some (book.revision + 1) :=
    nextRevision_eq_some.mpr ⟨headroom, rfl⟩
  refine ⟨({ capital with
      clientOrderReservations := capital.clientOrderReservations.insert rollback.clientOrderId
        (holding.invoked (book.revision + 1)).record }, book.revision + 1),
    book.invoke rollback.clientOrderId holding held headroom, ?_, ⟨?_, hterms, hmarket, rfl⟩,
    .invoke held phase rfl rfl rfl, rfl⟩
  · change invokeStep capital book.revision rollback = _
    unfold invokeStep
    rw [hnext]
    rw [hrecord]
    dsimp only
    rw [if_neg (not_not.mpr ⟨phase, hnames.reservation, hnames.pool⟩),
      hcapital.retainedReservation held]
    rfl
  · refine ⟨hcapital.pool, ?_, hcapital.ledger.replace held rfl, hcapital.reconciled,
      hcapital.captureSource, hcapital.captureObserved, hcapital.fillFailed⟩
    change capital.clientOrderReservations.insert _ _ =
      (book.orders.insert _ _).map fun _ => Holding.record
    rw [SortedMap.map_insert, hcapital.index]

omit [DecimalArith] in
theorem invokeStep_exhausted (h : LoopRepresents t market progress book)
    (hexhausted : u64Max < book.revision + 1) (rollback : CapitalAdmissionReservationRollback) :
    ∃ reason, Function.uncurry invokeStep progress rollback = .error reason := by
  refine ⟨.reconciliationRequired, ?_⟩
  unfold Function.uncurry invokeStep
  rw [nextRevision_eq_none.mpr (by rw [h.revision]; omega)]

/-- **A prepared sink invocation takes the owned orders over the boundary**, and it can be prepared
while the evidence-free orders are held and the revision has room. -/
theorem prepareInvocation_owned (h : Represents terms market inner book)
    (howned : Owned book rollbacks) (counter : Option SubmitAdmissionCounterRollback) :
    (∀ prepared, prepareSubmitSinkInvocation inner rollbacks counter = .ok prepared →
      ∃ book', Represents terms market (commitSubmitSinkInvocation inner prepared) book' ∧
        Run (BookStep terms) book (rollbacks.map fun r => .invoke r.clientOrderId) book') ∧
    (heldIds inner.evidenceFreeNonReservationAdmissions (evidenceFreeIds counter) = true →
      book.revision + rollbacks.length ≤ u64Max →
      ∃ prepared, prepareSubmitSinkInvocation inner rollbacks counter = .ok prepared) := by
  unfold prepareSubmitSinkInvocation
  dsimp only
  cases hheld : heldIds inner.evidenceFreeNonReservationAdmissions (evidenceFreeIds counter) with
  | false => exact ⟨by rintro _ ⟨⟩, nofun⟩
  | true =>
    simp only [Bool.not_true, Bool.false_eq_true, if_false]
    by_cases hne : rollbacks = []
    · subst hne
      refine ⟨?_, fun _ _ => ⟨_, rfl⟩⟩
      rintro _ ⟨⟩
      exact ⟨book, h.congr rfl rfl, .nil book⟩
    · rw [if_neg (by simpa using hne)]
      obtain ⟨capital, hcapital⟩ := howned.configured h hne
      simp only [hcapital]
      have hstart : LoopRepresents capital.terms market
          (capital, inner.capitalAdmissionStateRevision) book :=
        ⟨h.present capital hcapital, rfl, h.market_of hcapital, h.revision⟩
      rcases foldlM_owned (R := LoopRepresents capital.terms market) .invoke invokeStep_owned
          invokeStep_exhausted (by simp [eq_comm]) hstart howned with
        ⟨progress, book', hloop, hrep, hrun⟩ | ⟨⟨reason, hloop⟩, hexhausted⟩
      · rw [hloop]
        refine ⟨?_, fun _ _ => ⟨_, rfl⟩⟩
        rintro _ ⟨⟩
        exact ⟨book', h.of_some hcapital rfl hrep.terms_eq hrep.market_eq hrep.revision
          hrep.capital, hrun⟩
      · rw [hloop]
        exact ⟨by rintro _ ⟨⟩, fun _ _ => by omega⟩

end

end BoltV3.Submit
