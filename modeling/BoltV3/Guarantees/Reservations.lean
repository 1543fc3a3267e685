import BoltV3.Submit.Authority

/-!
# Reservations of an execution

The client-order index and the capital ledger are written by separate code in every operation of
`bolt_v3_submit_admission.rs`. In every state of an execution they name the same reservations, and a
reservation past the submit boundary is only taken out by its own retirement.

* `Inner.HoldsCapital` is what both sides say of one order: a record of the index and the live entry
  that it names.
* `System.AdmitsCapital` is the admission of an order that reserves capital, as the permits and the
  log show it.
-/

namespace BoltV3.Submit

open Lib Loss Capital Evidence List
open Std (ExtTreeMap)

/-! ## Records and entries -/

/-- The record names the ledger entry. -/
def SubmitReservationRecord.NamesEntry (record : SubmitReservationRecord)
    (entry : LiveReservation) : Prop :=
  entry.poolId = record.attribution.capitalPoolId ∧
    entry.collateralGroupId = record.attribution.collateralGroupId ∧
    entry.requestId = record.attribution.submitReservationId

instance (record : SubmitReservationRecord) (entry : LiveReservation) :
    Decidable (record.NamesEntry entry) :=
  inferInstanceAs (Decidable (_ ∧ _ ∧ _))

theorem Holding.namesEntry (holding : Holding) : holding.record.NamesEntry holding.entry :=
  ⟨rfl, rfl, rfl⟩

/-- A record that names an entry of the book is the record of that entry. -/
theorem SubmitReservationRecord.NamesEntry.name_eq {holding other : Holding}
    (h : holding.record.NamesEntry other.entry) : holding.name = other.name :=
  Prod.ext h.1.symm h.2.2.symm

/-- The records of the client-order index and the live reservations of the ledger are in one-to-one
correspondence. -/
structure SubmitCapitalAdmissionState.Corresponds (capital : SubmitCapitalAdmissionState) :
    Prop where
  recorded : ∀ (id : String) record, capital.clientOrderReservations[id]? = some record →
    ∃ entry ∈ capital.gate.liveReservations, record.NamesEntry entry
  live : ∀ entry ∈ capital.gate.liveReservations, ∃! p : String × SubmitReservationRecord,
    capital.clientOrderReservations[p.1]? = some p.2 ∧ p.2.NamesEntry entry
  distinct : (capital.gate.liveReservations.map fun entry => (entry.poolId, entry.requestId)).Nodup

/-- The same for the protected state; nothing is reserved where capital is not configured. -/
def Inner.Corresponds (inner : Inner) : Prop :=
  ∀ capital, inner.capitalAdmission = some capital → capital.Corresponds

/-- An order holds capital: its record in the index, and the live entry the record names. -/
def Inner.HoldsCapital (inner : Inner) (id : String) (record : SubmitReservationRecord)
    (entry : LiveReservation) : Prop :=
  ∃ capital, inner.capitalAdmission = some capital ∧
    capital.clientOrderReservations[id]? = some record ∧
    entry ∈ capital.gate.liveReservations ∧ record.NamesEntry entry

section

variable {terms : Option CapitalTerms} {market : Option Market} {inner : Inner} {book : Book}
  {capital : SubmitCapitalAdmissionState}

theorem RepresentsCapital.corresponds (h : RepresentsCapital capital book) :
    capital.Corresponds where
  recorded := by
    intro id record hrecord
    rw [h.getElem?_index] at hrecord
    obtain ⟨holding, held, rfl⟩ := Option.map_eq_some_iff.mp hrecord
    exact ⟨holding.entry, h.ledger.mem_iff.mpr ⟨id, holding, held, rfl⟩, holding.namesEntry⟩
  live := by
    intro entry hentry
    obtain ⟨id, holding, held, rfl⟩ := h.ledger.mem_iff.mp hentry
    refine ⟨(id, holding.record), ⟨?_, holding.namesEntry⟩, ?_⟩
    · rw [h.getElem?_index, held, Option.map_some]
    · rintro ⟨other, record⟩ ⟨hrecord, hnames⟩
      rw [h.getElem?_index] at hrecord
      obtain ⟨holding', held', rfl⟩ := Option.map_eq_some_iff.mp hrecord
      -- Two orders of one name are one order.
      obtain rfl := book.distinct other id holding' holding held' held hnames.name_eq
      rw [held] at held'
      cases held'
      rfl
  distinct := h.nodup_keys

theorem Represents.holdsCapital_iff (h : Represents terms market inner book) {id : String}
    {record : SubmitReservationRecord} {entry : LiveReservation} :
    inner.HoldsCapital id record entry ↔
      ∃ holding, book.orders[id]? = some holding ∧ holding.record = record ∧
        holding.entry = entry := by
  constructor
  · rintro ⟨capital, hcapital, hrecord, hentry, hnames⟩
    have hrep := h.present capital hcapital
    rw [hrep.getElem?_index] at hrecord
    obtain ⟨holding, held, rfl⟩ := Option.map_eq_some_iff.mp hrecord
    obtain ⟨other, holding', held', rfl⟩ := hrep.ledger.mem_iff.mp hentry
    obtain rfl := book.distinct id other holding holding' held held' hnames.name_eq
    rw [held] at held'
    cases held'
    exact ⟨holding, held, rfl, rfl⟩
  · rintro ⟨holding, held, rfl, rfl⟩
    cases hcapital : inner.capitalAdmission with
    | none =>
      rw [(h.absent hcapital).1] at held
      simp at held
    | some capital =>
      have hrep := h.present capital hcapital
      refine ⟨capital, hcapital, ?_, hrep.ledger.mem_iff.mpr ⟨id, holding, held, rfl⟩,
        holding.namesEntry⟩
      rw [hrep.getElem?_index, held, Option.map_some]

/-- Capital is configured in all states of one configuration, or in none. -/
theorem Represents.absent_of (h : Represents terms market inner book) {market' : Option Market}
    {inner' : Inner} {book' : Book} (h' : Represents terms market' inner' book')
    (hnone : inner.capitalAdmission = none) : inner'.capitalAdmission = none := by
  have hterms : inner'.terms = inner.terms := h'.terms_eq.trans h.terms_eq.symm
  rw [Inner.terms, Inner.terms, hnone, Option.map_none, Option.map_eq_none_iff] at hterms
  exact hterms

/-- What is read off a capital state is the same in two states of one configuration, if it can be
read off their books and is the same there. -/
theorem Represents.map_eq {γ : Type} {read : SubmitCapitalAdmissionState → γ} {v : Book → γ}
    (hread : ∀ capital book, RepresentsCapital capital book → read capital = v book)
    (h : Represents terms market inner book) {market' : Option Market} {inner' : Inner}
    {book' : Book} (h' : Represents terms market' inner' book') (hview : v book' = v book) :
    inner'.capitalAdmission.map read = inner.capitalAdmission.map read := by
  cases hcapital : inner.capitalAdmission with
  | none => rw [h.absent_of h' hcapital]
  | some capital =>
    cases hcapital' : inner'.capitalAdmission with
    | none =>
      rw [h'.absent_of h hcapital'] at hcapital
      cases hcapital
    | some capital' =>
      rw [Option.map_some, Option.map_some, hread _ _ (h.present capital hcapital),
        hread _ _ (h'.present capital' hcapital'), hview]

end

section

variable [DecimalArith] {setup : Setup}

/-- **In every state of an execution, index and ledger name the same reservations.** -/
theorem reservations_correspond (setup : Setup) (ops : List (Op setup)) :
    (setup.start.run ops).inner.Corresponds := by
  obtain ⟨_, _, book, -, hsimulates⟩ := reachable_simulates setup ops
  exact fun capital hcapital => (hsimulates.represents.present capital hcapital).corresponds

/-! ## Admissions and rebuilds -/

/-- An order that reserves capital is admitted: a permit with a reservation is issued, or the
admission is put on record with the attribution of its reservation. -/
def System.AdmitsCapital (s : System) (op : Op setup) : Prop :=
  (∃ held, (s.step op).outstanding = s.outstanding ++ [held] ∧ held.permit.rollbacks ≠ []) ∨
    ∃ events, (s.step op).recorded = s.recorded ++ events ∧ events.flatMap attributionsOf ≠ []

variable {s : System} {op : Op setup} {market' : Option Market} {book' : Book}
  {market : Option Market}

/-- An admission of capital reserves an order in the book. -/
theorem System.AdmitsCapital.reserves (h : s.AdmitsCapital op)
    (hsound : Sound setup (s.step op)) {book : Book}
    {moves : List Move} (hmoves : StepMoves s market book op moves market' book') :
    op.requests ≠ [] ∧ ∃ id holding, Move.reserve id holding ∈ moves := by
  have hreserve : ∃ id holding, Move.reserve id holding ∈ moves := by
    rcases h with ⟨held, houtstanding, hrollbacks⟩ | ⟨events, hrecorded, hattributions⟩
    · have hmem : held ∈ (s.step op).outstanding := by simp [houtstanding]
      rcases hmoves.issued held hmem with hold | hnew
      · -- The permit cannot be outstanding twice, for its orders would be spent twice.
        have hconsuming : held ∈ (s.step op).consuming :=
          mem_append_left _ (mem_append_left _ hmem)
        have hdistinct := hsound.authority.distinct
        unfold System.spent System.consuming at hdistinct
        rw [houtstanding, append_assoc, append_assoc, append_assoc,
          flatMap_append, nodup_append] at hdistinct
        obtain ⟨id, hid⟩ := exists_mem_of_ne_nil _ (hsound.counts.formed held hconsuming).nonempty
        refine absurd rfl (hdistinct.2.2 id (mem_flatMap.mpr ⟨held, hold, hid⟩) id ?_)
        exact mem_flatMap.mpr ⟨held, by simp, hid⟩
      · obtain ⟨r, hr⟩ := exists_mem_of_ne_nil _ hrollbacks
        exact ⟨r.clientOrderId, hnew r hr⟩
    · obtain ⟨events', hrecorded', hreserved⟩ := hmoves.recorded
      rw [hrecorded] at hrecorded'
      obtain rfl := append_cancel_left hrecorded'
      obtain ⟨a, ha⟩ := exists_mem_of_ne_nil _ hattributions
      obtain ⟨id, holding, hmem, -⟩ := hreserved a ha
      exact ⟨id, holding, hmem⟩
  obtain ⟨id, holding, hmem⟩ := hreserve
  obtain ⟨nowNs, r, hrequest, -⟩ := hmoves.justified _ hmem
  exact ⟨ne_nil_of_mem hrequest, id, holding, hmem⟩

theorem StepMoves.no_rebuild
    {book : Book} {moves : List Move} (h : StepMoves s market book op moves market' book')
    (hop : ∀ projection nowNs append, op ≠ .rebuild projection nowNs append) :
    ∀ move ∈ moves, ∀ observed allowance, move ≠ .rebuild observed allowance := by
  rintro _ hmove observed allowance rfl
  obtain ⟨projection, nowNs, append, _, rfl, -⟩ := h.justified _ hmove
  exact hop _ _ _ rfl

variable {projection : NtProjection setup} {nowNs : Nat} {append : Bool} {id : String}
  {record : SubmitReservationRecord} {entry : LiveReservation} {book : Book}

theorem System.AcceptsRebuild.moves (h : s.AcceptsRebuild projection nowNs append)
    (hrep : Represents setup.terms market s.inner book) :
    s.inner.capitalAdmission = none ∨
    projection.expectedEpoch = book.revision ∧ ∃ positive book',
      Represents setup.terms (projectedMarket projection.components market)
        (s.step (.rebuild projection nowNs append)).inner book' ∧
      BookStep setup.terms book (.rebuild
        (observedHoldings projection.snapshot.reservations (book.revision + 1) positive)
        (projection.components.bind fun _ => projection.acceptedAllowanceObservedAtNs)) book' ∧
      ∀ r ∈ projection.snapshot.reservations,
        rebuiltOpenOrderReservationAttributionValid r = true := by
  obtain ⟨decision, hdecision, haccepted⟩ := h
  rcases rebuild_moves hrep (projection.pooled hrep) nowNs (some projection.expectedEpoch)
      projection.components projection.acceptedAllowanceObservedAtNs append with
    ⟨positive, book', _, hrep', hmove, hvalid, hepoch, -, -⟩ | ⟨-, hrefuses⟩ |
    ⟨-, hrefuses | hnone⟩
  · exact .inr ⟨hepoch _ rfl, positive, book', hrep', hmove, hvalid⟩
  · rw [hrefuses decision hdecision] at haccepted
    cases haccepted
  · rw [hrefuses decision hdecision] at haccepted
    cases haccepted
  · exact .inl hnone

/-! ## What keeps and what takes out a reservation -/

theorem rebuiltOpenOrderReservationAttributionValid_liability {reservation : OpenOrderReservation}
    (h : rebuiltOpenOrderReservationAttributionValid reservation = true) :
    ∃ liability, checkedLifecycleLiability reservation.openQuantity reservation.liabilityFactor
      reservation.additiveLiability = some liability ∧
      reservation.liability.value = liability.value := by
  simp only [rebuiltOpenOrderReservationAttributionValid, Bool.and_eq_true] at h
  obtain ⟨-, hliability⟩ := h
  unfold optionNumEq at hliability
  split at hliability
  · rename_i heq
    cases heq
  · rename_i a b hsome heq
    cases heq
    exact ⟨a, hsome, (Decimal.numEq_iff_value.mp (of_decide_eq_true hliability)).symm⟩
  · cases hliability

/-- **An accepted rebuild keeps every order past the submit boundary**: at the liability that is
left open where the snapshot shows it, and otherwise as it is. -/
theorem System.AcceptsRebuild.keeps (h : s.AcceptsRebuild projection nowNs append)
    (hrep : Represents setup.terms market s.inner book)
    (hholds : s.inner.HoldsCapital id record entry) :
    ∃ record' entry',
      (s.step (.rebuild projection nowNs append)).inner.HoldsCapital id record' entry' ∧
      record'.attribution = record.attribution ∧
      (∀ r ∈ projection.snapshot.reservations, r.clientOrderId = id →
        ∃ liability, checkedLifecycleLiability r.openQuantity r.liabilityFactor
          r.additiveLiability = some liability ∧ entry'.liability.value = liability.value) ∧
      ((∀ r ∈ projection.snapshot.reservations, r.clientOrderId ≠ id) → entry' = entry) := by
  obtain ⟨holding, held, rfl, rfl⟩ := hrep.holdsCapital_iff.mp hholds
  rcases h.moves hrep with hnone | ⟨-, positive, book', hrep', hmove, hvalid⟩
  · rw [(hrep.absent hnone).1] at held
    simp at held
  cases hmove with
  | rebuild _ _ keys _ attributions _ orders =>
    set observed := observedHoldings projection.snapshot.reservations (book.revision + 1) positive
    have hmem : ∀ r (hr : r ∈ projection.snapshot.reservations),
        (r.clientOrderId, observedHolding r (book.revision + 1) (positive r hr)) ∈ observed :=
      fun r hr => mem_observedHoldings.mpr ⟨r, hr, rfl⟩
    by_cases hid : id ∈ observed.map Prod.fst
    · obtain ⟨⟨_, seen⟩, hseen, rfl⟩ := mem_map.mp hid
      have horder := Book.rebuilt_observed book keys hseen
      rw [← orders] at horder
      refine ⟨seen.record, seen.entry, hrep'.holdsCapital_iff.mpr ⟨seen, horder, rfl, rfl⟩,
        (attributions _ hseen holding held).symm, ?_, ?_⟩
      · intro r hr hrid
        -- The snapshot shows an order once, so this is the reservation the rebuild took.
        have horder' := Book.rebuilt_observed book keys (hmem r hr)
        rw [← orders, hrid, horder] at horder'
        cases horder'
        exact rebuiltOpenOrderReservationAttributionValid_liability (hvalid r hr)
      · intro hunseen
        obtain ⟨r, hr, heq⟩ := mem_observedHoldings.mp hseen
        exact absurd (congrArg Prod.fst heq) (hunseen r hr)
    · have horder := Book.rebuilt_unseen book keys held hid
      rw [← orders] at horder
      refine ⟨holding.carried.record, holding.entry,
        hrep'.holdsCapital_iff.mpr ⟨_, horder, rfl, rfl⟩, rfl, ?_, fun _ => rfl⟩
      intro r hr hrid
      exact absurd (mem_map.mpr ⟨_, hmem r hr, hrid⟩) hid

/-- An operation keeps a reservation, or it drops the permit that owns it, or it retires it. -/
theorem StepMoves.keeps {moves : List Move} (h : StepMoves s market book op moves market' book')
    (hsimulates : Simulates setup s market book) (hholds : s.inner.HoldsCapital id record entry) :
    (∃ record' entry', (s.step op).inner.HoldsCapital id record' entry' ∧
      record'.attribution = record.attribution) ∨
    (∃ index held, op = .drop index ∧ s.outstanding[index]? = some held ∧
      (∃ r ∈ held.permit.rollbacks, r.clientOrderId = id) ∧ record.phase = .reserved) ∨
    ∃ capability append, op = .retire capability append ∧ capability.clientOrderId = id ∧
      capability.current record = true := by
  obtain ⟨holding, held, rfl, rfl⟩ := hsimulates.represents.holdsCapital_iff.mp hholds
  by_cases hrollback : Move.rollback id ∈ moves
  · rcases h.justified _ hrollback with ⟨-, hfresh⟩ | ⟨index, permit, hop, hout, r, hr, hid⟩
    · rw [hfresh] at held
      cases held
    · have hrmem : r ∈ s.rollbacks := mem_flatMap.mpr ⟨permit, mem_of_getElem? hout, hr⟩
      obtain ⟨owned, hheld, hreserved, -⟩ := hsimulates.owned.held r hrmem
      rw [hid, held] at hheld
      cases hheld
      exact .inr (.inl ⟨index, permit, hop, hout, ⟨r, hr, hid⟩, hreserved⟩)
  by_cases hretire : Move.retire id ∈ moves
  · obtain ⟨capability, append, retired, hop, hid, hheld, hcurrent⟩ := h.justified _ hretire
    rw [held] at hheld
    cases hheld
    exact .inr (.inr ⟨capability, append, hop, hid, hcurrent⟩)
  have hother : ∀ move ∈ moves, move ≠ .rollback id ∧ move ≠ .retire id := by
    intro move hmove
    exact ⟨by rintro rfl; exact hrollback hmove, by rintro rfl; exact hretire hmove⟩
  obtain ⟨kept, hkept, hsame⟩ := Book.run_keeps h.run hother held
  exact .inl ⟨kept.record, kept.entry,
    h.simulates.represents.holdsCapital_iff.mpr ⟨kept, hkept, rfl, rfl⟩, hsame⟩

/-- **No reservation past the submit boundary is lost in an accepted rebuild, and only the drop of
its permit and its retirement take a reservation out.** -/
theorem reservations_kept (setup : Setup) (ops : List (Op setup)) : let s := setup.start.run ops
    (∀ (projection : NtProjection setup) nowNs append, s.AcceptsRebuild projection nowNs append →
      ∀ id record entry, s.inner.HoldsCapital id record entry → record.phase ≠ .reserved →
      ∃ record' entry',
        (s.step (.rebuild projection nowNs append)).inner.HoldsCapital id record' entry' ∧
        record'.attribution = record.attribution ∧
        (∀ r ∈ projection.snapshot.reservations, r.clientOrderId = id →
          ∃ liability, checkedLifecycleLiability r.openQuantity r.liabilityFactor
            r.additiveLiability = some liability ∧ entry'.liability.value = liability.value) ∧
        ((∀ r ∈ projection.snapshot.reservations, r.clientOrderId ≠ id) → entry' = entry)) ∧
    ∀ (op : Op setup) id record entry, s.inner.HoldsCapital id record entry →
      (∃ record' entry', (s.step op).inner.HoldsCapital id record' entry' ∧
        record'.attribution = record.attribution) ∨
      (∃ index held, op = .drop index ∧ s.outstanding[index]? = some held ∧
        (∃ r ∈ held.permit.rollbacks, r.clientOrderId = id) ∧ record.phase = .reserved) ∨
      ∃ capability append, op = .retire capability append ∧ capability.clientOrderId = id ∧
        capability.current record = true := by
  intro s
  obtain ⟨_, market, book, -, hsimulates⟩ := reachable_simulates setup ops
  refine ⟨?_, ?_⟩
  · intro projection nowNs append haccepts id record entry hholds _
    exact haccepts.keeps hsimulates.represents hholds
  · intro op id record entry hholds
    obtain ⟨moves, market', book', hmoves⟩ := step_moves hsimulates op
    exact hmoves.keeps hsimulates hholds

end

end BoltV3.Submit
