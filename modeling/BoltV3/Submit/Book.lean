import BoltV3.Lib.Machine
import BoltV3.Submit.State
import Mathlib.Algebra.Order.BigOperators.Group.List

/-!
# The reservation book

What capital admission is for, without its data layout: a book of the orders that hold capital, a
gate that says whether another order may reserve, and a revision. The source keeps the book twice,
as the records of the client-order index and the entries of the ledger; here an order has one
`Holding`, from which both are read off, so the two cannot disagree.

The book moves by nine moves. An order is reserved, rolled back while it is only reserved, invoked
at the submit boundary, and retired afterwards; a rebuild replaces the book by the orders seen open
and every other order past the boundary; the rest only concern the gate and the revision. `within`
is the test that a total of liabilities passes when it is reserved; it is a parameter, closed
downwards where that is needed.
-/

namespace BoltV3.Submit

open Lib Capital Evidence Std SortedMap

/-! ## Holdings -/

/-- The reservation of an order: its record, and what the ledger adds to it. -/
structure Holding where
  record : SubmitReservationRecord
  liability : Decimal
  observedAtNs : Nat
  positive : 0 < liability.value

namespace Holding

variable (holding : Holding)

/-- The ledger entry of an order. -/
def entry : LiveReservation :=
  { requestId := holding.record.attribution.submitReservationId
    poolId := holding.record.attribution.capitalPoolId
    collateralGroupId := holding.record.attribution.collateralGroupId
    liability := holding.liability, observedAtNs := holding.observedAtNs }

/-- The name of an order's ledger entry. -/
def name : String × String := holding.entry.key

def value (holding : Holding) : ℚ := holding.liability.value

/-- The liability of an order, unless a rebuild only carried it over. -/
def confirmedValue : ℚ :=
  if holding.record.unresolvedInProjection then 0 else holding.value

/-- The order crosses the submit boundary. -/
def invoked (revision : Nat) : Holding :=
  { holding with
    record := { holding.record with phase := .sinkInvoked, phaseRevision := revision } }

/-- A projection does not show the order. -/
def carried : Holding :=
  { holding with record := { holding.record with unresolvedInProjection := true } }

variable (revision : Nat)

theorem value_pos : 0 < holding.value := holding.positive

theorem confirmedValue_nonneg : 0 ≤ holding.confirmedValue := by
  unfold confirmedValue
  split
  · rfl
  · exact holding.value_pos.le

theorem confirmedValue_le : holding.confirmedValue ≤ holding.value := by
  unfold confirmedValue
  split
  · exact holding.value_pos.le
  · rfl

@[simp] theorem confirmedValue_invoked :
    (holding.invoked revision).confirmedValue = holding.confirmedValue := rfl

end Holding

/-! ## Books -/

/-- Whether an order may reserve. A failed fill integrity keeps the gate closed. -/
structure Gate where
  reconciled : Bool
  captureFailure : Option (String × Nat)
  fillFailed : Bool
  sealed : fillFailed = true → reconciled = false

namespace Gate

/-- The gate of a new process. -/
def initial : Gate := ⟨false, none, false, fun _ => rfl⟩

variable (gate : Gate)

def close : Gate := { gate with reconciled := false, sealed := fun _ => rfl }

def failFill : Gate :=
  { gate with reconciled := false, fillFailed := true, sealed := fun _ => rfl }

def suspend (source : String) (observedAtNs : Nat) : Gate :=
  { gate with
    reconciled := false, captureFailure := some (source, observedAtNs), sealed := fun _ => rfl }

end Gate

/-- A book: the orders that hold capital, each under its own client order id and with a ledger
entry of its own name in the pool of the book. -/
structure Book where
  poolId : String
  orders : ExtTreeMap String Holding
  gate : Gate
  revision : Nat
  keyed : ∀ (id : String) holding, orders[id]? = some holding →
    holding.record.attribution.clientOrderId = id
  pooled : ∀ (id : String) holding, orders[id]? = some holding →
    holding.record.attribution.capitalPoolId = poolId
  distinct : SortedMap.Distinct Holding.name orders
  bounded : revision ≤ u64Max

namespace Book

def empty (poolId : String) : Book :=
  { poolId := poolId, orders := ∅, gate := .initial, revision := 0
    keyed := by simp
    pooled := by simp
    distinct := by simp [SortedMap.Distinct]
    bounded := by simp }

/-- The closed book, one revision later if there is one. -/
def close (book : Book) : Book :=
  { book with
    gate := book.gate.close, revision := saturatingSucc u64Max book.revision
    bounded := saturatingSucc_le book.bounded }

variable (book : Book)

/-- The same orders under another gate, one revision later. -/
def regate (gate : Gate) (headroom : book.revision + 1 ≤ u64Max) : Book :=
  { book with gate := gate, revision := book.revision + 1, bounded := headroom }

/-- A new order, one revision later. -/
def insert (book : Book) (id : String) (holding : Holding)
    (keyed : holding.record.attribution.clientOrderId = id)
    (pooled : holding.record.attribution.capitalPoolId = book.poolId)
    (fresh : ∀ (other : String) h, other ≠ id → book.orders[other]? = some h →
      h.name ≠ holding.name)
    (headroom : book.revision + 1 ≤ u64Max) : Book :=
  { book with
    orders := book.orders.insert id holding, revision := book.revision + 1
    keyed := by
      intro other h
      rw [getElem?_insert]
      split
      · rintro ⟨⟩
        rw [keyed]
        assumption
      · exact book.keyed other h
    pooled := by
      intro other h
      rw [getElem?_insert]
      split
      · rintro ⟨⟩
        exact pooled
      · exact book.pooled other h
    distinct := by
      intro a b ha hb hla hlb hname
      rw [getElem?_insert] at hla hlb
      split at hla <;> split at hlb
      · rename_i hida hidb
        rw [← hida, hidb]
      · rename_i hida hidb
        cases hla
        exact absurd hname.symm (fresh b hb (Ne.symm hidb) hlb)
      · rename_i hida hidb
        cases hlb
        exact absurd hname (fresh a ha (Ne.symm hida) hla)
      · exact book.distinct a b ha hb hla hlb hname
    bounded := headroom }

/-- An order less, one revision later. -/
def erase (book : Book) (id : String) (headroom : book.revision + 1 ≤ u64Max) : Book :=
  { book with
    orders := book.orders.erase id, revision := book.revision + 1
    keyed := by
      intro other h
      rw [getElem?_erase]
      split
      · nofun
      · exact book.keyed other h
    pooled := by
      intro other h
      rw [getElem?_erase]
      split
      · nofun
      · exact book.pooled other h
    distinct := by
      intro a b ha hb hla hlb
      rw [getElem?_erase] at hla hlb
      split at hla
      · cases hla
      split at hlb
      · cases hlb
      exact book.distinct a b ha hb hla hlb
    bounded := headroom }

/-- The orders of a list under distinct ids, one revision later. -/
def replace (listed : List (String × Holding)) (gate : Gate) (keys : (listed.map Prod.fst).Nodup)
    (keyed : ∀ p ∈ listed, p.2.record.attribution.clientOrderId = p.1)
    (pooled : ∀ p ∈ listed, p.2.record.attribution.capitalPoolId = book.poolId)
    (names : (listed.map (·.2.name)).Nodup)
    (headroom : book.revision + 1 ≤ u64Max) : Book :=
  { book with
    orders := insertAll ∅ listed, gate := gate, revision := book.revision + 1
    keyed := fun id holding h =>
      keyed (id, holding) ((getElem?_insertAll_empty keys).mp h)
    pooled := fun id holding h =>
      pooled (id, holding) ((getElem?_insertAll_empty keys).mp h)
    distinct := by
      have hlists : SortedMap.Lists Holding.entry
          (insertAll (∅ : ExtTreeMap String Holding) listed) _ :=
        lists_insertAll keys
      have hnames : ((listed.map fun p => p.2.entry).map LiveReservation.key).Nodup := by
        rw [List.map_map]
        exact names
      exact hlists.nodup_iff.mp hnames
    bounded := headroom }

/-! ### Sums of liabilities -/

/-- The liability of all orders. -/
def total : ℚ := sumOf Holding.value book.orders

/-- The liability of the orders the last projection showed, or reserved since. -/
def confirmed : ℚ := sumOf Holding.confirmedValue book.orders

variable (observed : List (String × Holding))

/-- The orders that a projection showing `observed` does not show. -/
def unseen : List (String × Holding) :=
  book.orders.toList.filter fun p => decide (p.1 ∉ observed.map Prod.fst)

/-- The orders after a rebuild, listed: those observed, and the others as they were. -/
def rebuiltOrders : List (String × Holding) :=
  observed ++ (book.unseen observed).map fun p => (p.1, p.2.carried)

/-- The book of those orders. -/
def rebuilt : ExtTreeMap String Holding := insertAll ∅ (book.rebuiltOrders observed)

end Book

/-! ## Moves -/

inductive Move
  | reserve (id : String) (holding : Holding)
  | rollback (id : String)
  | invoke (id : String)
  | retire (id : String)
  | rebuild (observed : List (String × Holding)) (allowance : Option Nat)
  | close | note | failFill
  | suspend (source : String) (observedAtNs : Nat)

namespace Book

/-- The record of an order that is newly reserved. -/
def NewlyReserved (book : Book) (holding : Holding) : Prop :=
  holding.record.phase = .reserved ∧ holding.record.phaseRevision = book.revision + 1 ∧
    holding.record.unresolvedInProjection = false

/-- The record of an order that a projection shows. -/
def NewlyObserved (book : Book) (holding : Holding) : Prop :=
  holding.record.phase = .observedOpen ∧ holding.record.phaseRevision = book.revision + 1 ∧
    holding.record.unresolvedInProjection = false

/-- An allowance seen after the capture failure. -/
def Recaptures (allowance : Option Nat) (failure : Option (String × Nat)) : Prop :=
  ∃ source failed seen, failure = some (source, failed) ∧ allowance = some seen ∧ failed < seen

/-- One move of the book. -/
inductive Step (within : ℚ → Prop) (before : Book) : Move → Book → Prop
  | reserve {id : String} {holding : Holding} {after : Book}
      (fresh : before.orders[id]? = none)
      (reconciled : before.gate.reconciled = true)
      (captured : before.gate.captureFailure = none)
      (new : before.NewlyReserved holding)
      (fits : within (before.total + holding.value))
      (orders : after.orders = before.orders.insert id holding)
      (gate : after.gate = before.gate)
      (revision : after.revision = before.revision + 1) :
      Step within before (.reserve id holding) after
  | rollback {id : String} {holding : Holding} {after : Book}
      (held : before.orders[id]? = some holding)
      (phase : holding.record.phase = .reserved)
      (orders : after.orders = before.orders.erase id)
      (gate : after.gate = before.gate)
      (revision : after.revision = before.revision + 1) :
      Step within before (.rollback id) after
  | invoke {id : String} {holding : Holding} {after : Book}
      (held : before.orders[id]? = some holding)
      (phase : holding.record.phase = .reserved)
      (orders : after.orders = before.orders.insert id (holding.invoked (before.revision + 1)))
      (gate : after.gate = before.gate)
      (revision : after.revision = before.revision + 1) :
      Step within before (.invoke id) after
  | retire {id : String} {holding : Holding} {after : Book}
      (held : before.orders[id]? = some holding)
      (phase : holding.record.phase ≠ .reserved)
      (orders : after.orders = before.orders.erase id)
      (gate : after.gate = before.gate)
      (revision : after.revision = before.revision + 1) :
      Step within before (.retire id) after
  | rebuild {observed : List (String × Holding)} {allowance : Option Nat} {after : Book}
      (intact : before.gate.fillFailed = false)
      (crossed : ∀ (id : String) holding, before.orders[id]? = some holding →
        holding.record.phase ≠ .reserved)
      (keys : (observed.map Prod.fst).Nodup)
      (new : ∀ p ∈ observed, before.NewlyObserved p.2)
      (attributions : ∀ p ∈ observed, ∀ holding, before.orders[p.1]? = some holding →
        holding.record.attribution = p.2.record.attribution)
      (fits : within (observed.map (·.2.value)).sum)
      (orders : after.orders = before.rebuilt observed)
      (reconciled : after.gate.reconciled = true)
      (captured : after.gate.captureFailure = before.gate.captureFailure ∨
        after.gate.captureFailure = none ∧ Recaptures allowance before.gate.captureFailure)
      (unfailed : after.gate.fillFailed = false)
      (revision : after.revision = before.revision + 1) :
      Step within before (.rebuild observed allowance) after
  | close : Step within before .close before.close
  | note {after : Book}
      (orders : after.orders = before.orders)
      (gate : after.gate = before.gate)
      (revision : after.revision = before.revision + 1) :
      Step within before .note after
  | failFill {after : Book}
      (orders : after.orders = before.orders)
      (gate : after.gate = before.gate.failFill)
      (revision : after.revision = before.revision + 1) :
      Step within before .failFill after
  | suspend {source : String} {observedAtNs : Nat} {after : Book}
      (orders : after.orders = before.orders)
      (gate : after.gate = before.gate.suspend source observedAtNs)
      (revision : after.revision = before.revision + 1) :
      Step within before (.suspend source observedAtNs) after

/-! ### Orders -/

section

variable {within : ℚ → Prop} {before after : Book} {move : Move} {moves : List Move} {id : String}
  {holding : Holding} {book : Book} {observed : List (String × Holding)}

/-! ### Rebuilds -/

theorem mem_unseen : (id, holding) ∈ book.unseen observed ↔
      book.orders[id]? = some holding ∧ id ∉ observed.map Prod.fst := by
  unfold unseen
  rw [List.mem_filter, mem_toList, decide_eq_true_eq]

theorem nodup_rebuiltOrders (book : Book) (keys : (observed.map Prod.fst).Nodup) :
    ((book.rebuiltOrders observed).map Prod.fst).Nodup := by
  rw [rebuiltOrders, List.map_append, List.map_map, List.nodup_append]
  refine ⟨keys, ?_, ?_⟩
  · exact (nodup_keys_toList book.orders).sublist (List.filter_sublist.map Prod.fst)
  · rintro id hid _ hid' rfl
    obtain ⟨⟨_, holding⟩, hmem, rfl⟩ := List.mem_map.mp hid'
    exact (mem_unseen.mp hmem).2 hid

/-- A rebuild puts an order it observes as it observes it. -/
theorem rebuilt_observed (book : Book) (keys : (observed.map Prod.fst).Nodup)
    (h : (id, holding) ∈ observed) :
    (book.rebuilt observed)[id]? = some holding :=
  getElem?_insertAll_of_mem (nodup_rebuiltOrders book keys)
    (List.mem_append_left _ h) ∅

/-- A rebuild carries over an order it does not observe. -/
theorem rebuilt_unseen (book : Book) (keys : (observed.map Prod.fst).Nodup)
    (held : book.orders[id]? = some holding) (h : id ∉ observed.map Prod.fst) :
    (book.rebuilt observed)[id]? = some holding.carried := by
  refine getElem?_insertAll_of_mem (nodup_rebuiltOrders book keys) ?_ ∅
  refine List.mem_append_right _ (List.mem_map.mpr ⟨(id, holding), ?_, rfl⟩)
  exact mem_unseen.mpr ⟨held, h⟩

/-- Rollbacks take their own orders out, and nothing else. -/
theorem run_rollbacks {ids : List String} (h : Run (Step within) before (ids.map .rollback) after) :
    (∀ id : String, after.orders[id]? = if id ∈ ids then none else before.orders[id]?) ∧
      after.gate = before.gate := by
  induction ids generalizing before with
  | nil =>
    rw [Run.eq_of_nil h]
    simp
  | cons other ids ih =>
    cases h with
    | cons first rest =>
      obtain ⟨horders, hgate⟩ := ih rest
      cases first with
      | rollback _ _ orders gate _ =>
        refine ⟨fun id => ?_, by rw [hgate, gate]⟩
        rw [horders, orders, getElem?_erase]
        by_cases hids : id ∈ ids
        · simp [hids]
        · simp [hids, eq_comm]

/-! ### Budgets -/

theorem confirmed_le_total (book : Book) : book.confirmed ≤ book.total :=
  List.sum_le_sum fun p _ => p.2.confirmedValue_le

theorem total_insert (fresh : book.orders[id]? = none) (holding : Holding) :
    sumOf Holding.value (book.orders.insert id holding) =
      book.total + holding.value := by
  rw [sumOf_insert fresh, add_comm]
  rfl

/-- A rebuild confirms exactly the orders it observes. -/
theorem confirmed_rebuilt (book : Book)
    (keys : (observed.map Prod.fst).Nodup) (new : ∀ p ∈ observed, book.NewlyObserved p.2) :
    sumOf Holding.confirmedValue (book.rebuilt observed) =
      (observed.map (·.2.value)).sum := by
  unfold rebuilt
  rw [sumOf_insertAll (nodup_rebuiltOrders book keys)]
  unfold rebuiltOrders
  rw [List.map_append, List.sum_append, List.map_map]
  have hobserved : observed.map (fun p => p.2.confirmedValue) = observed.map (·.2.value) := by
    refine List.map_congr_left fun p hp => ?_
    obtain ⟨-, -, hresolved⟩ := new p hp
    simp [Holding.confirmedValue, hresolved]
  have hcarried : ((book.unseen observed).map
      ((fun p => p.2.confirmedValue) ∘ fun p => (p.1, p.2.carried))).sum = 0 := by
    refine List.sum_eq_zero fun value hvalue => ?_
    obtain ⟨p, -, rfl⟩ := List.mem_map.mp hvalue
    rfl
  rw [hobserved, hcarried, add_zero]

/-- A reservation leaves the whole book within the test. -/
theorem Step.total_within (h : Step within before (.reserve id holding) after) :
    within after.total := by
  cases h with
  | reserve fresh _ _ _ fits orders =>
    rw [total, orders, total_insert fresh]
    exact fits

/-! ### Liabilities of single orders -/

/-- What holds of the attribution and the liability of every order that no projection has shown. -/
def AsReserved (P : ReservationAttribution → Decimal → Prop) (book : Book) : Prop :=
  ∀ (id : String) holding, book.orders[id]? = some holding →
    holding.record.phase ≠ .observedOpen → P holding.record.attribution holding.liability

variable {P : ReservationAttribution → Decimal → Prop} {failure : String × Nat}

/-! ### Steps -/

section

variable (h : Step within before move after)

include h

/-- Every move advances the revision, except that an exhausted book can still be closed. -/
theorem Step.advances :
    after.revision = before.revision + 1 ∨ before.revision = u64Max ∧ after = before.close := by
  cases h with
  | close =>
    rcases Nat.lt_or_eq_of_le before.bounded with hlt | heq
    · exact .inl (saturatingSucc_eq hlt)
    · exact .inr ⟨heq, rfl⟩
  | _ => exact .inl ‹_›

/-- A reserved order stays as it is until it is itself rolled back or invoked. -/
theorem Step.owns (held : before.orders[id]? = some holding)
    (phase : holding.record.phase = .reserved) (hrollback : move ≠ .rollback id)
    (hinvoke : move ≠ .invoke id) :
    after.orders[id]? = some holding := by
  cases h with
  | @reserve other new _ fresh _ _ _ _ orders =>
    rw [orders, getElem?_insert, if_neg]
    · exact held
    · rintro rfl
      rw [fresh] at held
      cases held
  | rollback _ _ orders =>
    rw [orders, getElem?_erase, if_neg (by rintro rfl; exact hrollback rfl)]
    exact held
  | invoke _ _ orders =>
    rw [orders, getElem?_insert, if_neg (by rintro rfl; exact hinvoke rfl)]
    exact held
  | @retire other old _ held' phase' orders =>
    rw [orders, getElem?_erase, if_neg]
    · exact held
    · rintro rfl
      rw [held] at held'
      cases held'
      exact phase' phase
  | rebuild _ crossed => exact absurd phase (crossed id holding held)
  | close => exact held
  | note orders | failFill orders | suspend orders => rw [orders, held]

/-- An order keeps its place and its attribution, unless it is rolled back while it is only reserved
or retired after that. -/
theorem Step.keeps (held : before.orders[id]? = some holding) :
    (∃ kept, after.orders[id]? = some kept ∧
      kept.record.attribution = holding.record.attribution) ∨
    move = .rollback id ∧ holding.record.phase = .reserved ∨
    move = .retire id ∧ holding.record.phase ≠ .reserved := by
  cases h with
  | @reserve other new _ fresh _ _ _ _ orders =>
    refine .inl ⟨holding, ?_, rfl⟩
    rw [orders, getElem?_insert, if_neg]
    · exact held
    · rintro rfl
      rw [fresh] at held
      cases held
  | @rollback other old _ held' phase orders =>
    by_cases hid : other = id
    · subst hid
      rw [held] at held'
      cases held'
      exact .inr (.inl ⟨rfl, phase⟩)
    · refine .inl ⟨holding, ?_, rfl⟩
      rw [orders, getElem?_erase, if_neg hid, held]
  | @invoke other old _ held' _ orders =>
    by_cases hid : other = id
    · subst hid
      rw [held] at held'
      cases held'
      refine .inl ⟨holding.invoked (before.revision + 1), ?_, rfl⟩
      rw [orders, getElem?_insert, if_pos rfl]
    · refine .inl ⟨holding, ?_, rfl⟩
      rw [orders, getElem?_insert, if_neg hid, held]
  | @retire other old _ held' phase orders =>
    by_cases hid : other = id
    · subst hid
      rw [held] at held'
      cases held'
      exact .inr (.inr ⟨rfl, phase⟩)
    · refine .inl ⟨holding, ?_, rfl⟩
      rw [orders, getElem?_erase, if_neg hid, held]
  | @rebuild observed _ _ _ _ keys _ attributions _ orders =>
    by_cases hid : id ∈ observed.map Prod.fst
    · obtain ⟨⟨_, seen⟩, hmem, rfl⟩ := List.mem_map.mp hid
      refine .inl ⟨seen, ?_, (attributions _ hmem holding held).symm⟩
      rw [orders, rebuilt_observed before keys hmem]
    · refine .inl ⟨holding.carried, ?_, rfl⟩
      rw [orders, rebuilt_unseen before keys held hid]
  | close => exact .inl ⟨holding, held, rfl⟩
  | note orders | failFill orders | suspend orders =>
    exact .inl ⟨holding, by rw [orders, held], rfl⟩

/-- **Every move keeps the confirmed liabilities within the test.** -/
theorem Step.confirmed_within (down : ∀ a b, a ≤ b → within b → within a)
    (hbefore : within before.confirmed) : within after.confirmed := by
  cases h with
  | reserve fresh _ _ _ fits orders =>
    refine down _ _ (confirmed_le_total after) ?_
    unfold total
    rw [orders, total_insert fresh]
    exact fits
  | rollback held _ orders | retire held _ orders =>
    refine down _ _ ?_ hbefore
    rw [confirmed, orders]
    exact (le_add_of_nonneg_left (Holding.confirmedValue_nonneg _)).trans_eq (sumOf_erase held).symm
  | @invoke id holding _ held _ orders =>
    have hsame : after.confirmed = before.confirmed := by
      rw [confirmed, orders, sumOf_replace, Holding.confirmedValue_invoked, confirmed,
        sumOf_erase held]
    rw [hsame]
    exact hbefore
  | rebuild _ _ keys new _ fits orders =>
    rw [confirmed, orders, confirmed_rebuilt before keys new]
    exact fits
  | close => exact hbefore
  | note orders | failFill orders | suspend orders => rwa [confirmed, orders]

/-- Every move but a rebuild keeps the whole book within the test. -/
theorem Step.total_kept (down : ∀ a b, a ≤ b → within b → within a)
    (hmove : ∀ observed allowance, move ≠ .rebuild observed allowance)
    (hbefore : within before.total) : within after.total := by
  cases h with
  | reserve fresh reconciled captured new fits orders gate revision =>
    exact Step.total_within (.reserve fresh reconciled captured new fits orders gate revision)
  | rollback held _ orders | retire held _ orders =>
    refine down _ _ ?_ hbefore
    rw [total, orders]
    exact (le_add_of_nonneg_left (Holding.value_pos _).le).trans_eq (sumOf_erase held).symm
  | @invoke id holding _ held _ orders =>
    have hsame : after.total = before.total := by
      rw [total, orders, sumOf_replace, total, sumOf_erase held]
      rfl
    rw [hsame]
    exact hbefore
  | rebuild => exact absurd rfl (hmove _ _)
  | close => exact hbefore
  | note orders | failFill orders | suspend orders => rwa [total, orders]

/-- An order keeps the liability it was reserved with until a projection shows it. -/
theorem Step.asReserved (hmove : ∀ id holding, move = .reserve id holding →
    P holding.record.attribution holding.liability) (hbefore : before.AsReserved P) :
    after.AsReserved P := by
  intro id holding held hphase
  cases h with
  | @reserve other new _ _ _ _ _ _ orders =>
    rw [orders, getElem?_insert] at held
    split at held
    · cases held
      exact hmove other holding rfl
    · exact hbefore id holding held hphase
  | rollback _ _ orders | retire _ _ orders =>
    rw [orders, getElem?_erase] at held
    split at held
    · cases held
    · exact hbefore id holding held hphase
  | @invoke other old _ held' phase orders =>
    rw [orders, getElem?_insert] at held
    split at held
    · cases held
      exact hbefore other old held' (by rw [phase]; rintro ⟨⟩)
    · exact hbefore id holding held hphase
  | @rebuild observed _ _ _ _ keys new _ _ orders =>
    rw [orders, rebuilt, getElem?_insertAll_empty (nodup_rebuiltOrders before keys)] at held
    rcases List.mem_append.mp held with hseen | hunseen
    · exact absurd (new _ hseen).1 hphase
    · obtain ⟨⟨other, old⟩, hmem, heq⟩ := List.mem_map.mp hunseen
      cases heq
      exact hbefore other old (mem_unseen.mp hmem).1 hphase
  | close => exact hbefore id holding held hphase
  | note orders | failFill orders | suspend orders =>
    exact hbefore id holding (by rwa [← orders]) hphase

/-- A capture failure stays until the next one, or until a rebuild with a later allowance. -/
theorem Step.captureFailure (failed : before.gate.captureFailure = some failure) :
    after.gate.captureFailure = some failure ∨
      (∃ source observedAtNs, move = .suspend source observedAtNs ∧
        after.gate.captureFailure = some (source, observedAtNs)) ∨
      ∃ observed allowance, move = .rebuild observed allowance ∧
        Recaptures allowance (some failure) := by
  cases h with
  | rebuild _ _ _ _ _ _ _ _ captured =>
    rcases captured with hsame | ⟨-, hrecaptured⟩
    · exact .inl (hsame.trans failed)
    · rw [failed] at hrecaptured
      exact .inr (.inr ⟨_, _, rfl, hrecaptured⟩)
  | close => exact .inl failed
  | failFill _ gate => exact .inl (by rw [gate]; exact failed)
  | suspend _ gate => exact .inr (.inl ⟨_, _, rfl, by rw [gate]; rfl⟩)
  | reserve _ _ _ _ _ _ gate | rollback _ _ _ gate | invoke _ _ _ gate | retire _ _ _ gate
  | note _ gate => exact .inl (by rwa [gate])

/-- Nothing clears a fill failure. -/
theorem Step.fillFailed (failed : before.gate.fillFailed = true) :
    after.gate.fillFailed = true := by
  cases h with
  | rebuild intact =>
    rw [intact] at failed
    cases failed
  | close => exact failed
  | failFill _ gate => rw [gate]; rfl
  | suspend _ gate => rw [gate]; exact failed
  | reserve _ _ _ _ _ _ gate | rollback _ _ _ gate | invoke _ _ _ gate | retire _ _ _ gate
  | note _ gate => rwa [gate]

end

/-! ### Runs -/

theorem Step.stamped (within : ℚ → Prop) :
    Stamped (Step within) Book.revision u64Max fun book => (book.orders, book.gate) where
  le := by
    intro before move after h
    rcases h.advances with hnext | ⟨-, rfl⟩
    · omega
    · exact le_saturatingSucc u64Max before.revision
  unchanged := by
    intro before move after h heq
    rcases h.advances with hnext | ⟨hmax, -⟩
    · omega
    · exact .inr hmax.ge

/-- The last capture failure of a run, which stands unless a rebuild has recaptured it. -/
def LastFailure (failure : String × Nat) (moves : List Move) (after : Book) : Prop :=
  ∃ last, (last = failure ∨ Move.suspend last.1 last.2 ∈ moves) ∧
    (after.gate.captureFailure = some last ∨ ∃ observed allowance,
      Move.rebuild observed allowance ∈ moves ∧ Recaptures allowance (some last))

theorem LastFailure.cons {next : String × Nat} (h : LastFailure next moves after)
    (hnext : next = failure ∨ Move.suspend next.1 next.2 = move) :
    LastFailure failure (move :: moves) after := by
  obtain ⟨last, hlast, hafter⟩ := h
  refine ⟨last, ?_, ?_⟩
  · rcases hlast with rfl | hlast
    · exact hnext.imp_right fun heq => by rw [heq]; exact List.mem_cons_self
    · exact .inr (List.mem_cons_of_mem _ hlast)
  · refine hafter.imp_right fun ⟨observed, allowance, hmem, hrecaptures⟩ => ?_
    exact ⟨observed, allowance, List.mem_cons_of_mem _ hmem, hrecaptures⟩

variable (h : Run (Step within) before moves after)

include h

/-- A run that does not advance the revision is empty, or it closed an exhausted book. -/
theorem run_unadvanced (heq : before.revision = after.revision) :
    moves = [] ∨ before.revision = u64Max ∧ after.gate.reconciled = false := by
  induction h with
  | nil _ => exact .inl rfl
  | @cons before next after move moves first rest ih =>
    have hle := rest.stamp_le (Step.stamped within)
    rcases first.advances with hnext | ⟨hmax, rfl⟩
    · omega
    · have hclosed : before.close.revision = before.revision := saturatingSucc_exhausted (by omega)
      rcases ih (by omega) with rfl | ⟨-, hrest⟩
      · rw [← rest.eq_of_nil]
        exact .inr ⟨hmax, rfl⟩
      · exact .inr ⟨hmax, hrest⟩

theorem run_revision_le : after.revision ≤ before.revision + moves.length := by
  induction h with
  | nil _ => simp
  | @cons before next after move moves first _ ih =>
    have hnext : next.revision ≤ before.revision + 1 := by
      rcases first.advances with heq | ⟨hmax, rfl⟩
      · omega
      · have : before.close.revision = before.revision := saturatingSucc_exhausted (by omega)
        omega
    rw [List.length_cons]
    omega

/-- An order keeps its place and its attribution over a run that neither rolls it back nor retires
it. -/
theorem run_keeps (hmoves : ∀ move ∈ moves, move ≠ .rollback id ∧ move ≠ .retire id)
    (held : before.orders[id]? = some holding) :
    ∃ kept, after.orders[id]? = some kept ∧
      kept.record.attribution = holding.record.attribution := by
  induction h generalizing holding with
  | nil _ => exact ⟨holding, held, rfl⟩
  | cons first _ ih =>
    obtain ⟨hfirst, hrest⟩ := List.forall_mem_cons.mp hmoves
    rcases first.keeps held with ⟨kept, hkept, hsame⟩ | ⟨rfl, -⟩ | ⟨rfl, -⟩
    · obtain ⟨last, hlast, hsame'⟩ := ih hrest hkept
      exact ⟨last, hlast, hsame'.trans hsame⟩
    · exact absurd rfl hfirst.1
    · exact absurd rfl hfirst.2

theorem run_asReserved (hmoves : ∀ id holding, Move.reserve id holding ∈ moves →
      P holding.record.attribution holding.liability) (hbefore : before.AsReserved P) :
    after.AsReserved P := by
  induction h with
  | nil _ => exact hbefore
  | cons first _ ih =>
    refine ih (fun id holding hmem => hmoves id holding (List.mem_cons_of_mem _ hmem)) ?_
    refine first.asReserved (fun id holding hmove => hmoves id holding ?_) hbefore
    rw [hmove]
    exact List.mem_cons_self

theorem run_captureFailure (failed : before.gate.captureFailure = some failure) :
    LastFailure failure moves after := by
  induction h generalizing failure with
  | nil _ => exact ⟨failure, .inl rfl, .inl failed⟩
  | cons first _ ih =>
    rcases first.captureFailure failed with
      hsame | ⟨source, observedAtNs, rfl, hnext⟩ | ⟨observed, allowance, rfl, hrecaptures⟩
    · exact (ih hsame).cons (.inl rfl)
    · exact (ih hnext).cons (.inr rfl)
    · exact ⟨failure, .inl rfl, .inr ⟨observed, allowance, List.mem_cons_self, hrecaptures⟩⟩

/-- An exhausted book can only be closed. -/
theorem run_exhausted (hexhausted : before.revision = u64Max) :
    after.revision = u64Max ∧ ∀ move ∈ moves, move = .close := by
  induction h with
  | nil _ => exact ⟨hexhausted, by simp⟩
  | @cons before next after move moves first _ ih =>
    have hbounded := next.bounded
    have hmove : move = .close := by
      cases first with
      | close => rfl
      | _ => omega
    subst hmove
    have hnext : next.revision = u64Max := by
      cases first with
      | close => rw [← hexhausted]; exact saturatingSucc_exhausted (by omega)
    obtain ⟨hafter, hrest⟩ := ih hnext
    exact ⟨hafter, List.forall_mem_cons.mpr ⟨rfl, hrest⟩⟩

variable (hmoves : ∀ move ∈ moves, ∀ observed allowance, move ≠ .rebuild observed allowance)

include hmoves

/-- **A run that reserves and does not rebuild leaves the whole book within the test.** -/
theorem run_total_within (down : ∀ a b, a ≤ b → within b → within a)
    (hreserved : within before.total ∨ ∃ id holding, Move.reserve id holding ∈ moves) :
    within after.total := by
  induction h with
  | nil _ =>
    rcases hreserved with hbefore | ⟨_, _, hmem⟩
    · exact hbefore
    · cases hmem
  | cons first _ ih =>
    obtain ⟨hfirst, hrest⟩ := List.forall_mem_cons.mp hmoves
    refine ih hrest ?_
    rcases hreserved with hbefore | ⟨id, holding, hmem⟩
    · exact .inl (first.total_kept down hfirst hbefore)
    · rcases List.mem_cons.mp hmem with rfl | hmem
      · exact .inl first.total_within
      · exact .inr ⟨id, holding, hmem⟩

/-- A closed gate stays closed without a rebuild, and nothing is reserved. -/
theorem run_closed (hclosed : before.gate.reconciled = false) :
    after.gate.reconciled = false ∧ ∀ id holding, Move.reserve id holding ∉ moves := by
  induction h with
  | nil _ => exact ⟨hclosed, by simp⟩
  | @cons before next after move moves first _ ih =>
    obtain ⟨hfirst, hrest⟩ := List.forall_mem_cons.mp hmoves
    have hnext : next.gate.reconciled = false := by
      cases first with
      | rebuild => exact absurd rfl (hfirst _ _)
      | close => rfl
      | failFill _ gate | suspend _ gate => rw [gate]; rfl
      | reserve _ _ _ _ _ _ gate | rollback _ _ _ gate | invoke _ _ _ gate | retire _ _ _ gate
      | note _ gate => rwa [gate]
    obtain ⟨hafter, hreserve⟩ := ih hrest hnext
    refine ⟨hafter, fun id holding hmem => ?_⟩
    rcases List.mem_cons.mp hmem with rfl | hmem
    · cases first with
      | reserve _ reconciled =>
        rw [hclosed] at reconciled
        cases reconciled
    · exact hreserve id holding hmem

/-- Nothing is reserved after a capture failure without a rebuild. -/
theorem run_suspended (hfailed : before.gate.captureFailure ≠ none) (id : String)
    (holding : Holding) :
    Move.reserve id holding ∉ moves := by
  induction h with
  | nil _ => simp
  | @cons before next after move moves first _ ih =>
    obtain ⟨hfirst, hrest⟩ := List.forall_mem_cons.mp hmoves
    obtain ⟨failure, hfailure⟩ := Option.ne_none_iff_exists'.mp hfailed
    have hnext : next.gate.captureFailure ≠ none := by
      rcases first.captureFailure hfailure with
        hsame | ⟨source, observedAtNs, -, hsome⟩ | ⟨observed, allowance, rfl, -⟩
      · rw [hsame]
        nofun
      · rw [hsome]
        nofun
      · exact absurd rfl (hfirst observed allowance)
    intro hmem
    rcases List.mem_cons.mp hmem with rfl | hmem
    · cases first with
      | reserve _ _ captured => exact hfailed captured
    · exact ih hrest hnext hmem

end

end Book

end BoltV3.Submit
