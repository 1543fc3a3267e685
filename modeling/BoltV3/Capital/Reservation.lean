import BoltV3.Lib.Decimal
import BoltV3.Lib.Rust

/-!
# The reservation ledger

`bolt_v3_capital_reservation.rs`: the product-agnostic ledger of committed-but-unfilled capital.
`reserve` admits a request against the budget of a pool snapshot, `rollback_uncommitted` and
`remove_existing` take a reservation out again, and `retained_reservation` with `carry_retained`
moves a live reservation into another ledger without a new budget check.

* `live_reservations` is a list in insertion order; `position` and `remove` are a search for the
  first entry of the pool and request id.
* `release` and `revalue` have no caller in submit admission and are left out.
-/

namespace BoltV3.Capital

open Lib List

structure CapitalPoolSnapshot where
  source : String
  observedAtNs : Nat
  poolId : String
  (maxPoolLiability committedLiability : Decimal)
  maxSnapshotAgeNs : Nat

structure LiveReservation where
  (requestId poolId collateralGroupId : String)
  liability : Decimal
  observedAtNs : Nat

/-- A request has the fields of the entry it asks for. -/
structure ReservationRequest extends LiveReservation where
  evidenceLabel : String

inductive ReservationRejectionReason
  | missingEvidence | staleRequest | poolMismatch | overBudget | invalidRequest
  | collateralGroupMismatch | duplicateReservation | unknownReservation | unknownRelease
  | reconciliationRequired

structure ReservationDecision where
  accepted : Bool
  reason : Option ReservationRejectionReason
  (requestedLiability availableBefore : Decimal)
  availableAfter : Option Decimal

structure ReservationReleaseDecision where
  accepted : Bool
  reason : Option ReservationRejectionReason
  releasedLiability : Option Decimal

/-- The entry of pool `poolId` and request `requestId`. -/
def LiveReservation.named (poolId requestId : String) (reservation : LiveReservation) : Bool :=
  reservation.poolId == poolId && reservation.requestId == requestId

structure ReservationLedger where
  liveReservations : List LiveReservation
  reconciliationComplete : Bool

def stale (observedAtNs nowNs maxSnapshotAgeNs : Nat) : Bool :=
  decide (observedAtNs > nowNs) || decide (nowNs - observedAtNs > maxSnapshotAgeNs)

def missingIdentity (request : ReservationRequest) : Bool :=
  isBlank request.requestId || isBlank request.poolId || isBlank request.collateralGroupId

def rejected (reason : ReservationRejectionReason) (requestedLiability availableBefore : Decimal) :
    ReservationDecision :=
  { accepted := false, reason := some reason, requestedLiability := requestedLiability
    availableBefore := availableBefore, availableAfter := none }

namespace ReservationLedger

def unreconciled : ReservationLedger := ⟨[], false⟩

def reconciled : ReservationLedger := ⟨[], true⟩

variable (ledger : ReservationLedger)

def isReconciled : Bool := ledger.reconciliationComplete

def invalidateReconciliation : ReservationLedger :=
  { ledger with reconciliationComplete := false }

variable (poolId collateralGroupId requestId : String)

/-- The live reservations of one pool and request id are taken by an earlier request. -/
def duplicate : Bool := ledger.liveReservations.any (·.named poolId requestId)

/-- `rollback_uncommitted`: the first entry of the pool and request id is removed. -/
def rollbackUncommitted : ReservationLedger × Option Decimal :=
  match ledger.liveReservations.find? (·.named poolId requestId) with
  | none => (ledger, none)
  | some reservation =>
    ({ ledger with
        liveReservations := ledger.liveReservations.eraseP (·.named poolId requestId) },
      some reservation.liability)

def removeExisting : ReservationLedger × ReservationReleaseDecision :=
  match ledger.liveReservations.find? (·.named poolId requestId) with
  | none => (ledger, ⟨false, some .unknownRelease, none⟩)
  | some reservation =>
    if reservation.collateralGroupId ≠ collateralGroupId then
      (ledger, ⟨false, some .collateralGroupMismatch, none⟩)
    else
      ({ ledger with
          liveReservations := ledger.liveReservations.eraseP (·.named poolId requestId) },
        ⟨true, none, some reservation.liability⟩)

/-- `retained_reservation`: an opaque copy of a live entry. -/
def retainedReservation : Except ReservationRejectionReason LiveReservation :=
  match ledger.liveReservations.find? (·.named poolId requestId) with
  | none => .error .unknownReservation
  | some reservation =>
    if reservation.collateralGroupId ≠ collateralGroupId then .error .collateralGroupMismatch
    else .ok reservation

/-- `carry_retained`: the entry is pushed as it is, with no budget check. -/
def carryRetained (poolId : String) (reservation : LiveReservation) :
    Except ReservationRejectionReason (ReservationLedger × Decimal) :=
  if reservation.poolId ≠ poolId then .error .poolMismatch
  else if isBlank reservation.requestId || isBlank reservation.poolId ||
      isBlank reservation.collateralGroupId || decide (reservation.liability ≤ .zero) then
    .error .invalidRequest
  else if ledger.duplicate reservation.poolId reservation.requestId then
    .error .duplicateReservation
  else
    .ok ({ ledger with liveReservations := ledger.liveReservations ++ [reservation] },
      reservation.liability)

section

variable [DecimalArith]

/-- `live_reserved_liability`: an overflowing sum reads as `Decimal::MAX`. -/
def liveReservedLiability (ledger : ReservationLedger) (poolId : String) : Decimal :=
  (checkedSumFrom .zero
    ((ledger.liveReservations.filter (·.poolId == poolId)).map (·.liability))).getD .max

end

end ReservationLedger

section

variable [DecimalArith]

def availablePoolLiability (pool : CapitalPoolSnapshot) (liveReservedLiability : Decimal) :
    Option Decimal :=
  match DecimalArith.checkedSub pool.maxPoolLiability pool.committedLiability with
  | none => none
  | some available => DecimalArith.checkedSub available liveReservedLiability

namespace ReservationLedger

variable (ledger : ReservationLedger) (pool : CapitalPoolSnapshot) (request : ReservationRequest)
  (nowNs : Nat)

/-- The checks of `reserve` between the available budget and its update, in the source's order. -/
def reserveRefusal (availableBefore : Decimal) : Option ReservationRejectionReason :=
  firstRefusal
    [(!ledger.reconciliationComplete, .reconciliationRequired),
      (pool.poolId != request.poolId, .poolMismatch),
      (missingIdentity request || decide (request.liability ≤ .zero), .invalidRequest),
      (isBlank pool.source || isBlank request.evidenceLabel, .missingEvidence),
      (stale pool.observedAtNs nowNs pool.maxSnapshotAgeNs ||
        stale request.observedAtNs nowNs pool.maxSnapshotAgeNs ||
        decide (request.observedAtNs < pool.observedAtNs), .staleRequest),
      (ledger.duplicate request.poolId request.requestId, .duplicateReservation),
      (decide (availableBefore < request.liability), .overBudget)]

/-- The entry a request leaves in the ledger. -/
def entryOf : LiveReservation := request.toLiveReservation

def reserve (minRemainingPoolBalance : Option Decimal) : ReservationLedger × ReservationDecision :=
  match availablePoolLiability pool (ledger.liveReservedLiability pool.poolId) with
  | none => (ledger, rejected .overBudget request.liability .zero)
  | some availableBefore =>
    match ledger.reserveRefusal pool request nowNs availableBefore with
    | some reason => (ledger, rejected reason request.liability availableBefore)
    | none =>
      match DecimalArith.checkedSub availableBefore request.liability with
      | none => (ledger, rejected .overBudget request.liability availableBefore)
      | some availableAfter =>
        if minRemainingPoolBalance.any fun minimum => decide (availableAfter < minimum) then
          (ledger, rejected .overBudget request.liability availableBefore)
        else
          ({ ledger with liveReservations := ledger.liveReservations ++ [entryOf request] },
            { accepted := true, reason := none, requestedLiability := request.liability
              availableBefore := availableBefore, availableAfter := some availableAfter })

/-- What an accepted `reserve` has checked: every guard held and the request fits the budget. -/
structure Reservable (ledger : ReservationLedger) (pool : CapitalPoolSnapshot)
    (request : ReservationRequest) (availableBefore : Decimal) : Prop where
  available : availablePoolLiability pool (ledger.liveReservedLiability pool.poolId) =
    some availableBefore
  reconciled : ledger.reconciliationComplete = true
  pool_eq : pool.poolId = request.poolId
  identified : missingIdentity request = false
  positive : ¬ request.liability ≤ .zero
  fresh : ledger.duplicate request.poolId request.requestId = false
  fits : ¬ availableBefore < request.liability

theorem reserveRefusal_eq_none {ledger : ReservationLedger} {pool : CapitalPoolSnapshot}
    {request : ReservationRequest} {nowNs : Nat} {before : Decimal}
    (havailable : availablePoolLiability pool (ledger.liveReservedLiability pool.poolId) =
      some before) (h : ledger.reserveRefusal pool request nowNs before = none) :
    Reservable ledger pool request before := by
  have hpassed := firstRefusal_eq_none.mp h
  simp only [mem_cons, not_mem_nil, or_false, forall_eq_or_imp, forall_eq,
    Bool.not_eq_false', bne_eq_false_iff_eq, Bool.or_eq_false_iff, decide_eq_false_iff_not]
    at hpassed
  obtain ⟨hreconciled, hpool, ⟨hidentified, hpositive⟩, -, -, hfresh, hfits⟩ := hpassed
  exact ⟨havailable, hreconciled, hpool, hidentified, hpositive, hfresh, hfits⟩

/-- **`reserve` refuses and changes nothing, or pushes the request with every guard checked.** -/
theorem reserve_cases (minimum : Option Decimal) :
    (∃ reason before, ledger.reserve pool request nowNs minimum =
        (ledger, rejected reason request.liability before)) ∨
      ∃ before after, Reservable ledger pool request before ∧
        ledger.reserve pool request nowNs minimum =
          ({ ledger with liveReservations := ledger.liveReservations ++ [entryOf request] },
            ⟨true, none, request.liability, before, some after⟩) := by
  unfold reserve
  split
  · exact .inl ⟨_, _, rfl⟩
  rename_i before havailable
  split
  · exact .inl ⟨_, _, rfl⟩
  rename_i hrefusal
  split
  · exact .inl ⟨_, _, rfl⟩
  rename_i after _
  split
  · exact .inl ⟨_, _, rfl⟩
  · exact .inr ⟨before, after, reserveRefusal_eq_none havailable hrefusal, rfl⟩

end ReservationLedger

end

/-! ## Entries by name -/

namespace LiveReservation

/-- What names an entry of the ledger: the pool and the request id. -/
def key (reservation : LiveReservation) : String × String :=
  (reservation.poolId, reservation.requestId)

theorem named_iff_key {poolId requestId : String} {reservation : LiveReservation} :
    reservation.named poolId requestId = true ↔ reservation.key = (poolId, requestId) := by
  simp [named, key]

end LiveReservation

theorem perm_cons_eraseP {α : Type} {p : α → Bool} :
    ∀ {l : List α} {a : α}, l.find? p = some a → l.Perm (a :: l.eraseP p)
  | [], _, h => by cases h
  | b :: l, a, h => by
    rw [find?_cons] at h
    rw [eraseP_cons]
    cases hb : p b with
    | true =>
      rw [hb] at h
      cases h
      simp
    | false =>
      rw [hb] at h
      exact ((perm_cons_eraseP h).cons b).trans (.swap a b _)

/-- With distinct names, the entry found under a name is the one that has it. -/
theorem find?_named {l : List LiveReservation} (hnodup : (l.map LiveReservation.key).Nodup)
    {reservation : LiveReservation} (hmem : reservation ∈ l) :
    l.find? (·.named reservation.poolId reservation.requestId) = some reservation := by
  cases hfind : l.find? (·.named reservation.poolId reservation.requestId) with
  | none =>
    have := find?_eq_none.mp hfind reservation hmem
    simp [LiveReservation.named] at this
  | some other =>
    have hnamed := find?_some hfind
    have hkey : other.key = reservation.key := LiveReservation.named_iff_key.mp hnamed
    rw [inj_on_of_nodup_map hnodup (mem_of_find?_eq_some hfind) hmem hkey]

namespace ReservationLedger

variable {ledger : ReservationLedger} {poolId : String}

theorem duplicate_eq_false {requestId : String} : ledger.duplicate poolId requestId = false ↔
      (poolId, requestId) ∉ ledger.liveReservations.map LiveReservation.key := by
  unfold duplicate
  rw [any_eq_false, mem_map]
  constructor
  · rintro h ⟨reservation, hmem, hkey⟩
    exact h reservation hmem (LiveReservation.named_iff_key.mpr hkey)
  · rintro h reservation hmem hnamed
    exact h ⟨reservation, hmem, LiveReservation.named_iff_key.mp hnamed⟩

/-- Taking back an entry just pushed under a fresh name restores the ledger. -/
theorem rollbackUncommitted_push (reservation : LiveReservation)
    (h : ledger.duplicate reservation.poolId reservation.requestId = false) :
    (rollbackUncommitted
      { ledger with liveReservations := ledger.liveReservations ++ [reservation] }
      reservation.poolId reservation.requestId) = (ledger, some reservation.liability) := by
  have hnone := find?_eq_none.mpr (any_eq_false.mp h)
  have hnamed : reservation.named reservation.poolId reservation.requestId = true :=
    LiveReservation.named_iff_key.mpr rfl
  unfold rollbackUncommitted
  rw [find?_append, hnone, Option.none_or, find?_cons, hnamed]
  have herase : (ledger.liveReservations ++ [reservation]).eraseP
      (·.named reservation.poolId reservation.requestId) = ledger.liveReservations := by
    rw [eraseP_append_right _ fun other hmem =>
      (by simpa using find?_eq_none.mp hnone other hmem)]
    simp [hnamed]
  rw [herase]

/-- `carry_retained` pushes a well-formed entry under a fresh name. -/
theorem carryRetained_eq_ok {ledger' : ReservationLedger}
    {reservation : LiveReservation} {liability : Decimal}
    (h : ledger.carryRetained poolId reservation = .ok (ledger', liability)) :
    reservation.poolId = poolId ∧ ¬ reservation.liability ≤ .zero ∧
      ledger.duplicate reservation.poolId reservation.requestId = false ∧
      ledger' = { ledger with liveReservations := ledger.liveReservations ++ [reservation] } := by
  unfold carryRetained at h
  split at h; · cases h
  rename_i hpool
  split at h; · cases h
  rename_i hvalid
  split at h; · cases h
  rename_i hfresh
  cases h
  rw [Bool.or_eq_true, not_or, decide_eq_true_eq] at hvalid
  exact ⟨not_not.mp hpool, hvalid.2, by simpa using hfresh, rfl⟩

end ReservationLedger

/-! ## The budget under exact decimals -/

/-- The sum of the live liabilities of a list of entries. -/
def reservedValue (l : List LiveReservation) : ℚ := (l.map (·.liability.value)).sum

theorem reservedValue_append (l r : List LiveReservation) :
    reservedValue (l ++ r) = reservedValue l + reservedValue r := by
  unfold reservedValue
  rw [map_append, sum_append]

/-- The budget of a pool, `max_pool_liability - committed_liability`. -/
def CapitalPoolSnapshot.budget (pool : CapitalPoolSnapshot) : ℚ :=
  pool.maxPoolLiability.value - pool.committedLiability.value

section

variable [arith : DecimalArith] {ledger : ReservationLedger}

/-- The ledger's sum is the sum of the pool's entries, or it overflowed and reads as the largest
decimal, which the sum exceeds. -/
theorem liveReservedLiability_value (exact : arith.Exact)
    {poolId : String} (hpos : ∀ r ∈ ledger.liveReservations, 0 ≤ r.liability.value) :
    let entries := ledger.liveReservations.filter (·.poolId == poolId)
    (ledger.liveReservedLiability poolId).value = reservedValue entries ∨
      (ledger.liveReservedLiability poolId).value = Decimal.max.value ∧
        Decimal.max.value < reservedValue entries := by
  intro entries
  have hsum : ((entries.map (·.liability)).map Decimal.value).sum = reservedValue entries := by
    rw [map_map]
    rfl
  unfold ReservationLedger.liveReservedLiability
  cases h : checkedSumFrom .zero (entries.map (·.liability)) with
  | some d =>
    refine .inl ?_
    rw [Option.getD_some, checkedSumFrom_value exact h, hsum, Decimal.value_zero, zero_add]
  | none =>
    refine .inr ⟨rfl, ?_⟩
    have hnonneg : ∀ d ∈ entries.map (·.liability), 0 ≤ d.value := by
      intro d hd
      obtain ⟨r, hr, rfl⟩ := mem_map.mp hd
      exact hpos r (mem_filter.mp hr).1
    have := checkedSumFrom_overflow exact (by simp) hnonneg h
    rwa [hsum, Decimal.value_zero, zero_add] at this

/-- **An accepted request keeps the live liabilities of the pool within its budget.** -/
theorem reserve_within_budget (exact : arith.Exact)
    {pool : CapitalPoolSnapshot} {request : ReservationRequest} {before : Decimal}
    (hpos : ∀ r ∈ ledger.liveReservations, 0 ≤ r.liability.value)
    (h : ledger.Reservable pool request before) :
    reservedValue (ledger.liveReservations.filter (·.poolId == pool.poolId)) +
      request.liability.value ≤ pool.budget := by
  have havailable := h.available
  unfold availablePoolLiability at havailable
  split at havailable; · cases havailable
  rename_i net hnet
  have hnetValue := checkedAs_value (exact.sub _ _ trivial) hnet
  have hnetRange := checkedAs_range (exact.sub _ _ trivial) hnet
  have hbefore := checkedAs_value (exact.sub _ _ trivial) havailable
  have hfits := h.fits
  have hpositive := h.positive
  rw [Decimal.lt_iff_value] at hfits
  rw [Decimal.le_iff_value, Decimal.value_zero] at hpositive
  unfold CapitalPoolSnapshot.budget
  rcases liveReservedLiability_value exact hpos with hsum | ⟨hmax, -⟩
  · linarith
  · have := le_of_abs_le hnetRange
    linarith

end

end BoltV3.Capital
