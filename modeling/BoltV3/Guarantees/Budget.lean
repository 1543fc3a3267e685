import BoltV3.Guarantees.Reservations

/-!
# The budget of the pool

`reserve` checks a new liability against `max_pool_liability - committed_liability`; a rebuild
checks the orders it sees open, and then appends the ones it does not see with `carry_retained`,
which checks nothing. So the budget bounds the liabilities that the last projection showed or that
were admitted since, and bounds all of them whenever an order is admitted, but not after every
rebuild: an order of an earlier process that the venue shows late, next to one in flight, can exceed
it.
-/

namespace BoltV3.Submit

open Lib Loss Capital Evidence
open Std (ExtTreeMap)

/-! ## Liabilities of a state -/

/-- The entry is named by a record that no projection left unresolved. -/
def SubmitCapitalAdmissionState.confirms (capital : SubmitCapitalAdmissionState)
    (entry : LiveReservation) : Bool :=
  capital.clientOrderReservations.toList.any fun p =>
    decide (p.2.NamesEntry entry) && !p.2.unresolvedInProjection

variable (inner : Inner)

/-- The liability of all live reservations. -/
def Inner.liveLiability : ℚ :=
  inner.capitalAdmission.elim 0 fun capital => reservedValue capital.gate.liveReservations

/-- The liability of the live reservations that the last projection showed, or made since. -/
def Inner.confirmedLiability : ℚ :=
  inner.capitalAdmission.elim 0 fun capital =>
    reservedValue (capital.gate.liveReservations.filter capital.confirms)

/-- Whether the gate is reconciled. -/
def Inner.reconciled : Bool := inner.capitalAdmission.any (·.gate.reconciliationComplete)

section

variable {inner} {terms : Option CapitalTerms} {market : Option Market} {book : Book}
  {capital : SubmitCapitalAdmissionState}

theorem RepresentsCapital.confirms (h : RepresentsCapital capital book) {id : String}
    {holding : Holding} (held : book.orders[id]? = some holding) :
    capital.confirms holding.entry = !holding.record.unresolvedInProjection := by
  rw [Bool.eq_iff_iff]
  simp only [SubmitCapitalAdmissionState.confirms, List.any_eq_true, Bool.and_eq_true,
    decide_eq_true_eq]
  constructor
  · rintro ⟨⟨other, record⟩, hmem, hnames, hresolved⟩
    rw [SortedMap.mem_toList, h.getElem?_index] at hmem
    obtain ⟨holding', held', rfl⟩ := Option.map_eq_some_iff.mp hmem
    obtain rfl := book.distinct other id holding' holding held' held hnames.name_eq
    rw [held] at held'
    cases held'
    exact hresolved
  · intro hresolved
    refine ⟨(id, holding.record), ?_, holding.namesEntry, hresolved⟩
    rw [SortedMap.mem_toList, h.getElem?_index, held, Option.map_some]

theorem reservedValue_filter (p : LiveReservation → Bool) (entries : List LiveReservation) :
    reservedValue (entries.filter p) =
      (entries.map fun entry => if p entry then entry.liability.value else 0).sum := by
  induction entries with
  | nil => rfl
  | cons entry entries ih =>
    rw [List.map_cons, List.sum_cons, ← ih]
    cases hp : p entry <;> simp [hp, reservedValue]

theorem RepresentsCapital.confirmed (h : RepresentsCapital capital book) :
    reservedValue (capital.gate.liveReservations.filter capital.confirms) = book.confirmed := by
  rw [reservedValue_filter, h.ledger.sum_eq]
  unfold Book.confirmed SortedMap.sumOf
  congr 1
  refine List.map_congr_left fun ⟨id, holding⟩ hmem => ?_
  dsimp only
  rw [h.confirms (SortedMap.mem_toList.mp hmem)]
  unfold Holding.confirmedValue
  cases holding.record.unresolvedInProjection <;> rfl

theorem Represents.liveLiability (h : Represents terms market inner book) :
    inner.liveLiability = book.total := by
  unfold Inner.liveLiability
  cases hcapital : inner.capitalAdmission with
  | none =>
    rw [Book.total, (h.absent hcapital).1]
    rfl
  | some capital => exact (h.present capital hcapital).total

theorem Represents.confirmedLiability (h : Represents terms market inner book) :
    inner.confirmedLiability = book.confirmed := by
  unfold Inner.confirmedLiability
  cases hcapital : inner.capitalAdmission with
  | none =>
    rw [Book.confirmed, (h.absent hcapital).1]
    rfl
  | some capital => exact (h.present capital hcapital).confirmed

theorem Represents.reconciled (h : Represents terms market inner book) :
    inner.reconciled = book.gate.reconciled := by
  unfold Inner.reconciled
  cases hcapital : inner.capitalAdmission with
  | none =>
    rw [(h.absent hcapital).2]
    rfl
  | some capital => exact (h.present capital hcapital).reconciled

theorem Book.total_eq_confirmed (book : Book)
    (h : ∀ (id : String) holding, book.orders[id]? = some holding →
      holding.record.unresolvedInProjection = false) : book.total = book.confirmed := by
  unfold total confirmed SortedMap.sumOf
  congr 1
  refine List.map_congr_left fun ⟨id, holding⟩ hmem => ?_
  rw [Holding.confirmedValue, h id holding (SortedMap.mem_toList.mp hmem)]
  rfl

end

/-! ## The bound -/

section

variable [arith : DecimalArith] {setup : Setup}

/-- The confirmed liabilities of the book of an execution pass the test of its terms. -/
theorem confirmed_termsWithin {moves : List Move} {book : Book}
    (h : Run (BookStep setup.terms) setup.book moves book) :
    termsWithin setup.terms book.confirmed := by
  refine h.invariant (I := fun book => termsWithin setup.terms book.confirmed) ?_ ?_
  · exact fun _ _ _ hbefore hstep => hstep.confirmed_within termsWithin_down hbefore
  · exact fun _ _ _ hbudget => hbudget

/-- **The budget bounds the confirmed liabilities in every state**, all liabilities where nothing is
carried, and all liabilities whenever an order that reserves capital is admitted. -/
theorem liability_within_budget (exact : arith.Exact) (setup : Setup)
    (config : SubmitCapitalAdmissionConfig) (hconfig : setup.capital = some config)
    (hbudget : config.capitalPool.committedLiability.value ≤
      config.capitalPool.maxPoolLiability.value) (ops : List (Op setup)) :
    let s := setup.start.run ops
    let budget := config.capitalPool.maxPoolLiability.value -
      config.capitalPool.committedLiability.value
    s.inner.confirmedLiability ≤ budget ∧
      ((∀ id record entry, s.inner.HoldsCapital id record entry →
        record.unresolvedInProjection = false) → s.inner.liveLiability ≤ budget) ∧
      ∀ op : Op setup, s.AdmitsCapital op → (s.step op).inner.liveLiability ≤ budget := by
  intro s budget
  obtain ⟨_, market, book, hrun, hsimulates⟩ := reachable_simulates setup ops
  have hrep := hsimulates.represents
  have hterms : setup.terms = some config.initial.terms := by
    unfold Setup.terms Inner.terms Setup.inner Inner.newWithOptionalControls
    rw [hconfig]
    rfl
  have hwithin : ∀ total, termsWithin setup.terms total → total ≤ budget := by
    intro total h
    have hterm := h exact _ hterms
    simp only [CapitalTerms.budget, SubmitCapitalAdmissionState.terms,
      SubmitCapitalAdmissionConfig.initial] at hterm
    exact hterm (sub_nonneg.mpr hbudget)
  have hconfirmed := hwithin _ (confirmed_termsWithin hrun)
  refine ⟨?_, ?_, ?_⟩
  · rw [hrep.confirmedLiability]
    exact hconfirmed
  · intro hresolved
    rw [hrep.liveLiability, book.total_eq_confirmed]
    · exact hconfirmed
    · intro id holding held
      exact hresolved id holding.record holding.entry
        (hrep.holdsCapital_iff.mpr ⟨holding, held, rfl, rfl⟩)
  · intro op hadmits
    obtain ⟨moves, market', book', hmoves⟩ := step_moves hsimulates op
    obtain ⟨hrequests, hreserve⟩ := hadmits.reserves ((reachable_sound setup ops).step op) hmoves
    have hrebuild := hmoves.no_rebuild (by rintro projection nowNs append rfl; exact hrequests rfl)
    rw [hmoves.simulates.represents.liveLiability]
    exact hwithin _ (Book.run_total_within hmoves.run hrebuild termsWithin_down (.inr hreserve))

end

/-! ## A pool of 100 -/

/-- A projection as its caller assembles it: the open orders are rebuilt from their attributions in
an earlier state, the components come from the feed. -/
def NtProjection.assemble [DecimalArith] {setup : Setup} (feed : CapitalAdmissionRuntimeFeed)
    (hfeed : feed.config = setup.feed) (cache : CapitalAdmissionNtCacheProjection) (inner : Inner)
    (hterms : inner.terms = setup.inner.terms) (expectedEpoch observedAtNs : Nat)
    (orders : List (OpenOrderEvidence × ReservationAttribution)) : NtProjection setup :=
  { expectedEpoch := expectedEpoch, components := (feed.canonicalNtComponents cache).toOption
    acceptedAllowanceObservedAtNs := cache.acceptedAllowanceObservedAtNs
    snapshot :=
      { observedAtNs := observedAtNs, evidenceSource := .ntOpenOrderCache
        observedOpenOrderCount := orders.length, allOpenOrdersAttributed := true
        reservations := orders.filterMap fun order =>
          openOrderReservationFromAttribution inner order.1 order.2 }
    attributed := by
      intro reservation hreservation
      obtain ⟨order, -, hsome⟩ := List.mem_filterMap.mp hreservation
      exact ⟨inner, order.1, order.2, hterms, hsome⟩
    canonical := by
      intro c hc
      refine ⟨feed, cache, hfeed, ?_⟩
      cases hok : feed.canonicalNtComponents cache with
      | error _ =>
        rw [hok] at hc
        cases hc
      | ok c' =>
        rw [hok] at hc
        cases hc
        rfl }

namespace PoolOf100

attribute [local instance] Decimal.reference

def capital : SubmitCapitalAdmissionConfig :=
  { venueId := "venue", accountId := "account", productKind := .predictionMarketBinary
    collateralCurrency := "USD"
    capitalPool :=
      { source := "config", observedAtNs := 0, poolId := "pool", maxPoolLiability := ⟨100, 0⟩
        committedLiability := .zero, maxSnapshotAgeNs := 1000 }
    policy := ⟨none, some ⟨.zero, .zero⟩⟩ }

def feed : CapitalAdmissionRuntimeFeed :=
  { config :=
      { venueId := "venue", accountId := "account", collateralCurrency := "USD"
        productState := .predictionMarketBinary
          ⟨"config", 0, "YES", "NO", .zero, .zero, .zero, "group"⟩ }
    latestProviderCollateralAllowance := some
      ⟨"provider", 1, "venue", "account", "USD", ⟨100, 0⟩⟩
    acceptedAllowanceObservedAtNs := some 1 }

/-- The attribution of an order to buy 60 at 1 that an earlier process recorded. -/
def recoveredOrder : ReservationAttribution :=
  { clientOrderId := "B", submitReservationId := "B#1", venueId := "venue", accountId := "account"
    productKind := .predictionMarketBinary, collateralCurrency := "USD", capitalPoolId := "pool"
    collateralGroupId := "group", instrumentId := "YES", side := .buy, submittedQuantity := "60"
    liabilityFactor := "1", additiveLiability := "0", reservedLiability := "60", observedAtNs := 0 }

def recoveredGrant : ReservationRecoveryEvent :=
  .basketGranted ⟨⟨"strategy", "client", "basket", "group", ["YES"], "60", 1⟩,
    [⟨"B", "YES", .entry, some recoveredOrder⟩]⟩

def setup : Setup :=
  { limits := ∅, lossPolicy := none, capital := some capital, feed := feed.config
    recovered := [recoveredGrant]
    facts := { ReservationRecoveryFacts.empty with
      reservationAttribution := (∅ : ExtTreeMap String ReservationAttribution).insert "B"
        recoveredOrder }
    recovers := by decide }

/-- The projection of a state at its own epoch. -/
def projectionOf (ops : List (Op setup))
    (orders : List (OpenOrderEvidence × ReservationAttribution)) : NtProjection setup :=
  .assemble feed rfl
    { acceptedAllowanceObservedAtNs := some 1, accountBalances := some (⟨100, 0⟩, ⟨100, 0⟩)
      openClientOrderIds := orders.map (·.1.clientOrderId), yesPosition := .zero
      noPosition := .zero, observedAtNs := 1 }
    (setup.start.run ops).inner
    (by obtain ⟨_, _, _, -, h⟩ := reachable_simulates setup ops; exact h.represents.terms_eq)
    (setup.start.run ops).inner.capitalAdmissionStateRevision 1 orders

/-- An order to buy at 1. -/
def order (clientOrderId : String) (quantity : Nat) : SubmitAdmissionRequest :=
  { strategyId := "strategy", executionClientId := "client", clientOrderId := clientOrderId
    instrumentId := "YES", notional := ⟨quantity, 0⟩, orderSide := .buy
    orderQuantity := ⟨quantity, 0⟩, intentKind := .entry, riskReducingExitProof := none
    admissionEvidence := some
      { venueId := "venue", productKind := .predictionMarketBinary, side := .buy
        quantity := ⟨quantity, 0⟩, effectivePrice := .one, orderKind := .limit, liquidity := .taker
        quoteSetId := none, predictionMarketOutcome := some .yes } }

/-- The first rebuild, which shows no open order. -/
def rebuilt : List (Op setup) := [.rebuild (projectionOf [] []) 1 true]

/-- An order for 60 is admitted. -/
def admitted : List (Op setup) := rebuilt ++ [.admitAt (order "A" 60) none 1 (.ok ())]

/-- The order is submitted. -/
def submitted : List (Op setup) := admitted ++ [.settle 0 true]

/-- The venue shows the order of the earlier process, and not yet the submitted one. -/
def shown : List (Op setup) :=
  submitted ++ [.rebuild (projectionOf submitted [(⟨"B", "YES", .buy, ⟨60, 0⟩, .one, 1, "open"⟩,
    recoveredOrder)]) 1 true]

theorem liveLiability_of_entries {inner : Inner} {liabilities : List Decimal}
    (h : inner.capitalAdmission.map (·.gate.liveReservations.map (·.liability)) =
      some liabilities) : inner.liveLiability = (liabilities.map Decimal.value).sum := by
  obtain ⟨state, hstate, rfl⟩ := Option.map_eq_some_iff.mp h
  rw [Inner.liveLiability, hstate, Option.elim_some, reservedValue, List.map_map]
  rfl

/-- **A reconciled state over its budget**: 60 shown and 60 carried in a pool of 100. -/
theorem carried_liability_exceeds_budget : (setup.start.run shown).inner.reconciled = true ∧
      capital.capitalPool.maxPoolLiability.value - capital.capitalPool.committedLiability.value <
        (setup.start.run shown).inner.liveLiability := by
  have hentries : (setup.start.run shown).inner.capitalAdmission.map
      (·.gate.liveReservations.map (·.liability)) = some [⟨60, 0⟩, ⟨60, 0⟩] := by decide
  refine ⟨by decide, ?_⟩
  rw [liveLiability_of_entries hentries]
  norm_num [capital, Decimal.value, Decimal.zero]

/-- The bound on what is confirmed, in that very state. -/
theorem confirmed_liability_of_shown : (setup.start.run shown).inner.confirmedLiability ≤
      capital.capitalPool.maxPoolLiability.value - capital.capitalPool.committedLiability.value :=
  (liability_within_budget Decimal.reference_exact setup capital rfl
    (by norm_num [capital, Decimal.value, Decimal.zero]) shown).1

end PoolOf100

end BoltV3.Submit
