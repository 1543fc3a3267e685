import BoltV3.Basket.Admission

/-!
# Open baskets and their admissions

A reservation is keyed by its basket id, and the admissions and permits that take it back know only
the id. From the calls and their answers we collect the admissions that stand: reserved, not failed
at their submit slots, not released, and not ended by the drop of their own permit.

* A basket that was released and reserved again may be taken back by the permit of the first
  admission, or by its failing submit slots.
* If a basket is reserved only while no earlier admission of it is running or holds its permit, the
  open baskets are the standing admissions.
-/

namespace BoltV3.Basket

open Lib SortedMap BasketAdmission
open Std (ExtTreeMap)

/-! ## The standing admissions -/

/-- An admission that reserved its basket, with the data of its request. -/
structure Admission where
  token : Nat
  (basketId strategyId groupId : String)
  totalNotional : Decimal
  stuck : Bool
deriving DecidableEq

namespace Admission

variable {Proof : Type}

def ofRequest (token : Nat) (request : BoltV3BasketAdmissionRequest Proof) : Admission :=
  ⟨token, request.basketId, request.strategyId, request.group.groupId,
    request.scannerEvidence.totalAdjustedCost, false⟩

/-- The reservation that an admission is due. -/
def reservation (a : Admission) : BoltV3BasketReservation :=
  ⟨a.strategyId, a.groupId, a.totalNotional, !a.stuck⟩

def markStuck (a : Admission) : Admission := { a with stuck := true }

/-- What a call and its answer do to the admissions that stand. -/
def follow (standing : List Admission) : BasketOp Proof × BasketOutput → List Admission
  | (.admitBasket request, .reserved token) => ofRequest token request :: standing
  | (.submitSlots token _, .refused _) => standing.filter (·.token ≠ token)
  | (.release basketId reason, _) =>
    if reason = .stuck then
      standing.map fun a => if a.basketId = basketId then a.markStuck else a
    else standing.filter (·.basketId ≠ basketId)
  | (.drop token, .done) => standing.filter fun a => a.token ≠ token ∨ a.stuck
  | _ => standing

/-- The admissions that stand after a trace. -/
def standing (trace : List (BasketOp Proof × BasketOutput)) : List Admission :=
  trace.foldl follow []

end Admission

namespace BasketAdmission

/-- The admissions that are running or whose permit is live, with their baskets. -/
def holders (s : BasketAdmission) : List (Nat × String) :=
  s.pending ++ s.permits.map fun permit => (permit.token, permit.basketId)

theorem mem_holders_of_pendingBasket {s : BasketAdmission} {token : Nat} {basketId : String}
    (h : s.pendingBasket token = some basketId) : (token, basketId) ∈ s.holders := by
  obtain ⟨⟨found, id⟩, hfind, rfl⟩ := Option.map_eq_some_iff.mp h
  have htoken : found = token := by simpa using List.find?_some hfind
  subst htoken
  exact List.mem_append_left _ (List.mem_of_find?_eq_some hfind)

theorem mem_holders_of_permit {s : BasketAdmission} {token : Nat}
    {permit : BoltV3BasketAdmissionPermit} (h : s.permit token = some permit) :
    (token, permit.basketId) ∈ s.holders := by
  have htoken : permit.token = token := by simpa using List.find?_some h
  subst htoken
  exact List.mem_append_right _ (List.mem_map_of_mem (List.mem_of_find?_eq_some h))

variable {Proof : Type} [DecidableEq Proof] [arith : DecimalArith]

/-- A call that reserves a basket does so while no earlier admission of that basket is running or
holds its permit. -/
def reservesFreely (s : BasketAdmission) : BasketOp Proof → Bool
  | .admitBasket request =>
    match s.reserve request with
    | .ok _ => s.holders.all (·.2 ≠ request.basketId)
    | .error _ => true
  | _ => true

/-- Every call of a run reserves freely. -/
def exclusive : BasketAdmission → List (BasketOp Proof) → Bool
  | _, [] => true
  | s, op :: rest => s.reservesFreely op && exclusive (s.step op).2 rest

end BasketAdmission

/-! ## One step -/

/-- The open baskets are the admissions that stand, and an admission that still runs or has its
permit owns the standing admission of its basket, if there is one. -/
structure Standing (s : BasketAdmission) (standing : List Admission) : Prop where
  opens : ∀ basketId reservation, s.inner.openBaskets[basketId]? = some reservation ↔
    ∃ a ∈ standing, a.basketId = basketId ∧ a.reservation = reservation
  distinct : (standing.map (·.basketId)).Nodup
  owned : ∀ holder ∈ s.holders, ∀ a ∈ standing, a.token = holder.1 ↔ a.basketId = holder.2
  freshHolder : ∀ holder ∈ s.holders, holder.1 < s.nextToken
  freshAdmission : ∀ a ∈ standing, a.token < s.nextToken

namespace Standing

variable {s t : BasketAdmission} {standing kept : List Admission}

theorem new (limits : BoltV3BasketAdmissionLimits) : Standing (.new limits) [] where
  opens := by simp [BasketAdmission.new]
  distinct := List.nodup_nil
  owned := by simp
  freshHolder := by simp [BasketAdmission.new, holders]
  freshAdmission := by simp

variable {a : Admission} {basketId : String} (h : Standing s standing)

include h

theorem opened (ha : a ∈ standing) : s.inner.openBaskets[a.basketId]? = some a.reservation :=
  (h.opens _ _).mpr ⟨a, ha, rfl, rfl⟩

theorem absent (hnone : s.inner.openBaskets[basketId]? = none) (ha : a ∈ standing) :
    a.basketId ≠ basketId := by
  rintro rfl
  rw [h.opened ha] at hnone
  cases hnone

/-- Fewer holders and fewer admissions: only the open baskets are left to show. -/
theorem shrink (hholders : t.holders ⊆ s.holders)
    (hnext : t.nextToken = s.nextToken) (hkept : kept.Sublist standing)
    (hopens : ∀ basketId reservation, t.inner.openBaskets[basketId]? = some reservation ↔
      ∃ a ∈ kept, a.basketId = basketId ∧ a.reservation = reservation) : Standing t kept where
  opens := hopens
  distinct := h.distinct.sublist (hkept.map _)
  owned holder hholder a ha := h.owned holder (hholders hholder) a (hkept.subset ha)
  freshHolder holder hholder := hnext ▸ h.freshHolder holder (hholders hholder)
  freshAdmission a ha := hnext ▸ h.freshAdmission a (hkept.subset ha)

theorem unchanged (hholders : t.holders ⊆ s.holders)
    (hnext : t.nextToken = s.nextToken) (hinner : t.inner = s.inner) : Standing t standing :=
  h.shrink hholders hnext (List.Sublist.refl _) (by rw [hinner]; exact h.opens)

/-- Erasing a basket takes away the admission of that basket. -/
theorem erased (hkept : ∀ a, a ∈ kept ↔ a ∈ standing ∧ a.basketId ≠ basketId) (id : String)
    (reservation : BoltV3BasketReservation) :
    (s.inner.openBaskets.erase basketId)[id]? = some reservation ↔
      ∃ a ∈ kept, a.basketId = id ∧ a.reservation = reservation := by
  rw [getElem?_erase]
  by_cases hid : basketId = id
  · subst hid
    simp only [if_true, reduceCtorEq, false_iff]
    rintro ⟨a, ha, heq, -⟩
    exact ((hkept a).mp ha).2 heq
  · rw [if_neg hid, h.opens]
    constructor
    · rintro ⟨a, ha, rfl, hreservation⟩
      exact ⟨a, (hkept a).mpr ⟨ha, Ne.symm hid⟩, rfl, hreservation⟩
    · rintro ⟨a, ha, heq, hreservation⟩
      exact ⟨a, ((hkept a).mp ha).1, heq, hreservation⟩

/-- An admission ends at its failing submit slots. -/
theorem failed {token : Nat} (hpending : s.pendingBasket token = some basketId) :
    Standing { s with
        inner := s.inner.releaseReservedBasketAfterFailedSubmit basketId
        pending := s.pending.filter (·.1 ≠ token) }
      (standing.filter (·.token ≠ token)) := by
  have howned := h.owned _ (mem_holders_of_pendingBasket hpending)
  refine h.shrink ?_ rfl List.filter_sublist (h.erased fun a => ?_)
  · exact List.append_subset.mpr ⟨fun holder hholder =>
      List.mem_append_left _ (List.mem_filter.mp hholder).1, List.subset_append_right _ _⟩
  · rw [List.mem_filter, decide_eq_true_iff]
    exact and_congr_right fun ha => (howned a ha).not

/-- A permit ends its own admission, unless it is stuck. -/
theorem dropped {token : Nat} {permit : BoltV3BasketAdmissionPermit}
    (hpermit : s.permit token = some permit) :
    Standing { s with
        inner := s.inner.dropPermit permit.basketId, permits := s.permits.filter (·.token ≠ token) }
      (standing.filter fun a => a.token ≠ token ∨ a.stuck) := by
  have howned := h.owned _ (mem_holders_of_permit hpermit)
  refine h.shrink ?_ rfl List.filter_sublist ?_
  · refine List.append_subset.mpr ⟨List.subset_append_left _ _, fun holder hholder => ?_⟩
    obtain ⟨held, hheld, rfl⟩ := List.mem_map.mp hholder
    exact List.mem_append_right _ (List.mem_map_of_mem (List.mem_filter.mp hheld).1)
  -- A standing admission of the permit's basket is stuck exactly if it is not released.
  · have hstuck : ∀ a ∈ standing, a.basketId = permit.basketId →
        (s.inner.openBaskets[permit.basketId]?.any (·.releaseOnDrop)) = !a.stuck := by
      rintro a ha hbasket
      rw [← hbasket, h.opened ha]
      rfl
    unfold BoltV3BasketAdmissionInner.dropPermit
    split_ifs with hrelease
    · refine h.erased fun a => ?_
      rw [List.mem_filter, decide_eq_true_iff]
      refine and_congr_right fun ha => ?_
      rw [Ne, howned a ha]
      refine or_iff_left_of_imp fun hheld hbasket => ?_
      rw [hstuck a ha hbasket, hheld] at hrelease
      cases hrelease
    · have hkept : standing.filter (fun a => a.token ≠ token ∨ a.stuck) = standing := by
        refine List.filter_eq_self.mpr fun a ha => decide_eq_true ?_
        rw [Ne, howned a ha]
        refine or_iff_not_imp_left.mpr fun hbasket => ?_
        rw [hstuck a ha (not_not.mp hbasket)] at hrelease
        simpa using hrelease
      rw [hkept]
      exact h.opens

/-- A release takes the admission of its basket away. -/
theorem released (basketId : String) :
    Standing { s with inner := ⟨s.inner.openBaskets.erase basketId⟩ }
      (standing.filter (·.basketId ≠ basketId)) := by
  refine h.shrink (List.Subset.refl _) rfl List.filter_sublist (h.erased fun a => ?_)
  rw [List.mem_filter, decide_eq_true_iff]

/-- A release of a basket that is not open says nothing about any admission. -/
theorem follow_absent (hnone : s.inner.openBaskets[basketId]? = none) (stuck : Prop)
    [Decidable stuck] :
    (if stuck then standing.map fun a => if a.basketId = basketId then a.markStuck else a
      else standing.filter (·.basketId ≠ basketId)) = standing := by
  split_ifs
  · refine (List.map_congr_left fun a ha => ?_).trans (List.map_id _)
    rw [if_neg (h.absent hnone ha)]
    rfl
  · exact List.filter_eq_self.mpr fun a ha => decide_eq_true (h.absent hnone ha)

/-- A release for being stuck marks the admission of its basket. -/
theorem heldStuck {reservation : BoltV3BasketReservation}
    (hopen : s.inner.openBaskets[basketId]? = some reservation) :
    Standing { s with
        inner := ⟨s.inner.openBaskets.insert basketId { reservation with releaseOnDrop := false }⟩ }
      (standing.map fun a => if a.basketId = basketId then a.markStuck else a) := by
  have hid : ∀ a : Admission,
      (if a.basketId = basketId then a.markStuck else a).basketId = a.basketId := fun a => by
    split_ifs <;> rfl
  have htoken : ∀ a : Admission,
      (if a.basketId = basketId then a.markStuck else a).token = a.token := fun a => by
    split_ifs <;> rfl
  refine ⟨fun id due => ?_, ?_, ?_, h.freshHolder, ?_⟩
  · rw [getElem?_insert]
    simp only [List.mem_map, exists_exists_and_eq_and, hid]
    by_cases heq : basketId = id
    · subst heq
      obtain ⟨a, ha, hbasket, rfl⟩ := (h.opens _ _).mp hopen
      rw [if_pos rfl, Option.some.injEq]
      constructor
      · rintro rfl
        exact ⟨a, ha, hbasket, by rw [if_pos hbasket]; rfl⟩
      · rintro ⟨b, hb, hsame, rfl⟩
        obtain rfl := List.inj_on_of_nodup_map h.distinct hb ha (hsame.trans hbasket.symm)
        rw [if_pos hbasket]
        rfl
    · rw [if_neg heq, h.opens]
      refine exists_congr fun a => and_congr_right fun _ => and_congr_right fun hbasket => ?_
      rw [if_neg fun hsame => heq (hsame.symm.trans hbasket)]
  · rw [List.map_map, Function.comp_def]
    simp only [hid]
    exact h.distinct
  · simp only [List.mem_map, forall_exists_index, and_imp, forall_apply_eq_imp_iff₂, hid, htoken]
    exact h.owned
  · simp only [List.mem_map, forall_exists_index, and_imp, forall_apply_eq_imp_iff₂, htoken]
    exact h.freshAdmission

variable {Proof : Type} [DecidableEq Proof] [arith : DecimalArith]

/-- A reservation adds its admission. -/
theorem reserved {request : BoltV3BasketAdmissionRequest Proof}
    {inner : BoltV3BasketAdmissionInner} (hreserve : s.reserve request = .ok inner)
    (hfree : ∀ holder ∈ s.holders, holder.2 ≠ request.basketId) :
    Standing { s with
        inner := inner, pending := (s.nextToken, request.basketId) :: s.pending
        nextToken := s.nextToken + 1 }
      (.ofRequest s.nextToken request :: standing) := by
  obtain ⟨hnone, -, rfl⟩ := reserve_ok hreserve
  refine ⟨fun id due => ?_, ?_, ?_, ?_, ?_⟩
  · rw [getElem?_insert]
    by_cases hid : request.basketId = id
    · subst hid
      rw [if_pos rfl, Option.some.injEq]
      constructor
      · rintro rfl
        exact ⟨_, List.mem_cons_self, rfl, rfl⟩
      · rintro ⟨a, ha, hbasket, rfl⟩
        rcases List.mem_cons.mp ha with rfl | ha
        · rfl
        · exact absurd hbasket (h.absent hnone ha)
    · rw [if_neg hid, h.opens]
      constructor
      · rintro ⟨a, ha, hdue⟩
        exact ⟨a, List.mem_cons_of_mem _ ha, hdue⟩
      · rintro ⟨a, ha, hbasket, hdue⟩
        rcases List.mem_cons.mp ha with rfl | ha
        · exact absurd hbasket hid
        · exact ⟨a, ha, hbasket, hdue⟩
  · refine List.nodup_cons.mpr ⟨fun hmem => ?_, h.distinct⟩
    obtain ⟨a, ha, hbasket⟩ := List.mem_map.mp hmem
    exact h.absent hnone ha hbasket
  · rintro holder hholder a ha
    rcases List.mem_cons.mp hholder with rfl | hholder <;> rcases List.mem_cons.mp ha with rfl | ha
    · exact iff_of_true rfl rfl
    · exact iff_of_false (h.freshAdmission a ha).ne (h.absent hnone ha)
    · exact iff_of_false (h.freshHolder holder hholder).ne' (hfree holder hholder).symm
    · exact h.owned holder hholder a ha
  · refine List.forall_mem_cons.mpr ⟨Nat.lt_succ_self _, fun holder hholder => ?_⟩
    exact (h.freshHolder holder hholder).trans (Nat.lt_succ_self _)
  · refine List.forall_mem_cons.mpr ⟨Nat.lt_succ_self _, fun a ha => ?_⟩
    exact (h.freshAdmission a ha).trans (Nat.lt_succ_self _)

/-- Every call that reserves freely keeps the open baskets the standing admissions. -/
theorem step {op : BasketOp Proof} (hfree : s.reservesFreely op) :
    Standing (s.step op).2 (Admission.follow standing (op, (s.step op).1)) := by
  cases op with
  | admitBasket request =>
    simp only [BasketAdmission.step]
    rcases hreserve : s.reserve request with error | inner
    · exact h
    · simp only [reservesFreely, hreserve] at hfree
      exact h.reserved hreserve fun holder hholder =>
        of_decide_eq_true (List.all_eq_true.mp hfree holder hholder)
  | submitSlots token result =>
    simp only [BasketAdmission.step]
    rcases hpending : s.pendingBasket token with _ | basketId
    · exact h
    · rcases result with error | _
      · exact h.failed hpending
      · refine h.unchanged ?_ rfl rfl
        have hholder := mem_holders_of_pendingBasket hpending
        intro holder hmem
        rcases List.mem_append.mp hmem with hmem | hmem
        · exact List.mem_append_left _ (List.mem_filter.mp hmem).1
        · rcases List.mem_cons.mp hmem with rfl | hmem
          · exact hholder
          · exact List.mem_append_right _ hmem
  | commit token =>
    simp only [BasketAdmission.step]
    rcases s.permit token with _ | _
    · exact h
    · refine h.unchanged ?_ rfl rfl
      unfold holders
      rw [List.map_map]
      refine List.append_subset.mpr ⟨List.subset_append_left _ _, fun holder hmem => ?_⟩
      obtain ⟨permit, hpermit, rfl⟩ := List.mem_map.mp hmem
      refine List.mem_append_right _ (List.mem_map.mpr ⟨permit, hpermit, ?_⟩)
      simp only [Function.comp_apply]
      split_ifs <;> rfl
  | release basketId reason =>
    simp only [BasketAdmission.step, BoltV3BasketAdmissionInner.releaseBasket, Admission.follow]
    rcases hopen : s.inner.openBaskets[basketId]? with _ | reservation
    · rw [h.follow_absent hopen]
      exact h
    · split_ifs
      · exact h.heldStuck hopen
      · exact h.released basketId
  | drop token =>
    simp only [BasketAdmission.step]
    rcases hpermit : s.permit token with _ | permit
    · exact h
    · exact h.dropped hpermit

theorem run {ops : List (BasketOp Proof)} (hfree : s.exclusive ops) :
    Standing (s.run ops).2 ((s.run ops).1.foldl Admission.follow standing) := by
  induction ops generalizing s standing with
  | nil => exact h
  | cons op rest ih =>
    rw [exclusive, Bool.and_eq_true] at hfree
    exact ih (h.step hfree.1) hfree.2

/-- The drop of a permit and a failing admission leave the reservations of other admissions. -/
theorem others_stay {token : Nat} {op : BasketOp Proof}
    (hop : op = .drop token ∨ ∃ error, op = .submitSlots token (.error error)) {a : Admission}
    (ha : a ∈ standing) (hother : a.token ≠ token) :
    (s.step op).2.inner.openBaskets[a.basketId]? = some a.reservation := by
  have hfree : s.reservesFreely op := by
    rcases hop with rfl | ⟨error, rfl⟩ <;> rfl
  refine (h.step hfree).opened ?_
  rcases hop with rfl | ⟨error, rfl⟩
  · rcases (s.step (.drop token)).1
    all_goals first
      | exact ha
      | exact List.mem_filter.mpr ⟨ha, decide_eq_true (.inl hother)⟩
  · rcases (s.step (.submitSlots token (.error error))).1
    all_goals first
      | exact ha
      | exact List.mem_filter.mpr ⟨ha, decide_eq_true hother⟩

end Standing

/-! ## Every interleaving -/

section

variable {Proof : Type} [DecidableEq Proof] [arith : DecimalArith]

/-- **The open baskets are the admissions that stand.** In every interleaving in which a basket is
reserved only while no earlier admission of it runs or holds its permit, the open baskets are those
of the admissions that were neither released nor ended by the drop of their own permit, each with
its own reservation; a drop or a failing admission leaves the reservations of all others; and there
are never more open baskets than the cap. -/
theorem open_baskets_stand (limits : BoltV3BasketAdmissionLimits) (ops : List (BasketOp Proof))
    (hexclusive : (new limits).exclusive ops) :
    let s := ((new limits).run ops).2
    let standing := Admission.standing ((new limits).run ops).1
    (∀ basketId reservation, s.inner.openBaskets[basketId]? = some reservation ↔
      ∃ a ∈ standing, a.basketId = basketId ∧ a.reservation = reservation) ∧
    (standing.map (·.basketId)).Nodup ∧
    (∀ token (op : BasketOp Proof),
      (op = .drop token ∨ ∃ error, op = .submitSlots token (.error error)) →
      ∀ a ∈ standing, a.token ≠ token →
        (s.step op).2.inner.openBaskets[a.basketId]? = some a.reservation) ∧
    s.inner.openBaskets.size ≤ limits.maxOpenBaskets := by
  intro s standing
  have hstanding : Standing s standing := (Standing.new limits).run hexclusive
  refine ⟨hstanding.opens, hstanding.distinct,
    fun token op hop a ha hother => hstanding.others_stay hop ha hother, ?_⟩
  have hcap : s.WithinCap := run_size (Nat.zero_le _) ops
  rw [WithinCap, run_limits] at hcap
  exact hcap

end

namespace LateDrop

attribute [local instance] Decimal.reference

def limits : BoltV3BasketAdmissionLimits := ⟨⟨100, 0⟩, 2, ⟨1, 0⟩, 10, 10, 0⟩

/-- A request for one leg that passes every check. -/
def request (strategyId : String) : BoltV3BasketAdmissionRequest Unit where
  strategyId := strategyId
  basketId := "basket"
  group := ⟨"group", some (), ["leg"], true⟩
  scannerEvidence := ⟨"group", some (), [⟨"leg", ⟨5, 0⟩, 0⟩], ⟨5, 0⟩, ⟨1, 0⟩, ⟨1, 0⟩, true, false⟩
  submitClaims := [⟨"leg", ⟨5, 0⟩⟩]
  nowUnixMs := 0
  submitRecheckObservedUnixMs := 0
  retryCount := 0

/-- The basket is admitted, released, and admitted again while the first permit is live. -/
def readmitted : List (BasketOp Unit) :=
  [.admitBasket (request "first"), .submitSlots 0 (.ok ()), .release "basket" .terminal,
    .admitBasket (request "second"), .submitSlots 1 (.ok ())]

/-- The first permit's drop takes back the reservation of the second admission, which stands. So
does the first admission, if its submit slots fail after the second reservation. -/
theorem takes_the_next_reservation :
    let dropped := (new limits).run (readmitted ++ [.drop 0])
    let failing := (new limits).run ([.admitBasket (request "first"),
      .release "basket" .terminal, .admitBasket (request "second"),
      .submitSlots 0 (.error "refused")] :
        List (BasketOp Unit))
    (Admission.standing dropped.1).map (fun a => (a.token, a.basketId)) = [(1, "basket")] ∧
    dropped.2.inner.openBaskets[("basket" : String)]? = none ∧
    (Admission.standing failing.1).map (fun a => (a.token, a.basketId)) = [(1, "basket")] ∧
    failing.2.inner.openBaskets[("basket" : String)]? = none := by
  decide +kernel

/-- If the first permit is dropped before the basket is admitted again, the second admission keeps
its reservation. -/
theorem second_admission_stays :
    let ops : List (BasketOp Unit) := [.admitBasket (request "first"), .submitSlots 0 (.ok ()),
      .release "basket" .terminal, .drop 0, .admitBasket (request "second"),
      .submitSlots 1 (.ok ())]
    (new limits).exclusive ops ∧
    ∃ a ∈ Admission.standing ((new limits).run ops).1, a.token = 1 ∧
      ((new limits).run ops).2.inner.openBaskets[a.basketId]? =
        some a.reservation := by
  intro ops
  have hexclusive : (new limits).exclusive ops := by decide +kernel
  have hstands := open_baskets_stand limits ops hexclusive
  have hsecond : Admission.ofRequest 1 (request "second") ∈
      Admission.standing ((new limits).run ops).1 := by decide +kernel
  exact ⟨hexclusive, _, hsecond, rfl, (hstands.1 _ _).mpr ⟨_, hsecond, rfl, rfl⟩⟩

end LateDrop

end BoltV3.Basket
