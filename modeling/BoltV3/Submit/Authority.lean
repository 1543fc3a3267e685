import BoltV3.Submit.Counters

/-!
# Authorisations over executions

A client order is authorised by what is on record, or, if it is a risk-reducing exit whose append
failed, by the evidence-free admission that its permit holds. Both are checked before an order is
admitted, so no two permits that still stand for their orders share one. The permits that do not are
those with evidence-free orders that were dropped before the submit boundary: nothing was recorded,
nothing sent, and their ids are free again.
-/

namespace BoltV3.Submit

open Lib Loss Capital Evidence List
open Std (ExtTreeMap)

/-! ## What a state knows of a permit -/

/-- How far the evidence-free orders of a permit have come. -/
def Held.phase (held : Held) : EvidenceFreeNonReservationPhase :=
  if held.permit.committed then .sinkInvoked else .permitHeld

/-- The orders of a permit are authorised, or they are evidence-free and held. -/
def Grants.Knows (grants : Grants) (held : Held) : Prop :=
  held.evidenceFree = [] ∧
    (∀ id ∈ held.clientOrderIds, grants.authority.authorizesOrder id = true) ∨
    held.evidenceFree = held.clientOrderIds ∧
      ∀ id ∈ held.clientOrderIds, grants.evidenceFree[id]? = some held.phase

/-- The permits whose orders no other permit may have: all but the dropped evidence-free ones. -/
def System.spent (s : System) : List Held :=
  s.consuming ++ s.released.filter (·.evidenceFree.isEmpty)

namespace Grants.Knows

variable {grants grants' : Grants} {held : Held}

/-- An order of a known permit is refused. -/
theorem taken (h : grants.Knows held) {id : String} (hid : id ∈ held.clientOrderIds) :
    grants.authority.authorizesOrder id = true ∨ grants.evidenceFree[id]? ≠ none := by
  rcases h with ⟨-, hauthorized⟩ | ⟨-, hheld⟩
  · exact .inl (hauthorized id hid)
  · exact .inr (by rw [hheld id hid]; simp)

theorem mem_of_evidenceFree (h : grants.Knows held) {id : String} (hid : id ∈ held.evidenceFree) :
    id ∈ held.clientOrderIds := by
  rcases h with ⟨hnone, -⟩ | ⟨hall, -⟩
  · rw [hnone] at hid
    cases hid
  · rw [← hall]
    exact hid

/-- A permit stays known while authorisations are added and its own orders stay held. -/
theorem mono (h : grants.Knows held)
    (hauthority : ∀ id, grants.authority.authorizesOrder id = true →
      grants'.authority.authorizesOrder id = true)
    (hfree : ∀ id ∈ held.clientOrderIds, grants.evidenceFree[id]? ≠ none →
      grants'.evidenceFree[id]? = grants.evidenceFree[id]?) : grants'.Knows held := by
  rcases h with ⟨hnone, hauthorized⟩ | ⟨hall, hheld⟩
  · exact .inl ⟨hnone, fun id hid => hauthority id (hauthorized id hid)⟩
  · refine .inr ⟨hall, fun id hid => ?_⟩
    have hsome := hheld id hid
    rw [hfree id hid (by rw [hsome]; simp), hsome]

end Grants.Knows

section

variable [DecimalArith] {setup : Setup}

/-! ## The invariant -/

structure Authority (setup : Setup) (s : System) : Prop where
  replayed : setup.facts.replay s.recorded = .ok s.inner.committedAdmissionAuthority
  distinct : (s.spent.flatMap (·.clientOrderIds)).Nodup
  known : ∀ held ∈ s.spent, s.inner.grants.Knows held
  unrecovered : ∀ held ∈ s.consuming ++ s.released, ∀ id ∈ held.clientOrderIds,
    setup.facts.authorizesOrder id = false

theorem start_authority (setup : Setup) : Authority setup setup.start where
  replayed := rfl
  distinct := by simp [System.spent, System.consuming, Setup.start]
  known := by simp [System.spent, System.consuming, Setup.start]
  unrecovered := by simp [System.consuming, Setup.start]

variable {s : System} {index : Nat} {inner' : Inner} {held : Held}

omit [DecimalArith] in
theorem System.spent_perm (h : s.outstanding[index]? = some held) :
    s.spent.Perm (held :: (s.others index ++ s.released.filter (·.evidenceFree.isEmpty))) :=
  (System.consuming_perm h).append_right _

variable {events : List ReservationRecoveryEvent} {executionClientId : String}

/-- What is authorised stays authorised while events are replayed. -/
theorem replay_keeps {facts facts' : ReservationRecoveryFacts}
    (h : facts.replay events = .ok facts') (id : String)
    (hid : facts.authorizesOrder id = true) : facts'.authorizesOrder id = true :=
  ((ReservationRecoveryFacts.replay_authorizes h).authorizes id).mpr (.inl hid)

omit [DecimalArith] in
/-- The orders of one permit are not those of the others. -/
theorem disjoint_of_nodup {rest : List Held}
    (h : ((held :: rest).flatMap (·.clientOrderIds)).Nodup) :
    ∀ other ∈ rest, ∀ id ∈ other.clientOrderIds, id ∉ held.clientOrderIds := by
  rw [flatMap_cons, nodup_append] at h
  intro other hother id hid hid'
  exact h.2.2 id hid' id (mem_flatMap.mpr ⟨other, hother, hid⟩) rfl

/-! ## Operations -/

theorem Authority.granted (h : Authority setup s) {authority : ReservationRecoveryFacts}
    {new : Held} (hcommitted : new.permit.committed = false)
    (unauthorized : ∀ id ∈ new.clientOrderIds, s.inner.grants.authority.authorizesOrder id = false)
    (unheld : ∀ id ∈ new.clientOrderIds, s.inner.grants.evidenceFree[id]? = none)
    (evidenced : Evidenced new.clientOrderIds events new.evidenceFree)
    (replayed : s.inner.committedAdmissionAuthority.replay events = .ok authority)
    (grants : inner'.grants = (s.inner.grants.withAuthority authority).admitting executionClientId
      new.clientOrderIds.length new.evidenceFree) :
    Authority setup { s with
      inner := inner', recorded := s.recorded ++ events
      outstanding := s.outstanding ++ [new] } := by
  have hauthorizes := ReservationRecoveryFacts.replay_authorizes replayed
  have hauthority : inner'.grants.authority = authority := by rw [grants]; rfl
  have hfree : ∀ id, inner'.grants.evidenceFree[id]? =
      if id ∈ new.evidenceFree then some EvidenceFreeNonReservationPhase.permitHeld
      else s.inner.grants.evidenceFree[id]? := by
    intro id
    rw [grants]
    exact SortedMap.getElem?_foldl_insert new.evidenceFree _ _ id
  have hconsuming := s.granted_perm new
  have hspent := hconsuming.append_right (s.released.filter (·.evidenceFree.isEmpty))
  refine ⟨?_, ?_, ?_, ?_⟩
  · rw [ReservationRecoveryFacts.replay_append h.replayed, replayed]
    exact congrArg Except.ok hauthority.symm
  · refine ((hspent.flatMap_right _).nodup_iff).mpr ?_
    rw [cons_append, flatMap_cons, nodup_append]
    refine ⟨?_, h.distinct, ?_⟩
    · rcases evidenced with ⟨-, hids⟩ | ⟨-, -, hnodup⟩
      · rw [← hids]
        exact hauthorizes.nodup
      · exact hnodup
    · rintro id hid _ hid' rfl
      obtain ⟨held, hheld, hid'⟩ := mem_flatMap.mp hid'
      rcases (h.known held hheld).taken hid' with hauthorized | hheld
      · rw [unauthorized id hid] at hauthorized
        cases hauthorized
      · exact hheld (unheld id hid)
  · intro held hheld
    rcases mem_cons.mp (hspent.mem_iff.mp hheld) with rfl | hheld
    · rcases evidenced with ⟨hnone, hids⟩ | ⟨hall, -, -⟩
      · refine .inl ⟨hnone, fun id hid => ?_⟩
        rw [hauthority, hauthorizes.authorizes, hids]
        exact .inr hid
      · refine .inr ⟨hall, fun id hid => ?_⟩
        rw [hfree, if_pos (by rw [hall]; exact hid), Held.phase, hcommitted]
        rfl
    · refine (h.known held hheld).mono ?_ fun id hid hsome => ?_
      · rw [hauthority]
        exact replay_keeps replayed
      · rw [hfree, if_neg]
        intro hnew
        rcases evidenced with ⟨hnone, -⟩ | ⟨hall, -, -⟩
        · rw [hnone] at hnew
          cases hnew
        · rw [hall] at hnew
          exact hsome (unheld id hnew)
  · intro held hheld id hid
    have hmem : held = new ∨ held ∈ s.consuming ++ s.released := by
      rcases mem_append.mp hheld with hheld | hheld
      · rcases mem_cons.mp (hconsuming.mem_iff.mp hheld) with rfl | hheld
        · exact .inl rfl
        · exact .inr (mem_append_left _ hheld)
      · exact .inr (mem_append_right _ hheld)
    rcases hmem with rfl | hmem
    · -- What was recovered is still authorised, and this order was not.
      have hnew := unauthorized id hid
      rw [← Bool.not_eq_true] at hnew ⊢
      exact fun hold => hnew (replay_keeps h.replayed id hold)
    · exact h.unrecovered held hmem id hid

/-- An operation on one permit leaves the others known. -/
theorem Authority.others (h : Authority setup s)
    (outstanding : s.outstanding[index]? = some held) {grants : Grants}
    (hauthority : grants.authority = s.inner.grants.authority)
    (hfree : ∀ id ∉ held.evidenceFree,
      grants.evidenceFree[id]? = s.inner.grants.evidenceFree[id]?) :
    ∀ other ∈ s.others index ++ s.released.filter (·.evidenceFree.isEmpty), grants.Knows other := by
  have hperm := System.spent_perm outstanding
  have hknown := h.known held (hperm.mem_iff.mpr mem_cons_self)
  have hdistinct := ((hperm.flatMap_right (·.clientOrderIds)).nodup_iff).mp h.distinct
  intro other hother
  refine (h.known other (hperm.mem_iff.mpr (mem_cons_of_mem _ hother))).mono ?_ ?_
  · rw [hauthority]
    exact fun _ => id
  · intro id hid _
    refine hfree id fun hheld => ?_
    exact disjoint_of_nodup hdistinct other hother id hid (hknown.mem_of_evidenceFree hheld)

theorem Authority.settled (h : Authority setup s) (outstanding : s.outstanding[index]? = some held)
    (grants : inner'.grants = s.inner.grants.invoking held.evidenceFree) :
    Authority setup { s with
      inner := inner', outstanding := s.outstanding.eraseIdx index
      committed := s.committed ++ [held.settled] } := by
  have hbefore := System.spent_perm outstanding
  have hconsuming := s.settled_perm index held.settled
  have hafter := hconsuming.append_right (s.released.filter (·.evidenceFree.isEmpty))
  have hfree : ∀ id, inner'.grants.evidenceFree[id]? =
      if id ∈ held.evidenceFree then some EvidenceFreeNonReservationPhase.sinkInvoked
      else s.inner.grants.evidenceFree[id]? := by
    intro id
    rw [grants]
    exact SortedMap.getElem?_foldl_insert held.evidenceFree _ _ id
  have hauthority : inner'.grants.authority = s.inner.grants.authority := by rw [grants]; rfl
  refine ⟨h.replayed.trans (congrArg Except.ok hauthority.symm), ?_, ?_, ?_⟩
  · refine ((hafter.flatMap_right _).nodup_iff).mpr ?_
    exact ((hbefore.flatMap_right (·.clientOrderIds)).nodup_iff).mp h.distinct
  · intro other hother
    rcases mem_cons.mp (hafter.mem_iff.mp hother) with rfl | hother
    · rcases h.known held (hbefore.mem_iff.mpr mem_cons_self) with
        ⟨hnone, hauthorized⟩ | ⟨hall, -⟩
      · refine .inl ⟨hnone, fun id hid => ?_⟩
        rw [hauthority]
        exact hauthorized id hid
      · refine .inr ⟨hall, fun id hid => ?_⟩
        rw [hfree, if_pos (by rw [hall]; exact hid)]
        rfl
    · exact h.others outstanding hauthority (fun id hid => by rw [hfree, if_neg hid]) other hother
  · intro other hother id hid
    have hconsumes := System.consuming_perm outstanding
    rcases mem_append.mp hother with hother | hother
    · rcases mem_cons.mp (hconsuming.mem_iff.mp hother) with rfl | hother
      · exact h.unrecovered held
          (mem_append_left _ (hconsumes.mem_iff.mpr mem_cons_self)) id hid
      · exact h.unrecovered other (mem_append_left _
          (hconsumes.mem_iff.mpr (mem_cons_of_mem _ hother))) id hid
    · exact h.unrecovered other (mem_append_right _ hother) id hid

theorem Authority.released (h : Authority setup s) (outstanding : s.outstanding[index]? = some held)
    {orders : Nat} (grants : inner'.grants = s.inner.grants.releasing executionClientId orders
      held.evidenceFree) :
    Authority setup { s with
      inner := inner', outstanding := s.outstanding.eraseIdx index
      released := s.released ++ [held] } := by
  have hperm := System.spent_perm outstanding
  have hfree : ∀ id, inner'.grants.evidenceFree[id]? =
      if id ∈ held.evidenceFree then none else s.inner.grants.evidenceFree[id]? := by
    intro id
    rw [grants]
    exact SortedMap.getElem?_foldl_erase held.evidenceFree _ id
  have hauthority : inner'.grants.authority = s.inner.grants.authority := by rw [grants]; rfl
  have hothers := h.others outstanding hauthority fun id hid => by rw [hfree, if_neg hid]
  have hdistinct := ((hperm.flatMap_right (·.clientOrderIds)).nodup_iff).mp h.distinct
  have hfilter : (s.released ++ [held]).filter (·.evidenceFree.isEmpty) =
      s.released.filter (·.evidenceFree.isEmpty) ++
        if held.evidenceFree.isEmpty then [held] else [] := by
    rw [filter_append, filter_singleton]
    cases held.evidenceFree.isEmpty <;> rfl
  refine ⟨h.replayed.trans (congrArg Except.ok hauthority.symm), ?_, ?_, ?_⟩
  · change ((s.others index ++ (s.released ++ [held]).filter _).flatMap _).Nodup
    rw [hfilter]
    split
    · rw [← append_assoc]
      exact (((perm_append_singleton _ _).flatMap_right _).nodup_iff).mpr hdistinct
    · rw [append_nil]
      exact (nodup_append.mp hdistinct).2.1
  · intro other hother
    change other ∈ s.others index ++ (s.released ++ [held]).filter _ at hother
    rw [hfilter, ← append_assoc] at hother
    rcases mem_append.mp hother with hother | hother
    · exact hothers other hother
    · -- A permit on record is released with its orders still authorised.
      split at hother
      · rename_i hnone
        obtain rfl := mem_singleton.mp hother
        refine (h.known other (hperm.mem_iff.mpr mem_cons_self)).mono ?_ fun id _ _ => ?_
        · rw [hauthority]
          exact fun _ => id
        · rw [hfree, isEmpty_iff.mp hnone, if_neg not_mem_nil]
      · cases hother
  · intro other hother id hid
    refine h.unrecovered other ?_ id hid
    have hall := (System.consuming_perm outstanding).append_right s.released
    refine hall.mem_iff.mpr ?_
    change other ∈ s.others index ++ (s.released ++ [held]) at hother
    rw [← append_assoc] at hother
    exact (perm_append_singleton _ _).mem_iff.mp hother

/-- **Every operation keeps the permits apart, and the authority in step with the log.** -/
theorem Effect.authority {s' : System} (heffect : Effect s s') (hcounts : Counts setup s)
    (h : Authority setup s) : Authority setup s' := by
  cases heffect with
  | @quiet inner' events authority replayed grants =>
    have hauthority : inner'.grants.authority = authority := by rw [grants]; rfl
    refine ⟨?_, h.distinct, fun held hheld => ?_, h.unrecovered⟩
    · rw [ReservationRecoveryFacts.replay_append h.replayed, replayed]
      exact congrArg Except.ok hauthority.symm
    · refine (h.known held hheld).mono ?_ fun id _ _ => ?_
      · rw [hauthority]
        exact replay_keeps replayed
      · rw [grants]
        rfl
  | granted _ unauthorized unheld evidenced replayed _ _ grants =>
    exact h.granted rfl unauthorized unheld evidenced replayed grants
  | settled outstanding grants => exact h.settled outstanding grants
  | @released inner' index held outstanding rolled =>
    obtain ⟨⟨executionClientId, evidenceFree, hcounter⟩, -⟩ := hcounts.formed held
      ((System.consuming_perm outstanding).mem_iff.mpr mem_cons_self)
    have hfree : held.evidenceFree = evidenceFree := by
      rw [Held.evidenceFree, hcounter]
      rfl
    rw [hcounter] at rolled
    obtain ⟨-, -, grants⟩ := rolledBackPermit_grants rolled
    rw [← hfree] at grants
    exact h.released outstanding grants
  | @stranded inner' index held outstanding rolled grants =>
    have hconsuming := System.stranded_perm outstanding
    have hspent := hconsuming.append_right (s.released.filter (·.evidenceFree.isEmpty))
    have hauthority : inner'.grants.authority = s.inner.grants.authority := by rw [grants]
    refine ⟨h.replayed.trans (congrArg Except.ok hauthority.symm), ?_, ?_, ?_⟩
    · exact ((hspent.flatMap_right _).nodup_iff).mpr h.distinct
    · intro other hother
      rw [grants]
      exact h.known other (hspent.mem_iff.mp hother)
    · intro other hother
      exact h.unrecovered other ((hconsuming.append_right s.released).mem_iff.mp hother)

/-- The evidence-free orders of an outstanding permit are distinct, and held by it. -/
theorem Authority.heldIds (h : Authority setup s)
    (hheld : held ∈ s.outstanding) (uncommitted : held.permit.committed = false) :
    heldIds s.inner.grants.evidenceFree held.evidenceFree = true := by
  have hspent : held ∈ s.spent :=
    mem_append_left _ (mem_append_left _ (mem_append_left _ hheld))
  rw [heldIds_eq_true]
  rcases h.known held hspent with ⟨hnone, -⟩ | ⟨hall, hids⟩
  · simp [hnone]
  · rw [hall]
    refine ⟨?_, fun id hid => ?_⟩
    · exact (nodup_flatMap.mp h.distinct).1 held hspent
    · rw [hids id hid, Held.phase, uncommitted]
      rfl

/-! ## Executions -/

/-- Everything that holds of a state of an execution. -/
structure Sound (setup : Setup) (s : System) : Prop where
  simulated : ∃ market book, Simulates setup s market book
  counts : Counts setup s
  authority : Authority setup s

theorem Sound.step (h : Sound setup s) (op : Op setup) : Sound setup (s.step op) := by
  obtain ⟨market, book, hsimulates⟩ := h.simulated
  obtain ⟨moves, market', book', hmoves⟩ := step_moves hsimulates op
  have heffect := step_effect hsimulates.uncommitted op
  exact ⟨⟨market', book', hmoves.simulates⟩, heffect.counts h.counts,
    heffect.authority h.counts h.authority⟩

/-- **Every state of an execution is sound.** -/
theorem reachable_sound (setup : Setup) (ops : List (Op setup)) :
    Sound setup (setup.start.run ops) :=
  System.run_invariant (fun _ op h => h.step op)
    ⟨⟨none, setup.book, start_simulates setup⟩, start_counts setup, start_authority setup⟩ ops

end

end BoltV3.Submit
