import BoltV3.Submit.Projection
import BoltV3.Submit.Reserving
import BoltV3.Submit.System
import Mathlib.Data.List.Perm.Basic

/-!
# The system moves the book

The refinement between the code and the book: a state of the system simulates a book if its
protected state represents it and the outstanding permits own their reservations in it. Every
operation is a run of moves of the book, and every move is one that the operation is for. The facts
about whole executions then come from the moves.
-/

namespace BoltV3.Submit

open Lib Loss Capital Evidence List
open Std (ExtTreeMap)

section

variable [DecimalArith]

/-! ## The relation -/

/-- The reservations of the outstanding permits. -/
def System.rollbacks (s : System) : List CapitalAdmissionReservationRollback :=
  s.outstanding.flatMap (·.permit.rollbacks)

/-- The revision, and how far the outstanding permits will take it. -/
def System.load (s : System) : Nat := s.inner.capitalAdmissionStateRevision + s.rollbacks.length

/-- The configuration of capital admission. -/
def Setup.terms (setup : Setup) : Option CapitalTerms := setup.inner.terms

/-- The market the runtime feed is configured for. -/
def Setup.market (setup : Setup) : Market := marketOf setup.feed.productState.product

/-- The book of a new process. -/
def Setup.book (setup : Setup) : Book := .empty (setup.capital.elim "" (·.capitalPool.poolId))

structure Simulates (setup : Setup) (s : System) (market : Option Market) (book : Book) : Prop where
  represents : Represents setup.terms market s.inner book
  owned : Owned book s.rollbacks
  uncommitted : ∀ held ∈ s.outstanding, held.permit.committed = false
  marketed : ∀ m, market = some m → m = setup.market

variable {setup : Setup}

/-- The orders an operation is to admit. -/
def Op.requests : Op setup → List SubmitAdmissionRequest
  | .admitAt request _ _ _ => [request]
  | .evaluate request _ _ _ => [request]
  | .basket executionClientId claims details _ _ =>
    claims.map (basketSubmitRequest details.strategyId executionClientId)
  | _ => []

/-- How many revisions an operation can take: two for each order it is to admit, or else one. -/
def Op.steps (op : Op setup) : Nat := if op.requests.isEmpty then 1 else 2 * op.requests.length

variable (op : Op setup) (inner : Inner) (observedAtNs : Nat)

theorem Op.one_le_steps : 1 ≤ op.steps := by
  unfold Op.steps
  split
  · exact le_rfl
  · rename_i hrequests
    have := length_pos_iff.mpr (by simpa using hrequests : op.requests ≠ [])
    omega

theorem Op.orders_le_steps : 2 * op.requests.length ≤ op.steps := by
  unfold Op.steps
  split
  · rename_i hrequests
    rw [isEmpty_iff.mp hrequests]
    simp
  · exact le_rfl

/-- The projection is committed and its rebuild accepted. -/
def System.AcceptsRebuild (s : System) (projection : NtProjection setup) (nowNs : Nat)
    (append : Bool) : Prop :=
  ∃ decision, (commitCapitalAdmissionNtProjection s.inner projection.expectedEpoch
    projection.components projection.acceptedAllowanceObservedAtNs projection.snapshot nowNs
    append).2 = .ok decision ∧ decision.accepted = true

/-- The moves an operation makes, and what for. -/
def Justified (s : System) (market : Option Market) (book : Book) (op : Op setup) : Move → Prop
  | .reserve id holding => ∃ (nowNs : Nat) (r : Reserved setup.terms market nowNs),
      r.request ∈ op.requests ∧ r.rollback.clientOrderId = id ∧ r.holding = holding
  | .rollback id =>
    (op.requests ≠ [] ∧ book.orders[id]? = none) ∨
      ∃ index held, op = .drop index ∧ s.outstanding[index]? = some held ∧
        ∃ r ∈ held.permit.rollbacks, r.clientOrderId = id
  | .invoke id => ∃ index held, op = .settle index true ∧ s.outstanding[index]? = some held ∧
      ∃ r ∈ held.permit.rollbacks, r.clientOrderId = id
  | .retire id => ∃ capability append holding, op = .retire capability append ∧
      capability.clientOrderId = id ∧ book.orders[id]? = some holding ∧
      capability.current holding.record = true
  | .rebuild observed allowance => ∃ projection nowNs append positive,
      op = .rebuild projection nowNs append ∧ s.AcceptsRebuild projection nowNs append ∧
      observed = observedHoldings projection.snapshot.reservations (book.revision + 1) positive ∧
      allowance = projection.components.bind fun _ => projection.acceptedAllowanceObservedAtNs
  | .close => True
  | .note => ∃ update append, op = .fill update append
  | .failFill => (∃ update append, op = .fill update append) ∨ ∃ at_, op = .rejectFill at_
  | .suspend source observedAtNs => op = .suspend source observedAtNs

/-- What one operation does to the book. -/
structure StepMoves (s : System) (market : Option Market) (book : Book) (op : Op setup)
    (moves : List Move) (market' : Option Market) (book' : Book) : Prop where
  run : Run (BookStep setup.terms) book moves book'
  simulates : Simulates setup (s.step op) market' book'
  justified : ∀ move ∈ moves, Justified s market book op move
  market : ∀ m, market = some m → market' = some m
  recorded : ∃ events, (s.step op).recorded = s.recorded ++ events ∧
    ∀ a ∈ events.flatMap attributionsOf, ∃ id holding, Move.reserve id holding ∈ moves ∧
      holding.record.attribution = a
  issued : ∀ held ∈ (s.step op).outstanding, held ∈ s.outstanding ∨
    ∀ r ∈ held.permit.rollbacks, ∃ holding, Move.reserve r.clientOrderId holding ∈ moves
  load : (s.step op).load ≤ s.load + op.steps
  latch : (s.step op).inner.rollbackOwnershipLatch = s.inner.rollbackOwnershipLatch ∨
    u64Max < s.load + op.steps ∨
    ∃ index held, op = .drop index ∧ s.outstanding[index]? = some held ∧
      rolledBackPermit s.inner held.permit.rollbacks held.permit.counterRollback = none

/-- An operation moves the book. -/
abbrev MovesBook (s : System) (market : Option Market) (book : Book) (op : Op setup) : Prop :=
  ∃ moves market' book', StepMoves s market book op moves market' book'

/-! ## What the operations after admission leave alone -/

/-- The counters, the authority and the latch are as they were. -/
structure Inner.Frames (inner inner' : Inner) : Prop where
  grants : inner'.grants = inner.grants
  latch : inner'.rollbackOwnershipLatch = inner.rollbackOwnershipLatch

theorem frames_rebuild (snapshot : OpenOrderSnapshot) (nowNs : Nat)
    (expectedEpoch : Option Nat) (components : Option SubmitCapitalAdmissionNtComponents)
    (allowance : Option Nat) (append : Bool) :
    inner.Frames (rebuildCapitalAdmissionOpenOrderSnapshotWithProjection inner snapshot nowNs
      expectedEpoch components allowance append).1 := by
  rcases rebuild_cases snapshot inner nowNs expectedEpoch components allowance append with
    ⟨_, -, -, hinner, -⟩ | ⟨hinner, -⟩ | ⟨-, -, hinner⟩ | ⟨-, -, hinner⟩ |
    ⟨_, _, _, _, -, -, -, -, -, -, hinner⟩
  all_goals
    rw [hinner]
    exact ⟨rfl, rfl⟩

theorem frames_retire (capability : TerminalReservationCapability) (append : Bool) :
    inner.Frames (retireTerminalReservation inner capability append).1 := by
  unfold retireTerminalReservation
  split
  · exact ⟨rfl, rfl⟩
  split
  · exact ⟨rfl, rfl⟩
  split
  · exact ⟨rfl, rfl⟩
  split
  · exact ⟨rfl, rfl⟩
  unfold retireRecord
  dsimp only
  split
  · exact ⟨rfl, rfl⟩
  split <;> exact ⟨rfl, rfl⟩

section

omit [DecimalArith]

theorem frames_rejectIntegrity :
    inner.Frames (rejectCapitalAdmissionFillEvidenceIntegrity inner observedAtNs) := by
  unfold rejectCapitalAdmissionFillEvidenceIntegrity
  split <;> exact ⟨rfl, rfl⟩

theorem frames_rejectFill :
    inner.Frames (rejectCapitalAdmissionFillEvidence inner observedAtNs) := by
  unfold rejectCapitalAdmissionFillEvidence
  split
  · exact frames_rejectIntegrity inner observedAtNs
  · exact ⟨rfl, rfl⟩

theorem frames_suspend (source : String) (observedAtNs : Nat) :
    inner.Frames (suspendCapitalAdmissionForCaptureFailure inner source observedAtNs) := by
  unfold suspendCapitalAdmissionForCaptureFailure
  split <;> exact ⟨rfl, rfl⟩

end

variable {inner op} {inner' : Inner} {s : System} {book' : Book} {index : Nat} {held : Held}

/-- What is recorded advances the authority, and attributes no order. -/
def Inner.Records (inner inner' : Inner) (events : List ReservationRecoveryEvent) : Prop :=
  ∃ authority, inner'.grants = inner.grants.withAuthority authority ∧
    inner.committedAdmissionAuthority.replay events = .ok authority ∧
    inner'.rollbackOwnershipLatch = inner.rollbackOwnershipLatch ∧
      events.flatMap attributionsOf = []

/-- A fill that is recorded was not there before, so the authority takes it. -/
theorem recordFill_replays {update : FillUpdate} {record : SubmitReservationRecord}
    {append : Bool} (hnew : inner.committedAdmissionAuthority.reservationFill update.clientOrderId
      record.attribution.submitReservationId update.tradeId = none) :
    let out := recordFill inner update record append
    inner.Records out.inner out.recorded := by
  unfold recordFill
  split
  · exact ⟨_, rfl, rfl, rfl, rfl⟩
  dsimp only
  split
  · exact ⟨_, rfl, rfl, rfl, rfl⟩
  have happly : ∃ authority, inner.committedAdmissionAuthority.apply
      (.fill (fillFactOf update record)) = .ok authority :=
    ReservationRecoveryFacts.applyFill_new hnew
  obtain ⟨authority, happly⟩ := happly
  rw [happly]
  exact ⟨authority, rfl, replay_single happly, rfl, rfl⟩

/-- **Recording a fill advances the authority by what is recorded.** -/
theorem recordFillEvidence_replays (inner : Inner) (update : FillUpdate) (append : Bool) :
    let out := recordCapitalAdmissionFillEvidence inner update append
    inner.Records out.inner out.recorded := by
  have hunrecorded : ∀ inner' : Inner, inner.Frames inner' → inner.Records inner' [] :=
    fun inner' h => ⟨inner.committedAdmissionAuthority, h.grants, rfl, h.latch, rfl⟩
  have hrejected := hunrecorded _ (frames_rejectIntegrity inner update.observedAtNs)
  have hsame := hunrecorded inner ⟨rfl, rfl⟩
  unfold recordCapitalAdmissionFillEvidence
  split
  · exact hsame
  dsimp only
  split
  · exact hsame
  split
  · exact hrejected
  rename_i submitReservationId instrumentId side hexpected
  split
  · exact hrejected
  unfold recordNamedFill
  split
  · split
    · exact hsame
    · exact hrejected
  rename_i hnew
  split
  · exact hrejected
  rename_i record hlive
  split
  · exact hrejected
  rename_i hmetadata
  -- The reservation a fill must name is the one of the live record.
  have hnamed : submitReservationId = record.attribution.submitReservationId := by
    obtain ⟨metadata, hsome⟩ : ∃ metadata, record.fillMetadata = some metadata := by
      cases h : record.fillMetadata with
      | none => simp [h] at hmetadata
      | some metadata => exact ⟨metadata, rfl⟩
    simp only [expectedFill, hlive, Option.bind_some, hsome, Option.map_some, Option.some_or,
      Option.some.injEq, Prod.mk.injEq] at hexpected
    exact hexpected.1.symm
  rw [hnamed] at hnew
  exact recordFill_replays hnew

/-! ## Operations that neither issue nor end a permit -/

variable {market market' : Option Market} {book : Book} {move : Move}
  {events : List ReservationRecoveryEvent}

omit [DecimalArith] in
theorem System.within_eq (s : System) (inner' : Inner) :
    s.within inner' = { s with inner := inner', recorded := s.recorded ++ [] } := by
  rw [append_nil]
  rfl

section

variable (h : Simulates setup s market book)
  (hstep : s.step op = { s with inner := inner', recorded := s.recorded ++ events })
  (hevents : events.flatMap attributionsOf = [])
  (latch : inner'.rollbackOwnershipLatch = s.inner.rollbackOwnershipLatch)

include h hstep hevents latch

/-- An operation on the protected state that makes at most one move, and that not on an owned
order. -/
theorem StepMoves.within {moves : List Move} (run : Run (BookStep setup.terms) book moves book')
    (represents : Represents setup.terms market' inner' book')
    (justified : ∀ move ∈ moves, Justified s market book op move)
    (hmoves : ∀ move ∈ moves, ∀ id, move ≠ .rollback id ∧ move ≠ .invoke id)
    (marketed : ∀ m, market' = some m → m = setup.market)
    (hmarket : ∀ m, market = some m → market' = some m) (length : moves.length ≤ 1) :
    StepMoves s market book op moves market' book' where
  run := run
  simulates := by
    rw [hstep]
    refine ⟨represents, ?_, h.uncommitted, marketed⟩
    exact h.owned.run run fun r _ move hmove => hmoves move hmove r.clientOrderId
  justified := justified
  market := hmarket
  recorded := by
    rw [hstep]
    exact ⟨events, rfl, by simp [hevents]⟩
  issued := by
    rw [hstep]
    exact fun held hheld => .inl hheld
  load := by
    have hle := Book.run_revision_le run
    have hsteps := op.one_le_steps
    rw [hstep]
    unfold System.load
    change inner'.capitalAdmissionStateRevision + s.rollbacks.length ≤ _
    rw [represents.revision, h.represents.revision]
    omega
  latch := by
    rw [hstep]
    exact .inl latch

theorem StepMoves.still (hcapital : inner'.capitalAdmission = s.inner.capitalAdmission)
    (hrevision : inner'.capitalAdmissionStateRevision = s.inner.capitalAdmissionStateRevision) :
    StepMoves s market book op [] market book :=
  .within h hstep hevents latch (.nil book) (h.represents.congr hcapital hrevision) (by simp)
    (by simp) h.marketed (fun _ hm => hm) (by simp)

/-- An operation that makes one move, which concerns no outstanding permit. -/
theorem StepMoves.single (hmove : BookStep setup.terms book move book')
    (represents : Represents setup.terms market' inner' book')
    (justified : Justified s market book op move)
    (hmoves : ∀ id, move ≠ .rollback id ∧ move ≠ .invoke id)
    (marketed : ∀ m, market' = some m → m = setup.market)
    (hmarket : ∀ m, market = some m → market' = some m) :
    StepMoves s market book op [move] market' book' := by
  refine .within h hstep hevents latch (.single hmove) represents ?_ ?_ marketed hmarket (by simp)
  · intro other hother
    rw [mem_singleton.mp hother]
    exact justified
  · intro other hother
    rw [mem_singleton.mp hother]
    exact hmoves

theorem StepMoves.closing (represents : Represents setup.terms market inner' book.close) :
    StepMoves s market book op [.close] market book.close :=
  .single h hstep hevents latch .close represents trivial (by simp)
    h.marketed fun _ hm => hm

/-- An operation that makes one move, closes the book, or leaves the protected state as it is. -/
theorem StepMoves.of_cases (hcases : (∃ move book', BookStep setup.terms book move book' ∧
        Represents setup.terms market inner' book' ∧ Justified s market book op move ∧
        ∀ id, move ≠ .rollback id ∧ move ≠ .invoke id) ∨
      Represents setup.terms market inner' book.close ∨ inner' = s.inner) :
    MovesBook s market book op := by
  rcases hcases with ⟨move, book', hmove, hrep, hjustified, hother⟩ | hrep | rfl
  · exact ⟨_, _, _, .single h hstep hevents latch hmove hrep hjustified hother h.marketed
      fun _ hm => hm⟩
  · exact ⟨_, _, _, .closing h hstep hevents latch hrep⟩
  · exact ⟨_, _, _, .still h hstep hevents rfl rfl rfl⟩

end

/-! ### Rebuilds -/

theorem openOrderReservationFromAttribution_eq_some {evidence : OpenOrderEvidence}
    {attribution : ReservationAttribution} {reservation : OpenOrderReservation}
    (h : openOrderReservationFromAttribution inner evidence attribution = some reservation) :
    reservation.attribution = attribution ∧ ∃ capital, inner.capitalAdmission = some capital ∧
      attribution.capitalPoolId = capital.capitalPool.poolId := by
  unfold openOrderReservationFromAttribution at h
  split at h; · cases h
  split at h; · cases h
  rename_i capital hcapital
  split at h; · cases h
  dsimp only at h
  split at h; · cases h
  rename_i hmismatch
  split at h; · cases h
  split at h; · cases h
  split at h; · cases h
  unfold openOrderNumbers at h
  split at h; · cases h
  split at h; · cases h
  split at h
  · cases h
    refine ⟨rfl, capital, hcapital, ?_⟩
    simp only [attributionMismatch, Bool.or_eq_true, bne_iff_ne, not_or, not_not] at hmismatch
    exact hmismatch.1.1.1.2
  · cases h

variable (projection : NtProjection setup)

/-- The orders a projection shows are in the pool of the book. -/
theorem NtProjection.pooled (h : Represents setup.terms market inner book) :
    ∀ r ∈ projection.snapshot.reservations, r.attribution.capitalPoolId = book.poolId := by
  intro r hr
  obtain ⟨inner', evidence, attribution, hterms, hsome⟩ := projection.attributed r hr
  obtain ⟨hattribution, capital', hcapital', hpool'⟩ :=
    openOrderReservationFromAttribution_eq_some hsome
  have hsame : inner.terms = some capital'.terms := by
    rw [h.terms_eq, Setup.terms, ← hterms, Inner.terms, hcapital', Option.map_some]
  obtain ⟨capital, hcapital, hterms'⟩ := Option.map_eq_some_iff.mp hsame
  have hpool : capital.capitalPool.poolId = capital'.capitalPool.poolId :=
    congrArg CapitalTerms.poolId hterms'
  rw [hattribution, hpool', ← hpool]
  exact (h.present capital hcapital).pool

/-- The components of a projection are about the market of the feed. -/
theorem NtProjection.projectedMarket_eq (h : ∀ m, market = some m → m = setup.market) :
    (∀ m, projectedMarket projection.components market = some m → m = setup.market) ∧
      ∀ m, market = some m → projectedMarket projection.components market = some m := by
  cases hcomponents : projection.components with
  | none => exact ⟨h, fun m hm => hm⟩
  | some c =>
    have hc : marketOf c.productState.product = setup.market := by
      obtain ⟨feed, cache, hconfig, hok⟩ := projection.canonical c hcomponents
      unfold CapitalAdmissionRuntimeFeed.canonicalNtComponents at hok
      split at hok; · cases hok
      split at hok; · cases hok
      split at hok; · cases hok
      split at hok; · cases hok
      cases hok
      rw [hconfig]
      rfl
    refine ⟨?_, fun m hm => ?_⟩
    · rintro m hm
      rw [← hc]
      exact (Option.some.inj hm).symm
    · rw [h m hm, ← hc]
      rfl

section

variable (h : Simulates setup s market book)

include h

/-- **A projection commit moves the book at most once.** -/
theorem rebuild_stepMoves (projection : NtProjection setup) (nowNs : Nat)
    (append : Bool) : MovesBook s market book (.rebuild projection nowNs append) := by
  have hlatch := (frames_rebuild s.inner projection.snapshot nowNs
    (some projection.expectedEpoch) projection.components projection.acceptedAllowanceObservedAtNs
    append).latch
  rcases rebuild_moves h.represents (projection.pooled h.represents) nowNs
      (some projection.expectedEpoch) projection.components projection.acceptedAllowanceObservedAtNs
      append with
    ⟨positive, book', decision, hrep, hmove, -, -, hdecision, haccepted⟩ | ⟨hrep, -⟩ | ⟨hinner, -⟩
  · obtain ⟨hmarketed, hkept⟩ := projection.projectedMarket_eq h.marketed
    have hjustified : Justified s market book (.rebuild projection nowNs append) (.rebuild _ _) :=
      ⟨projection, nowNs, append, positive, rfl, ⟨decision, hdecision, haccepted⟩, rfl, rfl⟩
    exact ⟨_, _, book', .single h (s.within_eq _) rfl hlatch hmove hrep hjustified
      (by simp) hmarketed hkept⟩
  · exact StepMoves.of_cases h (s.within_eq _) rfl hlatch (.inr (.inl hrep))
  · exact StepMoves.of_cases h (s.within_eq _) rfl hlatch (.inr (.inr hinner))

/-! ### Retirements, fills and failures -/

theorem retire_stepMoves (capability : TerminalReservationCapability)
    (append : Bool) : MovesBook s market book (.retire capability append : Op setup) := by
  refine StepMoves.of_cases h (s.within_eq _) rfl (frames_retire s.inner capability append).latch
    ((retireTerminalReservation_moves h.represents capability append).imp_left ?_)
  rintro ⟨book', holding, hrep, hmove, hheld, hcurrent⟩
  exact ⟨_, book', hmove, hrep, ⟨capability, append, holding, rfl, rfl, hheld, hcurrent⟩,
    by simp⟩

theorem fill_stepMoves (update : FillUpdate) (append : Bool) :
    MovesBook s market book (.fill update append : Op setup) := by
  obtain ⟨_, -, -, hlatch, hevents⟩ := recordFillEvidence_replays s.inner update append
  refine StepMoves.of_cases h rfl hevents hlatch
    ((recordCapitalAdmissionFillEvidence_moves h.represents update append).imp_left ?_)
  rintro ⟨book', hrep, hmove | hmove⟩
  · exact ⟨_, book', hmove, hrep, ⟨update, append, rfl⟩, by simp⟩
  · exact ⟨_, book', hmove, hrep, .inl ⟨update, append, rfl⟩, by simp⟩

theorem rejectFill_stepMoves (observedAtNs : Nat) :
    MovesBook s market book (.rejectFill observedAtNs : Op setup) := by
  refine StepMoves.of_cases h (s.within_eq _) rfl (frames_rejectFill s.inner observedAtNs).latch
    ((rejectCapitalAdmissionFillEvidence_moves h.represents observedAtNs).imp_left ?_)
  rintro ⟨book', hrep, hmove⟩
  exact ⟨_, book', hmove, hrep, .inr ⟨observedAtNs, rfl⟩, by simp⟩

/-- **A capture failure is recorded**, unless the revision is exhausted or there is no capital to
admit. -/
theorem suspend_stepMoves (source : String) (observedAtNs : Nat) :
    ∃ moves market' book',
      StepMoves s market book (.suspend source observedAtNs : Op setup) moves market' book' ∧
      (book'.gate.captureFailure = some (source, observedAtNs) ∨ book'.revision = u64Max ∨
        s.inner.capitalAdmission = none) := by
  have hlatch := (frames_suspend s.inner source observedAtNs).latch
  rcases suspendCapitalAdmission_moves h.represents source observedAtNs with
    ⟨book', hrep, hmove⟩ | ⟨hrep, hunrecorded⟩
  · refine ⟨_, _, book', .single h (s.within_eq _) rfl hlatch hmove hrep rfl
      (by simp) h.marketed fun _ hm => hm, .inl ?_⟩
    cases hmove with
    | suspend _ gate _ =>
      rw [gate]
      rfl
  · refine ⟨_, _, _, .closing h (s.within_eq _) rfl hlatch hrep,
      .inr (hunrecorded.imp_left fun hmax => ?_)⟩
    rw [← hmax]
    exact saturatingSucc_exhausted (by omega)

end

/-! ## Admissions -/

/-- The operation is an admission of its orders, however it ends. -/
def AdmissionStep (s : System) (op : Op setup) : Prop :=
  ∃ nowNs executionClientId events inner' permit,
    Ended nowNs s.inner executionClientId op.requests events inner' permit ∧
    s.step op = { s with
      inner := inner', recorded := s.recorded ++ events
      outstanding := s.outstanding ++
        permit.toList.map fun p => ⟨p, op.requests.map (·.clientOrderId)⟩ }

theorem admitAt_admissionStep (s : System) (request : SubmitAdmissionRequest)
    (economics : Option EconomicsAdmission) (nowNs : Nat) (append : Except String Unit) :
    AdmissionStep s (.admitAt request economics nowNs append : Op setup) :=
  ⟨nowNs, _, _, _, _, admitAtInner_ends s.inner request nowNs economics append, s.issue_eq _ _⟩

theorem evaluate_admissionStep (s : System) (request : SubmitAdmissionRequest)
    (economics : Option EconomicsAdmission) (nowNs : Nat) (append : Except String Unit) :
    AdmissionStep s (.evaluate request economics nowNs append : Op setup) := by
  refine ⟨nowNs, _, _, _, _,
    evaluateAndRecord_ends s.inner request nowNs economics append request.executionClientId, ?_⟩
  simp [System.step, System.record]

theorem basket_admissionStep (s : System) (executionClientId : String)
    (claims : List BasketSubmitSlotClaim) (details : BasketAdmissionDetails) (nowNs : Nat)
    (append : Except String Unit) :
    AdmissionStep s (.basket executionClientId claims details nowNs append : Op setup) := by
  have hids : claims.map (·.clientOrderId) =
      (claims.map (basketSubmitRequest details.strategyId executionClientId)).map
        (·.clientOrderId) := by
    rw [map_map]
    rfl
  refine ⟨nowNs, _, _, _, _,
    reserveBasket_ends s.inner executionClientId claims details nowNs append, ?_⟩
  simp only [System.step, System.issue_eq, Op.requests, hids]

/-- **An admission reserves, and its permit owns what it reserved.** -/
theorem AdmissionStep.moves (h : Simulates setup s market book) (hadmission : AdmissionStep s op) :
    MovesBook s market book op := by
  obtain ⟨nowNs, executionClientId, events, inner', permit, hended, hstep⟩ := hadmission
  obtain ⟨reserved, moves, book', hmoves⟩ := hended.moves h.represents
  have hrollbacks : (s.step op).rollbacks =
      s.rollbacks ++ permit.elim [] (·.rollbacks) := by
    rw [hstep]
    cases permit <;> simp [System.rollbacks]
  have hrevision := h.represents.revision
  have hsteps := op.orders_le_steps
  refine ⟨moves, market, book', hmoves.run, ?_, ?_, fun _ hm => hm, ?_, ?_, ?_, ?_⟩
  · refine ⟨?_, ?_, ?_, h.marketed⟩
    · rw [hstep]
      exact hmoves.represents
    · rw [hrollbacks]
      cases permit with
      | none =>
        rw [Option.elim_none, append_nil]
        exact h.owned.admission hmoves.run hmoves.justified
      | some p =>
        obtain ⟨hreserves, howns, -⟩ := hmoves.granted p rfl
        have hreserving : Reserving book reserved book' := by
          unfold Reserving
          rw [← hreserves]
          exact hmoves.run
        rw [Option.elim_some, howns]
        exact h.owned.reserving hreserving
    · intro held hheld
      rw [hstep] at hheld
      rcases mem_append.mp hheld with hheld | hheld
      · exact h.uncommitted held hheld
      · obtain ⟨p, hp, rfl⟩ := mem_map.mp hheld
        exact (hmoves.granted p (Option.mem_toList.mp hp)).2.2
  · intro move hmove
    have hadmission := hmoves.justified move hmove
    cases move with
    | reserve id holding =>
      obtain ⟨r, hr, hid, hholding⟩ := hadmission
      exact ⟨nowNs, r, hmoves.requested r hr, hid, hholding⟩
    | rollback id =>
      refine .inl ⟨?_, hadmission⟩
      intro hempty
      have hlength := hmoves.length
      have hpos := length_pos_of_mem hmove
      rw [hempty, length_nil] at hlength
      omega
    | close => trivial
    | _ => exact hadmission.elim
  · rw [hstep]
    refine ⟨events, rfl, fun a ha => ?_⟩
    obtain ⟨r, hr, hattribution⟩ := hmoves.attributed a ha
    exact ⟨r.rollback.clientOrderId, r.holding, hmoves.made r hr, hattribution⟩
  · intro held hheld
    rw [hstep] at hheld
    rcases mem_append.mp hheld with hheld | hheld
    · exact .inl hheld
    · obtain ⟨p, hp, rfl⟩ := mem_map.mp hheld
      obtain ⟨-, howns, -⟩ := hmoves.granted p (Option.mem_toList.mp hp)
      refine .inr fun rollback hrollback => ?_
      rw [howns] at hrollback
      obtain ⟨r, hr, rfl⟩ := mem_map.mp hrollback
      exact ⟨r.holding, hmoves.made r hr⟩
  · have hle := Book.run_revision_le hmoves.run
    have hlength := hmoves.length
    have hpermit : (permit.elim [] (·.rollbacks)).length = permit.elim 0 (·.rollbacks.length) := by
      cases permit <;> rfl
    have hinner : (s.step op).inner = inner' := by rw [hstep]
    unfold System.load
    rw [hrollbacks, length_append, hpermit, hinner, hmoves.represents.revision, hrevision]
    omega
  · have hinner : (s.step op).inner = inner' := by rw [hstep]
    rw [hinner]
    refine hmoves.latch.imp_right fun hexhausted => .inl ?_
    unfold System.load
    omega

/-! ## Ending a permit -/

omit [DecimalArith] in
/-- The outstanding permits are one of them and the others. -/
theorem System.outstanding_perm (h : s.outstanding[index]? = some held) :
    s.outstanding.Perm (held :: s.outstanding.eraseIdx index) := by
  obtain ⟨hlt, heq⟩ := List.getElem?_eq_some_iff.mp h
  rw [← heq]
  exact (List.getElem_cons_eraseIdx_perm hlt).symm

omit [DecimalArith] in
theorem System.rollbacks_perm (h : s.outstanding[index]? = some held) :
    s.rollbacks.Perm (held.permit.rollbacks ++
      (s.outstanding.eraseIdx index).flatMap (·.permit.rollbacks)) :=
  (System.outstanding_perm h).flatMap_right _

/-- The reservations of one permit are owned apart from those of the others. -/
theorem Owned.others {terms : Option CapitalTerms}
    {mine others : List CapitalAdmissionReservationRollback} {moves : List Move}
    (h : Owned book (mine ++ others)) (hrun : Run (BookStep terms) book moves book')
    (hmoves : ∀ move ∈ moves, ∃ r ∈ mine, move = .rollback r.clientOrderId ∨
      move = .invoke r.clientOrderId) : Owned book' others := by
  have hnodup := h.nodup
  rw [map_append, nodup_append] at hnodup
  have hothers : Owned book others := h.sublist (sublist_append_right _ _)
  refine hothers.run hrun fun r hr move hmove => ?_
  obtain ⟨r', hr', hmove'⟩ := hmoves move hmove
  have hne : r'.clientOrderId ≠ r.clientOrderId :=
    hnodup.2.2 _ (mem_map_of_mem hr') _ (mem_map_of_mem hr)
  constructor
  · rintro rfl
    rcases hmove' with heq | heq
    · exact hne (Move.rollback.inj heq).symm
    · cases heq
  · rintro rfl
    rcases hmove' with heq | heq
    · cases heq
    · exact hne (Move.invoke.inj heq).symm

section

variable (h : Simulates setup s market book)

include h

/-- An operation that ends an outstanding permit with moves on its own orders, or closes the
book. -/
theorem StepMoves.ending {moves : List Move} (hheld : s.outstanding[index]? = some held)
    (hinner : (s.step op).inner = inner')
    (houtstanding : (s.step op).outstanding = s.outstanding.eraseIdx index)
    (hrecorded : (s.step op).recorded = s.recorded)
    (run : Run (BookStep setup.terms) book moves book')
    (represents : Represents setup.terms market inner' book')
    (owned : Owned book' ((s.outstanding.eraseIdx index).flatMap (·.permit.rollbacks)))
    (justified : ∀ move ∈ moves, Justified s market book op move)
    (length : moves.length ≤ held.permit.rollbacks.length + 1)
    (latch : inner'.rollbackOwnershipLatch = s.inner.rollbackOwnershipLatch ∨
      op = .drop index ∧ rolledBackPermit s.inner held.permit.rollbacks
        held.permit.counterRollback = none) :
    StepMoves s market book op moves market book' where
  run := run
  simulates := by
    refine ⟨by rw [hinner]; exact represents, ?_, ?_, h.marketed⟩
    · unfold System.rollbacks
      rw [houtstanding]
      exact owned
    · rw [houtstanding]
      exact fun other hother => h.uncommitted other (mem_of_mem_eraseIdx hother)
  justified := justified
  market := fun _ hm => hm
  recorded := ⟨[], by rw [hrecorded, append_nil], by simp⟩
  issued := by
    rw [houtstanding]
    exact fun other hother => .inl (mem_of_mem_eraseIdx hother)
  load := by
    have hle := Book.run_revision_le run
    have hsteps := op.one_le_steps
    have htotal := (System.rollbacks_perm hheld).length_eq
    rw [length_append] at htotal
    unfold System.load
    rw [hinner, represents.revision, h.represents.revision, System.rollbacks, houtstanding]
    omega
  latch := by
    rw [hinner]
    refine latch.imp_right fun ⟨hop, hnone⟩ => .inr ⟨index, held, hop, hheld, hnone⟩

omit [DecimalArith] h in
/-- What a permit that is rolled back leaves of the capital state. -/
theorem rolledBackPermit_eq_some {rollbacks : List CapitalAdmissionReservationRollback}
    {counter : Option SubmitAdmissionCounterRollback}
    (h : rolledBackPermit inner rollbacks counter = some inner') :
    ∃ prepared, prepareCapitalAdmissionReservationRollback inner rollbacks = .ok prepared ∧
      inner'.capitalAdmission =
        (commitCapitalAdmissionReservationRollback inner prepared).capitalAdmission ∧
      inner'.capitalAdmissionStateRevision = prepared.2 ∧
      inner'.rollbackOwnershipLatch = inner.rollbackOwnershipLatch := by
  unfold rolledBackPermit at h
  cases hprepare : prepareCapitalAdmissionReservationRollback inner rollbacks with
  | error reason =>
    rw [hprepare] at h
    split at h
    · cases h
    · split at h <;> cases h
  | ok prepared =>
    rw [hprepare] at h
    refine ⟨prepared, rfl, ?_⟩
    split at h
    · cases h
      exact ⟨rfl, rfl, rfl⟩
    · split at h
      · cases h
      · cases h
        exact ⟨rfl, rfl, rfl⟩

/-- **A dropped permit rolls its own orders back**, or closes the book. -/
theorem drop_stepMoves (index : Nat) : MovesBook s market book (.drop index : Op setup) := by
  have hstep : s.step (.drop index : Op setup) = s.drop index := rfl
  rcases s.drop_cases index h.uncommitted with ⟨-, hdrop⟩ | ⟨held, hheld, hdrop⟩
  · exact ⟨_, _, _, .still h ((hstep.trans hdrop).trans (s.within_eq s.inner)) rfl rfl rfl rfl⟩
  have howned := h.owned.perm (System.rollbacks_perm hheld).symm
  rcases hdrop with ⟨inner', hrolled, hdrop⟩ | ⟨hrolled, hdrop⟩
  · rw [hdrop] at hstep
    obtain ⟨prepared, hprepared, hcapital, hrevision, hlatch⟩ := rolledBackPermit_eq_some hrolled
    rcases prepareRollback_owned h.represents (howned.sublist (sublist_append_left _ _)) with
      ⟨_, book', hok, hrep, hrun⟩ | ⟨⟨reason, herror⟩, -⟩
    · rw [hprepared] at hok
      cases hok
      have hmoves : ∀ move ∈ held.permit.rollbacks.reverse.map
          (fun r => Move.rollback r.clientOrderId), ∃ r ∈ held.permit.rollbacks,
            move = .rollback r.clientOrderId := by
        intro move hmove
        obtain ⟨r, hr, rfl⟩ := mem_map.mp hmove
        exact ⟨r, mem_reverse.mp hr, rfl⟩
      refine ⟨_, market, book', .ending h hheld (by rw [hstep]) (by rw [hstep]) (by rw [hstep])
        hrun (hrep.congr hcapital hrevision) ?_ ?_ (by simp) (.inl hlatch)⟩
      · refine howned.others hrun fun move hmove => ?_
        obtain ⟨r, hr, hrollback⟩ := hmoves move hmove
        exact ⟨r, hr, .inl hrollback⟩
      · intro move hmove
        obtain ⟨r, hr, rfl⟩ := hmoves move hmove
        exact .inr ⟨index, held, rfl, hheld, r, hr, rfl⟩
    · rw [hprepared] at herror
      cases herror
  · rw [hdrop] at hstep
    have hclose : BookStep setup.terms book .close book.close := .close
    have hothers :=
      (howned.sublist (sublist_append_right _ _)).step hclose nofun
        nofun
    refine ⟨[.close], market, book.close, .ending h hheld (by rw [hstep]) (by rw [hstep])
      (by rw [hstep]) (.single hclose) h.represents.latch hothers ?_ (by simp)
      (.inr ⟨rfl, hrolled⟩)⟩
    intro move hmove
    rw [mem_singleton.mp hmove]
    trivial

/-- **A settled permit takes its own orders over the boundary**, or nothing happens. -/
theorem settle_stepMoves (index : Nat) (commits : Bool) :
    MovesBook s market book (.settle index commits : Op setup) := by
  have hstep : s.step (.settle index commits : Op setup) = s.settle index commits := rfl
  rcases s.settle_cases index commits with
    hsettle | ⟨held, prepared, hheld, rfl, hprepared, hsettle⟩
  · exact ⟨_, _, _, .still h ((hstep.trans hsettle).trans (s.within_eq s.inner)) rfl rfl rfl rfl⟩
  rw [hsettle] at hstep
  have howned := h.owned.perm (System.rollbacks_perm hheld).symm
  obtain ⟨book', hrep, hrun⟩ := (prepareInvocation_owned h.represents
    (howned.sublist (sublist_append_left _ _)) held.permit.counterRollback).1 prepared hprepared
  have hmoves : ∀ move ∈ held.permit.rollbacks.map (fun r => Move.invoke r.clientOrderId),
      ∃ r ∈ held.permit.rollbacks, move = .invoke r.clientOrderId := by
    intro move hmove
    obtain ⟨r, hr, rfl⟩ := mem_map.mp hmove
    exact ⟨r, hr, rfl⟩
  refine ⟨_, market, book', .ending h hheld (by rw [hstep]) (by rw [hstep]) (by rw [hstep])
    hrun hrep ?_ ?_ (by simp) (.inl rfl)⟩
  · refine howned.others hrun fun move hmove => ?_
    obtain ⟨r, hr, hinvoke⟩ := hmoves move hmove
    exact ⟨r, hr, .inr hinvoke⟩
  · intro move hmove
    obtain ⟨r, hr, rfl⟩ := hmoves move hmove
    exact ⟨index, held, rfl, hheld, r, hr, rfl⟩

/-! ## Every operation -/

/-- **Every operation is a run of moves of the book, each for its own purpose.** -/
theorem step_moves (op : Op setup) : MovesBook s market book op := by
  cases op with
  | admitAt request economics nowNs append =>
    exact (admitAt_admissionStep s request economics nowNs append).moves h
  | evaluate request economics nowNs append =>
    exact (evaluate_admissionStep s request economics nowNs append).moves h
  | basket executionClientId claims details nowNs append =>
    exact (basket_admissionStep s executionClientId claims details nowNs append).moves h
  | settle index commits => exact settle_stepMoves h index commits
  | drop index => exact drop_stepMoves h index
  | rebuild projection nowNs append => exact rebuild_stepMoves h projection nowNs append
  | retire capability append => exact retire_stepMoves h capability append
  | fill update append => exact fill_stepMoves h update append
  | rejectFill observedAtNs => exact rejectFill_stepMoves h observedAtNs
  | suspend source observedAtNs =>
    obtain ⟨moves, market', book', hmoves, -⟩ := suspend_stepMoves h source observedAtNs
    exact ⟨moves, market', book', hmoves⟩
  | invalidate =>
    exact ⟨_, _, _, .closing h (s.within_eq _) rfl rfl h.represents.close⟩
  | _ =>
    exact ⟨_, _, _, .still h (s.within_eq _) rfl rfl rfl rfl⟩

end

/-! ## Executions -/

theorem start_simulates (setup : Setup) : Simulates setup setup.start none setup.book where
  represents :=
    { terms_eq := rfl
      market_eq := by
        change (setup.capital.map SubmitCapitalAdmissionConfig.initial).bind _ = none
        cases setup.capital <;> rfl
      revision := rfl, absent := fun _ => ⟨rfl, rfl⟩
      present := by
        intro capital hcapital
        obtain ⟨config, hconfig, rfl⟩ := Option.map_eq_some_iff.mp hcapital
        refine ⟨?_, ?_, ?_, rfl, rfl, rfl, rfl⟩
        · simp [Setup.book, hconfig, Book.empty, SubmitCapitalAdmissionConfig.initial]
        · exact (ExtTreeMap.map_eq_empty_iff.mpr rfl).symm
        · exact SortedMap.lists_insertAll (l := []) nodup_nil }
  owned := .nil _
  uncommitted := by simp [Setup.start]
  marketed := by simp

/-- **Every execution is a run of moves of the book.** -/
theorem run_simulates (h : Simulates setup s market book) (ops : List (Op setup)) :
    ∃ moves market' book', Run (BookStep setup.terms) book moves book' ∧
      Simulates setup (s.run ops) market' book' ∧ ∀ m, market = some m → market' = some m := by
  induction ops generalizing s market book with
  | nil => exact ⟨[], market, book, .nil book, h, fun _ hm => hm⟩
  | cons op ops ih =>
    obtain ⟨moves, market₁, book₁, hmoves⟩ := step_moves h op
    obtain ⟨moves', market', book', hrun, hsimulates, hmarket⟩ := ih hmoves.simulates
    exact ⟨moves ++ moves', market', book', hmoves.run.append hrun, hsimulates,
      fun m hm => hmarket m (hmoves.market m hm)⟩

/-- Every state of an execution from the start represents a book. -/
theorem reachable_simulates (setup : Setup) (ops : List (Op setup)) :
    ∃ moves market book, Run (BookStep setup.terms) setup.book moves book ∧
      Simulates setup (setup.start.run ops) market book := by
  obtain ⟨moves, market, book, hrun, hsimulates, -⟩ := run_simulates (start_simulates setup) ops
  exact ⟨moves, market, book, hrun, hsimulates⟩

end

end BoltV3.Submit
