import BoltV3.Submit.Attempts
import BoltV3.Submit.Ownership

/-!
# Admissions and the book

What an admission does to the book: it reserves orders, and if it is withdrawn it rolls the same
orders back, in reverse. Closing the book only comes with an exhausted revision.
-/

namespace BoltV3.Submit

open Lib Loss Capital Evidence List
open Std (ExtTreeMap)

/-- The state is that of the book, or of the closed book: an exhausted one, with something left. -/
def StandsAt (terms : Option CapitalTerms) (market : Option Market) (inner : Inner) (book : Book)
    (left : Prop) : Prop :=
  Represents terms market inner book ∨
    Represents terms market inner book.close ∧ book.revision = u64Max ∧ left

variable {terms : Option CapitalTerms} {market : Option Market} {nowNs : Nat} {book book' : Book}
  {inner : Inner}

theorem StandsAt.imp {left left' : Prop} (h : StandsAt terms market inner book left)
    (himp : left → left') : StandsAt terms market inner book left' :=
  h.imp_right fun ⟨hrep, hmax, hleft⟩ => ⟨hrep, hmax, himp hleft⟩

theorem StandsAt.represents {left : Prop} (h : StandsAt terms market inner book left)
    (hnone : ¬left) : Represents terms market inner book :=
  h.resolve_right fun ⟨_, _, hleft⟩ => hnone hleft

section

variable [DecimalArith]

/-! ## Reservations of an admission -/

/-- A reservation made by an admission: the order, the rollback that names it, and what the book
has of it. -/
structure Reserved (terms : Option CapitalTerms) (market : Option Market) (nowNs : Nat) where
  request : SubmitAdmissionRequest
  rollback : CapitalAdmissionReservationRollback
  holding : Holding
  order : rollback.clientOrderId = request.clientOrderId
  names : rollback.Names holding
  entry : ∃ inner : Inner, inner.terms = terms ∧ inner.market = market ∧
    EntryReserved inner request nowNs holding.record.attribution holding.liability

/-- The move that made the reservation. -/
def Reserved.move (reserved : Reserved terms market nowNs) : Move :=
  .reserve reserved.rollback.clientOrderId reserved.holding

/-- The reservations of an admission, one after the other. -/
def Reserving (book : Book) (reserved : List (Reserved terms market nowNs)) (book' : Book) : Prop :=
  Run (BookStep terms) book (reserved.map Reserved.move) book'

variable {reserved : List (Reserved terms market nowNs)}
  {rollbacks : List CapitalAdmissionReservationRollback} {requests : List SubmitAdmissionRequest}

/-- What the reserving admission owns, next to what was owned before. -/
theorem Owned.reserving (h : Owned book rollbacks) (hrun : Reserving book reserved book') :
    Owned book' (rollbacks ++ reserved.map (·.rollback)) := by
  induction reserved generalizing book rollbacks with
  | nil =>
    have heq : book = book' := Run.eq_of_nil hrun
    rw [← heq, map_nil, append_nil]
    exact h
  | cons r reserved ih =>
    cases hrun with
    | @cons _ next _ _ _ first rest =>
      have hkept : Owned next rollbacks := h.step first nofun nofun
      have hnext : Owned next (rollbacks ++ [r.rollback]) := by
        cases first with
        | reserve fresh _ _ new _ orders =>
          refine ⟨fun other hother => ?_, ?_⟩
          · rcases mem_append.mp hother with hother | hother
            · exact hkept.held other hother
            · rw [mem_singleton.mp hother]
              refine ⟨r.holding, ?_, new.1, r.names⟩
              rw [orders, SortedMap.getElem?_insert, if_pos rfl]
          · rw [map_append, nodup_append]
            refine ⟨h.nodup, by simp, ?_⟩
            rintro id hid _ hid' rfl
            obtain ⟨other, hother, rfl⟩ := mem_map.mp hid
            obtain ⟨holding, held, -⟩ := h.held other hother
            rw [map_singleton, mem_singleton] at hid'
            rw [hid', fresh] at held
            cases held
      have := ih hnext rest
      rwa [append_assoc, singleton_append] at this

theorem Reserving.fresh (h : Reserving book reserved book') :
    ∀ r ∈ reserved, book.orders[r.rollback.clientOrderId]? = none := by
  induction reserved generalizing book with
  | nil => simp
  | cons first reserved ih =>
    intro r hr
    cases h with
    | @cons _ next _ _ _ hfirst hrest =>
      cases hfirst with
      | reserve fresh _ _ _ _ orders =>
        rcases mem_cons.mp hr with rfl | hr
        · exact fresh
        · have hnone := ih hrest r hr
          rw [orders, SortedMap.getElem?_insert] at hnone
          split at hnone
          · cases hnone
          · exact hnone

theorem Reserving.revision
    (h : Reserving book reserved book') : book'.revision = book.revision + reserved.length := by
  induction reserved generalizing book with
  | nil =>
    rw [← Run.eq_of_nil h]
    rfl
  | cons r reserved ih =>
    cases h with
    | @cons _ next _ _ _ hfirst hrest =>
      cases hfirst with
      | reserve _ _ _ _ _ _ _ revision =>
        rw [ih hrest, revision, length_cons]
        omega

/-! ## Evaluating -/

/-- What an evaluation does to the book: it reserves an order it admits and holds the reservation,
or it holds nothing. Only a refused one can have closed the book. -/
structure EvaluationMoves (book : Book) (request : SubmitAdmissionRequest) (inner' : Inner)
    (result : Except SubmitAdmissionError SubmitAdmissionEvaluation)
    (reserved : Option (Reserved terms market nowNs)) (book' : Book) : Prop where
  reserving : Reserving book reserved.toList book'
  stands : StandsAt terms market inner' book'
    (∀ evaluation, result = .ok evaluation → evaluation.outcome ≠ .admitted)
  admitted : ∀ r ∈ reserved, r.request = request ∧
    ∃ evaluation, result = .ok evaluation ∧ evaluation.outcome = .admitted
  held : ∀ evaluation, result = .ok evaluation →
    evaluation.rollback = reserved.map (·.rollback) ∧
      evaluation.reservationAttribution = reserved.map (·.holding.record.attribution)

theorem evaluateOrderCapital_moves
    (h : Represents terms market inner book) (request : SubmitAdmissionRequest) (nowNs : Nat) :
    ∃ (reserved : Option (Reserved terms market nowNs)) (book' : Book),
      EvaluationMoves book request (evaluateOrderCapital inner request nowNs).1
        (evaluateOrderCapital inner request nowNs).2 reserved book' := by
  unfold evaluateOrderCapital
  split
  · exact ⟨none, book, .nil book, .inl h, by simp, by rintro _ ⟨⟩; exact ⟨rfl, rfl⟩⟩
  have hmoves := evaluateCapitalAdmissionSubmit_moves h request nowNs
  generalize evaluateCapitalAdmissionSubmit inner request nowNs = decision at hmoves ⊢
  obtain ⟨inner', acceptance | reason | invariant⟩ := decision
  · rcases hmoves with
      ⟨book', holding, hrep, hstep, -, hentry, rollback, hnames, horder, ⟨⟩⟩ |
      ⟨hrep, haccepted⟩ | ⟨-, -, _, ⟨⟩⟩
    · rw [← horder] at hstep
      exact ⟨some ⟨request, rollback, holding, horder, hnames, inner, h.terms_eq, h.market_eq,
        hentry⟩, book', .single hstep, .inl hrep, by rintro _ ⟨⟩; exact ⟨rfl, _, rfl, rfl⟩,
        by rintro _ ⟨⟩; exact ⟨rfl, rfl⟩⟩
    · obtain ⟨rfl, -⟩ := haccepted acceptance rfl
      exact ⟨none, book, .nil book, .inl hrep, by simp, by rintro _ ⟨⟩; exact ⟨rfl, rfl⟩⟩
  · rcases hmoves with ⟨_, _, -, -, -, -, _, -, -, ⟨⟩⟩ | ⟨hrep, -⟩ | ⟨hrep, hmax, -⟩
    · exact ⟨none, book, .nil book, .inl hrep, by simp, by rintro _ ⟨⟩; exact ⟨rfl, rfl⟩⟩
    · exact ⟨none, book, .nil book, .inr ⟨hrep, hmax, by rintro _ ⟨⟩ ⟨⟩⟩, by simp,
        by rintro _ ⟨⟩; exact ⟨rfl, rfl⟩⟩
  · rcases hmoves with ⟨_, _, -, -, -, -, _, -, -, ⟨⟩⟩ | ⟨hrep, -⟩ | ⟨-, -, _, ⟨⟩⟩
    exact ⟨none, book, .nil book, .inl hrep, by simp, by rintro _ ⟨⟩⟩

/-- **An evaluation is a reservation in the book, or holds nothing.** -/
theorem evaluate_moves (h : Represents terms market inner book)
    (request : SubmitAdmissionRequest) (nowNs : Nat) :
    ∃ (reserved : Option (Reserved terms market nowNs)) (book' : Book),
      EvaluationMoves book request (evaluate inner request nowNs).1
        (evaluate inner request nowNs).2 reserved book' := by
  rcases evaluate_cases inner request nowNs with
    ⟨episodes, result, heval, hrefuses⟩ |
    ⟨episodes, diagnostics, _, error | evaluation, -, hcapital, heval⟩
  · rw [heval]
    refine ⟨none, book, .nil book, .inl (h.congr rfl rfl), by simp, fun evaluation hok => ?_⟩
    exact ⟨(hrefuses evaluation hok).rollback, (hrefuses evaluation hok).attribution⟩
  all_goals
    have hepisodes : Represents terms market (inner.withEpisodes episodes) book := h.congr rfl rfl
    obtain ⟨reserved, book', hmoves⟩ := evaluateOrderCapital_moves hepisodes request nowNs
    rw [hcapital] at hmoves
    rw [heval]
    refine ⟨reserved, book', ?_⟩
  · exact hmoves
  · -- The diagnostics of the loss check do not touch what the evaluation holds.
    refine ⟨hmoves.reserving, hmoves.stands.imp fun hrefused => ?_, fun r hr => ?_, ?_⟩
    · rintro _ ⟨⟩
      exact hrefused evaluation rfl
    · obtain ⟨hrequest, _, ⟨⟩, hadmitted⟩ := hmoves.admitted r hr
      exact ⟨hrequest, _, rfl, hadmitted⟩
    · rintro _ ⟨⟩
      exact hmoves.held evaluation rfl

/-- What attempts leave: reservations in the book, held by the evaluations that made them. The
book is closed after them only where it is exhausted and an order was left. -/
structure AttemptMoves (book : Book) (requests : List SubmitAdmissionRequest)
    (evaluations : List SubmitAdmissionEvaluation) (inner' : Inner)
    (reserved : List (Reserved terms market nowNs)) (book₁ : Book) : Prop where
  reserving : Reserving book reserved book₁
  stands : StandsAt terms market inner' book₁ (evaluations.length < requests.length)
  rollbacks : rollbacksOf evaluations = reserved.map (·.rollback)
  attributions : evaluations.flatMap (·.reservationAttribution.toList) =
    reserved.map (·.holding.record.attribution)
  requested : ∀ r ∈ reserved, r.request ∈ requests
  evaluated : reserved.length ≤ evaluations.length
  attempted : evaluations.length ≤ requests.length

variable {inner' : Inner} {evaluations : List SubmitAdmissionEvaluation} {book₁ : Book}

/-- **Attempts are reservations in the book.** -/
theorem Attempted.moves (hattempted : Attempted nowNs inner requests evaluations inner')
    (h : Represents terms market inner book) :
    ∃ (reserved : List (Reserved terms market nowNs)) (book₁ : Book),
      AttemptMoves book requests evaluations inner' reserved book₁ := by
  induction hattempted generalizing book with
  | stop inner requests =>
    exact ⟨[], book, .nil book, .inl h, rfl, rfl, by simp, by simp, by simp⟩
  | @refused inner request requests refuses =>
    obtain ⟨reserved, book', hmoves⟩ := evaluate_moves h request nowNs
    cases reserved with
    | none =>
      exact ⟨[], book', hmoves.reserving, hmoves.stands.imp (by simp), rfl, rfl, by simp, by simp,
        by simp⟩
    | some r =>
      -- An order that was reserved is admitted.
      obtain ⟨-, evaluation, hok, hadmitted⟩ := hmoves.admitted r rfl
      exact absurd hadmitted (refuses evaluation hok)
  | @admitted inner inner' request requests evaluation evaluations evaluated outcome rest ih =>
    obtain ⟨r, book', hfirst⟩ := evaluate_moves h request nowNs
    obtain ⟨hrollback, hattribution⟩ := hfirst.held evaluation evaluated
    obtain ⟨reserved, book₁, hmoves⟩ := ih (hfirst.stands.represents fun hrefused =>
      hrefused evaluation evaluated outcome)
    have hone : r.toList.length ≤ 1 := by cases r <;> simp
    have hevaluated := hmoves.evaluated
    refine ⟨r.toList ++ reserved, book₁, ?_, hmoves.stands.imp (by simp), ?_, ?_, ?_, ?_, ?_⟩
    · rw [Reserving, map_append]
      exact hfirst.reserving.append hmoves.reserving
    · simp [hrollback, hmoves.rollbacks, Option.toList_map]
    · simp [hattribution, hmoves.attributions, Option.toList_map]
    · intro other hother
      rcases mem_append.mp hother with hother | hother
      · exact (hfirst.admitted other (by simpa using hother)).1 ▸ mem_cons_self
      · exact mem_cons_of_mem _ (hmoves.requested other hother)
    · rw [length_append, length_cons]
      omega
    · simpa using hmoves.attempted

/-! ## Ending -/

/-- The moves an admission makes: it reserves its own orders, rolls back only orders it did not
find in the book, and may close the book. -/
def AdmissionMove (book : Book) (reserved : List (Reserved terms market nowNs)) : Move → Prop
  | .reserve id holding => ∃ r ∈ reserved, r.rollback.clientOrderId = id ∧ r.holding = holding
  | .rollback id => book.orders[id]? = none
  | .close => True
  | _ => False

/-- An admission leaves alone what was owned before it. -/
theorem Owned.admission {moves : List Move}
    (h : Owned book rollbacks) (hrun : Run (BookStep terms) book moves book')
    (hmoves : ∀ move ∈ moves, AdmissionMove book reserved move) : Owned book' rollbacks := by
  refine h.run hrun fun r hr move hmove => ⟨?_, ?_⟩
  · rintro rfl
    obtain ⟨holding, held, -⟩ := h.held r hr
    have hfresh : book.orders[r.clientOrderId]? = none := hmoves _ hmove
    rw [hfresh] at held
    cases held
  · rintro rfl
    exact hmoves _ hmove

/-- What an admission does to the book. -/
structure AdmissionMoves (inner : Inner) (book : Book) (requests : List SubmitAdmissionRequest)
    (events : List ReservationRecoveryEvent) (inner' : Inner)
    (permit : Option SubmitAdmissionPermit) (reserved : List (Reserved terms market nowNs))
    (moves : List Move) (book' : Book) : Prop where
  run : Run (BookStep terms) book moves book'
  represents : Represents terms market inner' book'
  justified : ∀ move ∈ moves, AdmissionMove book reserved move
  made : ∀ r ∈ reserved, r.move ∈ moves
  requested : ∀ r ∈ reserved, r.request ∈ requests
  attributed : ∀ a ∈ events.flatMap attributionsOf,
    ∃ r ∈ reserved, r.holding.record.attribution = a
  length : moves.length + permit.elim 0 (·.rollbacks.length) ≤ 2 * requests.length
  latch : inner'.rollbackOwnershipLatch = inner.rollbackOwnershipLatch ∨
    u64Max < book.revision + 2 * requests.length
  granted : ∀ p, permit = some p → moves = reserved.map Reserved.move ∧
    p.rollbacks = reserved.map (·.rollback) ∧ p.committed = false

theorem rollbackReservations_moves
    (h : Represents terms market inner book) (howned : Owned book rollbacks) :
    let inner' := rollbackCapitalAdmissionReservations inner rollbacks
    (∃ book', Run (BookStep terms) book (rollbacks.reverse.map fun r => .rollback r.clientOrderId)
        book' ∧ Represents terms market inner' book' ∧
      inner'.rollbackOwnershipLatch = inner.rollbackOwnershipLatch) ∨
    Represents terms market inner' book.close ∧ u64Max < book.revision + rollbacks.length := by
  unfold rollbackCapitalAdmissionReservations
  rcases prepareRollback_owned h howned with
    ⟨prepared, book', hprepared, hrep, hrun⟩ | ⟨⟨reason, hprepared⟩, hexhausted⟩
  · rw [hprepared]
    exact .inl ⟨book', hrun, hrep, rfl⟩
  · rw [hprepared]
    exact .inr ⟨h.latch, hexhausted⟩

/-- The moves that take an admission back: the orders it reserved, in reverse. -/
def Reserved.rollbackMoves (reserved : List (Reserved terms market nowNs)) : List Move :=
  (reserved.map (·.rollback)).reverse.map fun r => .rollback r.clientOrderId

/-- Every move of a withdrawn admission is one that admissions make. -/
theorem Reserving.justified (h : Reserving book reserved book₁) {moves : List Move}
    (hmoves : ∀ move ∈ moves, move ∈ reserved.map Reserved.move ∨ move = .close ∨
      move ∈ Reserved.rollbackMoves reserved) :
    ∀ move ∈ moves, AdmissionMove book reserved move := by
  intro move hmove
  rcases hmoves move hmove with hmove | rfl | hmove
  · obtain ⟨r, hr, rfl⟩ := mem_map.mp hmove
    exact ⟨r, hr, rfl, rfl⟩
  · trivial
  · obtain ⟨rollback, hrollback, rfl⟩ := mem_map.mp hmove
    obtain ⟨r, hr, rfl⟩ := mem_map.mp (mem_reverse.mp hrollback)
    exact h.fresh r hr

/-- The run of an admission that is withdrawn: the reservations are rolled back, or the rollback
fails and the book is closed, or it was already closed. -/
theorem AttemptMoves.withdraw {inner₁ : Inner}
    (h : AttemptMoves book requests evaluations inner₁ reserved book₁)
    (hlatch : inner₁.rollbackOwnershipLatch = inner.rollbackOwnershipLatch) :
    let inner' := rollbackCapitalAdmissionReservations inner₁ (rollbacksOf evaluations)
    ∃ after book', Run (BookStep terms) book₁ after book' ∧
      Represents terms market inner' book' ∧
      (∀ move ∈ after, move = .close ∨ move ∈ Reserved.rollbackMoves reserved) ∧
      reserved.length + after.length ≤ 2 * requests.length ∧
      (inner'.rollbackOwnershipLatch = inner.rollbackOwnershipLatch ∨
        u64Max < book.revision + 2 * requests.length) := by
  have howned : Owned book₁ (reserved.map (·.rollback)) := (Owned.nil book).reserving h.reserving
  have hrevision := h.reserving.revision
  have hreserved := h.evaluated.trans h.attempted
  have hbounded := book₁.bounded
  have hrollbacks : (Reserved.rollbackMoves reserved).length = reserved.length := by
    simp [Reserved.rollbackMoves]
  rw [h.rollbacks]
  rcases h.stands with hrep | ⟨hrep, hmax, hleft⟩
  · rcases rollbackReservations_moves hrep howned with
      ⟨book', hrun, hrep', hsame⟩ | ⟨hrep', hexhausted⟩
    · refine ⟨Reserved.rollbackMoves reserved, book', hrun, hrep', fun _ h => .inr h, by omega, ?_⟩
      exact .inl (hsame.trans hlatch)
    · rw [length_map] at hexhausted
      refine ⟨[.close], book₁.close, .single .close, hrep', by simp, ?_, .inr (by omega)⟩
      rw [length_singleton]
      omega
  · have hclose : BookStep terms book₁ .close book₁.close := .close
    have hclosed : Owned book₁.close (reserved.map (·.rollback)) :=
      howned.step hclose nofun nofun
    have hleft' := h.evaluated
    rcases rollbackReservations_moves hrep hclosed with
      ⟨book', hrun, hrep', hsame⟩ | ⟨hrep', -⟩
    · refine ⟨.close :: Reserved.rollbackMoves reserved, book', .cons .close hrun, hrep', ?_, ?_,
        .inl (hsame.trans hlatch)⟩
      · intro move hmove
        exact mem_cons.mp hmove
      · rw [length_cons]
        omega
    · refine ⟨[.close, .close], _, .cons .close (.single .close), hrep', by simp, ?_,
        .inr (by omega)⟩
      rw [length_cons, length_singleton]
      omega

/-- **An admission is a run of moves**: it reserves and takes back its own orders, and a permit
owns exactly what was reserved. -/
theorem Ended.moves {executionClientId : String} {events : List ReservationRecoveryEvent}
    {permit : Option SubmitAdmissionPermit} (h : Represents terms market inner book)
    (hended : Ended nowNs inner executionClientId requests events inner' permit) :
    ∃ (reserved : List (Reserved terms market nowNs)) (moves : List Move) (book' : Book),
      AdmissionMoves inner book requests events inner' permit reserved moves book' := by
  have hattributions : ∀ {evaluations reserved} {inner₁ : Inner} {book₁ : Book},
      AttemptMoves book requests evaluations inner₁ reserved book₁ →
      (∀ a ∈ events.flatMap attributionsOf, ∃ e ∈ evaluations, e.reservationAttribution = some a) →
      ∀ a ∈ events.flatMap attributionsOf,
        ∃ r ∈ reserved, (r : Reserved terms market nowNs).holding.record.attribution = a := by
    intro evaluations reserved inner₁ book₁ hmoves hattributed a ha
    obtain ⟨e, he, hsome⟩ := hattributed a ha
    have hmem : a ∈ evaluations.flatMap (·.reservationAttribution.toList) :=
      mem_flatMap.mpr ⟨e, he, by simp [hsome]⟩
    rw [hmoves.attributions] at hmem
    exact mem_map.mp hmem
  cases hended with
  | @withdrawn evaluations inner₁ authority attempted replayed attributed inner_eq =>
    obtain ⟨reserved, book₁, hmoves⟩ := attempted.moves h
    obtain ⟨after, book', hrun, hrep, hafter, hlength, hlatch⟩ :=
      hmoves.withdraw attempted.grants_eq.2
    subst inner_eq
    refine ⟨reserved, reserved.map Reserved.move ++ after, book', hmoves.reserving.append hrun,
      hrep.congr rfl rfl, ?_, ?_, hmoves.requested, hattributions hmoves attributed, ?_, hlatch,
      nofun⟩
    · refine hmoves.reserving.justified fun move hmove => ?_
      rcases mem_append.mp hmove with hmove | hmove
      · exact .inl hmove
      · exact .inr (hafter move hmove)
    · exact fun r hr => mem_append_left _ (mem_map_of_mem hr)
    · simpa using hlength
  | @granted evaluations inner₁ authority evidenceFree submitAuthority attempted nonempty complete
      client replayed attributed evidenced counted capped inner_eq =>
    obtain ⟨reserved, book₁, hmoves⟩ := attempted.moves h
    have hrep : Represents terms market inner₁ book₁ := hmoves.stands.represents (by omega)
    subst inner_eq
    refine ⟨reserved, reserved.map Reserved.move, book₁, hmoves.reserving, hrep.congr rfl rfl, ?_,
      ?_, hmoves.requested, hattributions hmoves attributed, ?_, .inl attempted.grants_eq.2, ?_⟩
    · exact hmoves.reserving.justified fun move hmove => .inl hmove
    · exact fun r hr => mem_map_of_mem hr
    · have := hmoves.evaluated
      simp only [Option.elim_some, hmoves.rollbacks, length_map]
      omega
    · rintro p ⟨⟩
      exact ⟨rfl, hmoves.rollbacks, rfl⟩

end

end BoltV3.Submit
