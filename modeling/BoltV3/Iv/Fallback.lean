import BoltV3.Lib.Rust

/-!
# The fallback of a projected volatility

`fallback_only`, `selected_product_for_input` and `projected_output_provenance` of
`src/bolt_v3_iv/query.rs`, `resolve_fallback` of `src/bolt_v3_iv/policy.rs`. One choice is made
by four searches: the selected input, its product, the value and the convention.

* A value is of any type, and `IvNumericBounds::accepts` is any test of a value and a convention.
* `basis` is left out, with the other kinds of policy decision: nothing here reads them.
-/

namespace BoltV3.Iv

open Lib List

/-! ## The searches -/

/-- `SelectedProjectionInput`: the fields an input is found again by. -/
@[ext] structure SelectedProjectionInput where
  (productId sourceId selectorFingerprint : String)
  tsEventNs : Nat
  deriving DecidableEq

structure IvPolicyInput (Value : Type) extends selected : SelectedProjectionInput where
  convention : String
  value : Value

structure IvFallbackPolicy where
  policyId : String
  (candidateOrder eligibleSources : List String)
  maximumTimestampSkewNs : Nat
  requiredProvenanceFields : List String

structure IvFallbackCandidate (Value : Type) where
  candidateId : String
  value : Value
  eligible : Bool

structure IvRejectedCandidate where
  (candidateId reason : String)

inductive IvPolicyDecision where
  | fallbackDecision (policy : IvFallbackPolicy) (acceptedCandidate : Option String)
      (rejectedCandidates : List IvRejectedCandidate)

/-- The fields of a provenance that a fallback policy can require. -/
structure IvProvenance where
  (ntRevision ntEvidencePath ntSymbol : String)
  (rawEventId payloadKind : Option String)
  inputEventIds : List String
  helperIdentity : Option String
  policyDecisions : List IvPolicyDecision

/-- A product, by what `projection_inputs` (`none` is an error) and `provenance` give of it. -/
structure IvQueryProduct (Value : Type) where
  projectionInputs : Option (List (IvPolicyInput Value))
  provenance : Option IvProvenance

structure IvPolicyOutput (Value : Type) where
  value : Value
  policyDecisions : List IvPolicyDecision

inductive IvPolicyError where
  | fallbackRejected (policyId : String)

inductive IvQueryError where
  | projectionRejected | productNotFound | unsupportedProductKind

structure QueryPolicyOutput (Value : Type) extends IvPolicyOutput Value where
  selectedInput : Option SelectedProjectionInput

/-- The fallback fields of `IvProjectionPolicy`. -/
structure IvProjectionPolicy (Value : Type) where
  outputBounds : Value → String → Bool
  fallbackPolicyRef : Option String

variable {Value : Type}

/-- `SelectedProjectionInput::matches`. -/
def SelectedProjectionInput.matchesInput (selected : SelectedProjectionInput)
    (input : IvPolicyInput Value) : Bool :=
  selected.productId == input.productId && selected.sourceId == input.sourceId &&
    selected.selectorFingerprint == input.selectorFingerprint &&
    selected.tsEventNs == input.tsEventNs

variable (policy : IvFallbackPolicy)

def IvFallbackPolicy.eligible (sourceId : String) : Bool :=
  policy.eligibleSources.isEmpty || policy.eligibleSources.contains sourceId

def IvFallbackPolicy.candidate (input : IvPolicyInput Value) : IvFallbackCandidate Value :=
  ⟨input.productId, input.value, policy.eligible input.sourceId⟩

def resolveFallback (candidates : List (IvFallbackCandidate Value)) :
    Except IvPolicyError (IvPolicyOutput Value) :=
  let accepted := policy.candidateOrder.findSome? fun candidateId =>
    (candidates.find? fun candidate =>
      candidate.eligible && candidate.candidateId == candidateId).map fun candidate =>
        { value := candidate.value
          policyDecisions := [.fallbackDecision policy (some candidate.candidateId)
            ((policy.candidateOrder.takeWhile (· != candidateId)).map
              (⟨·, "candidate_not_eligible"⟩))] }
  okOr (.fallbackRejected policy.policyId) accepted

variable (inputs : List (IvPolicyInput Value))

def projectionInputSkew : Nat :=
  match (inputs.map (·.tsEventNs)).min?, (inputs.map (·.tsEventNs)).max? with
  | some min, some max => max - min
  | _, _ => 0

def provenanceSatisfiesRequiredFields (provenance : IvProvenance) (requiredFields : List String) :
    Bool :=
  requiredFields.all fun
    | "raw_event_id" => provenance.rawEventId.any (!isBlank ·)
    | "payload_kind" => provenance.payloadKind.any (!isBlank ·)
    | "nt_revision" => !isBlank provenance.ntRevision
    | "nt_symbol" => !isBlank provenance.ntSymbol
    | "nt_evidence_path" => !isBlank provenance.ntEvidencePath
    | "input_event_ids" => !provenance.inputEventIds.isEmpty
    | "helper_identity" => provenance.helperIdentity.isSome
    | "policy_decisions" => !provenance.policyDecisions.isEmpty
    | _ => false

/-- The search that selects the input. -/
def firstEligible : Option (IvPolicyInput Value) :=
  policy.candidateOrder.findSome? fun candidateId =>
    inputs.find? fun input => input.productId == candidateId && policy.eligible input.sourceId

variable (inputProducts : List (IvQueryProduct Value))

def selectedProductForInput (selected : SelectedProjectionInput) : Option (IvQueryProduct Value) :=
  inputProducts.find? fun product =>
    product.projectionInputs.any fun inputs => inputs.any selected.matchesInput

def fallbackOnly (policy : IvProjectionPolicy Value) (fallbackPolicies : List IvFallbackPolicy)
    (inputProducts : List (IvQueryProduct Value)) (inputs : List (IvPolicyInput Value)) :
    Except IvQueryError (QueryPolicyOutput Value) := do
  let fallbackPolicyRef ← okOr .projectionRejected policy.fallbackPolicyRef
  let fallbackPolicy ← okOr .projectionRejected
    (fallbackPolicies.find? (·.policyId == fallbackPolicyRef))
  let candidates := inputs.map fallbackPolicy.candidate
  let selectedInput := (firstEligible fallbackPolicy inputs).map IvPolicyInput.selected
  if fallbackPolicy.maximumTimestampSkewNs < projectionInputSkew inputs then
    throw .projectionRejected
  let selected ← okOr .projectionRejected selectedInput
  let product ← okOr .projectionRejected (selectedProductForInput inputProducts selected)
  let provenance ← okOr .projectionRejected product.provenance
  if !provenanceSatisfiesRequiredFields provenance fallbackPolicy.requiredProvenanceFields then
    throw .projectionRejected
  let output ← (resolveFallback fallbackPolicy candidates).mapError fun _ => .projectionRejected
  -- The convention is looked up by product id alone: neither source nor eligibility is read.
  let first ← okOr .projectionRejected (inputs.find? (·.productId == selected.productId))
  if !policy.outputBounds output.value first.convention then
    throw .projectionRejected
  return { output with selectedInput := some selected }

def projectedOutputProvenance (output : QueryPolicyOutput Value) :
    Except IvQueryError IvProvenance := do
  let selectedProduct := output.selectedInput.bind (selectedProductForInput inputProducts)
  let product ← okOr .productNotFound (selectedProduct.or inputProducts.head?)
  okOr .unsupportedProductKind product.provenance

/-! ## One input -/

/-- The first eligible input in candidate order: no eligible input has an earlier candidate id,
and none of its own candidate id stands before it. -/
def IsFirstEligible (input : IvPolicyInput Value) : Prop :=
  ∃ earlier later before after, policy.candidateOrder = earlier ++ input.productId :: later ∧
    inputs = before ++ input :: after ∧ policy.eligible input.sourceId ∧
    (∀ other ∈ inputs, policy.eligible other.sourceId → other.productId ∉ earlier) ∧
    ∀ other ∈ before, policy.eligible other.sourceId → other.productId ≠ input.productId

section Selection

variable {policy : IvFallbackPolicy} {inputs : List (IvPolicyInput Value)}
  {input : IvPolicyInput Value}

theorem isFirstEligible_of_search (h : firstEligible policy inputs = some input) :
    IsFirstEligible policy inputs input := by
  obtain ⟨earlier, candidateId, later, horder, hfind, hearlier⟩ := findSome?_eq_some_iff.mp h
  obtain ⟨htest, before, after, hinputs, hbefore⟩ := find?_eq_some_iff_append.mp hfind
  simp only [Bool.and_eq_true, beq_iff_eq] at htest
  obtain ⟨rfl, heligible⟩ := htest
  refine ⟨earlier, later, before, after, horder, hinputs, heligible, ?_, ?_⟩
  · intro other hother hsource hid
    have hnone := find?_eq_none.mp (hearlier _ hid) other hother
    simp [hsource] at hnone
  · intro other hother hsource hid
    have hnone := hbefore other hother
    simp [hsource, hid] at hnone

/-- The value is that of the selected input: the candidates are searched by the same test. -/
theorem value_of_search {output : IvPolicyOutput Value}
    (h : firstEligible policy inputs = some input)
    (houtput : resolveFallback policy (inputs.map policy.candidate) = .ok output) :
    output.value = input.value := by
  have haccepted := congrArg (Option.map IvPolicyOutput.value) (okOr_eq_ok.mp houtput)
  have hsearch := congrArg (Option.map IvPolicyInput.value) h
  rw [map_findSome?] at haccepted
  rw [firstEligible, map_findSome?] at hsearch
  refine Option.some.inj (haccepted.symm.trans (Eq.trans ?_ hsearch))
  congr 1
  funext candidateId
  simp only [Function.comp_apply, find?_map, Option.map_map, Function.comp_def,
    IvFallbackPolicy.candidate]
  simp only [Bool.and_comm]

end Selection

/-- The call tests the value under the convention: it accepts under just the bounds that do. -/
def TestsUnder (policy : IvProjectionPolicy Value) (fallbackPolicies : List IvFallbackPolicy)
    (inputProducts : List (IvQueryProduct Value)) (inputs : List (IvPolicyInput Value))
    (value : Value) (convention : String) : Prop :=
  ∀ bounds, (∃ output, fallbackOnly { policy with outputBounds := bounds } fallbackPolicies
    inputProducts inputs = .ok output) ↔ bounds value convention

/-- The first input of the product id of `input` has its convention, and the first product with an
input of its identity has `input` itself. -/
structure LeadsItsNames (inputProducts : List (IvQueryProduct Value))
    (inputs : List (IvPolicyInput Value)) (input : IvPolicyInput Value) : Prop where
  convention : ∀ first ∈ inputs.find? (·.productId == input.productId),
    first.convention = input.convention
  product : ∀ product ∈ inputProducts.find? fun product =>
      (product.projectionInputs.getD []).any (·.selected == input.selected),
    input ∈ product.projectionInputs.getD []

variable {policy : IvProjectionPolicy Value} {fallbackPolicies : List IvFallbackPolicy}
  {inputProducts : List (IvQueryProduct Value)} {inputs : List (IvPolicyInput Value)}
  {output : QueryPolicyOutput Value}

theorem selectedProductForInput_selected {input : IvPolicyInput Value} :
    selectedProductForInput inputProducts input.selected = inputProducts.find? fun product =>
      (product.projectionInputs.getD []).any (·.selected == input.selected) := by
  unfold selectedProductForInput
  congr 1
  funext product
  cases product.projectionInputs with
  | none => rfl
  | some own =>
    refine congrArg own.any (funext fun other => ?_)
    rw [Bool.eq_iff_iff, beq_iff_eq, eq_comm (a := other.selected)]
    simp only [SelectedProjectionInput.matchesInput, Bool.and_eq_true, beq_iff_eq,
      SelectedProjectionInput.ext_iff, and_assoc]

/-- What an accepted fallback has found, search by search. -/
theorem fallbackOnly_eq_ok (h : fallbackOnly policy fallbackPolicies inputProducts inputs =
      .ok output) :
    ∃ fallbackPolicy ∈ fallbackPolicies, ∃ input product provenance first,
      policy.fallbackPolicyRef = some fallbackPolicy.policyId ∧
      firstEligible fallbackPolicy inputs = some input ∧
      output.selectedInput = some input.selected ∧ output.value = input.value ∧
      selectedProductForInput inputProducts input.selected = some product ∧
      product.provenance = some provenance ∧
      provenanceSatisfiesRequiredFields provenance fallbackPolicy.requiredProvenanceFields ∧
      inputs.find? (·.productId == input.productId) = some first ∧
      TestsUnder policy fallbackPolicies inputProducts inputs input.value first.convention := by
  simp only [fallbackOnly, bind_eq_ok, okOr_eq_ok, ite_throw_eq_ok, pure, Except.pure] at h
  obtain ⟨ref, href, fallbackPolicy, hpolicy, hskew, selected, hselected, product, hproduct,
    provenance, hprovenance, hrequired, value, hvalue, first, hfirst, -, hout⟩ := h
  cases hout
  obtain ⟨input, hinput, rfl⟩ := Option.map_eq_some_iff.mp hselected
  have hresolved := value_of_search hinput (mapError_eq_ok.mp hvalue)
  simp only [Bool.not_eq_true', Bool.not_eq_false] at hrequired
  obtain rfl : fallbackPolicy.policyId = ref := by simpa using find?_some hpolicy
  refine ⟨fallbackPolicy, mem_of_find?_eq_some hpolicy, input, product, provenance, first,
    href, hinput, rfl, hresolved, hproduct, hprovenance, hrequired, hfirst, fun bounds => ?_⟩
  simp only [fallbackOnly, bind_eq_ok, okOr_eq_ok, ite_throw_eq_ok, pure, Except.pure, href,
    hpolicy, hinput, Option.map_some, hproduct, hprovenance, hvalue, hfirst, Option.some.injEq,
    exists_eq_left', hskew, hrequired, not_false_eq_true, true_and, Except.ok.injEq,
    Bool.not_eq_true', Bool.not_eq_false, hresolved]
  simp

/-- **One input.** An accepted fallback has taken the value of the first eligible input. It has
tested it under that input's convention, and the product whose provenance it has tested and returned
has that input, exactly if the input leads its names. -/
theorem fallback_uses_one_input
    (h : fallbackOnly policy fallbackPolicies inputProducts inputs = .ok output) :
    ∃ fallbackPolicy ∈ fallbackPolicies, ∃ input,
      policy.fallbackPolicyRef = some fallbackPolicy.policyId ∧
      IsFirstEligible fallbackPolicy inputs input ∧ output.value = input.value ∧
      ((TestsUnder policy fallbackPolicies inputProducts inputs input.value input.convention ∧
        ∃ product provenance,
          selectedProductForInput inputProducts input.selected = some product ∧
          product.provenance = some provenance ∧
          provenanceSatisfiesRequiredFields provenance fallbackPolicy.requiredProvenanceFields ∧
          projectedOutputProvenance inputProducts output = .ok provenance ∧
          input ∈ product.projectionInputs.getD []) ↔
        LeadsItsNames inputProducts inputs input) := by
  obtain ⟨fallbackPolicy, hpolicy, input, product, provenance, first, href, hinput, hselected,
    hvalue, hproduct, hprovenance, hrequired, hfirst, hbounds⟩ := fallbackOnly_eq_ok h
  have hreturned : projectedOutputProvenance inputProducts output = .ok provenance := by
    simp [projectedOutputProvenance, hselected, hproduct, hprovenance, okOr, bind, Except.bind]
  refine ⟨fallbackPolicy, hpolicy, input, href, isFirstEligible_of_search hinput, hvalue, ?_⟩
  constructor
  · rintro ⟨htested, found, _, hfound, -, -, -, hhas⟩
    cases hproduct.symm.trans hfound
    constructor
    · intro other hother
      cases hfirst.symm.trans hother
      -- bounds for the convention that was tested accept
      have hsame := (hbounds fun _ convention => convention == first.convention).symm.trans
        (htested _)
      exact (beq_iff_eq.mp (hsame.mp (beq_self_eq_true _))).symm
    · intro other hother
      rw [← selectedProductForInput_selected, hproduct] at hother
      cases hother
      exact hhas
  · rintro ⟨hconvention, hhas⟩
    rw [hfirst] at hconvention
    rw [← selectedProductForInput_selected, hproduct] at hhas
    exact ⟨hconvention first rfl ▸ hbounds, product, provenance, hproduct, hprovenance, hrequired,
      hreturned, hhas product rfl⟩

/-- A quote of instrument `I`. -/
def quoteOf (sourceId convention : String) : IvPolicyInput Nat :=
  ⟨⟨"I", sourceId, "f", 0⟩, convention, 1⟩

def onlyS : IvFallbackPolicy := ⟨"p", ["I"], ["S"], 0, []⟩

def blackOnly : IvProjectionPolicy Nat := ⟨fun _ convention => convention == "black", some "p"⟩

/-- A product of one quote. -/
def productOf (quote : IvPolicyInput Nat) : IvQueryProduct Nat :=
  ⟨some [quote], some ⟨"r", "e", "s", none, none, [], none, []⟩⟩

def fallbackOf (quotes : List (IvPolicyInput Nat)) :
    Except IvQueryError (QueryPolicyOutput Nat) :=
  fallbackOnly blackOnly [onlyS] (quotes.map productOf) quotes

/-- The black quote of `S` stands first: it is used and tested as black, and its provenance
returned. -/
theorem first_quote_used :
    let quotes := [quoteOf "S" "black", quoteOf "T" "normal"]
    LeadsItsNames (quotes.map productOf) quotes (quoteOf "S" "black") ∧
      ∃ input, IsFirstEligible onlyS quotes input ∧ TestsUnder blackOnly [onlyS]
        (quotes.map productOf) quotes input.value input.convention := by
  intro quotes
  have hleads : LeadsItsNames (quotes.map productOf) quotes (quoteOf "S" "black") :=
    ⟨by rintro _ ⟨⟩; rfl, by rintro _ ⟨⟩; exact mem_singleton_self _⟩
  obtain ⟨_, hpolicy, input, -, hinput, -, hiff⟩ :=
    fallback_uses_one_input (h := (rfl : fallbackOf quotes = .ok _))
  obtain rfl := mem_singleton.mp hpolicy
  obtain ⟨_, _, before, after, -, hinputs, heligible, -⟩ := id hinput
  have hmem : input ∈ quotes := by simp [hinputs]
  obtain rfl : input = quoteOf "S" "black" := by
    rcases mem_cons.mp hmem with rfl | hother
    · rfl
    · obtain rfl := mem_singleton.mp hother
      exact absurd heligible (by decide)
  exact ⟨hleads, _, hinput, (hiff.mpr hleads).1⟩

/-- **The convention of another input is tested**: the quote of `T` is not eligible, and the bounds
are tested under its convention. They refuse that of the quote whose value is used. -/
theorem other_convention_tested :
    let quotes := [quoteOf "T" "black", quoteOf "S" "normal"]
    (fallbackOf quotes).isOk ∧ IsFirstEligible onlyS quotes (quoteOf "S" "normal") ∧
      blackOnly.outputBounds 1 "normal" = false := by
  refine ⟨by decide, ⟨[], [], [_], [], rfl, rfl, by decide, by simp, ?_⟩, rfl⟩
  intro other hother heligible
  obtain rfl := mem_singleton.mp hother
  exact absurd heligible (by decide)

end BoltV3.Iv
