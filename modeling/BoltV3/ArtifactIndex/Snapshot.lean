import BoltV3.Lib.Rust
import Mathlib.Data.List.DropRight
import Mathlib.Data.List.Lex
import Mathlib.Data.List.Sort
import Mathlib.Data.String.Basic

/-!
# The snapshot hash of the artifact index

Model of `computed_snapshot_content_hash`, `sort_snapshot_records` and
`ArtifactIndexSnapshotManifest::new_with_computed_hash`
(`crates/backtesting-vertical-slice/src/artifact_index.rs`).

* The hash preimage is the JSON text of a `HashPayload`, so `hash` is any function of the payload.
* `sort_by` is stable, as `insertionSort` is. Its key leaves out most fields of a record, so records
  with one key stay in the order in which they were given.
-/

namespace BoltV3.ArtifactIndex

open Lib

inductive ArtifactKind
  | raw | ntCatalog | sourceProofs | backtests | artifactIndex | researchAnalytics
deriving DecidableEq

def ArtifactKind.asStr : ArtifactKind → String
  | .raw => "raw"
  | .ntCatalog => "nt_catalog"
  | .sourceProofs => "source_proofs"
  | .backtests => "backtests"
  | .artifactIndex => "artifact_index"
  | .researchAnalytics => "research_analytics"

inductive WriteAuthority
  | producerOwned | readOnlyConsumer | unsupported
deriving DecidableEq

inductive CommitState
  | staged | committed | orphan | superseded
deriving DecidableEq

inductive LifecycleState
  | active | inactive
deriving DecidableEq

structure LineageRef where
  artifactId : String
  artifactVersion : Option Nat
  contentHash : String
deriving DecidableEq

structure Record where
  artifactId : String
  artifactKind : ArtifactKind
  artifactSubfamily : Option String
  (producerProject manifestUri eventUri : String)
  (snapshotId snapshotUri : Option String)
  (latestPointerUri contentHash : String)
  lineageIds : List LineageRef
  writeAuthority : WriteAuthority
  commitState : CommitState
  lifecycleState : LifecycleState
deriving DecidableEq

inductive ArtifactIndexError
  | unsupportedArtifactRoot (artifactRoot : String)
  | emptyField (field : String)
  | snapshotWithoutRecords
  | snapshotRecordKindMismatch (artifactId : String) (expected actual : ArtifactKind)
  | snapshotRecordNotCommitted (artifactId : String) (commitState : CommitState)
  | snapshotRecordOutsideSnapshot (artifactId : String)
  | invalidSha256 (field value : String)
  | missingLineage
deriving DecidableEq

abbrev Checked := Except ArtifactIndexError

def isAsciiHexdigit (c : Char) : Bool :=
  c.isDigit || ('a' ≤ c && c ≤ 'f') || ('A' ≤ c && c ≤ 'F')

def validateSha256Field (field value : String) : Checked Unit :=
  if value.toList.length = 64 ∧ value.toList.all isAsciiHexdigit then .ok ()
  else .error (.invalidSha256 field value)

def validateNonEmpty (field value : String) : Checked Unit :=
  if isBlank value then .error (.emptyField field) else .ok ()

def validateLineage (lineageIds : List LineageRef) : Checked Unit := do
  if lineageIds.isEmpty then throw .missingLineage
  lineageIds.forM fun lineage => do
    validateNonEmpty "lineage.artifact_id" lineage.artifactId
    validateSha256Field "lineage.content_hash" lineage.contentHash

variable (artifactRoot : String) (artifactKind : ArtifactKind) (snapshotId : String)

def validateArtifactRoot : Checked Unit :=
  if "s3://".toList <+: artifactRoot.toList then .ok ()
  else .error (.unsupportedArtifactRoot artifactRoot)

def expectedSnapshotUri : String :=
  .ofList (artifactRoot.toList.rdropWhile (· = '/')) ++ "/artifact-index/v1/snapshots/kind=" ++
    artifactKind.asStr ++ "/snapshot_id=" ++ snapshotId ++ "/manifest.json"

def validateSnapshotRecord (snapshotUri : String) (record : Record) : Checked Unit := do
  if record.artifactKind ≠ artifactKind then
    throw (.snapshotRecordKindMismatch record.artifactId artifactKind record.artifactKind)
  if record.commitState ≠ .committed then
    throw (.snapshotRecordNotCommitted record.artifactId record.commitState)
  if record.snapshotId ≠ some snapshotId ∨ record.snapshotUri ≠ some snapshotUri then
    throw (.snapshotRecordOutsideSnapshot record.artifactId)
  validateSha256Field "content_hash" record.contentHash
  validateLineage record.lineageIds

/-- The tuple that `sort_snapshot_records` compares. -/
def Record.sortKey (record : Record) : List String :=
  [record.artifactKind.asStr, record.artifactSubfamily.getD "", record.artifactId,
    record.contentHash, record.manifestUri]

def sortSnapshotRecords (records : List Record) : List Record :=
  records.insertionSort fun left right => left.sortKey ≤ right.sortKey

/-- `ArtifactIndexSnapshotHashPayload`. -/
structure HashPayload where
  schemaVersion : String
  artifactKind : ArtifactKind
  (snapshotId snapshotUri : String)
  lifecycleState : LifecycleState
  records : List Record

/-- The checks that the hash and `new` make of the records. -/
def validateRecords (records : List Record) : Checked Unit := do
  validateNonEmpty "snapshot_id" snapshotId
  if records.isEmpty then throw .snapshotWithoutRecords
  records.forM (validateSnapshotRecord artifactKind snapshotId
    (expectedSnapshotUri artifactRoot artifactKind snapshotId))

/-- What `computed_snapshot_content_hash` hashes. -/
def snapshotHashPayload (records : List Record) : Checked HashPayload := do
  validateArtifactRoot artifactRoot
  let sorted := sortSnapshotRecords records
  validateRecords artifactRoot artifactKind snapshotId sorted
  pure ⟨"artifact-index-snapshot-content-hash.v1", artifactKind, snapshotId,
    expectedSnapshotUri artifactRoot artifactKind snapshotId, .active, sorted⟩

structure SnapshotManifest where
  artifactKind : ArtifactKind
  (snapshotId snapshotUri snapshotContentHash : String)
  records : List Record
  lifecycleState : LifecycleState

def SnapshotManifest.new (snapshotContentHash : String) (records : List Record) :
    Checked SnapshotManifest := do
  validateArtifactRoot artifactRoot
  validateSha256Field "snapshot_content_hash" snapshotContentHash
  validateRecords artifactRoot artifactKind snapshotId records
  pure ⟨artifactKind, snapshotId, expectedSnapshotUri artifactRoot artifactKind snapshotId,
    snapshotContentHash, records, .active⟩

variable (hash : HashPayload → String)

def SnapshotManifest.newWithComputedHash (records : List Record) : Checked SnapshotManifest := do
  let records := sortSnapshotRecords records
  let payload ← snapshotHashPayload artifactRoot artifactKind snapshotId records
  SnapshotManifest.new artifactRoot artifactKind snapshotId (hash payload) records

/-- A sort by a key that tells the records apart has one result. -/
theorem sortSnapshotRecords_perm {records permuted : List Record} (hperm : permuted.Perm records)
    (hkeys : ∀ a ∈ records, ∀ b ∈ records, a.sortKey = b.sortKey → a = b) :
    sortSnapshotRecords permuted = sortSnapshotRecords records := by
  let r (a b : Record) : Prop := a.sortKey ≤ b.sortKey
  have : IsTrans Record r := ⟨fun _ _ _ => le_trans⟩
  have : Std.Total r := ⟨fun _ _ => le_total _ _⟩
  have hperm' : (permuted.insertionSort r).Perm (records.insertionSort r) :=
    (List.perm_insertionSort r _).trans (hperm.trans (List.perm_insertionSort r _).symm)
  refine hperm'.eq_of_pairwise (fun a b ha hb hab hba => ?_) (List.pairwise_insertionSort r _)
    (List.pairwise_insertionSort r _)
  exact hkeys a (hperm.mem_iff.mp ((List.mem_insertionSort r).mp ha)) b
    ((List.mem_insertionSort r).mp hb) (le_antisymm hab hba)

/-- Two records with one key stay in the order in which they were given. -/
theorem sortSnapshotRecords_swap_ne {a b : Record} (hkey : a.sortKey = b.sortKey) (hne : a ≠ b)
    (rest : List Record) :
    sortSnapshotRecords (a :: b :: rest) ≠ sortSnapshotRecords (b :: a :: rest) := by
  simp only [sortSnapshotRecords, List.insertionSort_cons]
  -- the two are inserted at one place of the sorted rest
  induction rest.insertionSort fun left right => left.sortKey ≤ right.sortKey with
  | nil => simp [hkey, hne]
  | cons head tail ih =>
    by_cases hle : b.sortKey ≤ head.sortKey
    · simp [hkey, hle, hne]
    · simpa [hkey, hle] using ih

/-- `check()?; rest`. -/
theorem check_eq_ok {β : Type} {check : Checked Unit} {rest : Unit → Checked β} {b : β} :
    check >>= rest = .ok b ↔ check = .ok () ∧ rest () = .ok b := by
  simp [bind_eq_ok, Unique.exists_iff]

theorem forM_eq_ok {validate : Record → Checked Unit} {records : List Record} :
    forM records validate = .ok () ↔ ∀ record ∈ records, validate record = .ok () := by
  induction records with
  | nil => simp [pure, Except.pure]
  | cons record rest ih => simp [List.forM_cons, check_eq_ok, ih]

variable {artifactRoot artifactKind snapshotId} {records permuted : List Record}

/-- Whether the records pass does not depend on their order. -/
theorem validateRecords_perm (hperm : permuted.Perm records) :
    validateRecords artifactRoot artifactKind snapshotId permuted = .ok () ↔
      validateRecords artifactRoot artifactKind snapshotId records = .ok () := by
  have hempty : permuted = [] ↔ records = [] := by
    rw [← List.length_eq_zero_iff, ← List.length_eq_zero_iff, hperm.length_eq]
  simp only [validateRecords, check_eq_ok, ite_throw_eq_ok, List.forM_eq_forM, forM_eq_ok,
    hperm.mem_iff, List.isEmpty_iff, hempty]

theorem snapshotHashPayload_eq_ok {payload : HashPayload} :
    snapshotHashPayload artifactRoot artifactKind snapshotId records = .ok payload ↔
      validateArtifactRoot artifactRoot = .ok () ∧
      validateRecords artifactRoot artifactKind snapshotId records = .ok () ∧
      ⟨"artifact-index-snapshot-content-hash.v1", artifactKind, snapshotId,
        expectedSnapshotUri artifactRoot artifactKind snapshotId, .active,
        sortSnapshotRecords records⟩ = payload := by
  have hsorted : (sortSnapshotRecords records).Perm records := List.perm_insertionSort _ records
  simp only [snapshotHashPayload, check_eq_ok, validateRecords_perm hsorted, pure, Except.pure,
    Except.ok.injEq]

/-- The records are refused, or no two different ones share a key. -/
def RefusedOrApart (artifactRoot : String) (artifactKind : ArtifactKind) (snapshotId : String)
    (records : List Record) : Prop :=
  validateArtifactRoot artifactRoot = .ok () →
  validateRecords artifactRoot artifactKind snapshotId records = .ok () →
  ∀ a ∈ records, ∀ b ∈ records, a.sortKey = b.sortKey → a = b

/-- A refused list is refused in every order. -/
theorem snapshotHashPayload_refused (hperm : permuted.Perm records)
    (h : ¬(validateArtifactRoot artifactRoot = .ok () ∧
      validateRecords artifactRoot artifactKind snapshotId records = .ok ())) :
    ∃ error, snapshotHashPayload artifactRoot artifactKind snapshotId permuted = .error error := by
  cases hresult : snapshotHashPayload artifactRoot artifactKind snapshotId permuted with
  | error error => exact ⟨error, rfl⟩
  | ok payload =>
    obtain ⟨hroot, hrecords, -⟩ := snapshotHashPayload_eq_ok.mp hresult
    exact absurd ⟨hroot, (validateRecords_perm hperm).mp hrecords⟩ h

variable (artifactRoot artifactKind snapshotId records)

/-- **The snapshot does not depend on the order of its records** exactly if the records are refused
or no two different ones share a key: then every permutation has one hash preimage and one stored
list. -/
theorem snapshot_perm :
    (∀ permuted, permuted.Perm records →
      (snapshotHashPayload artifactRoot artifactKind snapshotId permuted).toOption =
        (snapshotHashPayload artifactRoot artifactKind snapshotId records).toOption ∧
      (SnapshotManifest.newWithComputedHash artifactRoot artifactKind snapshotId hash
          permuted).toOption =
        (SnapshotManifest.newWithComputedHash artifactRoot artifactKind snapshotId hash
          records).toOption) ↔
    RefusedOrApart artifactRoot artifactKind snapshotId records := by
  constructor
  · intro hsame hroot hrecords a ha b hb hkey
    by_contra hne
    -- the records with the two in front, in either order
    have hperm : records.Perm (a :: b :: (records.erase a).erase b) :=
      (List.perm_cons_erase ha).trans (.cons a (List.perm_cons_erase
        ((List.mem_erase_of_ne (Ne.symm hne)).mpr hb)))
    have hsorted : ∀ permuted, permuted.Perm records →
        sortSnapshotRecords permuted = sortSnapshotRecords records := by
      intro permuted hpermuted
      have hpayload := (hsame permuted hpermuted).1
      rw [snapshotHashPayload_eq_ok.mpr ⟨hroot, hrecords, rfl⟩,
        snapshotHashPayload_eq_ok.mpr ⟨hroot, (validateRecords_perm hpermuted).mpr hrecords, rfl⟩]
        at hpayload
      exact congrArg HashPayload.records (Option.some.inj hpayload)
    exact sortSnapshotRecords_swap_ne hkey hne _
      ((hsorted _ hperm.symm).trans (hsorted _ ((List.Perm.swap _ _ _).trans hperm.symm)).symm)
  · intro hcondition permuted hperm
    by_cases haccepted : validateArtifactRoot artifactRoot = .ok () ∧
        validateRecords artifactRoot artifactKind snapshotId records = .ok ()
    · simp only [snapshotHashPayload, SnapshotManifest.newWithComputedHash,
        sortSnapshotRecords_perm hperm (hcondition haccepted.1 haccepted.2), and_self]
    · have hrefused : ∀ list : List Record, list.Perm records →
          (snapshotHashPayload artifactRoot artifactKind snapshotId list).toOption = none ∧
          (SnapshotManifest.newWithComputedHash artifactRoot artifactKind snapshotId hash
            list).toOption = none := by
        intro list hlist
        have hsorted : (sortSnapshotRecords list).Perm records :=
          (List.perm_insertionSort _ list).trans hlist
        obtain ⟨error, hlist⟩ := snapshotHashPayload_refused hlist haccepted
        obtain ⟨sortedError, hsorted⟩ := snapshotHashPayload_refused hsorted haccepted
        rw [SnapshotManifest.newWithComputedHash, hlist, hsorted]
        exact ⟨rfl, rfl⟩
      rw [(hrefused permuted hperm).1, (hrefused permuted hperm).2, (hrefused records (.refl _)).1,
        (hrefused records (.refl _)).2]
      exact ⟨rfl, rfl⟩

/-- A digest that passes the checks. -/
def digest : String := .ofList (.replicate 64 'a')

/-- A committed record of the snapshot `s`. -/
def rawRecord (artifactId producerProject : String) : Record :=
  ⟨artifactId, .raw, none, producerProject, "manifest", "event", some "s",
    some (expectedSnapshotUri "s3://b" .raw "s"), "latest", digest, [⟨"parent", none, digest⟩],
    .producerOwned, .committed, .active⟩

theorem swapped_artifacts_snapshot :
    (snapshotHashPayload "s3://b" .raw "s" [rawRecord "b" "p", rawRecord "a" "p"]).toOption =
      (snapshotHashPayload "s3://b" .raw "s" [rawRecord "a" "p", rawRecord "b" "p"]).toOption :=
  ((snapshot_perm "s3://b" .raw "s" (fun _ => digest) [rawRecord "a" "p", rawRecord "b" "p"]).mpr
    (fun _ _ => by simp [Record.sortKey, rawRecord]) _ (.swap _ _ [])).1

/-- Two producers index one artifact: both orders are accepted, hashed and stored as given. -/
theorem producers_keep_given_order :
    let records := [rawRecord "a" "p", rawRecord "a" "q"]
    let hashed := fun list => (snapshotHashPayload "s3://b" .raw "s" list).map (·.records)
    let stored := fun list => (SnapshotManifest.newWithComputedHash "s3://b" .raw "s"
      (fun _ => digest) list).map (·.records)
    hashed records = .ok records ∧ hashed records.reverse = .ok records.reverse ∧
      stored records = .ok records ∧ stored records.reverse = .ok records.reverse ∧
      records ≠ records.reverse := by
  decide +kernel

end BoltV3.ArtifactIndex
