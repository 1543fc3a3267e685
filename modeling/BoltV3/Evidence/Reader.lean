import BoltV3.Lib.Rust
import BoltV3.Lib.TextLines

/-!
# Framed reads of an evidence stream

`read_framed_lines` of `bolt_v3_current_evidence/reader.rs`, over the bytes of the file.

* The reader takes one byte more than the cap, which is what tells a stream above the cap from one
  that fills it.
* An I/O error of the read itself is left out: the bytes are what the file holds.
-/

namespace BoltV3.Evidence

open Lib

inductive FinalLinePolicy
  | strict | ignoreUncommittedTail
deriving DecidableEq

variable (stream : String)

/-- The checks of `read_framed_lines` on a decoded line. -/
def checkLine (index : Nat) (line : String) : Except String String :=
  if isBlank line then .error ("blank " ++ stream ++ " line " ++ toString (index + 1))
  else if '\r' ∈ line.toList then
    .error ("carriage return in " ++ stream ++ " line " ++ toString (index + 1))
  else .ok line

/-- The enumerated `map` and `collect` of `read_framed_lines`. -/
def checkLines (stream : String) : Nat → List String → Except String (List String)
  | _, [] => .ok []
  | index, line :: lines => do
    let line ← checkLine stream index line
    let lines ← checkLines stream (index + 1) lines
    return line :: lines

/-- What `read_framed_lines` does with the bytes it has read. -/
def decodeLines (bytes : List UInt8) : Except String (List String) :=
  match fromUtf8 bytes with
  | none => .error ("decode " ++ stream ++ " as UTF-8")
  | some text => checkLines stream 0 (splitTerminator text)

def readFramedLines (maxBytes : Nat) (policy : FinalLinePolicy)
    (content : List UInt8) : Except String (List String) :=
  let bytes := content.take (maxBytes + 1)
  if bytes.length > maxBytes then
    .error (stream ++ " exceeds configured byte cap: " ++ toString bytes.length ++ " > " ++
      toString maxBytes)
  else if ¬ IsTerminated bytes ∧ policy = .strict then
    .error (stream ++ " has a non-newline-terminated final record")
  else if ¬ IsTerminated bytes then decodeLines stream (completeLines bytes)
  else decodeLines stream bytes

/-- A line that a framed read accepts. -/
structure IsRecordLine (line : String) : Prop where
  nonblank : isBlank line = false
  noNewline : '\n' ∉ line.toList
  noReturn : '\r' ∉ line.toList

instance (line : String) : Decidable (IsRecordLine line) :=
  decidable_of_iff (isBlank line = false ∧ '\n' ∉ line.toList ∧ '\r' ∉ line.toList)
    ⟨fun ⟨h, h', h''⟩ => ⟨h, h', h''⟩, fun ⟨h, h', h''⟩ => ⟨h, h', h''⟩⟩

variable {stream} {maxBytes : Nat} {bytes content : List UInt8} {lines : List String}

/-! ## Decoding -/

theorem checkLine_eq_ok {index : Nat} {line checked : String} :
    checkLine stream index line = .ok checked ↔
      checked = line ∧ isBlank line = false ∧ '\r' ∉ line.toList := by
  unfold checkLine
  split_ifs with hblank hreturn
  · simp [hblank]
  · simp [hreturn]
  · simp [hblank, hreturn, eq_comm]

theorem checkLines_eq_ok {index : Nat} {read : List String} :
    checkLines stream index read = .ok lines ↔
      lines = read ∧ ∀ line ∈ read, isBlank line = false ∧ '\r' ∉ line.toList := by
  induction read generalizing index lines with
  | nil =>
    simp only [checkLines, Except.ok.injEq, List.not_mem_nil, false_implies, implies_true, and_true]
    exact eq_comm
  | cons line rest ih =>
    unfold checkLines
    cases hline : checkLine stream index line with
    | error message =>
      have hbad : ¬ (isBlank line = false ∧ '\r' ∉ line.toList) := by
        intro hgood
        rw [checkLine_eq_ok.mpr ⟨rfl, hgood⟩] at hline
        cases hline
      simp [bind, Except.bind, hbad]
    | ok checked =>
      obtain ⟨rfl, hgood⟩ := checkLine_eq_ok.mp hline
      cases hrest : checkLines stream (index + 1) rest with
      | error message =>
        have hbad : ¬ ∀ line ∈ rest, isBlank line = false ∧ '\r' ∉ line.toList := by
          intro hall
          rw [ih.mpr ⟨rfl, hall⟩] at hrest
          cases hrest
        simp only [bind, Except.bind, reduceCtorEq, List.mem_cons, forall_eq_or_imp, false_iff]
        exact fun h => hbad h.2.2
      | ok collected =>
        obtain ⟨rfl, hall⟩ := ih.mp hrest
        simp only [bind, Except.bind, pure, Except.pure, Except.ok.injEq, List.mem_cons,
          forall_eq_or_imp]
        exact ⟨fun h => ⟨h.symm, hgood, hall⟩, fun h => h.1.symm⟩

theorem decodeLines_eq_ok (h : IsTerminated bytes) : decodeLines stream bytes = .ok lines ↔
      bytes = lines.flatMap lineBytes ∧ ∀ line ∈ lines, IsRecordLine line := by
  unfold decodeLines
  constructor
  · intro hok
    split at hok
    · cases hok
    · rename_i text htext
      obtain ⟨rfl, hlines⟩ := checkLines_eq_ok.mp hok
      refine ⟨eq_lines_of_fromUtf8 h htext, fun line hline => ?_⟩
      exact ⟨(hlines line hline).1, newline_notMem_splitTerminator hline, (hlines line hline).2⟩
  · rintro ⟨rfl, hlines⟩
    have hsplit := splitTerminator_of_fromUtf8 fun line hline => (hlines line hline).noNewline
    obtain ⟨text, htext, htext'⟩ := Option.map_eq_some_iff.mp hsplit
    rw [htext]
    exact checkLines_eq_ok.mpr
      ⟨htext'.symm, fun line hline =>
        have hline' := hlines line (htext' ▸ hline)
        ⟨hline'.nonblank, hline'.noReturn⟩⟩

/-! ## The two reads -/

theorem length_take_gt : (content.take (maxBytes + 1)).length > maxBytes ↔
    maxBytes < content.length := by
  rw [List.length_take]
  omega

/-- **A strict read accepts the terminated lines of a stream and nothing else.** -/
theorem readFramedLines_strict : readFramedLines stream maxBytes .strict content = .ok lines ↔
      content.length ≤ maxBytes ∧ content = lines.flatMap lineBytes ∧
        ∀ line ∈ lines, IsRecordLine line := by
  unfold readFramedLines
  by_cases hcap : maxBytes < content.length
  · simp only [if_pos (length_take_gt.mpr hcap), reduceCtorEq, false_iff]
    omega
  · have htake : content.take (maxBytes + 1) = content := List.take_of_length_le (by omega)
    simp only [htake, if_neg hcap, gt_iff_lt]
    by_cases hterminated : IsTerminated content
    · simp only [hterminated, not_true_eq_false, false_and, if_false]
      rw [decodeLines_eq_ok hterminated]
      exact ⟨fun h => ⟨by omega, h⟩, fun h => h.2⟩
    · simp only [hterminated, not_false_eq_true, and_true, if_true, reduceCtorEq, false_iff]
      rintro ⟨-, rfl, -⟩
      exact hterminated (isTerminated_lines lines)

/-- **A diagnostic read returns exactly the complete lines of a stream.** -/
theorem readFramedLines_diagnostic :
    readFramedLines stream maxBytes .ignoreUncommittedTail content = .ok lines ↔
      content.length ≤ maxBytes ∧ (∀ line ∈ lines, IsRecordLine line) ∧
        ∃ tail, newline ∉ tail ∧ content = lines.flatMap lineBytes ++ tail := by
  unfold readFramedLines
  by_cases hcap : maxBytes < content.length
  · simp only [if_pos (length_take_gt.mpr hcap), reduceCtorEq, false_iff]
    omega
  · have htake : content.take (maxBytes + 1) = content := List.take_of_length_le (by omega)
    have hcomplete : (if ¬ IsTerminated content then decodeLines stream (completeLines content)
        else decodeLines stream content) = decodeLines stream (completeLines content) := by
      split_ifs with hterminated
      · have happend := completeLines_append hterminated (List.not_mem_nil (a := newline))
        rw [List.append_nil] at happend
        rw [happend]
      · rfl
    simp only [htake, if_neg hcap, gt_iff_lt, reduceCtorEq, and_false, if_false]
    rw [hcomplete, decodeLines_eq_ok (completeLines_spec content).1]
    constructor
    · rintro ⟨hlines, hrecords⟩
      obtain ⟨tail, htail, hcontent⟩ := (completeLines_spec content).2
      rw [hlines] at hcontent
      exact ⟨by omega, hrecords, tail, htail, hcontent⟩
    · rintro ⟨-, hrecords, tail, htail, rfl⟩
      exact ⟨completeLines_append (isTerminated_lines lines) htail, hrecords⟩

end BoltV3.Evidence
