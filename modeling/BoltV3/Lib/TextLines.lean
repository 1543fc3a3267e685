import Mathlib.Data.List.DropRight
import Mathlib.Tactic.Common

/-!
# Newline-terminated text in bytes

A file of lines is the concatenation of its lines, each encoded in UTF-8 and closed by a newline. A
write that was cut short leaves a last line without its newline.

* `utf8` and `fromUtf8` are the encoding and `String::from_utf8`.
* `splitTerminator` is `str::split_terminator('\n')`.
* `completeLines` drops what follows the last newline.
-/

namespace BoltV3.Lib

open List

/-! ## Encoding -/

/-- The UTF-8 bytes of a text. -/
def utf8 (text : String) : List UInt8 := text.toList.flatMap String.utf8EncodeChar

/-- `String::from_utf8`. -/
def fromUtf8 (bytes : List UInt8) : Option String := String.fromUTF8? bytes.toByteArray

theorem utf8_append (s t : String) : utf8 (s ++ t) = utf8 s ++ utf8 t := by
  simp [utf8]

theorem toByteArray_utf8 (text : String) : (utf8 text).toByteArray = text.toByteArray := by
  have h : (String.ofList text.toList).toByteArray = text.toList.utf8Encode :=
    String.toByteArray_ofList
  rw [String.ofList_toList] at h
  exact h.symm

variable {bytes : List UInt8} {text : String}

theorem fromUtf8_eq_some : fromUtf8 bytes = some text ↔ bytes = utf8 text := by
  unfold fromUtf8 String.fromUTF8?
  constructor
  · intro h
    split_ifs at h with hvalid
    have htext : text.toByteArray = bytes.toByteArray := by
      rw [← Option.some.inj h]
      rfl
    rw [← toByteArray_inj, toByteArray_utf8, htext]
  · rintro rfl
    have hvalid : (utf8 text).toByteArray.IsValidUTF8 := by
      rw [toByteArray_utf8]
      exact text.isValidUTF8
    rw [dif_pos hvalid]
    exact congrArg some (String.toByteArray_inj.mp (toByteArray_utf8 text))

theorem utf8_injective {s t : String} (h : utf8 s = utf8 t) : s = t := by
  have hs : fromUtf8 (utf8 s) = some s := fromUtf8_eq_some.mpr rfl
  rw [h] at hs
  exact (Option.some.inj ((fromUtf8_eq_some.mpr rfl).symm.trans hs)).symm

/-! ## The newline -/

/-- `b'\n'`. -/
def newline : UInt8 := 10

theorem eq_of_newline_eq_ofNat {n : Nat} (h : newline = UInt8.ofNat n) : n % 256 = 10 := by
  have hnat := congrArg UInt8.toNat h
  rw [UInt8.toNat_ofNat'] at hnat
  exact hnat.symm

theorem newline_mem_utf8EncodeChar {c : Char} : newline ∈ String.utf8EncodeChar c ↔ c = '\n' := by
  constructor
  · intro h
    -- Every byte of a longer encoding has its high bit set.
    have hval : c.val.toNat = 10 := by
      simp only [String.utf8EncodeChar] at h
      split_ifs at h <;> simp only [mem_cons, not_mem_nil, or_false] at h
      · have := eq_of_newline_eq_ofNat h
        omega
      · rcases h with h | h <;> have := eq_of_newline_eq_ofNat h <;> omega
      · rcases h with h | h | h <;> have := eq_of_newline_eq_ofNat h <;> omega
      · rcases h with h | h | h | h <;> have := eq_of_newline_eq_ofNat h <;> omega
    exact Char.ext (UInt32.toNat_inj.mp hval)
  · rintro rfl
    decide

theorem newline_mem_utf8 : newline ∈ utf8 text ↔ '\n' ∈ text.toList := by
  unfold utf8
  rw [mem_flatMap]
  constructor
  · rintro ⟨c, hc, hmem⟩
    rwa [newline_mem_utf8EncodeChar.mp hmem] at hc
  · intro h
    exact ⟨'\n', h, newline_mem_utf8EncodeChar.mpr rfl⟩

/-! ## Lines -/

/-- A line of a file: its text and the newline that closes it. -/
def lineBytes (text : String) : List UInt8 := utf8 text ++ [newline]

theorem utf8_line (text : String) : utf8 (text ++ "\n") = lineBytes text := by
  rw [utf8_append]
  rfl

variable (lines : List String)

/-- The text of a terminated file. -/
def joinLines : String := lines.foldr (fun line rest => line ++ "\n" ++ rest) ""

theorem utf8_joinLines : utf8 (joinLines lines) = lines.flatMap lineBytes := by
  induction lines with
  | nil => rfl
  | cons line rest ih =>
    simp only [joinLines, foldr_cons, flatMap_cons] at ih ⊢
    rw [utf8_append, utf8_line, ih]

/-- The loop of `split_terminator('\n')` over the characters of a text. -/
def splitChars : List Char → List (List Char)
  | [] => []
  | c :: cs =>
    if c = '\n' then [] :: splitChars cs
    else
      match splitChars cs with
      | [] => [[c]]
      | line :: lines => (c :: line) :: lines

/-- `text.split_terminator('\n')`. -/
def splitTerminator (text : String) : List String := (splitChars text.toList).map String.ofList

theorem splitChars_line {line rest : List Char} (h : '\n' ∉ line) :
    splitChars (line ++ '\n' :: rest) = line :: splitChars rest := by
  induction line with
  | nil => simp [splitChars]
  | cons c cs ih =>
    rw [mem_cons, not_or] at h
    rw [cons_append, splitChars, if_neg (Ne.symm h.1), ih h.2]

theorem newline_notMem_splitChars {cs line : List Char} (h : line ∈ splitChars cs) :
    '\n' ∉ line := by
  induction cs generalizing line with
  | nil => simp [splitChars] at h
  | cons c cs ih =>
    unfold splitChars at h
    split_ifs at h with hc
    · rcases mem_cons.mp h with rfl | h
      · simp
      · exact ih h
    · split at h
      · rw [mem_singleton.mp h, mem_singleton]
        exact Ne.symm hc
      · rename_i first others hsplit
        rcases mem_cons.mp h with rfl | h
        · rw [mem_cons, not_or]
          exact ⟨Ne.symm hc, ih (hsplit ▸ mem_cons_self)⟩
        · exact ih (hsplit ▸ mem_cons_of_mem _ h)

/-- A text that ends with a newline is put back together from its lines. -/
theorem flatMap_splitChars (cs : List Char) :
    (splitChars (cs ++ ['\n'])).flatMap (· ++ ['\n']) = cs ++ ['\n'] := by
  induction cs with
  | nil => rfl
  | cons c cs ih =>
    rw [cons_append, splitChars]
    split_ifs with hc
    · rw [flatMap_cons, ih, hc]
      rfl
    · cases hsplit : splitChars (cs ++ ['\n']) with
      | nil =>
        rw [hsplit] at ih
        simp at ih
      | cons line lines =>
        rw [hsplit, flatMap_cons] at ih
        simp only [flatMap_cons, cons_append]
        rw [ih]

theorem splitTerminator_joinLines {lines : List String}
    (h : ∀ line ∈ lines, '\n' ∉ line.toList) : splitTerminator (joinLines lines) = lines := by
  induction lines with
  | nil => rfl
  | cons line rest ih =>
    have hrest := ih fun other hother => h other (mem_cons_of_mem line hother)
    have hchars : (joinLines (line :: rest)).toList =
        line.toList ++ '\n' :: (joinLines rest).toList := by
      simp [joinLines]
    unfold splitTerminator at hrest ⊢
    rw [hchars, splitChars_line (h line mem_cons_self), map_cons, hrest,
      String.ofList_toList]

/-- **A terminated file decodes to its lines.** -/
theorem splitTerminator_of_fromUtf8 {lines : List String} (h : ∀ line ∈ lines, '\n' ∉ line.toList) :
    (fromUtf8 (lines.flatMap lineBytes)).map splitTerminator = some lines := by
  rw [← utf8_joinLines, fromUtf8_eq_some.mpr rfl, Option.map_some, splitTerminator_joinLines h]

theorem newline_notMem_splitTerminator {line : String} (h : line ∈ splitTerminator text) :
    '\n' ∉ line.toList := by
  obtain ⟨cs, hcs, rfl⟩ := mem_map.mp h
  rw [String.toList_ofList]
  exact newline_notMem_splitChars hcs

/-- Nothing, or a file whose last line is complete. -/
def IsTerminated (bytes : List UInt8) : Prop := bytes = [] ∨ bytes.getLast? = some newline

instance (bytes : List UInt8) : Decidable (IsTerminated bytes) :=
  inferInstanceAs (Decidable (_ ∨ _))

theorem isTerminated_lines : IsTerminated (lines.flatMap lineBytes) := by
  cases lines using reverseRecOn with
  | nil => exact .inl rfl
  | append_singleton lines line =>
    refine .inr ?_
    simp [lineBytes]

/-- **A terminated file that decodes is the concatenation of its lines.** -/
theorem eq_lines_of_fromUtf8 (h : IsTerminated bytes)
    (htext : fromUtf8 bytes = some text) : bytes = (splitTerminator text).flatMap lineBytes := by
  obtain rfl := fromUtf8_eq_some.mp htext
  rcases h with h | h
  · have hempty : text = "" := utf8_injective h
    subst hempty
    rfl
  · have hends : ∃ cs, text.toList = cs ++ ['\n'] := by
      cases hcs : text.toList using reverseRecOn with
      | nil =>
        rw [utf8, hcs] at h
        simp at h
      | append_singleton cs c =>
        rw [utf8, hcs, flatMap_append, flatMap_singleton] at h
        refine ⟨cs, ?_⟩
        have hmem : newline ∈ String.utf8EncodeChar c := by
          rw [getLast?_append_of_ne_nil] at h
          · exact mem_of_getLast? h
          · exact String.utf8EncodeChar_ne_nil
        rw [newline_mem_utf8EncodeChar.mp hmem]
    obtain ⟨cs, hcs⟩ := hends
    have hline : ∀ line : List Char,
        lineBytes (String.ofList line) = (line ++ ['\n']).flatMap String.utf8EncodeChar := by
      intro line
      rw [← utf8_line, utf8, String.toList_append, String.toList_ofList]
      rfl
    rw [splitTerminator, flatMap_map, utf8, hcs]
    simp only [hline]
    rw [← flatMap_assoc, flatMap_splitChars]

/-! ## Complete lines -/

/-- What stands before the last newline, with it. -/
def completeLines (bytes : List UInt8) : List UInt8 := bytes.rdropWhile (· != newline)

/-- A file is its complete lines, followed by a tail without a newline. -/
theorem completeLines_spec (bytes : List UInt8) : IsTerminated (completeLines bytes) ∧
      ∃ tail, newline ∉ tail ∧ bytes = completeLines bytes ++ tail := by
  constructor
  · by_cases hempty : completeLines bytes = []
    · exact .inl hempty
    · have hlast := rdropWhile_last_not (· != newline) bytes hempty
      rw [bne_iff_ne, not_not] at hlast
      exact .inr ((getLast?_eq_getLast_of_ne_nil hempty).trans (congrArg some hlast))
  · refine ⟨bytes.rtakeWhile (· != newline), fun hmem => ?_, ?_⟩
    · simpa using mem_rtakeWhile_imp hmem
    · exact rdropWhile_append_rtakeWhile.symm

theorem completeLines_append {tail : List UInt8} (h : IsTerminated bytes)
    (htail : newline ∉ tail) : completeLines (bytes ++ tail) = bytes := by
  have htail' : ∀ byte ∈ tail.reverse, (byte != newline) = true := by
    intro byte hbyte
    rw [bne_iff_ne]
    rintro rfl
    exact htail (mem_reverse.mp hbyte)
  unfold completeLines rdropWhile
  rw [reverse_append, dropWhile_append_of_pos htail']
  rcases h with rfl | hlast
  · rfl
  · cases bytes using reverseRecOn with
    | nil => rfl
    | append_singleton bytes byte =>
      rw [getLast?_concat] at hlast
      rw [Option.some.inj hlast]
      simp

theorem tail_eq_nil {tail : List UInt8} (h : IsTerminated bytes) (htail : newline ∉ tail)
    (hboth : IsTerminated (bytes ++ tail)) : tail = [] := by
  have hwhole := completeLines_append hboth (not_mem_nil (a := newline))
  rw [append_nil, completeLines_append h htail] at hwhole
  exact self_eq_append_right.mp hwhole

/-! ## Fields joined by a delimiter

The last field is what follows the last delimiter, if that field does not have one. The field before
it may. -/

namespace Delimited

theorem list_join_injective {α : Type} {d : α} {a a' b b' : List α} (hb : d ∉ b) (hb' : d ∉ b')
    (h : a ++ d :: b = a' ++ d :: b') : a = a' ∧ b = b' := by
  -- One text ends at the other's delimiter or after it; the rest would have that delimiter.
  have hnil : ∀ {c b b' : List α}, d ∉ b → d :: b = c ++ d :: b' → c = [] ∧ b = b' := by
    rintro (_ | ⟨x, c⟩) b b' hb h
    · exact ⟨rfl, (cons.inj h).2⟩
    · exact absurd (by rw [(cons.inj h).2]; simp) hb
  rcases append_eq_append_iff.mp h with ⟨c, rfl, hright⟩ | ⟨c, rfl, hright⟩
  · obtain ⟨rfl, hrest⟩ := hnil hb hright
    exact ⟨(append_nil a).symm, hrest⟩
  · obtain ⟨rfl, hrest⟩ := hnil hb' hright
    exact ⟨append_nil a', hrest.symm⟩

/-- **A field after the last delimiter is read back**, whatever is before it. -/
theorem join_injective {d : Char} {a a' b b' : String} (hb : d ∉ b.toList) (hb' : d ∉ b'.toList)
    (h : a ++ String.singleton d ++ b = a' ++ String.singleton d ++ b') : a = a' ∧ b = b' := by
  have hlists : a.toList ++ d :: b.toList = a'.toList ++ d :: b'.toList := by
    have := congrArg String.toList h
    simpa using this
  obtain ⟨ha, hb⟩ := list_join_injective hb hb' hlists
  exact ⟨String.toList_inj.mp ha, String.toList_inj.mp hb⟩

theorem delimiter_notMem_repr {d : Char} (hd : d.isDigit = false) (n : Nat) :
    d ∉ (Nat.repr n).toList := by
  intro hmem
  rw [Nat.toList_repr] at hmem
  have := Nat.isDigit_of_mem_toDigits (by decide) (by decide) hmem
  rw [hd] at this
  cases this

/-- A decimal is read back. -/
theorem repr_eq {m n : Nat} (h : Nat.repr m = Nat.repr n) : m = n := by
  have hdigits : Nat.toDigits 10 m = Nat.toDigits 10 n := by
    rw [← Nat.toList_repr, ← Nat.toList_repr, h]
  rw [← Nat.ofDigitChars_ten_toDigits (n := m), hdigits, Nat.ofDigitChars_ten_toDigits]

end Delimited

end BoltV3.Lib
