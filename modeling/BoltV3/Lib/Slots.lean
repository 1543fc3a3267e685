import BoltV3.Lib.SortedMap
import Mathlib.Data.List.Nodup

/-!
# Slots, their holders and their index

A list of slots is read through a view `f : σ → Option κ`: what a slot is held for, if it is. Those
who hold slots are a list of handles (`HeldBy`), or the keys of a map to slots (`Indexed`). A slot
that is written keeps either in step, if the holder comes or goes with the key.
-/

namespace BoltV3.Lib

open Std (ExtTreeMap TransCmp LawfulEqCmp)

namespace Slots

variable {σ κ η : Type} {f : σ → Option κ} {slots : List σ} {i j : Nat} {k : κ} {old new : σ}

/-- What slot `i` is held for. -/
def viewAt (f : σ → Option κ) (slots : List σ) (i : Nat) : Option κ := slots[i]?.bind f

theorem viewAt_eq_some :
    viewAt f slots i = some k ↔ ∃ slot, slots[i]? = some slot ∧ f slot = some k :=
  Option.bind_eq_some_iff

section

variable (h : slots[i]? = some old)

include h

theorem viewAt_of : viewAt f slots i = f old := by
  rw [viewAt, h]
  rfl

theorem viewAt_set : viewAt f (slots.set i new) j = if i = j then f new else viewAt f slots j := by
  obtain ⟨hlt, -⟩ := List.getElem?_eq_some_iff.mp h
  unfold viewAt
  rw [List.getElem?_set]
  by_cases hij : i = j
  · subst hij
    simp [hlt]
  · simp [hij]

theorem viewAt_set_self : viewAt f (slots.set i new) i = f new := by
  rw [viewAt_set h, if_pos rfl]

theorem viewAt_keep (hsame : f new = f old) : viewAt f (slots.set i new) j = viewAt f slots j := by
  rw [viewAt_set h]
  split_ifs with hij
  · rw [hsame, ← hij, viewAt_of h]
  · rfl

/-- A slot that is written with the same view or with none says nothing new. -/
theorem viewAt_of_set (hnew : f new = f old ∨ f new = none)
    (hview : viewAt f (slots.set i new) j = some k) : viewAt f slots j = some k := by
  rcases hnew with hsame | hnone
  · rwa [viewAt_keep h hsame] at hview
  · rw [viewAt_set h, hnone] at hview
    split_ifs at hview
    exact hview

end

theorem viewAt_replicate_none {n : Nat} {empty : σ} (h : f empty = none) :
    viewAt f (List.replicate n empty) i = none := by
  unfold viewAt
  rw [List.getElem?_replicate]
  split_ifs
  · exact h
  · rfl

/-! ## Handles -/

/-- The handles are one for each held slot. -/
structure HeldBy (f : σ → Option κ) (handle : Nat → κ → η) (slots : List σ) (handles : List η) :
    Prop where
  nodup : handles.Nodup
  held_iff : ∀ i k, viewAt f slots i = some k ↔ handle i k ∈ handles
  total : ∀ h ∈ handles, ∃ i k, h = handle i k

section

variable {handle : Nat → κ → η} {handles : List η}

theorem HeldBy.nil {n : Nat} {empty : σ} (h : f empty = none) :
    HeldBy f handle (List.replicate n empty) [] where
  nodup := List.nodup_nil
  held_iff i k := by simp [viewAt_replicate_none h]
  total := by simp

variable (h : HeldBy f handle slots handles)

include h

theorem HeldBy.keep (hold : slots[i]? = some old)
    (hsame : f new = f old) : HeldBy f handle (slots.set i new) handles where
  nodup := h.nodup
  held_iff j k := by rw [viewAt_keep hold hsame, h.held_iff]
  total := h.total

theorem HeldBy.acquire (injective : Function.Injective2 handle)
    (hold : slots[i]? = some old) (hfree : f old = none) (hnew : f new = some k) :
    HeldBy f handle (slots.set i new) (handle i k :: handles) where
  nodup := by
    refine List.nodup_cons.mpr ⟨fun hmem => ?_, h.nodup⟩
    rw [← h.held_iff, viewAt_of hold, hfree] at hmem
    cases hmem
  held_iff j k' := by
    rw [viewAt_set hold, List.mem_cons]
    by_cases hij : i = j
    · subst hij
      have hnone : handle i k' ∉ handles := by
        rw [← h.held_iff, viewAt_of hold, hfree]
        nofun
      rw [if_pos rfl, hnew, Option.some.injEq]
      constructor
      · rintro rfl
        exact .inl rfl
      · rintro (heq | hmem)
        · exact (injective heq).2.symm
        · exact absurd hmem hnone
    · rw [if_neg hij, h.held_iff]
      constructor
      · exact .inr
      · rintro (heq | hmem)
        · exact absurd (injective heq).1.symm hij
        · exact hmem
  total := List.forall_mem_cons.mpr ⟨⟨i, k, rfl⟩, h.total⟩

theorem HeldBy.release [DecidableEq η] (injective : Function.Injective2 handle)
    (hold : slots[i]? = some old) (hheld : f old = some k)
    (hfree : f new = none) : HeldBy f handle (slots.set i new) (handles.erase (handle i k)) where
  nodup := h.nodup.erase _
  held_iff j k' := by
    rw [viewAt_set hold, h.nodup.mem_erase_iff]
    by_cases hij : i = j
    · subst hij
      rw [if_pos rfl, hfree]
      refine ⟨nofun, ?_⟩
      rintro ⟨hne, hmem⟩
      rw [← h.held_iff, viewAt_of hold, hheld, Option.some.injEq] at hmem
      exact absurd (by rw [hmem]) hne
    · rw [if_neg hij, h.held_iff]
      exact ⟨fun hmem => ⟨fun heq => hij (injective heq).1.symm, hmem⟩, fun hmem => hmem.2⟩
  total other hmem := h.total other (List.mem_of_mem_erase hmem)

/-- A handle holds its slot. -/
theorem HeldBy.slot {i : Nat} {k : κ} (hmem : handle i k ∈ handles) :
    ∃ slot, slots[i]? = some slot ∧ f slot = some k :=
  viewAt_eq_some.mp ((h.held_iff i k).mpr hmem)

end

/-! ## Indices -/

variable {cmp : κ → κ → Ordering} [TransCmp cmp] [LawfulEqCmp cmp] {index : ExtTreeMap κ Nat cmp}

/-- The map has the slot of every key. -/
def Indexed (f : σ → Option κ) (slots : List σ) (index : ExtTreeMap κ Nat cmp) : Prop :=
  ∀ k i, index[k]? = some i ↔ viewAt f slots i = some k

omit [LawfulEqCmp cmp] in
theorem Indexed.empty {n : Nat} {empty : σ} (h : f empty = none) :
    Indexed f (List.replicate n empty) (∅ : ExtTreeMap κ Nat cmp) := by
  intro k i
  simp [viewAt_replicate_none h]

section

variable (h : Indexed f slots index)

include h

omit [LawfulEqCmp cmp] in
theorem Indexed.keep (hold : slots[i]? = some old)
    (hsame : f new = f old) : Indexed f (slots.set i new) index := by
  intro k j
  rw [viewAt_keep hold hsame, h]

theorem Indexed.insert [DecidableEq κ] (hold : slots[i]? = some old)
    (hfree : f old = none) (hnew : f new = some k) (habsent : index[k]? = none) :
    Indexed f (slots.set i new) (index.insert k i) := by
  intro k' j
  rw [SortedMap.getElem?_insert, viewAt_set hold]
  by_cases hij : i = j
  · subst hij
    have hnone : index[k']? ≠ some i := by
      rw [Ne, h, viewAt_of hold, hfree]
      nofun
    rw [if_pos rfl, hnew]
    split_ifs with hk
    · simp [hk]
    · simp [hk, hnone]
  · rw [if_neg hij, ← h]
    split_ifs with hk
    · subst hk
      simp [hij, habsent]
    · exact Iff.rfl

theorem Indexed.erase [DecidableEq κ] (hold : slots[i]? = some old)
    (hheld : f old = some k) (hfree : f new = none) :
    Indexed f (slots.set i new) (index.erase k) := by
  have hk : index[k]? = some i := (h k i).mpr (by rw [viewAt_of hold, hheld])
  intro k' j
  rw [SortedMap.getElem?_erase, viewAt_set hold]
  by_cases hij : i = j
  · subst hij
    rw [if_pos rfl, hfree]
    split_ifs with heq
    · simp
    · rw [h, viewAt_of hold, hheld]
      simp [heq]
  · rw [if_neg hij, ← h]
    split_ifs with heq
    · subst heq
      simp [hk, hij]
    · exact Iff.rfl

omit [LawfulEqCmp cmp] in
/-- A key is at one slot. -/
theorem Indexed.unique (hi : viewAt f slots i = some k) (hj : viewAt f slots j = some k) :
    i = j := by
  rw [← h] at hi hj
  rw [hi] at hj
  exact Option.some.inj hj

end

end Slots

end BoltV3.Lib
