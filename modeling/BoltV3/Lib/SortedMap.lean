import Mathlib.Algebra.BigOperators.Group.List.Basic
import Mathlib.Data.List.Perm.Basic
import Mathlib.Data.List.Nodup
import Mathlib.Tactic.Common

/-!
# Sorted maps as lists of entries

An ordered map iterates over its entries in key order. For what is summed or counted over a map
the order does not matter, so the entries are treated up to permutation: `toList_perm` identifies
them by lookup, and insertion, removal and replacement become `cons` and its inverse.
-/

namespace BoltV3.Lib

open Std List

variable {α β γ : Type} {cmp : α → α → Ordering} [TransCmp cmp] [LawfulEqCmp cmp]

namespace SortedMap

variable {m : ExtTreeMap α β cmp} {k : α} {v : β} {l : List (α × β)}

omit [LawfulEqCmp cmp] in
theorem mem_iff_getElem? : k ∈ m ↔ ∃ v, m[k]? = some v := by
  rw [ExtTreeMap.mem_iff_isSome_getElem?, Option.isSome_iff_exists]

omit [LawfulEqCmp cmp] in
theorem notMem_iff_getElem? : k ∉ m ↔ m[k]? = none :=
  (getElem?_eq_none_iff m k).symm

theorem mem_toList : (k, v) ∈ m.toList ↔ m[k]? = some v :=
  ExtTreeMap.mem_toList_iff_getElem?_eq_some

omit [LawfulEqCmp cmp] in
theorem nodup_keys_toList (m : ExtTreeMap α β cmp) : (m.toList.map Prod.fst).Nodup := by
  rw [ExtTreeMap.map_fst_toList_eq_keys]
  exact ExtTreeMap.nodup_keys

/-- A list with distinct keys and the lookups of the map lists the map's entries. -/
theorem toList_perm (hnodup : (l.map Prod.fst).Nodup)
    (hmem : ∀ k v, m[k]? = some v ↔ (k, v) ∈ l) : m.toList.Perm l := by
  rw [perm_ext_iff_of_nodup (Nodup.of_map _ (nodup_keys_toList m))
    (Nodup.of_map _ hnodup)]
  rintro ⟨k, v⟩
  rw [mem_toList, hmem]

/-- Every entry of a list inserted, from left to right. -/
def insertAll (m : ExtTreeMap α β cmp) (l : List (α × β)) : ExtTreeMap α β cmp :=
  l.foldl (fun m p => m.insert p.1 p.2) m

section

omit [LawfulEqCmp cmp]

variable (m)

@[simp] theorem insertAll_nil : insertAll m [] = m := rfl

@[simp] theorem insertAll_cons (p : α × β) (l : List (α × β)) :
    insertAll m (p :: l) = insertAll (m.insert p.1 p.2) l := rfl

theorem insertAll_append (l r : List (α × β)) :
    insertAll m (l ++ r) = insertAll (insertAll m l) r :=
  foldl_append

end

section

variable [DecidableEq α]

theorem getElem?_insert (m : ExtTreeMap α β cmp) (k a : α) (v : β) :
    (m.insert k v)[a]? = if k = a then some v else m[a]? := by
  rw [ExtTreeMap.getElem?_insert]
  simp only [LawfulEqCmp.compare_eq_iff_eq]

theorem getElem?_erase (m : ExtTreeMap α β cmp) (k a : α) :
    (m.erase k)[a]? = if k = a then none else m[a]? := by
  rw [ExtTreeMap.getElem?_erase]
  simp only [LawfulEqCmp.compare_eq_iff_eq]

theorem toList_insert_perm (h : m[k]? = none)
    (v : β) : (m.insert k v).toList.Perm ((k, v) :: m.toList) := by
  refine toList_perm ?_ fun a b => ?_
  · rw [map_cons, nodup_cons, ExtTreeMap.map_fst_toList_eq_keys, ExtTreeMap.mem_keys,
      notMem_iff_getElem?]
    exact ⟨h, ExtTreeMap.nodup_keys⟩
  · rw [getElem?_insert, mem_cons, mem_toList, Prod.mk.injEq]
    by_cases hk : k = a
    · subst hk
      simp [h, eq_comm]
    · simp [hk, Ne.symm hk]

theorem toList_erase_perm (h : m[k]? = some v) : m.toList.Perm ((k, v) :: (m.erase k).toList) := by
  have hsame : (m.erase k).insert k v = m := by
    refine ExtTreeMap.ext_getElem? fun (a : α) => ?_
    rw [getElem?_insert, getElem?_erase]
    split
    · rename_i hk
      rw [← hk, h]
    · rfl
  have hinsert :=
    toList_insert_perm (m := m.erase k) (k := k) (by rw [getElem?_erase, if_pos rfl]) v
  rwa [hsame] at hinsert

theorem insert_erase (m : ExtTreeMap α β cmp) (k : α) (v : β) :
    (m.erase k).insert k v = m.insert k v := by
  refine ExtTreeMap.ext_getElem? fun (a : α) => ?_
  rw [getElem?_insert, getElem?_insert, getElem?_erase]
  split <;> rfl

/-- Replacing the value of a present key replaces one entry. -/
theorem toList_replace_perm (h : m[k]? = some v) (w : β) : ∃ rest, m.toList.Perm ((k, v) :: rest) ∧
      (m.insert k w).toList.Perm ((k, w) :: rest) := by
  refine ⟨(m.erase k).toList, toList_erase_perm h, ?_⟩
  rw [← insert_erase]
  exact toList_insert_perm (by rw [getElem?_erase, if_pos rfl]) w

theorem erase_eq_self (h : m[k]? = none) : m.erase k = m := by
  refine ExtTreeMap.ext_getElem? fun a => ?_
  rw [getElem?_erase]
  split
  · rename_i heq
    rw [← heq, h]
  · rfl

theorem erase_insert (h : m[k]? = none) (v : β) : (m.insert k v).erase k = m := by
  refine ExtTreeMap.ext_getElem? fun (a : α) => ?_
  rw [getElem?_erase, getElem?_insert]
  split
  · rename_i hk
    rw [← hk, h]
  · rfl

/-! ## Mapping the values -/

theorem map_insert (m : ExtTreeMap α β cmp) (f : β → γ) (k : α) (v : β) :
    (m.insert k v).map (fun _ => f) = (m.map fun _ => f).insert k (f v) := by
  refine ExtTreeMap.ext_getElem? fun (a : α) => ?_
  rw [getElem?_insert, ExtTreeMap.getElem?_map, getElem?_insert, ExtTreeMap.getElem?_map]
  split <;> rfl

theorem map_erase (m : ExtTreeMap α β cmp) (f : β → γ) (k : α) :
    (m.erase k).map (fun _ => f) = (m.map fun _ => f).erase k := by
  refine ExtTreeMap.ext_getElem? fun (a : α) => ?_
  rw [getElem?_erase, ExtTreeMap.getElem?_map, getElem?_erase, ExtTreeMap.getElem?_map]
  split <;> rfl

/-! ## Inserting a list of entries -/

theorem getElem?_insertAll_of_notMem (h : k ∉ l.map Prod.fst) (m : ExtTreeMap α β cmp) :
    (insertAll m l)[k]? = m[k]? := by
  induction l generalizing m with
  | nil => rfl
  | cons p l ih =>
    rw [map_cons, mem_cons, not_or] at h
    rw [insertAll_cons, ih h.2, getElem?_insert, if_neg (Ne.symm h.1)]

theorem getElem?_insertAll_of_mem (hnodup : (l.map Prod.fst).Nodup) (h : (k, v) ∈ l)
    (m : ExtTreeMap α β cmp) : (insertAll m l)[k]? = some v := by
  induction l generalizing m with
  | nil => cases h
  | cons p l ih =>
    rw [map_cons, nodup_cons] at hnodup
    rw [insertAll_cons]
    rcases mem_cons.mp h with rfl | h
    · rw [getElem?_insertAll_of_notMem hnodup.1, getElem?_insert, if_pos rfl]
    · exact ih hnodup.2 h _

theorem getElem?_insertAll_empty (hnodup : (l.map Prod.fst).Nodup) :
    (insertAll (∅ : ExtTreeMap α β cmp) l)[k]? = some v ↔ (k, v) ∈ l := by
  refine ⟨fun h => ?_, fun h => getElem?_insertAll_of_mem hnodup h ∅⟩
  by_cases hk : k ∈ l.map Prod.fst
  · obtain ⟨⟨_, w⟩, hmem, rfl⟩ := mem_map.mp hk
    rw [getElem?_insertAll_of_mem hnodup hmem] at h
    cases h
    exact hmem
  · rw [getElem?_insertAll_of_notMem hk] at h
    simp at h

theorem map_insertAll (f : β → γ) (l : List (α × β)) (m : ExtTreeMap α β cmp) :
    (insertAll m l).map (fun _ => f) =
      insertAll (m.map fun _ => f) (l.map fun p => (p.1, f p.2)) := by
  induction l generalizing m with
  | nil => rfl
  | cons p l ih => rw [insertAll_cons, ih, map_insert, map_cons, insertAll_cons]

theorem toList_insertAll_perm (hnodup : (l.map Prod.fst).Nodup)
    (hfresh : ∀ k ∈ l.map Prod.fst, m[k]? = none) :
    (insertAll m l).toList.Perm (m.toList ++ l) := by
  induction l generalizing m with
  | nil => simp
  | cons p l ih =>
    rw [map_cons, nodup_cons] at hnodup
    rw [insertAll_cons]
    have hinsert := (toList_insert_perm (hfresh p.1 (by simp)) p.2).append_right l
    refine (ih hnodup.2 ?_).trans (hinsert.trans perm_middle.symm)
    intro k hk
    rw [getElem?_insert, if_neg (by rintro rfl; exact hnodup.1 hk)]
    exact hfresh k (mem_cons_of_mem _ hk)

theorem getElem?_foldl_insert (keys : List α) (v : β) (m : ExtTreeMap α β cmp)
    (k : α) : (keys.foldl (·.insert · v) m)[k]? = if k ∈ keys then some v else m[k]? := by
  induction keys generalizing m with
  | nil => simp
  | cons key keys ih =>
    rw [foldl_cons, ih, getElem?_insert]
    by_cases hkeys : k ∈ keys
    · simp [hkeys]
    · simp [hkeys, eq_comm]

theorem getElem?_foldl_erase (keys : List α) (m : ExtTreeMap α β cmp) (k : α) :
    (keys.foldl (·.erase ·) m)[k]? = if k ∈ keys then none else m[k]? := by
  induction keys generalizing m with
  | nil => simp
  | cons key keys ih =>
    rw [foldl_cons, ih, getElem?_erase]
    by_cases hkeys : k ∈ keys
    · simp [hkeys]
    · simp [hkeys, eq_comm]

end

/-! ## A list beside a map

A program may keep the values of a map a second time, as a list of entries derived from them.
`Lists entry m es` says that the list has exactly the entry of each value. -/

section Lists

variable {ε ν : Type} {entry : β → ε} {es : List ε}

/-- `es` lists the entry of each value of the map, in some order. -/
def Lists (entry : β → ε) (m : ExtTreeMap α β cmp) (es : List ε) : Prop :=
  es.Perm (m.toList.map fun p => entry p.2)

/-- No two keys have entries of one name. -/
def Distinct (name : β → ν) (m : ExtTreeMap α β cmp) : Prop :=
  ∀ (k k' : α) v v', m[k]? = some v → m[k']? = some v' → name v = name v' → k = k'

theorem Lists.mem_iff (h : Lists entry m es) {e : ε} :
    e ∈ es ↔ ∃ (k : α) (v : β), m[k]? = some v ∧ entry v = e := by
  rw [Perm.mem_iff h, mem_map]
  constructor
  · rintro ⟨⟨k, v⟩, hmem, rfl⟩
    exact ⟨k, v, mem_toList.mp hmem, rfl⟩
  · rintro ⟨k, v, hkv, rfl⟩
    exact ⟨(k, v), mem_toList.mpr hkv, rfl⟩

/-- Distinct names in the map are distinct names in the list. -/
theorem Lists.nodup_iff {name : ε → ν} (h : Lists entry m es) :
    (es.map name).Nodup ↔ Distinct (fun v => name (entry v)) m := by
  have hnodup : m.toList.Nodup := Nodup.of_map _ (nodup_keys_toList m)
  rw [(Perm.map name h).nodup_iff, map_map, nodup_map_iff_inj_on hnodup]
  constructor
  · intro hinj k k' v v' hkv hkv' hname
    exact congrArg Prod.fst
      (hinj (k, v) (mem_toList.mpr hkv) (k', v') (mem_toList.mpr hkv') hname)
  · rintro hdistinct ⟨k, v⟩ hkv ⟨k', v'⟩ hkv' hname
    rw [mem_toList] at hkv hkv'
    cases hdistinct k k' v v' hkv hkv' hname
    rw [hkv] at hkv'
    cases hkv'
    rfl

variable [DecidableEq α]

theorem Lists.insert (h : Lists entry m es) (fresh : m[k]? = none)
    (v : β) : Lists entry (m.insert k v) (es ++ [entry v]) := by
  have hinsert := (toList_insert_perm fresh v).map fun p => entry p.2
  exact (perm_append_singleton _ _).trans ((h.cons _).trans hinsert.symm)

/-- Erasing a key takes its entry out of the list. -/
theorem Lists.erase (h : Lists entry m es) (hkv : m[k]? = some v)
    {rest : List ε} (hrest : es.Perm (entry v :: rest)) : Lists entry (m.erase k) rest :=
  Perm.cons_inv (hrest.symm.trans (h.trans ((toList_erase_perm hkv).map _)))

/-- A new value with the same entry leaves the list. -/
theorem Lists.replace (h : Lists entry m es) {w : β} (hkv : m[k]? = some v)
    (hw : entry w = entry v) : Lists entry (m.insert k w) es := by
  obtain ⟨rest, hold, hnew⟩ := toList_replace_perm hkv w
  refine h.trans ((hold.map _).trans (((hnew.map _).trans ?_).symm))
  rw [map_cons, map_cons]
  rw [hw]

theorem lists_insertAll (hnodup : (l.map Prod.fst).Nodup) :
    Lists entry (insertAll (∅ : ExtTreeMap α β cmp) l) (l.map fun p => entry p.2) := by
  have h := toList_insertAll_perm (m := (∅ : ExtTreeMap α β cmp)) hnodup (by simp)
  have hempty := ExtTreeMap.toList_eq_nil_iff.mpr (rfl : (∅ : ExtTreeMap α β cmp) = ∅)
  rw [hempty, nil_append] at h
  exact (h.map _).symm

end Lists

/-! ## Sums over the values -/

section Sums

variable {M : Type} [AddCommMonoid M] {f : β → M}

/-- The sum of `f` over the values of the map. -/
def sumOf (f : β → M) (m : ExtTreeMap α β cmp) : M := (m.toList.map fun p => f p.2).sum

omit [LawfulEqCmp cmp] in
theorem Lists.sum_eq {ε : Type} {entry : β → ε} {es : List ε} (h : Lists entry m es)
    (g : ε → M) : (es.map g).sum = sumOf (fun v => g (entry v)) m := by
  unfold sumOf
  rw [(Perm.map g h).sum_eq, map_map]
  rfl

/-- The sum of `g` over the entries of the map. -/
def sumOver (g : α → β → M) (m : ExtTreeMap α β cmp) : M := (m.toList.map fun p => g p.1 p.2).sum

theorem sumOver_congr {g h : α → β → M} (heq : ∀ k v, m[k]? = some v → g k v = h k v) :
    sumOver g m = sumOver h m := by
  unfold sumOver
  congr 1
  exact map_congr_left fun p hp => heq p.1 p.2 (mem_toList.mp hp)

variable [DecidableEq α]

theorem sumOf_insert (h : m[k]? = none) : sumOf f (m.insert k v) = f v + sumOf f m := by
  unfold sumOf
  rw [((toList_insert_perm h v).map _).sum_eq, map_cons, sum_cons]

theorem sumOf_erase (h : m[k]? = some v) : sumOf f m = f v + sumOf f (m.erase k) := by
  unfold sumOf
  rw [((toList_erase_perm h).map _).sum_eq, map_cons, sum_cons]

/-- A new value takes the place of the old one in the sum. -/
theorem sumOf_replace (w : β) : sumOf f (m.insert k w) = f w + sumOf f (m.erase k) := by
  rw [← insert_erase]
  exact sumOf_insert (by rw [getElem?_erase, if_pos rfl])

theorem sumOf_insertAll (hnodup : (l.map Prod.fst).Nodup) :
    sumOf f (insertAll (∅ : ExtTreeMap α β cmp) l) = (l.map fun p => f p.2).sum :=
  (lists_insertAll hnodup).symm.sum_eq

theorem sumOver_erase (g : α → β → M) (m : ExtTreeMap α β cmp) (k : α) :
    sumOver g m = (m[k]?).elim 0 (g k) + sumOver g (m.erase k) := by
  rcases h : m[k]? with _ | v
  · rw [erase_eq_self h]
    exact (zero_add _).symm
  · unfold sumOver
    rw [((toList_erase_perm h).map _).sum_eq, map_cons, sum_cons]
    rfl

end Sums

end SortedMap

end BoltV3.Lib
