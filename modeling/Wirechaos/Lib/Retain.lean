/-
  Wirechaos.Lib.Retain — a finite map that keeps the entries a predicate holds of.

  A map filtered by its entries has exactly the filtered entries (`entries_filter_toAList`),
  so it looks up a key where the map did and the predicate holds (`lookup_filter_toAList`).
  With the sizes of `erase` and `insert`, that is what a bounded map that makes room needs.
-/

import Mathlib.Data.List.AList

namespace Retain

variable {α : Type} {β : α → Type} [DecidableEq α]

theorem dedupKeys_eq_self {es : List (Sigma β)} (h : es.NodupKeys) : es.dedupKeys = es := by
  induction es with
  | nil => rfl
  | cons e es ih =>
    obtain ⟨hnot, hes⟩ := List.nodupKeys_cons.mp h
    rw [List.dedupKeys_cons, ih hes, List.kinsert_def, List.kerase_of_notMem_keys hnot]

theorem entries_filter_toAList (m : AList β) (p : Sigma β → Bool) :
    (m.entries.filter p).toAList.entries = m.entries.filter p := by
  rw [AList.entries_toAList]
  exact dedupKeys_eq_self (m.nodupKeys.sublist List.filter_sublist)

theorem mem_entries_iff {m : AList β} {k : α} {v : β k} : (⟨k, v⟩ : Sigma β) ∈ m.entries ↔ m.lookup k = some v :=
  AList.mem_lookup_iff.symm

theorem lookup_filter_toAList (m : AList β) (p : Sigma β → Bool) {k : α} {v : β k} :
    (m.entries.filter p).toAList.lookup k = some v ↔ m.lookup k = some v ∧ p ⟨k, v⟩ = true := by
  rw [← mem_entries_iff, entries_filter_toAList, List.mem_filter, mem_entries_iff]

theorem length_entries_erase_le (m : AList β) (k : α) : (m.erase k).entries.length ≤ m.entries.length :=
  (List.kerase_sublist k m.entries).length_le

theorem length_entries_insert_le (m : AList β) (k : α) (v : β k) :
    (m.insert k v).entries.length ≤ m.entries.length + 1 := by
  rw [AList.entries_insert, List.length_cons]
  exact Nat.succ_le_succ (length_entries_erase_le m k)

end Retain
