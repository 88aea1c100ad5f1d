import Mathlib.Data.List.Nodup
import Mathlib.Data.List.Perm.Basic
import Signpost.Dict

/-!
# The entries of dictionaries

A dictionary has one entry for every key, so that its entries can be listed in any order.  Main
statements: looking a key up in such a list gives the value under it, and the keys and the values
of a dictionary made of pairs are theirs.
-/

namespace Signpost.Dict

universe u v

variable {κ : Type u} {α : Type v} [DecidableEq κ]

private theorem mem_keys_put (key : κ) (value : α) (entries : List (κ × α)) (k : κ) :
    k ∈ (put key value entries).map Prod.fst ↔ k = key ∨ k ∈ entries.map Prod.fst := by
  induction entries with
  | nil => simp [put]
  | cons entry rest ih =>
    obtain ⟨k', v⟩ := entry
    by_cases h : k' = key
    · subst h
      simp [put]
    · rw [put, if_neg h, List.map_cons, List.mem_cons, ih, List.map_cons, List.mem_cons,
        or_left_comm]

/-- An insertion leaves one entry for every key. -/
theorem nodup_keys_put {entries : List (κ × α)} (h : (entries.map Prod.fst).Nodup) (key : κ)
    (value : α) : ((put key value entries).map Prod.fst).Nodup := by
  induction entries with
  | nil => exact List.nodup_cons.mpr ⟨List.not_mem_nil, List.nodup_nil⟩
  | cons entry rest ih =>
    obtain ⟨k, v⟩ := entry
    rw [List.map_cons, List.nodup_cons] at h
    by_cases hk : k = key
    · subst hk
      rw [put, if_pos rfl, List.map_cons, List.nodup_cons]
      exact h
    · rw [put, if_neg hk, List.map_cons, List.nodup_cons, mem_keys_put]
      exact ⟨not_or.mpr ⟨hk, h.1⟩, ih h.2⟩

/-- A dictionary has one entry for every key. -/
theorem nodup_keys_ofList (pairs : List (κ × α)) : ((ofList pairs).entries.map Prod.fst).Nodup := by
  suffices h : ∀ dict : Dict κ α, (dict.entries.map Prod.fst).Nodup →
      ((pairs.foldl (fun dict pair => dict.insert pair.1 pair.2) dict).entries.map
        Prod.fst).Nodup from h empty List.nodup_nil
  induction pairs with
  | nil => exact fun _ h => h
  | cons pair rest ih => exact fun dict h => ih _ (nodup_keys_put h pair.1 pair.2)

/-- Of entries with different keys every one counts. -/
theorem latest?_eq_some_iff_mem {entries : List (κ × α)} (h : (entries.map Prod.fst).Nodup)
    {key : κ} {value : α} : latest? key entries = some value ↔ (key, value) ∈ entries := by
  refine ⟨mem_of_latest?, fun hentry => ?_⟩
  obtain ⟨last, hlast⟩ := exists_latest?_iff.mpr (List.mem_map_of_mem hentry)
  obtain ⟨-, rfl⟩ := Prod.mk.inj (List.inj_on_of_nodup_map h hentry (mem_of_latest? hlast) rfl)
  exact hlast

private theorem get_eq_some_iff_mem {entries : List (κ × α)} (h : (entries.map Prod.fst).Nodup)
    {key : κ} {value : α} : get key entries = some value ↔ (key, value) ∈ entries := by
  induction entries with
  | nil => exact iff_of_false nofun List.not_mem_nil
  | cons entry rest ih =>
    obtain ⟨k, v⟩ := entry
    rw [List.map_cons, List.nodup_cons] at h
    obtain ⟨hnew, hrest⟩ := h
    by_cases hk : k = key
    · subst hk
      have hnone : (k, value) ∉ rest := fun hmem => hnew (List.mem_map.mpr ⟨_, hmem, rfl⟩)
      rw [get, if_pos rfl, List.mem_cons, or_iff_left hnone]
      simp [eq_comm]
    · rw [get, if_neg hk, ih hrest, List.mem_cons, or_iff_right (by simp [Ne.symm hk])]

/-- A dictionary with one entry for every key has the values of its entries. -/
theorem get?_eq_some_iff_mem {dict : Dict κ α} (h : (dict.entries.map Prod.fst).Nodup)
    {key : κ} {value : α} : dict.get? key = some value ↔ (key, value) ∈ dict.entries :=
  get_eq_some_iff_mem h

/-- In whichever order the entries are listed, they have the same value under a key. -/
theorem latest?_eq_get? {dict : Dict κ α} (h : (dict.entries.map Prod.fst).Nodup)
    {listed : List (κ × α)} (hlisted : listed.Perm dict.entries) (key : κ) :
    latest? key listed = dict.get? key := by
  have hnodup : (listed.map Prod.fst).Nodup := (hlisted.map Prod.fst).nodup_iff.mpr h
  ext value
  rw [latest?_eq_some_iff_mem hnodup, get?_eq_some_iff_mem h, hlisted.mem_iff]

/-- A value of a dictionary made of pairs is in one of them. -/
theorem mem_of_get?_ofList {pairs : List (κ × α)} {key : κ} {value : α}
    (h : (ofList pairs).get? key = some value) : (key, value) ∈ pairs := by
  rw [get?_ofList] at h
  exact mem_of_latest? h

/-- A dictionary made of pairs with different keys holds them and nothing else. -/
theorem get?_ofList_eq_some_iff {pairs : List (κ × α)} (h : (pairs.map Prod.fst).Nodup)
    {key : κ} {value : α} : (ofList pairs).get? key = some value ↔ (key, value) ∈ pairs := by
  rw [get?_ofList, latest?_eq_some_iff_mem h]

/-- The keys of a dictionary made of pairs are theirs. -/
theorem isSome_get?_ofList {pairs : List (κ × α)} {key : κ} :
    ((ofList pairs).get? key).isSome ↔ key ∈ pairs.map Prod.fst := by
  rw [get?_ofList, Option.isSome_iff_exists, exists_latest?_iff]

end Signpost.Dict
