import Mathlib.Data.Finset.Max
import Mathlib.Data.List.Forall2
import Mathlib.Data.List.Nodup

/-!
# Lists

What holds of lists whatever their members are: when two of them are the same although one of them
was rearranged, where a member stands, and what lists have in common that go together.
-/

namespace Signpost

universe u v

variable {α : Type u} {β : Type v} {items items' : List α}

section Order

/-- Lists are the same that have the same members in the same strict order. -/
theorem eq_of_pairwise_of_mem_iff {r : α → α → Prop} (hasymm : ∀ a b, r a b → ¬r b a)
    (h : items.Pairwise r) (h' : items'.Pairwise r)
    (hmem : ∀ item, item ∈ items ↔ item ∈ items') : items = items' := by
  have hnodup {items : List α} (h : items.Pairwise r) : items.Nodup := by
    refine h.imp ?_
    rintro a _ haa rfl
    exact hasymm a a haa haa
  have hperm : items.Perm items' := (List.perm_ext_iff_of_nodup (hnodup h) (hnodup h')).mpr hmem
  exact List.Perm.eq_of_pairwise (fun a b _ _ hab hba => absurd hba (hasymm a b hab)) h h' hperm

/-- A list without two members has no other order. -/
theorem eq_of_perm_of_pairwise_false (h : items.Pairwise fun _ _ => False)
    (hperm : items.Perm items') : items = items' := by
  refine List.Perm.eq_of_pairwise (fun _ _ _ _ hfalse => hfalse.elim) h ?_ hperm
  exact hperm.pairwise h fun hfalse => hfalse

/-- Rearranging members with different keys leaves those of one key as they are. -/
theorem filter_eq_of_perm [DecidableEq β] {key : α → β} (hnodup : (items.map key).Nodup)
    (hperm : items.Perm items') (k : β) :
    items.filter (key · = k) = items'.filter (key · = k) := by
  have hone : (items.filter (key · = k)).Pairwise fun _ _ => False := by
    refine List.pairwise_filter.mpr ((List.pairwise_map.mp hnodup).imp ?_)
    exact fun hne ha hb => hne ((of_decide_eq_true ha).trans (of_decide_eq_true hb).symm)
  exact eq_of_perm_of_pairwise_false hone (hperm.filter _)

/-- Of several members with ascending keys one has a given key. -/
theorem filter_eq_singleton (key : α → Nat) (h : items.Pairwise fun a b => key a < key b)
    {item : α} (hitem : item ∈ items) :
    items.filter (fun other => key other = key item) = [item] := by
  induction items with
  | nil => contradiction
  | cons first rest ih =>
    obtain ⟨hfirst, hrest⟩ := List.pairwise_cons.mp h
    rcases List.mem_cons.mp hitem with rfl | hitem
    · have hnone : rest.filter (fun other => key other = key item) = [] := by
        rw [List.filter_eq_nil_iff]
        intro other hother hsame
        exact (hfirst other hother).ne' (of_decide_eq_true hsame)
      rw [List.filter_cons_of_pos (by exact decide_eq_true rfl), hnone]
    · have hne : ¬decide (key first = key item) = true := fun hsame =>
        (hfirst item hitem).ne (of_decide_eq_true hsame)
      rw [List.filter_cons_of_neg (by exact hne), ih hrest hitem]

/-- A list of at most one member has no two. -/
theorem eq_of_mem_of_length_le_one (h : items.length ≤ 1) {a b : α} (ha : a ∈ items)
    (hb : b ∈ items) : a = b := by
  obtain ⟨i, hi, rfl⟩ := List.getElem_of_mem ha
  obtain ⟨j, hj, rfl⟩ := List.getElem_of_mem hb
  obtain rfl : i = j := by omega
  rfl

/-- If for every bad member there is a larger one, none is bad. -/
theorem not_of_exists_larger (size : α → Nat) {bad : α → Prop}
    (h : ∀ item ∈ items, bad item → ∃ larger ∈ items, bad larger ∧ size item < size larger) :
    ∀ item ∈ items, ¬bad item := by
  classical
  intro item hitem hbad
  have hsome : (items.toFinset.filter bad).Nonempty :=
    ⟨item, Finset.mem_filter.mpr ⟨List.mem_toFinset.mpr hitem, hbad⟩⟩
  obtain ⟨largest, hlargest, hmax⟩ := Finset.exists_max_image _ size hsome
  rw [Finset.mem_filter, List.mem_toFinset] at hlargest
  obtain ⟨larger, hlarger, hbad', hlt⟩ := h largest hlargest.1 hlargest.2
  have hle := hmax larger (Finset.mem_filter.mpr ⟨List.mem_toFinset.mpr hlarger, hbad'⟩)
  exact Nat.not_lt.mpr hle hlt

end Order

section Last

variable {a b : α}

/-- What is not last in a list is its first member or not last in the rest. -/
theorem eq_or_mem_of_mem_dropLast_cons (h : b ∈ (a :: items).dropLast) :
    b = a ∨ b ∈ items.dropLast := by
  cases items with
  | nil => exact absurd h List.not_mem_nil
  | cons next rest => exact List.mem_cons.mp h

/-- A member of a list is its last one or among those before. -/
theorem getLast?_eq_or_mem_dropLast (h : a ∈ items) :
    items.getLast? = some a ∨ a ∈ items.dropLast := by
  have hne : items ≠ [] := List.ne_nil_of_mem h
  by_cases hlast : a = items.getLast hne
  · exact Or.inl (hlast ▸ List.getLast?_eq_some_getLast hne)
  · exact Or.inr (List.mem_dropLast_of_mem_of_ne_getLast h hlast)

end Last

section Together

variable {r : α → β → Prop} {front : List α} {back : List β}

/-- A function that succeeds on every member of a list succeeds on the list. -/
theorem mapM_eq_some_map {f : α → Option β} {g : α → β}
    (h : ∀ item ∈ items, f item = some (g item)) : items.mapM f = some (items.map g) := by
  induction items with
  | nil => rfl
  | cons item rest ih =>
    rw [List.forall_mem_cons] at h
    rw [List.mapM_cons, h.1, ih h.2]
    rfl

/-- In lists that go together every member of the one has a partner in the other. -/
theorem exists_of_mem_of_forall₂ (h : List.Forall₂ r front back) {a : α} (ha : a ∈ front) :
    ∃ b ∈ back, r a b := by
  induction h with
  | nil => exact absurd ha List.not_mem_nil
  | cons hfirst _ ih =>
    rcases List.mem_cons.mp ha with rfl | ha
    · exact ⟨_, List.mem_cons_self, hfirst⟩
    · obtain ⟨b, hb, hab⟩ := ih ha
      exact ⟨b, List.mem_cons_of_mem _ hb, hab⟩

/-- With a list that ends in a member goes one that ends in a partner of it. -/
theorem forall₂_concat_iff {a : α} :
    List.Forall₂ r (front ++ [a]) back ↔
      ∃ others b, back = others ++ [b] ∧ List.Forall₂ r front others ∧ r a b := by
  constructor
  · intro h
    induction front generalizing back with
    | nil =>
      obtain ⟨b, rest, hab, hrest, rfl⟩ := List.forall₂_cons_left_iff.mp h
      obtain rfl := List.forall₂_nil_left_iff.mp hrest
      exact ⟨[], b, rfl, .nil, hab⟩
    | cons first front ih =>
      obtain ⟨partner, rest, hfirst, hrest, rfl⟩ := List.forall₂_cons_left_iff.mp h
      obtain ⟨others, b, rfl, hothers, hab⟩ := ih hrest
      exact ⟨partner :: others, b, rfl, .cons hfirst hothers, hab⟩
  · rintro ⟨others, b, rfl, hothers, hab⟩
    exact List.rel_append hothers (.cons hab .nil)

end Together

end Signpost
