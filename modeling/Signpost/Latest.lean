/-!
# The latest value under a key

Entries come one after the other, and of several under one key the last counts; where a test wants
more than one key, so does the last of all that it wants.  Main statements: of two runs of entries
the later one counts, wherever it has a value, and the latest value under wanted keys is the latest
value under one of them.
-/

namespace Signpost

universe u v w

variable {κ : Type u} {α : Type v}

/-- The value of the last entry whose key is wanted. -/
def latestWhere? (wanted : κ → Bool) (entries : List (κ × α)) : Option α :=
  (entries.filterMap fun entry => if wanted entry.1 then some entry.2 else none).getLast?

/-- The value of the last entry under a key. -/
def latest? [DecidableEq κ] (key : κ) (entries : List (κ × α)) : Option α :=
  latestWhere? (· = key) entries

section Where

variable {wanted : κ → Bool} {entries : List (κ × α)}

@[simp] theorem latestWhere?_nil : latestWhere? wanted ([] : List (κ × α)) = none := rfl

/-- Of two runs of entries the later one counts, wherever it has a value. -/
theorem latestWhere?_append (front back : List (κ × α)) :
    latestWhere? wanted (front ++ back) =
      (latestWhere? wanted back).or (latestWhere? wanted front) := by
  rw [latestWhere?, latestWhere?, latestWhere?, List.filterMap_append, List.getLast?_append]

/-- The first entry counts if no other one does. -/
@[simp] theorem latestWhere?_cons (entry : κ × α) :
    latestWhere? wanted (entry :: entries) =
      (latestWhere? wanted entries).or (if wanted entry.1 then some entry.2 else none) := by
  rw [← List.singleton_append, latestWhere?_append]
  cases h : wanted entry.1 <;> simp [latestWhere?, h]

/-- An entry that is added counts if it is wanted. -/
theorem latestWhere?_append_singleton (key : κ) (value : α) :
    latestWhere? wanted (entries ++ [(key, value)]) =
      if wanted key then some value else latestWhere? wanted entries := by
  rw [latestWhere?_append]
  cases h : wanted key <;> simp [h]

/-- The latest value is that of a wanted entry behind which there is none. -/
theorem latestWhere?_eq_some_iff {value : α} :
    latestWhere? wanted entries = some value ↔
      ∃ before key after, entries = before ++ (key, value) :: after ∧ wanted key = true ∧
        ∀ entry ∈ after, ¬wanted entry.1 = true := by
  constructor
  · intro h
    obtain ⟨values, hvalues⟩ := List.getLast?_eq_some_iff.mp h
    obtain ⟨front, back, rfl, -, hback⟩ := List.filterMap_eq_append_iff.mp hvalues
    obtain ⟨skipped, ⟨key, v⟩, after, rfl, -, hentry, hafter⟩ := List.filterMap_eq_cons_iff.mp hback
    obtain ⟨hkey, hvalue⟩ := Option.ite_none_right_eq_some.mp hentry
    obtain rfl : v = value := Option.some.inj hvalue
    refine ⟨front ++ skipped, key, after, (List.append_assoc _ _ _).symm, hkey, ?_⟩
    intro entry hmem hwanted
    have hnone := List.filterMap_eq_nil_iff.mp hafter entry hmem
    rw [if_pos hwanted] at hnone
    contradiction
  · rintro ⟨before, key, after, rfl, hkey, hafter⟩
    have hnone : latestWhere? wanted after = none := by
      rw [latestWhere?, List.filterMap_eq_nil_iff.mpr fun entry hmem => if_neg (hafter entry hmem)]
      rfl
    rw [latestWhere?_append, latestWhere?_cons, hnone, if_pos hkey]
    rfl

/-- There is a latest value exactly if there is an entry under a wanted key. -/
theorem exists_latestWhere?_iff :
    (∃ value, latestWhere? wanted entries = some value) ↔
      ∃ entry ∈ entries, wanted entry.1 = true := by
  rw [latestWhere?, ← Option.isSome_iff_exists, List.getLast?_isSome, ne_eq,
    List.filterMap_eq_nil_iff]
  simp

/-- The latest value is that of the last entry which is left if the others are left out. -/
theorem latestWhere?_eq_filter :
    latestWhere? wanted entries =
      (entries.filter fun entry => wanted entry.1).getLast?.map (·.2) := by
  rw [latestWhere?, ← List.getLast?_map, ← List.filterMap_eq_filter, List.map_filterMap]
  congr 2
  funext entry
  cases h : wanted entry.1 <;> simp [Option.guard, h]

end Where

section Under

variable [DecidableEq κ] {key : κ} {entries : List (κ × α)} {value : α}

/-- Of two runs of entries the later one counts, wherever it has a value under the key. -/
theorem latest?_append (key : κ) (front back : List (κ × α)) :
    latest? key (front ++ back) = (latest? key back).or (latest? key front) :=
  latestWhere?_append front back

/-- An entry that is added counts under its own key. -/
theorem latest?_append_singleton (key own : κ) (value : α) :
    latest? key (entries ++ [(own, value)]) =
      if own = key then some value else latest? key entries := by
  rw [latest?, latestWhere?_append_singleton]
  by_cases h : own = key <;> simp [latest?, h]

/-- The latest value under a key is that of an entry behind which there is none under it. -/
theorem latest?_eq_some_iff :
    latest? key entries = some value ↔ ∃ before after, entries = before ++ (key, value) :: after ∧
      ∀ entry ∈ after, entry.1 ≠ key := by
  rw [latest?, latestWhere?_eq_some_iff]
  simp only [decide_eq_true_eq]
  constructor
  · rintro ⟨before, _, after, hentries, rfl, hafter⟩
    exact ⟨before, after, hentries, hafter⟩
  · rintro ⟨before, after, hentries, hafter⟩
    exact ⟨before, key, after, hentries, rfl, hafter⟩

/-- There is a latest value under a key exactly if there is an entry under it. -/
theorem exists_latest?_iff :
    (∃ value, latest? key entries = some value) ↔ key ∈ entries.map Prod.fst := by
  rw [latest?, exists_latestWhere?_iff, List.mem_map]
  simp only [decide_eq_true_eq]

/-- The latest value under a key is that of an entry under it. -/
theorem mem_of_latest? (h : latest? key entries = some value) : (key, value) ∈ entries := by
  obtain ⟨before, after, rfl, -⟩ := latest?_eq_some_iff.mp h
  exact List.mem_append_right _ List.mem_cons_self

/-- The latest value under wanted keys is the latest one under some of them. -/
theorem exists_latest?_of_latestWhere? {wanted : κ → Bool}
    (h : latestWhere? wanted entries = some value) :
    ∃ key, wanted key = true ∧ latest? key entries = some value := by
  obtain ⟨before, key, after, rfl, hkey, hafter⟩ := latestWhere?_eq_some_iff.mp h
  refine ⟨key, hkey, latest?_eq_some_iff.mpr ⟨before, after, rfl, fun entry hentry hsame => ?_⟩⟩
  exact hafter entry hentry (hsame ▸ hkey)

/-- Under a key that is wanted it does not count that the others are left out. -/
theorem latest?_filter (wanted : κ → Bool) (key : κ) (entries : List (κ × α)) :
    latest? key (entries.filter fun entry => wanted entry.1) =
      if wanted key then latest? key entries else none := by
  rw [latest?, latest?, latestWhere?, List.filterMap_filter]
  cases hwanted : wanted key with
  | true =>
    rw [if_pos rfl, latestWhere?]
    congr 2
    funext entry
    by_cases hkey : entry.1 = key <;> simp [hkey, hwanted]
  | false =>
    rw [if_neg (by decide), List.getLast?_eq_none_iff, List.filterMap_eq_nil_iff]
    intro entry _
    by_cases hkey : entry.1 = key <;> simp [hkey, hwanted]

/-- Keys may be written in another way that keeps the given one apart. -/
theorem latest?_map {ι : Type w} [DecidableEq ι] {write : κ → ι}
    (h : ∀ entry ∈ entries, write entry.1 = write key → entry.1 = key) :
    latest? (write key) (entries.map fun entry => (write entry.1, entry.2)) =
      latest? key entries := by
  have hkept : entries.filter ((fun entry => decide (entry.1 = write key)) ∘
      fun entry => (write entry.1, entry.2)) = entries.filter fun entry => entry.1 = key := by
    refine List.filter_congr fun entry hentry => ?_
    rw [Function.comp_apply, decide_eq_decide]
    exact ⟨h entry hentry, congrArg write⟩
  rw [latest?, latest?, latestWhere?_eq_filter, latestWhere?_eq_filter, List.filter_map, hkept,
    List.getLast?_map, Option.map_map]
  rfl

end Under

end Signpost
