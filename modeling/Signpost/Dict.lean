import Signpost.Latest
/-!
# Dictionaries

A dictionary keeps its entries in the order in which their keys first came.  Inserting under a key
that is present replaces its value where it stands.  Main statements: after an insertion the key
has the new value and every other key the one it had.
-/

namespace Signpost

universe u v

/-- A finite map that remembers the order of its keys. -/
structure Dict (κ : Type u) (α : Type v) where
  /-- The entries, in the order in which their keys first came. -/
  entries : List (κ × α) := []

namespace Dict

variable {κ : Type u} {α : Type v} [DecidableEq κ]

/-- The dictionary without entries. -/
def empty : Dict κ α := {}

instance : Inhabited (Dict κ α) := ⟨empty⟩

/-- Put a value under a key into a list of entries. -/
def put (key : κ) (value : α) : List (κ × α) → List (κ × α)
  | [] => [(key, value)]
  | (k, v) :: rest => if k = key then (key, value) :: rest else (k, v) :: put key value rest

/-- The value under a key in a list of entries. -/
def get (key : κ) : List (κ × α) → Option α
  | [] => none
  | (k, v) :: rest => if k = key then some v else get key rest

/-- The dictionary in which `key` has the given value. -/
def insert (dict : Dict κ α) (key : κ) (value : α) : Dict κ α := ⟨put key value dict.entries⟩

/-- The value under a key. -/
def get? (dict : Dict κ α) (key : κ) : Option α := get key dict.entries

/-- The number of keys. -/
def size (dict : Dict κ α) : Nat := dict.entries.length

/-- Whether no key is present. -/
def isEmpty (dict : Dict κ α) : Bool := dict.entries.isEmpty

/-- Insert pairs in their order, so that the last pair of a key counts. -/
def ofList (pairs : List (κ × α)) : Dict κ α :=
  pairs.foldl (fun dict pair => dict.insert pair.1 pair.2) empty

@[simp] theorem get?_empty (key : κ) : (empty : Dict κ α).get? key = none := rfl

private theorem get_put (key : κ) (value : α) (entries : List (κ × α)) (k : κ) :
    get k (put key value entries) = if key = k then some value else get k entries := by
  induction entries with
  | nil => simp [put, get]
  | cons entry rest ih =>
    obtain ⟨k', v⟩ := entry
    by_cases hk : k' = key
    · subst hk
      by_cases h : k' = k <;> simp [put, get, h]
    · by_cases h : k' = k
      · subst h; simp [put, get, hk, Ne.symm hk]
      · simp [put, get, hk, h, ih]

/-- An insertion changes the value of its key and of no other. -/
theorem get?_insert (dict : Dict κ α) (key : κ) (value : α) (k : κ) :
    (dict.insert key value).get? k = if key = k then some value else dict.get? k :=
  get_put key value dict.entries k

@[simp] theorem get?_insert_self (dict : Dict κ α) (key : κ) (value : α) :
    (dict.insert key value).get? key = some value := by simp [get?_insert]

/-- Every other key keeps its value. -/
theorem get?_insert_of_ne (dict : Dict κ α) {key k : κ} (value : α) (h : key ≠ k) :
    (dict.insert key value).get? k = dict.get? k := by simp [get?_insert, h]

private theorem get?_foldl_insert (pairs : List (κ × α)) (dict : Dict κ α) (key : κ) :
    (pairs.foldl (fun dict pair => dict.insert pair.1 pair.2) dict).get? key =
      (latest? key pairs).or (dict.get? key) := by
  induction pairs generalizing dict with
  | nil => rfl
  | cons pair rest ih =>
    obtain ⟨k, value⟩ := pair
    rw [List.foldl_cons, ih, get?_insert, ← List.singleton_append, latest?_append, Option.or_assoc]
    by_cases h : k = key <;> simp [latest?, h]

/-- Of several pairs with one key the last counts. -/
theorem get?_ofList (pairs : List (κ × α)) (key : κ) :
    (ofList pairs).get? key = latest? key pairs := by
  rw [ofList, get?_foldl_insert, get?_empty, Option.or_none]

end Dict

end Signpost
