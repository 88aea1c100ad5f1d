import Signpost.Files.Mounts

/-!
# Changing values

Nothing that dictionaries, trees and mounts do depends on what their values are.  Main statements:
each finds a changed value where it found the old one.
-/

namespace Signpost

universe u v w

namespace Dict

variable {κ : Type u} {α : Type v} {β : Type w} [DecidableEq κ] (f : α → β)

/-- Change every value of a dictionary. -/
def map (dict : Dict κ α) : Dict κ β := ⟨dict.entries.map fun (key, value) => (key, f value)⟩

/-- Under every key there is the image of the value. -/
theorem get?_map (dict : Dict κ α) (key : κ) : (dict.map f).get? key = (dict.get? key).map f := by
  obtain ⟨entries⟩ := dict
  induction entries with
  | nil => rfl
  | cons entry rest ih =>
    obtain ⟨k, value⟩ := entry
    have hhead : (map f ⟨(k, value) :: rest⟩).get? key =
        if k = key then some (f value) else (map f ⟨rest⟩).get? key := rfl
    have hhead' : get? ⟨(k, value) :: rest⟩ key =
        if k = key then some value else get? ⟨rest⟩ key := rfl
    rw [hhead, hhead', ih]
    split <;> rfl

end Dict

namespace Route

variable {α : Type u} {β : Type v} (f : α → β)

namespace Node

mutual

/-- Change every value at a node and under it. -/
def map (f : α → β) : Node α → Node β
  | ⟨value, branches⟩ => ⟨value.map f, mapAll f branches⟩

/-- Change every value under several branches. -/
def mapAll (f : α → β) : List (Label × Node α) → List (Label × Node β)
  | [] => []
  | branch :: rest => mapOf f branch :: mapAll f rest

/-- Change every value under one branch. -/
def mapOf (f : α → β) : Label × Node α → Label × Node β
  | (label, child) => (label, map f child)

end

private theorem mapAll_eq (branches : List (Label × Node α)) :
    mapAll f branches = branches.map (mapOf f) := by
  induction branches with
  | nil => rfl
  | cons branch rest ih => rw [mapAll, ih, List.map_cons]

private theorem value_map (node : Node α) : (node.map f).value = node.value.map f := by
  obtain ⟨value, branches⟩ := node
  rw [map]
  rfl

private theorem step?_map (node : Node α) (segment : String) :
    (node.map f).step? segment = (node.step? segment).map (mapOf f) := by
  obtain ⟨value, branches⟩ := node
  have haccepts : (fun branch : Label × Node β => branch.1.accepts segment) ∘ mapOf f =
      fun branch : Label × Node α => branch.1.accepts segment := by
    funext branch
    obtain ⟨label, child⟩ := branch
    rw [Function.comp_apply, mapOf]
  have hbranches : (map f ⟨value, branches⟩).branches = branches.map (mapOf f) := by
    rw [map, ← mapAll_eq]
    rfl
  rw [step?, hbranches, List.find?_map, haccepts]
  rfl

private theorem walk_map (node : Node α) (segments : List String) (params : Dict String String) :
    (node.map f).walk segments params =
      (node.walk segments params).map fun (value, params) => (f value, params) := by
  induction segments generalizing node params with
  | nil =>
    rw [walk, walk, value_map, Option.map_map, Option.map_map]
    rfl
  | cons segment rest ih =>
    rw [walk, walk, step?_map]
    cases node.step? segment with
    | none => rfl
    | some branch =>
      obtain ⟨label, child⟩ := branch
      rw [Option.map_some, mapOf]
      exact ih child _

private theorem alter_map {γ : Type u} {δ : Type v} (g : γ → δ) (label : Label) (fresh : γ)
    {F : γ → γ} {G : δ → δ} (hg : ∀ child, g (F child) = G (g child))
    (branches : List (Label × γ)) :
    (alter label fresh F branches).map (fun branch => (branch.1, g branch.2)) =
      alter label (g fresh) G (branches.map fun branch => (branch.1, g branch.2)) := by
  induction branches with
  | nil => rw [alter, List.map_singleton, hg, List.map_nil, alter]
  | cons branch rest ih =>
    obtain ⟨l, child⟩ := branch
    rw [List.map_cons, alter, alter, ← ih, ← hg, ← hg]
    split
    · rfl
    · split <;> rfl

/-- To insert a value and then to change all is to change all and then to insert its image. -/
theorem map_insert (value : α) (labels : List Label) (node : Node α) :
    (node.insert value labels).map f = (node.map f).insert (f value) labels := by
  have hmapOf : mapOf f = fun branch => (branch.1, map f branch.2) := by
    funext branch
    obtain ⟨label, child⟩ := branch
    rw [mapOf]
  induction labels generalizing node with
  | nil =>
    obtain ⟨own, branches⟩ := node
    rw [insert, map, map]
    rfl
  | cons label labels ih =>
    obtain ⟨own, branches⟩ := node
    have halter := alter_map (map f) label empty ih branches
    rw [← hmapOf, ← mapAll_eq, ← mapAll_eq] at halter
    rw [insert, map, map, insert]
    exact congrArg (Node.mk (own.map f)) halter

mutual

/-- The entries have the images of the values. -/
theorem entries_map (node : Node α) :
    (node.map f).entries = node.entries.map fun entry => (entry.1, f entry.2) := by
  obtain ⟨value, branches⟩ := node
  rw [map, entries, entries, List.map_append, entriesOfAll_mapAll branches]
  cases value <;> rfl

/-- So have those of branches. -/
theorem entriesOfAll_mapAll (branches : List (Label × Node α)) :
    entriesOfAll (mapAll f branches) =
      (entriesOfAll branches).map fun entry => (entry.1, f entry.2) := by
  cases branches with
  | nil => rfl
  | cons branch rest =>
    rw [mapAll, entriesOfAll, entriesOfAll, List.map_append, entriesOf_mapOf branch,
      entriesOfAll_mapAll rest]

/-- So have those of a branch. -/
theorem entriesOf_mapOf (branch : Label × Node α) :
    entriesOf (mapOf f branch) = (entriesOf branch).map fun entry => (entry.1, f entry.2) := by
  obtain ⟨label, child⟩ := branch
  rw [mapOf, entriesOf, entriesOf, entries_map child, List.map_map, List.map_map]
  rfl

end

end Node

namespace Tree

/-- Change every value of a tree. -/
def map (tree : Tree α) : Tree β := ⟨tree.root.map f, tree.insertions⟩

/-- A path leads to the image of the value, and binds the same. -/
theorem find?_map (tree : Tree α) (path : String) :
    (tree.map f).find? path = (tree.find? path).map fun (value, params) => (f value, params) :=
  Node.walk_map f tree.root _ _

/-- The entries have the images of the values. -/
theorem entries_map (tree : Tree α) :
    (tree.map f).entries = tree.entries.map fun entry => (entry.1, f entry.2) := by
  rw [entries, map, Node.entries_map, entries, List.map_map, List.map_map]
  rfl

end Tree

end Route

namespace Files

variable {α : Type u} {β : Type v} (f : α → β)

/-- Change what answers at a mount. -/
def Mount.map (mount : Mount α) : Mount β := ⟨mount.base, mount.depth, f mount.value⟩

/-- The mounts in a changed tree are tried in the same order. -/
theorem Mounts.toList_ofTree_map (tree : Route.Tree α) :
    (ofTree (tree.map f)).toList = (ofTree tree).toList.map (Mount.map f) := by
  have horder : ∀ a : Mount α, ∀ b : Mount α,
      a.goesBefore b = (a.map f).goesBefore (b.map f) := fun _ _ => rfl
  rw [ofTree, ofTree, Route.Tree.entries_map,
    List.map_mergeSort fun a _ b _ => horder a b, List.map_map, List.map_map]
  rfl

/-- A path goes to the same mount, which has the image of its value. -/
theorem Mounts.resolve?_ofTree_map (tree : Route.Tree α) (path : String) :
    (ofTree (tree.map f)).resolve? path =
      ((ofTree tree).resolve? path).map fun (value, rest) => (f value, rest) := by
  rw [resolve?, resolve?, toList_ofTree_map]
  induction (ofTree tree).toList with
  | nil => rfl
  | cons mount rest ih =>
    rw [List.map_cons, List.findSome?_cons, List.findSome?_cons]
    have hbase : (mount.map f).base = mount.base := rfl
    rw [hbase]
    cases Text.after? mount.base path with
    | none => exact ih
    | some more => rfl

end Files

end Signpost
