import Signpost.Proofs.Route.History

/-!
# What trees list

What is inserted into a tree is listed in it, and it stays listed when something is inserted at a
place on the way to it.  Main statements: a tree lists a route after it was inserted; and a tree at
whose places only literals lead lists the names at which something was inserted, with the latest
value of each, and nothing else.
-/

namespace Signpost.Route

universe u

variable {α : Type u}

namespace Node

/-- The entries of a node are its own value and then those of its branches. -/
theorem entries_eq (node : Node α) :
    node.entries = (node.value.map ([], ·)).toList ++ node.branches.flatMap entriesOf := by
  obtain ⟨value, branches⟩ := node
  rw [entries, entriesOfAll_eq]
  rfl

private theorem mem_entriesOf {label : Label} {child : Node α} {entry : List Label × α} :
    entry ∈ entriesOf (label, child) ↔
      ∃ labels value, (labels, value) ∈ child.entries ∧ entry = (label :: labels, value) := by
  rw [entriesOf, List.mem_map]
  constructor
  · rintro ⟨⟨labels, value⟩, hentry, rfl⟩
    exact ⟨labels, value, hentry, rfl⟩
  · rintro ⟨labels, value, hentry, rfl⟩
    exact ⟨_, hentry, rfl⟩

/-- Without labels there is the value of the node itself. -/
theorem nil_mem_entries {node : Node α} {value : α} :
    ([], value) ∈ node.entries ↔ node.value = some value := by
  rw [entries_eq, List.mem_append, List.mem_flatMap]
  constructor
  · rintro (hown | ⟨⟨label, child⟩, -, hentry⟩)
    · simpa using hown
    · obtain ⟨labels, v, -, heq⟩ := mem_entriesOf.mp hentry
      simp at heq
  · intro hvalue
    left
    simp [hvalue]

/-- Behind a label there are the entries of its branches. -/
theorem cons_mem_entries {node : Node α} {label : Label} {labels : List Label} {value : α} :
    (label :: labels, value) ∈ node.entries ↔
      ∃ child, (label, child) ∈ node.branches ∧ (labels, value) ∈ child.entries := by
  rw [entries_eq, List.mem_append, List.mem_flatMap]
  constructor
  · rintro (hown | ⟨⟨l, child⟩, hbranch, hentry⟩)
    · simp at hown
    · obtain ⟨labels', v, hbelow, heq⟩ := mem_entriesOf.mp hentry
      obtain ⟨⟨rfl, rfl⟩, rfl⟩ : (label = l ∧ labels = labels') ∧ value = v := by
        simpa using heq
      exact ⟨child, hbranch, hbelow⟩
  · rintro ⟨child, hbranch, hentry⟩
    exact Or.inr ⟨_, hbranch, mem_entriesOf.mpr ⟨labels, value, hentry, rfl⟩⟩

end Node

section Inserted

variable {β : Type u} (label : Label) (fresh : β) (f : β → β)

/-- What is changed stands under its label. -/
theorem exists_mem_alter (branches : List (Label × β)) :
    ∃ child, (label, f child) ∈ alter label fresh f branches := by
  induction branches with
  | nil => exact ⟨fresh, List.mem_cons_self⟩
  | cons branch rest ih =>
    obtain ⟨l, child⟩ := branch
    rw [alter]
    split
    · exact ⟨child, List.mem_cons_self⟩
    · split
      · obtain ⟨c, hc⟩ := ih
        exact ⟨c, List.mem_cons_of_mem _ hc⟩
      · exact ⟨fresh, List.mem_cons_self⟩

/-- A branch stays as it is, or it is the one that is changed. -/
theorem mem_alter {branches : List (Label × β)} {l : Label} {child : β}
    (h : (l, child) ∈ branches) :
    (l, child) ∈ alter label fresh f branches ∨
      (label, f child) ∈ alter label fresh f branches := by
  induction branches with
  | nil => contradiction
  | cons branch rest ih =>
    obtain ⟨l', c⟩ := branch
    rw [alter]
    rcases List.mem_cons.mp h with heq | hrest
    · obtain ⟨rfl, rfl⟩ := Prod.mk.inj heq
      split
      · exact Or.inr List.mem_cons_self
      · split
        · exact Or.inl List.mem_cons_self
        · exact Or.inl (List.mem_cons_of_mem _ List.mem_cons_self)
    · split
      · exact Or.inl (List.mem_cons_of_mem _ hrest)
      · split
        · exact (ih hrest).imp (List.mem_cons_of_mem _) (List.mem_cons_of_mem _)
        · exact Or.inl (List.mem_cons_of_mem _ (List.mem_cons_of_mem _ hrest))

/-- A value is listed where it was inserted. -/
theorem Node.mem_entries_insert (value : α) (labels : List Label) (node : Node α) :
    (labels, value) ∈ (node.insert value labels).entries := by
  induction labels generalizing node with
  | nil => exact nil_mem_entries.mpr rfl
  | cons label labels ih =>
    obtain ⟨child, hchild⟩ := exists_mem_alter label empty (insert value labels) node.branches
    exact cons_mem_entries.mpr ⟨_, hchild, ih child⟩

/-- An insertion on the way to a value leaves it listed. -/
theorem Node.mem_entries_insert_of_prefix {labels : List Label} {last : Label} {value : α}
    {node : Node α} (h : (labels ++ [last], value) ∈ node.entries) (other : α) :
    (labels ++ [last], value) ∈ (node.insert other labels).entries := by
  induction labels generalizing node with
  | nil =>
    obtain ⟨child, hchild, hbelow⟩ := cons_mem_entries.mp h
    exact cons_mem_entries.mpr ⟨child, hchild, hbelow⟩
  | cons label labels ih =>
    obtain ⟨child, hchild, hbelow⟩ := cons_mem_entries.mp h
    refine cons_mem_entries.mpr ?_
    rcases mem_alter label empty (insert other labels) hchild with hkept | hchanged
    · exact ⟨child, hkept, hbelow⟩
    · exact ⟨_, hchanged, ih hbelow⟩

/-- A tree lists all that was inserted for a route. -/
theorem Tree.mem_entries_insertAll_ofRoute (tree : Tree α) (segments : List Segment) (value : α) :
    ∀ entry ∈ History.ofRoute segments value,
      (entry.1.map fun segment => (Label.ofSegment segment).render, entry.2) ∈
        (tree.insertAll (.ofRoute segments value)).entries := by
  have hlisted {segments : List Segment} {value : α} {tree : Tree α}
      (h : (segments.map Label.ofSegment, value) ∈ tree.root.entries) :
      (segments.map fun segment => (Label.ofSegment segment).render, value) ∈ tree.entries := by
    refine List.mem_map.mpr ⟨_, h, ?_⟩
    rw [List.map_map]
    rfl
  have hwhole : (segments.map Label.ofSegment, value) ∈ (tree.insert segments value).root.entries :=
    Node.mem_entries_insert value _ tree.root
  rw [History.ofRoute]
  cases hlast : segments.getLast?.any Segment.isOptional with
  | false => exact List.forall_mem_singleton.mpr (hlisted hwhole)
  | true =>
    -- The segments are not empty, so that the second insertion is on the way to the first.
    obtain ⟨last, hsome, -⟩ := (Option.any_eq_true _ _).mp hlast
    have hsplit : segments.map Label.ofSegment =
        segments.dropLast.map Label.ofSegment ++ [Label.ofSegment last] := by
      rw [← List.map_singleton, ← List.map_append, List.dropLast_append_getLast? last hsome]
    rw [hsplit] at hwhole
    refine List.forall_mem_cons.mpr ⟨hlisted ?_, List.forall_mem_singleton.mpr (hlisted ?_)⟩
    · rw [hsplit]
      exact Node.mem_entries_insert_of_prefix hwhole value
    · exact Node.mem_entries_insert value _ _

end Inserted

/-- Insertions at names, which stand for literals. -/
def History.ofNames (places : List (List String × α)) : History α :=
  places.map fun (names, value) => (names.map .literal, value)

/-- The insertions at names that go on with the given one, without it. -/
def under (name : String) (places : List (List String × α)) : List (List String × α) :=
  places.filterMap fun (names, value) =>
    match names with
    | n :: rest => if n = name then some (rest, value) else none
    | [] => none

/-- Below a name, what is at the rest of some names is what was at all of them. -/
theorem latest?_under (name : String) (names : List String) (places : List (List String × α)) :
    latest? names (under name places) = latest? (name :: names) places := by
  rw [latest?, latest?, latestWhere?, latestWhere?, under, List.filterMap_filterMap]
  congr 2
  funext entry
  obtain ⟨ns, value⟩ := entry
  cases ns with
  | nil => rfl
  | cons n rest => by_cases hn : n = name <;> simp [hn]

namespace History

variable (places : List (List String × α))

private theorem value?_ofNames : (ofNames places).value? = latest? [] places := by
  rw [value?, latest?, latestWhere?, latestWhere?, ofNames, List.filterMap_map]
  congr 2
  funext entry
  obtain ⟨names, value⟩ := entry
  simp

private theorem afterLiteral_ofNames (name : String) :
    (ofNames places).afterLiteral name = ofNames (under name places) := by
  rw [afterLiteral, ofNames, ofNames, under, List.filterMap_map, List.map_filterMap]
  congr 1
  funext entry
  obtain ⟨names, value⟩ := entry
  cases names with
  | nil => rfl
  | cons n rest => by_cases hn : n = name <;> simp [hn]

private theorem constrained_ofNames : (ofNames places).constrained = [] := by
  rw [constrained, ofNames, List.filterMap_map, List.filterMap_eq_nil_iff]
  rintro ⟨_ | ⟨name, rest⟩, value⟩ - <;> rfl

private theorem plain_ofNames : (ofNames places).plain = [] := by
  rw [plain, ofNames, List.filterMap_map, List.filterMap_eq_nil_iff]
  rintro ⟨_ | ⟨name, rest⟩, value⟩ - <;> rfl

end History

namespace Node

/-- Under a node at which only literals lead on there is one branch for every name. -/
theorem mem_branches_ofNames {places : List (List String × α)} {label : Label} {child : Node α} :
    (label, child) ∈ (ofHistory (History.ofNames places)).branches ↔
      ∃ name, under name places ≠ [] ∧ label = .literal name ∧
        child = ofHistory (History.ofNames (under name places)) := by
  obtain ⟨texts, -, hmem, hbranches⟩ := laidOut_branches (History.ofNames places)
  have hunder (name : String) : name ∈ texts ↔ under name places ≠ [] := by
    rw [hmem, History.afterLiteral_ofNames, History.ofNames, ne_eq, List.map_eq_nil_iff]
  have hliterals : (ofHistory (History.ofNames places)).branches =
      literalBranches texts fun name => ofHistory (History.ofNames (under name places)) := by
    simp only [hbranches, branchesOf, History.constrained_ofNames, History.plain_ofNames,
      History.afterLiteral_ofNames, constrainedBranches, variableBranch, List.map_nil,
      List.getLast?_nil, Option.map_none, Option.toList_none, List.append_nil]
  rw [hliterals, literalBranches, List.mem_map]
  constructor
  · rintro ⟨name, hname, heq⟩
    obtain ⟨rfl, rfl⟩ := Prod.mk.inj heq
    exact ⟨name, (hunder name).mp hname, rfl, rfl⟩
  · rintro ⟨name, hname, rfl, rfl⟩
    exact ⟨name, (hunder name).mpr hname, rfl⟩

/-- The entries of a node are the names at which something was inserted, with its latest value. -/
theorem mem_entries_ofNames {places : List (List String × α)} {labels : List Label} {value : α} :
    (labels, value) ∈ (ofHistory (History.ofNames places)).entries ↔
      ∃ names : List String, labels = names.map .literal ∧ latest? names places = some value := by
  -- Below the first label there is what was inserted under its name, so the places change too.
  induction labels generalizing places with
  | nil =>
    rw [nil_mem_entries, value_ofHistory, History.value?_ofNames]
    constructor
    · exact fun h => ⟨[], rfl, h⟩
    · rintro ⟨names, hnames, hlatest⟩
      rwa [List.map_eq_nil_iff.mp hnames.symm] at hlatest
  | cons label labels ih =>
    rw [cons_mem_entries]
    constructor
    · rintro ⟨child, hbranch, hentry⟩
      obtain ⟨name, -, rfl, rfl⟩ := mem_branches_ofNames.mp hbranch
      obtain ⟨names, rfl, hlatest⟩ := ih.mp hentry
      exact ⟨name :: names, rfl, latest?_under name names places ▸ hlatest⟩
    · rintro ⟨names, hnames, hlatest⟩
      obtain ⟨name, names, rfl, rfl, rfl⟩ := List.map_eq_cons_iff.mp hnames.symm
      rw [← latest?_under] at hlatest
      have hne : under name places ≠ [] := by
        rintro hempty
        rw [hempty] at hlatest
        contradiction
      exact ⟨_, mem_branches_ofNames.mpr ⟨name, hne, rfl, rfl⟩, ih.mpr ⟨names, rfl, hlatest⟩⟩

end Node

/-- A tree in which only literals lead on lists its names, with the latest value at each. -/
theorem Tree.mem_entries_ofNames {places : List (List String × α)} {names : List String}
    {value : α} :
    (names, value) ∈ (Tree.ofHistory (History.ofNames places)).entries ↔
      latest? names places = some value := by
  have hrender (names : List String) : (names.map Label.literal).map Label.render = names := by
    rw [List.map_map]
    exact List.map_id names
  rw [entries, root_ofHistory, List.mem_map]
  constructor
  · rintro ⟨⟨labels, v⟩, hentry, heq⟩
    obtain ⟨names', rfl, hlatest⟩ := Node.mem_entries_ofNames.mp hentry
    obtain ⟨rfl, rfl⟩ := Prod.mk.inj heq
    rwa [hrender]
  · intro hlatest
    refine ⟨(names.map .literal, value), Node.mem_entries_ofNames.mpr ⟨names, rfl, hlatest⟩, ?_⟩
    rw [hrender]

end Signpost.Route
