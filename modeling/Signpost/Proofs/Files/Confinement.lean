import Signpost.Files.Directory
import Signpost.Proofs.Path

/-!
# Served directories and what is outside of them

Each segment of a request leads down by one name or nowhere, so a served directory is never left.
Loading is also written as a sequence of looks at single paths, so that the paths can be noted.
Main statement: two file systems that look the same from a served directory downwards answer every
request for it alike, and no path is ever looked at that leads anywhere else.
-/

namespace Signpost.Files

/-- What there is at a path, without what is under it. -/
inductive Sight
  /-- A directory. -/
  | directory
  /-- A file with its content. -/
  | file (content : ByteArray)

namespace Tree

/-- What is seen of a tree from the outside. -/
def sight : Tree → Sight
  | .dir _ => .directory
  | .file content => .file content

/-- What there is at a path. -/
def sight? (files : Tree) (path : FilePath) : Option Sight := (files.locate path).map sight

/-- What is above a directory does not matter to names that lead down from it. -/
theorem follow_of_goesDown {names : FilePath} (h : ∀ name ∈ names, Path.GoesDown name)
    (above above' : List Tree) (place : Tree) :
    place.follow above names = place.follow above' names := by
  induction names generalizing above above' place with
  | nil => rfl
  | cons name rest ih =>
    rw [List.forall_mem_cons] at h
    obtain ⟨⟨⟨hne, -⟩, hdot, hdotdot⟩, hrest⟩ := h
    rw [follow.eq_def, follow.eq_def above']
    by_cases hdir : place.isDir = true
    · simp only [hdir, hne, hdot, hdotdot, Bool.not_true, Bool.false_eq_true, or_self, if_false]
      cases place.child? name with
      | none => rfl
      | some next => exact ih hrest (place :: above) (place :: above') next
    · simp [hdir]

end Tree

/-- Whether a path leads to a directory or further down from it. -/
def FilePath.Below (root path : FilePath) : Prop :=
  ∃ names : List String, (∀ name ∈ names, Path.GoesDown name) ∧ path = root ++ names

/-- Whether two file systems look the same from a directory downwards. -/
def Tree.AgreeBelow (root : FilePath) (files files' : Tree) : Prop :=
  ∀ path, FilePath.Below root path → files.sight? path = files'.sight? path

namespace FilePath

private theorem Below.refl (root : FilePath) :
    Below root root := ⟨[], nofun, (List.append_nil root).symm⟩

/-- A name that goes down is put behind the path as it is. -/
theorem push_of_goesDown (path : FilePath) {name : String} (h : Path.GoesDown name) :
    path.push name = path ++ [name] := by
  have hslash : '/' ∉ name.toList := h.1.2
  rw [push, Text.after?_slash_of_not_mem hslash, Text.pieces_of_not_mem hslash]

private theorem Below.push {root path : FilePath} (h : Below root path) {name : String}
    (hname : Path.GoesDown name) : Below root (path.push name) := by
  obtain ⟨names, hnames, rfl⟩ := h
  refine ⟨names ++ [name], ?_, ?_⟩
  · rw [List.forall_mem_append, List.forall_mem_singleton]
    exact ⟨hnames, hname⟩
  · rw [push_of_goesDown _ hname, List.append_assoc]

end FilePath

/-- A name among the components of a path goes down. -/
theorem goesDown_of_mem_components
    {path name : String} (h : Component.name name ∈ components path) :
    Path.GoesDown name := by
  have hparts {text : String} {parts : List String}
      (hsub : ∀ part ∈ parts, part ∈ Text.pieces '/' text)
      (hmem : Component.name name ∈ parts.filterMap Component.ofPart?) : Path.GoesDown name := by
    obtain ⟨part, hpart, hname⟩ := List.mem_filterMap.mp hmem
    have hslash : '/' ∉ part.toList := Text.not_mem_of_mem_pieces (hsub part hpart)
    rw [Component.ofPart?] at hname
    split at hname
    next => contradiction
    next hnowhere =>
      rw [not_or] at hnowhere
      split at hname
      next => simp at hname
      next hdotdot =>
        obtain rfl : part = name := Component.name.inj (Option.some.inj hname)
        exact ⟨⟨hnowhere.1, hslash⟩, hnowhere.2, hdotdot⟩
  unfold components at h
  split at h
  next rest _ =>
    rw [List.mem_cons, or_iff_right Component.noConfusion] at h
    exact hparts (fun _ => id) h
  next =>
    split at h
    next rest hpieces =>
      rw [List.mem_cons, or_iff_right Component.noConfusion] at h
      exact hparts (fun part hpart => hpieces ▸ List.mem_cons_of_mem _ hpart) h
    next => exact hparts (fun _ => id) h

namespace Directory

/-- A segment leads nowhere else or down by one name. -/
theorem descend?_cases {path path' : FilePath} {segment : String}
    (h : descend? path segment = some path') :
    path' = path ∨ ∃ name, Path.GoesDown name ∧ path' = path.push name := by
  unfold descend? at h
  split at h
  next => exact Or.inl (Option.some.inj h).symm
  next => exact Or.inl (Option.some.inj h).symm
  next name hname =>
    have hdown : Path.GoesDown name :=
      goesDown_of_mem_components (hname ▸ List.mem_singleton_self _)
    exact Or.inr ⟨name, hdown, (Option.some.inj h).symm⟩
  next => contradiction

/-- No request leads out of a served directory. -/
theorem below_of_target? {dir : Directory} {remainder : String} {path : FilePath}
    (h : dir.target? remainder = some path) : FilePath.Below dir.root path := by
  suffices hfold : ∀ (segments : List String) (start : FilePath), FilePath.Below dir.root start →
      segments.foldlM descend? start = some path → FilePath.Below dir.root path from
    hfold _ _ (FilePath.Below.refl dir.root) h
  intro segments
  induction segments with
  | nil =>
    intro start hstart hpath
    obtain rfl : start = path := Option.some.inj hpath
    exact hstart
  | cons segment rest ih =>
    intro start hstart hpath
    rw [List.foldlM_cons] at hpath
    obtain ⟨next, hnext, hrest⟩ := Option.bind_eq_some_iff.mp hpath
    rcases descend?_cases hnext with rfl | ⟨name, hname, rfl⟩
    · exact ih _ hstart hrest
    · exact ih _ (hstart.push hname) hrest

/-- The path to read from, given what was seen at the one that a request leads to. -/
def indexed (dir : Directory) (path : FilePath) : Option Sight → Except LoadError FilePath
  | some .directory =>
    match dir.index with
    | some index => .ok (path.push index)
    | none => .error .directoryListing
  | _ => .ok path

/-- What is read from a path, given what was seen at it. -/
def contentAt (path : FilePath) : Option Sight → Except LoadError (ByteArray × String)
  | some (.file content) => .ok (content, contentType path)
  | _ => .error .fileNotFound

section Looking

variable {m : Type → Type} [Monad m] (look : FilePath → m (Option Sight))

/-- Read the file at a path by a look at it, if there is a path to read from. -/
def readVia : Except LoadError FilePath → m (Except LoadError (ByteArray × String))
  | .ok path => look path >>= fun seen => pure (contentAt path seen)
  | .error error => pure (.error error)

/-- Load a file by looks at single paths. -/
def loadVia (dir : Directory) (remainder : String) : m (Except LoadError (ByteArray × String)) :=
  match dir.target? remainder with
  | some path => look path >>= fun seen => readVia look (dir.indexed path seen)
  | none => pure (.error .invalidPath)

end Looking

/-- Loading is looking at single paths of the file system. -/
theorem load_eq_loadVia (dir : Directory) (files : Tree) (remainder : String) :
    dir.load files remainder = dir.loadVia (m := Id) files.sight? remainder := by
  unfold load loadVia
  cases dir.target? remainder with
  | none => rfl
  | some path =>
    have hlook : (files.sight? path >>= fun seen => readVia files.sight? (dir.indexed path seen) :
          Id (Except LoadError (ByteArray × String))) =
        readVia (m := Id) files.sight? (dir.indexed path (files.sight? path)) := rfl
    have hread (path : FilePath) :
        readVia (m := Id) files.sight? (.ok path) = contentAt path (files.sight? path) := rfl
    refine Eq.trans ?_ hlook.symm
    rcases hfound : files.locate path with _ | ⟨content | entries⟩
    · have hseen : files.sight? path = none := by rw [Tree.sight?, hfound, Option.map_none]
      have hindexed : dir.indexed path none = .ok path := rfl
      rw [hseen, hindexed, hread, hseen]
      simp only [pure_bind, hfound]
      rfl
    · have hseen : files.sight? path = some (.file content) := by
        rw [Tree.sight?, hfound, Option.map_some, Tree.sight]
      have hindexed : dir.indexed path (some (.file content)) = .ok path := rfl
      rw [hseen, hindexed, hread, hseen]
      simp only [pure_bind, hfound]
      rfl
    · have hseen : files.sight? path = some .directory := by
        rw [Tree.sight?, hfound, Option.map_some, Tree.sight]
      rw [hseen, indexed]
      simp only [hfound]
      cases dir.index with
      | none => rfl
      | some index =>
        dsimp only
        rw [hread, Tree.sight?, pure_bind]
        rcases files.locate (path.push index) with _ | ⟨content | entries⟩ <;> rfl

private theorem below_of_indexed
    {dir : Directory} (hindex : ∀ index ∈ dir.index, Path.GoesDown index)
    {path path' : FilePath} (h : FilePath.Below dir.root path) {seen : Option Sight}
    (hpath : dir.indexed path seen = .ok path') : FilePath.Below dir.root path' := by
  unfold indexed at hpath
  split at hpath
  next =>
    cases hname : dir.index with
    | none =>
      rw [hname] at hpath
      contradiction
    | some index =>
      rw [hname] at hpath
      obtain rfl : path.push index = path' := Except.ok.inj hpath
      exact h.push (hindex index hname)
  next =>
    obtain rfl : path = path' := Except.ok.inj hpath
    exact h

/-- Look at a path and take note of it. -/
def noting (files : Tree) (path : FilePath) : StateM (List FilePath) (Option Sight) := do
  modify (· ++ [path])
  return files.sight? path

section Confined

variable {dir : Directory}

/-- What leads to no target is not looked up. -/
theorem load_of_target?_eq_none {remainder : String} (h : dir.target? remainder = none)
    (files : Tree) : dir.load files remainder = .error .invalidPath := by
  rw [load_eq_loadVia, loadVia, h]
  rfl

/-- One look shows where to read, and a second one what. -/
theorem load_of_target?_eq_some {remainder : String} {path : FilePath}
    (h : dir.target? remainder = some path) (files : Tree) :
    dir.load files remainder =
      readVia (m := Id) files.sight? (dir.indexed path (files.sight? path)) := by
  rw [load_eq_loadVia, loadVia, h]
  rfl

/-- Taking note of the paths does not change what is loaded, and no path is noted but that of the
directory and those under it. -/
theorem loadVia_noting (hindex : ∀ index ∈ dir.index, Path.GoesDown index) (files : Tree)
    (remainder : String) :
    ∃ noted, dir.loadVia (noting files) remainder [] = (dir.load files remainder, noted) ∧
      ∀ path ∈ noted, FilePath.Below dir.root path := by
  cases htarget : dir.target? remainder with
  | none =>
    rw [load_of_target?_eq_none htarget, loadVia, htarget]
    exact ⟨[], rfl, nofun⟩
  | some path =>
    have hbelow : FilePath.Below dir.root path := below_of_target? htarget
    have hnoting : dir.loadVia (noting files) remainder [] =
        readVia (noting files) (dir.indexed path (files.sight? path)) [path] := by
      rw [loadVia, htarget]
      rfl
    rw [load_of_target?_eq_some htarget, hnoting]
    cases hindexed : dir.indexed path (files.sight? path) with
    | error error => exact ⟨[path], rfl, by simpa using hbelow⟩
    | ok path' =>
      have hbelow' : FilePath.Below dir.root path' := below_of_indexed hindex hbelow hindexed
      exact ⟨[path, path'], rfl, by simpa using ⟨hbelow, hbelow'⟩⟩

/-- A request is answered alike by file systems that look the same from the directory downwards. -/
theorem load_eq_of_agreeBelow (hindex : ∀ index ∈ dir.index, Path.GoesDown index)
    {files files' : Tree} (h : Tree.AgreeBelow dir.root files files') (remainder : String) :
    dir.load files remainder = dir.load files' remainder := by
  cases htarget : dir.target? remainder with
  | none => rw [load_of_target?_eq_none htarget, load_of_target?_eq_none htarget]
  | some path =>
    have hbelow : FilePath.Below dir.root path := below_of_target? htarget
    rw [load_of_target?_eq_some htarget, load_of_target?_eq_some htarget, h path hbelow]
    cases hindexed : dir.indexed path (files'.sight? path) with
    | error error => rfl
    | ok path' =>
      have hbelow' : FilePath.Below dir.root path' := below_of_indexed hindex hbelow hindexed
      exact congrArg (contentAt path') (h path' hbelow')

/-- Loading a file depends on nothing but what there is from the served directory downwards, for
every request; and it looks at no path that leads anywhere else. -/
theorem load_confined (hindex : ∀ index ∈ dir.index, Path.GoesDown index) (remainder : String) :
    (∀ files files' : Tree, Tree.AgreeBelow dir.root files files' →
      dir.load files remainder = dir.load files' remainder) ∧
    ∀ files : Tree, ∃ looked,
      dir.loadVia (noting files) remainder [] = (dir.load files remainder, looked) ∧
      ∀ path ∈ looked, ∃ names : List String, path = dir.root ++ names ∧
        ∀ name ∈ names, name ≠ "" ∧ '/' ∉ name.toList ∧ name ≠ "." ∧ name ≠ ".." := by
  refine ⟨fun files files' h => load_eq_of_agreeBelow hindex h remainder, fun files => ?_⟩
  obtain ⟨looked, hlooked, hbelow⟩ := loadVia_noting hindex files remainder
  refine ⟨looked, hlooked, fun path hpath => ?_⟩
  obtain ⟨names, hnames, hroot⟩ := hbelow path hpath
  refine ⟨names, hroot, fun name hname => ?_⟩
  obtain ⟨⟨hne, hslash⟩, hdot, hdotdot⟩ := hnames name hname
  exact ⟨hne, hslash, hdot, hdotdot⟩

end Confined

/-- A site that serves a page, with a key beside the served directory. -/
def siteWithKey (key : String) : Tree :=
  .dir [("site", .dir [("public", .dir [("index.html", .file "page".toUTF8)]),
    ("key", .file key.toUTF8)])]

/-- A served directory looks the same with any key beside it. -/
theorem agreeBelow_siteWithKey (key key' : String) :
    Tree.AgreeBelow ["site", "public"] (siteWithKey key) (siteWithKey key') := by
  rintro path ⟨names, hnames, rfl⟩
  have hlocate (key : String) : (siteWithKey key).locate (["site", "public"] ++ names) =
      (Tree.dir [("index.html", .file "page".toUTF8)]).locate names :=
    Tree.follow_of_goesDown hnames _ [] _
  rw [Tree.sight?, Tree.sight?, hlocate, hlocate]

/-- The page is served whatever the key is. -/
theorem load_confined_siteWithKey :
    Path.GoesDown "index.html" ∧
    ({ root := ["site", "public"] } : Directory).load (siteWithKey "old") "/" =
      ({ root := ["site", "public"] } : Directory).load (siteWithKey "new") "/" := by
  have hindex : Path.GoesDown "index.html" := by
    refine ⟨⟨?_, ?_⟩, ?_, ?_⟩ <;> decide
  refine ⟨hindex, (load_confined ?_ "/").1 _ _ (agreeBelow_siteWithKey "old" "new")⟩
  intro index h
  obtain rfl : "index.html" = index := Option.some.inj h
  exact hindex

end Directory

end Signpost.Files
