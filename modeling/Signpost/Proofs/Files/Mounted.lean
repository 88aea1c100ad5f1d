import Signpost.Proofs.Files.Mounts
import Signpost.Proofs.Files.Serving
import Signpost.Proofs.Route.Listing

/-!
# The mounts of served directories

Directories are served one after the other, each at a path that holds no placeholder.  Main
statement: there is one mount for every such path, which has the latest stack; the mounts are in an
order that the paths alone decide, and a path goes to a deepest one that begins it.  So the order in
which directories are served at different paths does not count.
-/

namespace Signpost

universe u

/-- Whether a path has more segments than another, or as many and the lesser text. -/
def Path.DeeperFirst (a b : String) : Prop :=
  (segments b).length < (segments a).length ∨
    (segments a).length = (segments b).length ∧ Text.Percent.bytes a < Text.Percent.bytes b

private theorem Path.DeeperFirst.asymm {a b : String} (h : DeeperFirst a b) : ¬DeeperFirst b a := by
  rintro (h' | ⟨heq', hlt'⟩)
  · rcases h with h | ⟨heq, -⟩ <;> omega
  · rcases h with h | ⟨-, hlt⟩
    · omega
    · exact List.lt_asymm hlt hlt'

namespace Files

variable {α : Type u}

private theorem Place.names_ofPath (path : String) : (ofPath path).names = Path.segments path := by
  rw [ofPath]

/-- A canonical path is the text of its place. -/
theorem Place.text_ofPath {path : String} (h : Path.render (Path.segments path) = path) :
    (ofPath path).text = path := by rw [text, names_ofPath, h]

private theorem Place.depth_ofPath (path : String) :
    (ofPath path).depth = (Path.segments path).length := by
  rw [depth, names_ofPath]

/-- What mounts are that show what is served at paths. -/
structure Mounts.Shows (mounts : Mounts α) (served : List (String × α)) : Prop where
  /-- No path is listed twice. -/
  once : (mounts.toList.map (·.base)).Nodup
  /-- Those paths are listed at which something is served, with what was served last. -/
  mem_iff : ∀ mount, mount ∈ mounts.toList ↔
    latest? mount.base served = some mount.value ∧
      mount.depth = (Path.segments mount.base).length
  /-- The paths decide the order. -/
  sorted : (mounts.toList.map (·.base)).Pairwise Path.DeeperFirst
  /-- A path goes nowhere if no listed one begins it. -/
  none_iff : ∀ path, mounts.resolve? path = none ↔
    ∀ mount ∈ mounts.toList, ¬∃ rest, mount.base ++ rest = path
  /-- Otherwise it goes to one that begins it, and no deeper one does. -/
  of_some : ∀ path value rest, mounts.resolve? path = some (value, rest) →
    ∃ mount ∈ mounts.toList, mount.value = value ∧ mount.base ++ rest = path ∧
      ∀ other ∈ mounts.toList, (∃ more, other.base ++ more = path) → other.depth ≤ mount.depth

namespace Mounts

private theorem resolve?_eq_none_iff {mounts : Mounts α} {path : String} :
    mounts.resolve? path = none ↔
      ∀ mount ∈ mounts.toList, ¬∃ rest, mount.base ++ rest = path := by
  rw [resolve?, List.findSome?_eq_none_iff]
  refine forall₂_congr fun mount _ => ?_
  rw [Option.map_eq_none_iff, Option.eq_none_iff_forall_ne_some, not_exists]
  refine forall_congr' fun rest => not_congr ?_
  rw [Text.after?_eq_some_iff, eq_comm]

/-- No two mounts of places have one path. -/
theorem nodup_base_ofPlaces (served : List (Place × α)) :
    ((ofPlaces served).toList.map (·.base)).Nodup := by
  have hplace {names : List String} (h : names ∈ (Route.Tree.ofHistory
      (Route.History.ofNames (named served))).entries.map Prod.fst) :
      ∃ place : Place, place.names = names := by
    obtain ⟨⟨_, value⟩, hentry, rfl⟩ := List.mem_map.mp h
    have hlatest := Route.Tree.mem_entries_ofNames.mp hentry
    obtain ⟨entry, -, heq⟩ := List.mem_map.mp (mem_of_latest? hlatest)
    exact ⟨entry.1, (Prod.mk.inj heq).1⟩
  have hrendered : (((Route.Tree.ofHistory (Route.History.ofNames (named served))).entries.map
      Prod.fst).map Path.render).Nodup := by
    refine (Route.Tree.nodup_entries_ofNames (named served)).map_on ?_
    intro a ha b hb heq
    obtain ⟨place, rfl⟩ := hplace ha
    obtain ⟨place', rfl⟩ := hplace hb
    rw [Place.text_injective heq]
  have hperm := (List.mergeSort_perm ((Route.Tree.ofHistory
    (Route.History.ofNames (named served))).entries.map fun entry =>
      (⟨Path.render entry.1, entry.1.length, entry.2⟩ : Mount α)) Mount.goesBefore).map (·.base)
  rw [ofPlaces, ofTree]
  rw [List.map_map] at hperm hrendered
  refine hperm.nodup_iff.mpr ?_
  exact hrendered

/-- The mounts of what is served at paths, one after the other. -/
def ofPaths (served : List (String × α)) : Mounts α :=
  ofPlaces (served.map fun entry => (.ofPath entry.1, entry.2))

/-- What is at a path that a place has for its text is what is at the place. -/
theorem latest?_ofPath {served : List (String × α)}
    (hcanonical : ∀ entry ∈ served, Path.render (Path.segments entry.1) = entry.1) {base : String}
    (hbase : Path.render (Path.segments base) = base) :
    latest? (Place.ofPath base) (served.map fun entry => (.ofPath entry.1, entry.2)) =
      latest? base served := by
  refine latest?_map fun entry hentry hsame => ?_
  rw [← Place.text_ofPath (hcanonical entry hentry), hsame, Place.text_ofPath hbase]

private theorem mem_ofPaths {served : List (String × α)}
    (hcanonical : ∀ entry ∈ served, Path.render (Path.segments entry.1) = entry.1)
    (mount : Mount α) :
    mount ∈ (ofPaths served).toList ↔
      latest? mount.base served = some mount.value ∧
        mount.depth = (Path.segments mount.base).length := by
  rw [ofPaths, mem_ofPlaces]
  constructor
  · rintro ⟨place, hlatest, hbase, hdepth⟩
    have hplace := exists_latest?_iff.mp ⟨_, hlatest⟩
    obtain ⟨_, hplaced, rfl⟩ := List.mem_map.mp hplace
    obtain ⟨entry, hentry, rfl⟩ := List.mem_map.mp hplaced
    have hcanon := hcanonical entry hentry
    rw [latest?_ofPath hcanonical hcanon] at hlatest
    rw [Place.text_ofPath hcanon] at hbase
    rw [Place.depth_ofPath] at hdepth
    rw [hbase]
    exact ⟨hlatest, hdepth⟩
  · rintro ⟨hlatest, hdepth⟩
    obtain ⟨entry, hentry, hbase⟩ := List.mem_map.mp (exists_latest?_iff.mp ⟨_, hlatest⟩)
    have hcanon := hcanonical entry hentry
    rw [hbase] at hcanon
    refine ⟨.ofPath mount.base, ?_, (Place.text_ofPath hcanon).symm, ?_⟩
    · rw [latest?_ofPath hcanonical hcanon, hlatest]
    · rw [Place.depth_ofPath, hdepth]

namespace Shows

/-- Mounts in their order show what is served if they are those of it. -/
theorem of_mem_iff {mounts : Mounts α} {served : List (String × α)}
    (horder : mounts.toList.Pairwise fun a b => a.goesBefore b = true)
    (honce : (mounts.toList.map (·.base)).Nodup)
    (hmem : ∀ mount, mount ∈ mounts.toList ↔
      latest? mount.base served = some mount.value ∧
        mount.depth = (Path.segments mount.base).length) : mounts.Shows served where
  once := honce
  mem_iff := hmem
  sorted := by
    have hapart := horder.and (List.pairwise_map.mp honce)
    refine List.pairwise_map.mpr (hapart.imp_of_mem ?_)
    rintro a b ha hb ⟨hbefore, hne⟩
    rw [Mount.goesBefore_iff, ((hmem a).mp ha).2, ((hmem b).mp hb).2] at hbefore
    rw [Path.DeeperFirst]
    exact hbefore.imp_right fun h => ⟨h.1, Text.bytes_lt_bytes (lt_of_le_of_ne h.2 hne)⟩
  none_iff := fun _ => resolve?_eq_none_iff
  of_some := by
    intro path value rest hresolve
    obtain ⟨mount, hmount, hvalue, hpath, hfirst⟩ := exists_of_resolve? horder hresolve
    refine ⟨mount, hmount, hvalue, hpath.symm, ?_⟩
    rintro other hother ⟨more, hmore⟩
    rcases hfirst other hother more hmore.symm with rfl | hbefore
    · exact Nat.le_refl _
    · rcases Mount.goesBefore_iff.mp hbefore with hlt | ⟨heq, -⟩
      · exact hlt.le
      · exact heq.ge

variable {mounts mounts' : Mounts α} {served served' : List (String × α)}

private theorem mem_base_iff (h : mounts.Shows served) {base : String} :
    base ∈ mounts.toList.map (·.base) ↔ base ∈ served.map Prod.fst := by
  rw [← exists_latest?_iff, List.mem_map]
  constructor
  · rintro ⟨mount, hmount, rfl⟩
    exact ⟨mount.value, ((h.mem_iff mount).mp hmount).1⟩
  · rintro ⟨value, hlatest⟩
    refine ⟨⟨base, (Path.segments base).length, value⟩, (h.mem_iff _).mpr ⟨hlatest, ?_⟩, rfl⟩
    dsimp only

/-- The order of the mounts depends on nothing but the set of their paths. -/
theorem map_base_eq (h : mounts.Shows served) (h' : mounts'.Shows served')
    (hsame : ∀ base, base ∈ served.map Prod.fst ↔ base ∈ served'.map Prod.fst) :
    mounts.toList.map (·.base) = mounts'.toList.map (·.base) := by
  refine eq_of_pairwise_of_mem_iff (fun _ _ => Path.DeeperFirst.asymm) h.sorted h'.sorted ?_
  intro base
  rw [h.mem_base_iff, h'.mem_base_iff, hsame]

/-- Mounts are the same if at every path the same was served last. -/
theorem mounts_eq (h : mounts.Shows served) (h' : mounts'.Shows served')
    (hsame : ∀ base, latest? base served = latest? base served') : mounts = mounts' := by
  have hlists : mounts.toList = mounts'.toList := by
    have hsorted := List.pairwise_map.mp h.sorted
    have hsorted' := List.pairwise_map.mp h'.sorted
    refine eq_of_pairwise_of_mem_iff (fun _ _ => Path.DeeperFirst.asymm) hsorted hsorted' ?_
    intro mount
    rw [h.mem_iff, h'.mem_iff, hsame]
  exact congrArg Mounts.mk hlists

end Shows

/-- The mounts of canonical paths show what is served there. -/
theorem shows_ofPaths {served : List (String × α)}
    (hcanonical : ∀ entry ∈ served, Path.render (Path.segments entry.1) = entry.1) :
    (ofPaths served).Shows served :=
  .of_mem_iff (pairwise_ofTree _) (nodup_base_ofPlaces _) (mem_ofPaths hcanonical)

end Mounts

end Files

variable {ε : Type}

/-- A directory that is served, at a path within a scope. -/
structure Serving (ε : Type) where
  /-- The scope. -/
  scope : Scope ε := {}
  /-- The file system of the directory. -/
  files : Files.Tree
  /-- The path within the scope. -/
  path : String
  /-- The directory. -/
  dir : Files.Directory

namespace Serving

/-- The whole path at which the directory is served. -/
def base (call : Serving ε) : String := Path.join call.scope.base call.path

/-- What answers there. -/
def stack (call : Serving ε) : Stack ε := call.scope.middleware ++ [call.dir.handler call.files]

/-- What is served where. -/
def entry (call : Serving ε) : String × Stack ε := (call.base, call.stack)

/-- Whether the path holds no placeholder. -/
def IsLiteral (call : Serving ε) : Prop :=
  ∀ segment ∈ Path.segments call.base, Route.Placeholder.parse? segment = none

/-- Serve a directory in its scope. -/
def register (call : Serving ε) : Registration ε Unit :=
  withReader (fun _ => call.scope) (Registration.serve call.files call.path call.dir)

/-- Serve directories one after the other. -/
def registerAll (calls : List (Serving ε)) : Registration ε Unit := calls.forM register

/-- Serving a directory at literals succeeds and puts its stack where they lead. -/
theorem register_apply {call : Serving ε} (hliteral : call.IsLiteral) (scope : Scope ε)
    (router : Router ε) :
    call.register scope router = (.ok (), { router with
      served := router.served.insert ((Path.segments call.base).map .literal) call.stack }) := by
  rw [IsLiteral, base] at hliteral
  rw [register, Registration.withReader_apply,
    Registration.serve_apply call.files call.dir call.scope hliteral, base, stack]

/-- Serving directories at literals succeeds and changes nothing but the served files. -/
theorem registerAll_apply {calls : List (Serving ε)} (hliteral : ∀ call ∈ calls, call.IsLiteral)
    (scope : Scope ε) (router : Router ε) :
    registerAll calls scope router = (.ok (), { router with
      served := calls.foldl (fun tree call =>
        tree.insert ((Path.segments call.base).map .literal) call.stack) router.served }) := by
  induction calls generalizing router with
  | nil => rfl
  | cons call rest ih =>
    rw [List.forall_mem_cons] at hliteral
    have hrest := ih hliteral.2 { router with
      served := router.served.insert ((Path.segments call.base).map .literal) call.stack }
    rw [registerAll, List.forM_eq_forM] at hrest ⊢
    rw [List.forM_cons, Registration.bind_apply, register_apply hliteral.1]
    dsimp only
    rw [hrest, List.foldl_cons]

/-- The mounts of directories that are served from nothing on are those of their paths. -/
theorem ofTree_foldl (calls : List (Serving ε)) :
    Files.Mounts.ofTree (calls.foldl (fun tree call =>
      tree.insert ((Path.segments call.base).map .literal) call.stack)
        ({} : Route.Tree (Stack ε))) = .ofPaths (calls.map entry) := by
  rw [Files.Mounts.ofPaths, Files.Mounts.ofPlaces, Route.Tree.ofHistory, Route.History.ofNames,
    Files.Mounts.named, List.foldl_map, List.foldl_map, List.foldl_map, List.foldl_map]
  simp only [entry, Files.Place.names_ofPath]

/-- Serving directories at literals gives mounts that show what is served. -/
theorem exists_registerAll {calls : List (Serving ε)} (hliteral : ∀ call ∈ calls, call.IsLiteral)
    {router : Router ε} (hserved : router.served = {}) :
    ∃ served, registerAll calls {} router = (.ok (), { router with served }) ∧
      (Files.Mounts.ofTree served).Shows (calls.map entry) := by
  refine ⟨_, registerAll_apply hliteral {} router, ?_⟩
  rw [hserved, ofTree_foldl]
  refine Files.Mounts.shows_ofPaths ?_
  rw [List.forall_mem_map]
  intro call _
  rw [entry, base, Path.render_segments_join]

/-- What is served last at a path is served by the last call for it. -/
theorem latest?_entry (base : String) (calls : List (Serving ε)) :
    latest? base (calls.map entry) =
      (calls.filter (·.base = base)).getLast?.map stack := by
  rw [latest?, latestWhere?_eq_filter, List.filter_map, List.getLast?_map, Option.map_map]
  rfl

/-- Directories that are served one after the other, at literals in any scopes, are mounted once for
every path, with the stack of the last call for it, in an order that the paths decide.  Whatever
the order of calls for different paths, every path of a request goes to the same. -/
theorem registerAll_shows {calls calls' : List (Serving ε)}
    (hliteral : ∀ call ∈ calls, call.IsLiteral) (hliteral' : ∀ call ∈ calls', call.IsLiteral)
    {router : Router ε} (hserved : router.served = {}) :
    ∃ served served', registerAll calls {} router = (.ok (), { router with served }) ∧
      registerAll calls' {} router = (.ok (), { router with served := served' }) ∧
      (Files.Mounts.ofTree served).Shows (calls.map entry) ∧
      ((∀ base, base ∈ calls.map Serving.base ↔ base ∈ calls'.map Serving.base) →
        (Files.Mounts.ofTree served).toList.map (·.base) =
          (Files.Mounts.ofTree served').toList.map (·.base)) ∧
      ((∀ base, calls.filter (·.base = base) = calls'.filter (·.base = base)) →
        ∀ path, (Files.Mounts.ofTree served).resolve? path =
          (Files.Mounts.ofTree served').resolve? path) ∧
      ((calls.map Serving.base).Nodup → calls.Perm calls' →
        ∀ path, (Files.Mounts.ofTree served).resolve? path =
          (Files.Mounts.ofTree served').resolve? path) := by
  obtain ⟨served, happly, hshows⟩ := exists_registerAll hliteral hserved
  obtain ⟨served', happly', hshows'⟩ := exists_registerAll hliteral' hserved
  have hsame (h : ∀ base, calls.filter (·.base = base) = calls'.filter (·.base = base)) :
      Files.Mounts.ofTree served = Files.Mounts.ofTree served' := by
    refine hshows.mounts_eq hshows' fun base => ?_
    rw [latest?_entry, latest?_entry, h]
  refine ⟨served, served', happly, happly', hshows, ?_, ?_, ?_⟩
  · intro hbases
    refine hshows.map_base_eq hshows' fun base => ?_
    rw [List.map_map, List.map_map]
    exact hbases base
  · intro h path
    rw [hsame h]
  · intro hnodup hperm path
    rw [hsame fun base => filter_eq_of_perm hnodup hperm base]

/-- Directories at the root, at a path and below it are mounted alike from the last to the first. -/
theorem registerAll_shows_assets :
    let files : Files.Tree := .dir []
    let calls : List (Serving Unit) := [⟨{}, files, "/", { root := ["public"] }⟩,
      ⟨{ base := "/assets" }, files, "vendor", { root := ["vendor"] }⟩,
      ⟨{}, files, "assets", { root := ["assets"] }⟩]
    (∀ call ∈ calls, call.IsLiteral) ∧ (calls.map Serving.base).Nodup ∧
      ∃ served served', registerAll calls {} {} = (.ok (), { served }) ∧
        registerAll calls.reverse {} {} = (.ok (), { served := served' }) ∧
        (Files.Mounts.ofTree served).Shows (calls.map entry) ∧
        ∀ path, (Files.Mounts.ofTree served).resolve? path =
          (Files.Mounts.ofTree served').resolve? path := by
  intro files calls
  have hliteral : ∀ call ∈ calls, call.IsLiteral := by
    have h : ∀ base ∈ calls.map Serving.base, ∀ segment ∈ Path.segments base,
        Route.Placeholder.parse? segment = none := by decide +kernel
    exact fun call hcall => h call.base (List.mem_map_of_mem hcall)
  have hliteral' : ∀ call ∈ calls.reverse, call.IsLiteral := fun call hcall =>
    hliteral call (List.mem_reverse.mp hcall)
  have hnodup : (calls.map Serving.base).Nodup := by decide +kernel
  obtain ⟨served, served', happly, happly', hshows, -, -, hsame⟩ :=
    registerAll_shows hliteral hliteral' (rfl : ({} : Router Unit).served = {})
  exact ⟨hliteral, hnodup, served, served', happly, happly', hshows,
    hsame hnodup calls.reverse_perm.symm⟩

end Serving

end Signpost
