import Signpost.Files.Mounts
import Signpost.Proofs.Files.Place
import Signpost.Proofs.Route.Entries

/-!
# Which mount a path belongs to

Mounts are tried by depth, those of one depth by their text, so a path goes to the shortest of the
deepest mounts that begin it.  Main statement: this is always the longest mount that begins the path
exactly if no mount begins the text of another one of its depth; one that does hides it for good.
-/

namespace Signpost.Files

universe u

variable {α : Type u}

/-- Whether a path begins with the text of a place. -/
def Place.Begins (place : Place) (path : String) : Prop := ∃ rest, path = place.text ++ rest

namespace Mount

/-- A deeper mount goes first, and of those of one depth that with the lesser text. -/
theorem goesBefore_iff {a b : Mount α} :
    a.goesBefore b = true ↔ b.depth < a.depth ∨ a.depth = b.depth ∧ a.base ≤ b.base := by
  rw [goesBefore]
  split
  next h => simp [h]
  next h => simp [h]

private theorem goesBefore_trans {a b c : Mount α} (hab : a.goesBefore b = true)
    (hbc : b.goesBefore c = true) : a.goesBefore c = true := by
  rw [goesBefore_iff] at hab hbc ⊢
  rcases hab with hab | ⟨hab, hle⟩
  · left
    omega
  · rcases hbc with hbc | ⟨hbc, hle'⟩
    · left
      omega
    · exact Or.inr ⟨hab.trans hbc, hle.trans hle'⟩

private theorem goesBefore_total (a b : Mount α) : (a.goesBefore b || b.goesBefore a) = true := by
  rw [Bool.or_eq_true, goesBefore_iff, goesBefore_iff]
  rcases lt_trichotomy a.depth b.depth with h | h | h
  · exact Or.inr (Or.inl h)
  · rcases le_total a.base b.base with hle | hle
    · exact Or.inl (Or.inr ⟨h, hle⟩)
    · exact Or.inr (Or.inr ⟨h.symm, hle⟩)
  · exact Or.inl (Or.inl h)

end Mount

namespace Mounts

/-- The mounts of a tree are in their order. -/
theorem pairwise_ofTree (tree : Route.Tree α) :
    (ofTree tree).toList.Pairwise fun a b => a.goesBefore b = true := by
  apply List.pairwise_mergeSort
  · exact fun _ _ _ => Mount.goesBefore_trans
  · exact Mount.goesBefore_total

private theorem mem_ofTree {tree : Route.Tree α} {mount : Mount α} :
    mount ∈ (ofTree tree).toList ↔
      ∃ names, (names, mount.value) ∈ tree.entries ∧
        mount.base = Path.render names ∧ mount.depth = names.length := by
  rw [ofTree, List.mem_mergeSort, List.mem_map]
  constructor
  · rintro ⟨⟨names, value⟩, hentry, rfl⟩
    exact ⟨names, hentry, rfl, rfl⟩
  · rintro ⟨names, hentry, hbase, hdepth⟩
    refine ⟨_, hentry, ?_⟩
    rw [← hbase, ← hdepth]

/-- A path goes to a mount that begins it and that is tried before all others that do. -/
theorem exists_of_resolve? {mounts : Mounts α}
    (hsorted : mounts.toList.Pairwise fun a b => a.goesBefore b = true) {path : String} {value : α}
    {rest : String} (h : mounts.resolve? path = some (value, rest)) :
    ∃ mount ∈ mounts.toList, mount.value = value ∧ path = mount.base ++ rest ∧
      ∀ other ∈ mounts.toList, ∀ more, path = other.base ++ more →
        mount = other ∨ mount.goesBefore other = true := by
  obtain ⟨before, mount, after, hlist, hfound, hbefore⟩ := List.findSome?_eq_some_iff.mp h
  obtain ⟨rest', hafter, heq⟩ := Option.map_eq_some_iff.mp hfound
  obtain ⟨rfl, rfl⟩ := Prod.mk.inj heq
  rw [hlist] at hsorted ⊢
  refine ⟨mount, by simp, rfl, Text.after?_eq_some_iff.mp hafter, ?_⟩
  intro other hother more hmore
  have hbegins : Text.after? other.base path = some more := Text.after?_eq_some_iff.mpr hmore
  rcases List.mem_append.mp hother with hother | hother
  · have hnone := hbefore other hother
    rw [hbegins] at hnone
    contradiction
  · rcases List.mem_cons.mp hother with rfl | hother
    · exact Or.inl rfl
    · exact Or.inr (List.rel_of_pairwise_cons (List.pairwise_append.mp hsorted).2.1 hother)

/-- A path that a mount begins goes somewhere. -/
theorem isSome_resolve? {mounts : Mounts α} {mount : Mount α} (hmount : mount ∈ mounts.toList)
    (rest : String) : (mounts.resolve? (mount.base ++ rest)).isSome = true := by
  rw [resolve?, List.findSome?_isSome_iff]
  refine ⟨mount, hmount, ?_⟩
  rw [Text.after?_eq_some_iff.mpr rfl]
  rfl

/-- Where names lead to, of what is served at places. -/
def named (served : List (Place × α)) : List (List String × α) :=
  served.map fun (place, value) => (place.names, value)

/-- The mounts of what is served at places, one after the other. -/
def ofPlaces (served : List (Place × α)) : Mounts α :=
  ofTree (Route.Tree.ofHistory (Route.History.ofNames (named served)))

section Places

variable {served : List (Place × α)}

/-- A place has the latest value of its names. -/
theorem latest?_named (place : Place) : latest? place.names (named served) = latest? place served :=
  latest?_map fun _ _ => Place.ext

/-- There is a mount for every place at which something is served, and no other. -/
theorem mem_ofPlaces {mount : Mount α} :
    mount ∈ (ofPlaces served).toList ↔
      ∃ place, latest? place served = some mount.value ∧ mount.base = place.text ∧
        mount.depth = place.depth := by
  rw [ofPlaces, mem_ofTree]
  constructor
  · rintro ⟨names, hentry, hbase, hdepth⟩
    have hlatest := Route.Tree.mem_entries_ofNames.mp hentry
    obtain ⟨⟨place, v⟩, -, heq⟩ := List.mem_map.mp (mem_of_latest? hlatest)
    obtain ⟨rfl, -⟩ := Prod.mk.inj heq
    exact ⟨place, latest?_named place ▸ hlatest, hbase, hdepth⟩
  · rintro ⟨place, hlatest, hbase, hdepth⟩
    rw [← latest?_named] at hlatest
    exact ⟨place.names, Route.Tree.mem_entries_ofNames.mpr hlatest, hbase, hdepth⟩

/-- A path goes to the shortest of the deepest places that begin it. -/
theorem exists_of_resolve?_ofPlaces {path : String} {value : α} {rest : String}
    (h : (ofPlaces served).resolve? path = some (value, rest)) :
    ∃ place, latest? place served = some value ∧ path = place.text ++ rest ∧
      ∀ other ∈ served.map Prod.fst, other.Begins path →
        other.depth < place.depth ∨
          other.depth = place.depth ∧ place.text.length ≤ other.text.length := by
  obtain ⟨mount, hmount, rfl, hpath, hfirst⟩ := exists_of_resolve? (pairwise_ofTree _) h
  obtain ⟨place, hlatest, hbase, hdepth⟩ := mem_ofPlaces.mp hmount
  rw [hbase] at hpath
  refine ⟨place, hlatest, hpath, ?_⟩
  rintro other hother ⟨more, hmore⟩
  obtain ⟨v, hv⟩ := exists_latest?_iff.mpr hother
  have hmem : ⟨other.text, other.depth, v⟩ ∈ (ofPlaces served).toList :=
    mem_ofPlaces.mpr ⟨other, hv, rfl, rfl⟩
  rcases hfirst _ hmem more hmore with rfl | hbefore
  · exact Or.inr ⟨hdepth, (congrArg String.length hbase).ge⟩
  · rcases Mount.goesBefore_iff.mp hbefore with hlt | ⟨heq, hle⟩
    · exact Or.inl (hdepth ▸ hlt)
    · refine Or.inr ⟨(hdepth ▸ heq).symm, ?_⟩
      rw [hbase] at hle
      exact Text.length_le_of_le (hpath.symm.trans hmore) hle

/-- The path of a place at which something is served goes somewhere. -/
theorem exists_resolve?_text {place : Place} (hplace : place ∈ served.map Prod.fst) :
    ∃ value rest, (ofPlaces served).resolve? place.text = some (value, rest) := by
  obtain ⟨v, hv⟩ := exists_latest?_iff.mpr hplace
  have hmem : ⟨place.text, place.depth, v⟩ ∈ (ofPlaces served).toList :=
    mem_ofPlaces.mpr ⟨place, hv, rfl, rfl⟩
  have hsome := isSome_resolve? hmem ""
  rw [String.append_empty] at hsome
  obtain ⟨⟨value, rest⟩, hfound⟩ := Option.isSome_iff_exists.mp hsome
  exact ⟨value, rest, hfound⟩

/-- Every path goes to the longest mount that begins it exactly if no place begins the text of
another one of its depth. -/
theorem resolve?_longest_iff (served : List (Place × α)) :
    (∀ path value rest, (ofPlaces served).resolve? path = some (value, rest) →
      ∃ place, latest? place served = some value ∧ path = place.text ++ rest ∧
        ∀ other ∈ served.map Prod.fst, other.Begins path →
          other.text.length ≤ place.text.length) ↔
      ∀ a ∈ served.map Prod.fst, ∀ b ∈ served.map Prod.fst,
        a.depth = b.depth → a.Begins b.text → a = b := by
  constructor
  · -- The text of `b` is a path itself, which can only go to `b`; so `a` did not go before it.
    intro hlongest a ha b hb hdepth hbegins
    obtain ⟨value, rest, hresolve⟩ := exists_resolve?_text hb
    obtain ⟨place, -, hplace, hfirst⟩ := exists_of_resolve?_ofPlaces hresolve
    obtain ⟨place', -, hplace', hall⟩ := hlongest b.text value rest hresolve
    obtain rfl : place = place' :=
      Place.text_injective ((String.append_left_inj rest).mp (hplace.symm.trans hplace'))
    have hlong : b.text.length ≤ place.text.length := hall b hb ⟨"", String.append_empty.symm⟩
    obtain rfl : place = b := Place.eq_of_text_append_eq hplace.symm hlong
    obtain ⟨more, hmore⟩ := hbegins
    rcases hfirst a ha ⟨more, hmore⟩ with hlt | ⟨-, hle⟩
    · exact absurd hdepth hlt.ne
    · exact Place.eq_of_text_append_eq hmore.symm hle
  · intro hapart path value rest hresolve
    obtain ⟨place, hlatest, hpath, hfirst⟩ := exists_of_resolve?_ofPlaces hresolve
    refine ⟨place, hlatest, hpath, ?_⟩
    rintro other hother ⟨more, hmore⟩
    have hsame : place.text ++ rest = other.text ++ more := hpath.symm.trans hmore
    rcases hfirst other hother ⟨more, hmore⟩ with hlt | ⟨hdepth, hle⟩
    · exact (Place.length_text_lt hsame.symm hlt).le
    · have hplace : place ∈ served.map Prod.fst := exists_latest?_iff.mp ⟨value, hlatest⟩
      have hbegins : place.Begins other.text := Text.exists_eq_append hsame hle
      rw [hapart place hplace other hother hdepth.symm hbegins]

/-- One place hides another: the shorter of the two is tried first. -/
theorem resolve?_hidden :
    (ofPlaces [(.ofPath "/a", "short"), (.ofPath "/ab", "long")]).resolve? "/abc" =
      some ("short", "bc") ∧
    (Place.ofPath "/ab").Begins "/abc" ∧
    (Place.ofPath "/a").text.length < (Place.ofPath "/ab").text.length := by
  have hentries : (Route.Tree.ofHistory (Route.History.ofNames
      (named [(.ofPath "/a", "short"), (.ofPath "/ab", "long")]))).entries =
        [(["a"], "short"), (["ab"], "long")] := by decide +kernel
  have hmounts : (ofPlaces [(.ofPath "/a", "short"), (.ofPath "/ab", "long")]).toList =
      [⟨"/a", 1, "short"⟩, ⟨"/ab", 1, "long"⟩] := by
    rw [ofPlaces, ofTree, hentries]
    exact List.mergeSort_of_pairwise (by decide +kernel)
  refine ⟨?_, ⟨"c", by decide +kernel⟩, by decide +kernel⟩
  rw [resolve?, hmounts]
  decide +kernel

end Places

end Mounts

end Signpost.Files
