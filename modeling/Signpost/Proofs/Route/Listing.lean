import Mathlib.Data.List.Flatten
import Mathlib.Data.List.Nodup
import Signpost.Proofs.MapValues
import Signpost.Proofs.Route.Declared
import Signpost.Proofs.Route.Terminals
import Signpost.Proofs.Route.Ways

/-!
# What trees list

An insertion leads to its terminal: the ways of its segments, one after another.  Main statement: a
tree has one entry for every terminal, in the lexicographic order of the terminals; it has the value
that was inserted last at its terminal, and every one of its texts is as the latest insertion wrote
it that went through there.
-/

namespace Signpost.Route

universe u v

variable {α : Type u} {β : Type v}

/-- Where an insertion leads. -/
def terminal (entry : Insertion α) : List Way := entry.1.map (Way.ofSegment entry.2.1)

/-- Whether two segments are alike: the same text, the same name and pattern, or two variables,
whatever their names are. -/
def Segment.Agree : Segment → Segment → Prop
  | .literal a, .literal b => a = b
  | .variable _ _, .variable _ _ => True
  | .constrained name pattern _, .constrained name' pattern' _ => name = name' ∧ pattern = pattern'
  | _, _ => False

/-- How a listing writes a segment. -/
def Segment.listed : Segment → String
  | .literal text => text
  | .variable name _ => "\x7b" ++ name ++ "\x7d"
  | .constrained name pattern _ => "\x7b" ++ name ++ ":" ++ pattern.text ++ "\x7d"

private theorem Label.render_ofSegment (segment : Segment) :
    (Label.ofSegment segment).render = segment.listed := by
  cases segment with
  | literal text => rfl
  | «variable» name isOptional =>
    simp [ofSegment, render, Segment.render, Placeholder.render, Segment.listed]
  | constrained name pattern isOptional =>
    simp [ofSegment, render, Segment.render, Segment.listed]

/-- Two insertions lead to one terminal if neither has a pattern and their segments are alike. -/
theorem map_ofSegment_eq_iff {number number' : Nat} (hne : number ≠ number')
    {segments segments' : List Segment} :
    segments.map (Way.ofSegment number) = segments'.map (Way.ofSegment number') ↔
      (∀ segment ∈ segments, segment.isConstrained = false) ∧
        (∀ segment ∈ segments', segment.isConstrained = false) ∧
          List.Forall₂ Segment.Agree segments segments' := by
  have hway (a b : Segment) : Way.ofSegment number a = Way.ofSegment number' b ↔
      a.isConstrained = false ∧ b.isConstrained = false ∧ a.Agree b := by
    cases a <;> cases b <;> simp [Way.ofSegment, Segment.isConstrained, Segment.Agree, hne]
  induction segments generalizing segments' with
  | nil => cases segments' <;> simp
  | cons a rest ih =>
    cases segments' with
    | nil => simp
    | cons b rest' =>
      simp only [List.map_cons, List.cons.injEq, hway, ih, List.forall₂_cons,
        List.forall_mem_cons]
      tauto

namespace History

/-- The insertions with their numbers. -/
def numbered (history : History α) : History (Nat × α) :=
  history.zipIdx.map fun (entry, number) => (entry.1, number, entry.2)

private theorem ascending_numbered (history : History α) : history.numbered.Ascending := by
  rw [numbered, Ascending, List.pairwise_map]
  have h : (history.zipIdx.map Prod.snd).Pairwise (· < ·) := by
    rw [List.zipIdx_map_snd]
    exact List.pairwise_lt_range'
  exact List.pairwise_map.mp h

private theorem length_numbered (history : History α) :
    history.numbered.length = history.length := by
  rw [numbered, List.length_map, List.length_zipIdx]

/-- Without the numbers the insertions are as they were. -/
theorem map_numbered (history : History α) :
    history.numbered.map (fun entry => (entry.1, entry.2.2)) = history := by
  rw [numbered, List.map_map]
  exact List.zipIdx_map_fst 0 history

/-- Without a segment to spare there is no insertion. -/
theorem eq_nil_of_length_lt {history : History α} (h : ∀ entry ∈ history, entry.1.length < 0) :
    history = [] :=
  List.eq_nil_iff_forall_not_mem.mpr fun entry hentry => Nat.not_lt_zero _ (h entry hentry)

/-- Some number is greater than those of the segments of all insertions. -/
theorem exists_length_lt (history : History α) :
    ∃ bound, ∀ entry ∈ history, entry.1.length < bound := by
  induction history with
  | nil => exact ⟨0, nofun⟩
  | cons entry rest ih =>
    obtain ⟨bound, hbound⟩ := ih
    refine ⟨max bound (entry.1.length + 1), List.forall_mem_cons.mpr ⟨?_, fun other hother => ?_⟩⟩
    · exact lt_max_of_lt_right (Nat.lt_succ_self _)
    · exact lt_max_of_lt_left (hbound other hother)

/-- What was inserted last at a terminal, with its number. -/
def latestAt? (front : List Way) (history : History (Nat × α)) : Option (Nat × α) :=
  latest? front (history.map fun entry => (terminal entry, entry.2))

/-- The segments that were inserted last through a place. -/
def latestThrough? (front : List Way) (history : History (Nat × α)) : Option (List Segment) :=
  latestWhere? (front <+: ·) (history.map fun entry => (terminal entry, entry.1))

section Through

variable (way : Way) (front : List Way) (history : History (Nat × α))

private theorem latestAt?_eq : history.latestAt? front = (history.filterMap fun entry =>
    if terminal entry = front then some entry.2 else none).getLast? := by
  rw [latestAt?, latest?, latestWhere?, List.filterMap_map]
  simp only [Function.comp_def, decide_eq_true_eq]

private theorem latestThrough?_eq : history.latestThrough? front = (history.filterMap fun entry =>
    if front <+: terminal entry then some entry.1 else none).getLast? := by
  rw [latestThrough?, latestWhere?, List.filterMap_map]
  simp only [Function.comp_def, decide_eq_true_eq]

private theorem through_eq :
    history.through way = history.filterMap fun (segments, number, value) =>
    match segments with
    | segment :: rest =>
      if Way.ofSegment number segment = way then some (rest, number, value) else none
    | [] => none := by
  rw [through, going, List.map_filterMap]
  congr 1
  funext entry
  obtain ⟨_ | ⟨segment, rest⟩, number, value⟩ := entry
  · rfl
  · by_cases hway : Way.ofSegment number segment = way <;> simp [hway]

private theorem latestAt?_nil : history.latestAt? [] = history.value? := by
  rw [latestAt?_eq, value?, latestWhere?]
  congr 2
  funext entry
  simp [terminal]

/-- What was inserted last at a terminal was so among the insertions that go its first way. -/
theorem latestAt?_through :
    (history.through way).latestAt? front = history.latestAt? (way :: front) := by
  rw [latestAt?_eq, latestAt?_eq, through_eq, List.filterMap_filterMap]
  congr 2
  funext entry
  obtain ⟨_ | ⟨segment, rest⟩, number, value⟩ := entry
  · rfl
  · by_cases hway : Way.ofSegment number segment = way
    · by_cases hfront : rest.map (Way.ofSegment number) = front <;> simp [terminal, hway, hfront]
    · simp [terminal, hway]

private theorem latestThrough?_through : (history.through way).latestThrough? front =
    (history.latestThrough? (way :: front)).map List.tail := by
  rw [latestThrough?_eq, latestThrough?_eq, through_eq, List.filterMap_filterMap,
    ← List.getLast?_map, List.map_filterMap]
  congr 2
  funext entry
  obtain ⟨_ | ⟨segment, rest⟩, number, value⟩ := entry
  · rfl
  · by_cases hway : Way.ofSegment number segment = way
    · by_cases hfront : front <+: rest.map (Way.ofSegment number) <;>
        simp [terminal, hway, hfront, List.cons_prefix_cons]
    · simp [terminal, hway, List.cons_prefix_cons, Ne.symm hway]

/-- The label of a way is that of the segment with which the latest insertion went it. -/
theorem label?_eq_latestThrough? : history.label? way =
    (history.latestThrough? [way]).bind fun segments => segments[0]?.map Label.ofSegment := by
  have hlabels : (history.filterMap fun entry =>
      if [way] <+: terminal entry then some entry.1 else none).map
        (fun segments => segments[0]?.map Label.ofSegment) =
      (history.going way).map fun entry => some entry.1 := by
    rw [going, List.map_filterMap, List.map_filterMap]
    congr 1
    funext entry
    obtain ⟨_ | ⟨segment, rest⟩, number, value⟩ := entry
    · rfl
    · by_cases hway : Way.ofSegment number segment = way
      · simp [terminal, hway, List.cons_prefix_cons]
      · simp [terminal, hway, List.cons_prefix_cons, Ne.symm hway]
  calc history.label? way
    _ = ((history.going way).map fun entry => some entry.1).getLast?.bind id := by
        rw [label?, List.getLast?_map]
        cases (history.going way).getLast? <;> rfl
    _ = _ := by
        rw [← hlabels, List.getLast?_map, Option.bind_map, latestThrough?_eq]
        rfl

end Through

private theorem Ascending.through {history : History (Nat × α)} (h : history.Ascending)
    (way : Way) :
    (history.through way).Ascending := by
  rw [through_eq]
  refine List.pairwise_filterMap.mpr (h.imp ?_)
  rintro ⟨_ | ⟨segment, rest⟩, number, value⟩ ⟨_ | ⟨segment', rest'⟩, number', value'⟩ hlt
    found hfound found' hfound' <;> try contradiction
  obtain ⟨-, heq⟩ := Option.ite_none_right_eq_some.mp hfound
  obtain ⟨-, heq'⟩ := Option.ite_none_right_eq_some.mp hfound'
  obtain rfl := Option.some.inj heq
  obtain rfl := Option.some.inj heq'
  exact hlt

/-- Insertions that go a way lead on from it to the rest of their terminals. -/
theorem exists_terminal_through {way : Way} {front : List Way} {history : History (Nat × α)} :
    (∃ entry ∈ history.through way, terminal entry = front) ↔
      ∃ entry ∈ history, terminal entry = way :: front := by
  constructor
  · rintro ⟨⟨rest, numbered⟩, hentry, rfl⟩
    obtain ⟨segment, hwhole, rfl⟩ := mem_through.mp hentry
    exact ⟨(segment :: rest, numbered), hwhole, rfl⟩
  · rintro ⟨⟨_ | ⟨segment, rest⟩, numbered⟩, hentry, heq⟩
    · contradiction
    · obtain ⟨hway, hrest⟩ := List.cons.inj heq
      exact ⟨_, mem_through.mpr ⟨segment, hentry, hway⟩, hrest⟩

/-- There is a value where something was inserted with no segments left. -/
theorem exists_terminal_nil {history : History (Nat × α)} :
    (∃ entry ∈ history, terminal entry = []) ↔ ∃ value, history.value? = some value := by
  constructor
  · rintro ⟨⟨segments, numbered⟩, hentry, hnil⟩
    obtain rfl : segments = [] := List.map_eq_nil_iff.mp hnil
    exact exists_value?_of_mem hentry
  · rintro ⟨value, hvalue⟩
    obtain ⟨⟨segments, numbered⟩, hentry, hempty⟩ := exists_latestWhere?_iff.mp ⟨value, hvalue⟩
    obtain rfl : segments = [] := List.isEmpty_iff.mp hempty
    exact ⟨_, hentry, rfl⟩

end History

/-- What an entry of a listing says: it has the latest value at its terminal, and each of its texts
is as the latest insertion through there wrote it. -/
structure Lists (write : Segment → β) (history : History (Nat × α)) (front : List Way)
    (entry : List β × α) : Prop where
  /-- The value was inserted last at the terminal. -/
  value_eq : (history.latestAt? front).map (·.2) = some entry.2
  /-- There is a text for every way. -/
  length_eq : entry.1.length = front.length
  /-- A text was written by the latest insertion that goes as far. -/
  text_eq : ∀ i < front.length, entry.1[i]? =
    (history.latestThrough? (front.take (i + 1))).bind fun segments => segments[i]?.map write

namespace Lists

variable {history : History (Nat × α)}

private theorem nil {write : Segment → β} {value : Nat × α} (h : history.value? = some value) :
    Lists write history [] ([], value.2) where
  value_eq := by
    rw [History.latestAt?_nil, h]
    rfl
  length_eq := rfl
  text_eq := fun _ hi => absurd hi (Nat.not_lt_zero _)

/-- An entry under a branch says what it says there, behind the label of the branch. -/
theorem cons {way : Way} {label : Label} (hlabel : history.label? way = some label)
    {front : List Way} {labels : List Label} {value : α}
    (h : Lists Label.ofSegment (history.through way) front (labels, value)) :
    Lists Label.ofSegment history (way :: front) (label :: labels, value) where
  value_eq := by rw [← History.latestAt?_through, h.value_eq]
  length_eq := congrArg (· + 1) h.length_eq
  text_eq := by
    rintro (_ | i) hi
    · exact hlabel.symm.trans (history.label?_eq_latestThrough? way)
    · have hbelow := h.text_eq i (Nat.lt_of_succ_lt_succ hi)
      rw [History.latestThrough?_through, Option.bind_map] at hbelow
      simp only [Function.comp_def, List.getElem?_tail] at hbelow
      exact hbelow

private theorem map {γ : Type*} (f : β → γ)
    {write : Segment → β} {front : List Way} {entry : List β × α}
    (h : Lists write history front entry) :
    Lists (f ∘ write) history front (entry.1.map f, entry.2) where
  value_eq := h.value_eq
  length_eq := (List.length_map f).trans h.length_eq
  text_eq := by
    intro i hi
    rw [List.getElem?_map, h.text_eq i hi, Option.map_bind]
    congr 1
    funext segments
    exact Option.map_map f write _

/-- A literal is listed as its text. -/
theorem getElem?_of_literal {front : List Way} {entry : List String × α}
    (h : Lists Segment.listed history front entry) {i : Nat} {text : String}
    (hway : front[i]? = some (.literal text)) : entry.1[i]? = some text := by
  have hi : i < front.length := (List.getElem?_eq_some_iff.mp hway).1
  obtain ⟨t, ht⟩ : ∃ t, entry.1[i]? = some t :=
    ⟨_, List.getElem?_eq_getElem (h.length_eq.symm ▸ hi)⟩
  have htext := h.text_eq i hi
  rw [ht] at htext
  obtain ⟨segments, hlatest, htext⟩ := Option.bind_eq_some_iff.mp htext.symm
  obtain ⟨segment, hsegment, rfl⟩ := Option.map_eq_some_iff.mp htext
  obtain ⟨_, hprefix, hlast⟩ := exists_latest?_of_latestWhere? hlatest
  obtain ⟨⟨segments', number, value⟩, -, heq⟩ := List.mem_map.mp (mem_of_latest? hlast)
  obtain ⟨rfl, rfl⟩ := Prod.mk.inj heq
  obtain ⟨more, hmore⟩ := of_decide_eq_true hprefix
  have hthere : (terminal (segments', number, value))[i]? = some (.literal text) := by
    rw [← hmore, List.getElem?_append_left (by simpa using hi),
      List.getElem?_take_of_lt i.lt_succ_self, hway]
  rw [terminal, List.getElem?_map, hsegment] at hthere
  rw [ht]
  cases segment with
  | literal t => simpa [Way.ofSegment, Segment.listed] using hthere
  | _ => simp [Way.ofSegment] at hthere

/-- Behind literals alone the texts are those of the literals. -/
theorem eq_names {names : List String} {entry : List String × α}
    (h : Lists Segment.listed history (names.map .literal) entry) : entry.1 = names := by
  have hlength : entry.1.length = names.length := by rw [h.length_eq, List.length_map]
  refine List.ext_getElem? fun i => ?_
  cases hname : names[i]? with
  | none =>
    rw [List.getElem?_eq_none_iff, ← hlength] at hname
    exact List.getElem?_eq_none hname
  | some text =>
    refine h.getElem?_of_literal ?_
    rw [List.getElem?_map, hname]
    rfl

end Lists

/-- What a listing is: an entry for every terminal that an insertion leads to, in the order of the
terminals. -/
structure Listing (write : Segment → β) (history : History (Nat × α)) (fronts : List (List Way))
    (entries : List (List β × α)) : Prop where
  /-- The terminals are in their order. -/
  sorted : fronts.Pairwise (List.Lex Way.Before)
  /-- They are those of the insertions. -/
  mem_iff : ∀ front, front ∈ fronts ↔ ∃ entry ∈ history, terminal entry = front
  /-- There is one entry for each. -/
  entries : List.Forall₂ (Lists write history) fronts entries

namespace Listing

variable {write : Segment → β} {history : History (Nat × α)} {fronts : List (List Way)}
  {entries : List (List β × α)}

/-- No terminal is listed twice. -/
theorem nodup (h : Listing write history fronts entries) : fronts.Nodup := by
  refine h.sorted.imp ?_
  rintro front _ hbefore rfl
  exact List.lex_irrefl Way.not_before_self front hbefore

/-- There are not more entries than insertions. -/
theorem length_le (h : Listing write history fronts entries) :
    entries.length ≤ history.length := by
  rw [← h.entries.length_eq, ← List.length_map (f := terminal)]
  refine h.nodup.length_le_of_subset fun front hfront => ?_
  obtain ⟨entry, hentry, rfl⟩ := (h.mem_iff front).mp hfront
  exact List.mem_map_of_mem hentry

/-- There is no entry only if there was no insertion. -/
theorem eq_nil_iff (h : Listing write history fronts entries) : entries = [] ↔ history = [] := by
  constructor
  · rintro rfl
    refine List.eq_nil_iff_forall_not_mem.mpr fun entry hentry => ?_
    have hfront := (h.mem_iff _).mpr ⟨entry, hentry, rfl⟩
    rw [List.forall₂_nil_right_iff.mp h.entries] at hfront
    exact List.not_mem_nil hfront
  · rintro rfl
    exact List.eq_nil_of_length_eq_zero (Nat.le_zero.mp h.length_le)

end Listing

/-- The terminals at a node and under it, given those under each way. -/
def frontsOf (history : History (Nat × α)) (ways : List Way) (below : Way → List (List Way)) :
    List (List Way) :=
  (history.value?.map fun _ => []).toList ++ ways.flatMap fun way => (below way).map (way :: ·)

private theorem pairwise_frontsOf {ways : List Way} (hways : ways.Pairwise Way.Before)
    {below : Way → List (List Way)} (hbelow : ∀ way, (below way).Pairwise (List.Lex Way.Before))
    (history : History (Nat × α)) :
    (frontsOf history ways below).Pairwise (List.Lex Way.Before) := by
  rw [frontsOf, List.pairwise_append, List.pairwise_flatMap]
  refine ⟨?_, ⟨?_, ?_⟩, ?_⟩
  · cases history.value? with
    | none => exact List.Pairwise.nil
    | some value => exact List.pairwise_singleton _ _
  · exact fun way _ => List.pairwise_map.mpr ((hbelow way).imp List.Lex.cons)
  · refine hways.imp fun hbefore front hfront front' hfront' => ?_
    obtain ⟨rest, -, rfl⟩ := List.mem_map.mp hfront
    obtain ⟨rest', -, rfl⟩ := List.mem_map.mp hfront'
    exact List.Lex.rel hbefore
  · intro front hfront front' hfront'
    obtain ⟨value, -, rfl⟩ := Option.map_eq_some_iff.mp (Option.mem_toList.mp hfront)
    obtain ⟨way, -, hfront'⟩ := List.mem_flatMap.mp hfront'
    obtain ⟨rest, -, rfl⟩ := List.mem_map.mp hfront'
    exact List.Lex.nil

private theorem mem_frontsOf {history : History (Nat × α)} {ways : List Way}
    (hways : ∀ way, way ∈ ways ↔ history.going way ≠ []) {below : Way → List (List Way)}
    (hbelow : ∀ way front, front ∈ below way ↔
      ∃ entry ∈ history.through way, terminal entry = front) (front : List Way) :
    front ∈ frontsOf history ways below ↔ ∃ entry ∈ history, terminal entry = front := by
  rw [frontsOf, List.mem_append, List.mem_flatMap]
  cases front with
  | nil =>
    rw [History.exists_terminal_nil, Option.mem_toList, Option.map_eq_some_iff]
    simp
  | cons way front =>
    rw [← History.exists_terminal_through, ← hbelow]
    constructor
    · rintro (hown | ⟨way', -, hfront⟩)
      · simp at hown
      · obtain ⟨front', hfront', heq⟩ := List.mem_map.mp hfront
        obtain ⟨rfl, rfl⟩ := List.cons.inj heq
        exact hfront'
    · intro hfront
      have hgoing : history.going way ≠ [] := by
        obtain ⟨entry, hentry, -⟩ := (hbelow way front).mp hfront
        exact fun hnil => List.ne_nil_of_mem hentry (congrArg (List.map _) hnil)
      exact Or.inr ⟨way, (hways way).mpr hgoing, List.mem_map_of_mem hfront⟩

namespace Node

/-- The labels of the entries of a node that has numbered values, and the values alone. -/
def listed (node : Node (Nat × α)) : List (List Label × α) :=
  node.entries.map fun entry => (entry.1, entry.2.2)

private theorem forall₂_frontsOf {history : History (Nat × α)} {ways : List Way}
    (hbranches : List.Forall₂ (IsBranch history) ways (ofHistory history).branches)
    {below : Way → List (List Way)}
    (hbelow : ∀ way, List.Forall₂ (Lists Label.ofSegment (history.through way)) (below way)
      (ofHistory (history.through way)).listed) :
    List.Forall₂ (Lists Label.ofSegment history) (frontsOf history ways below)
      (ofHistory history).listed := by
  rw [listed, entries_eq, frontsOf, List.map_append, List.map_flatMap, value_ofHistory]
  refine List.rel_append ?_ (List.rel_flatMap hbranches ?_)
  · cases hvalue : history.value? with
    | none => exact .nil
    | some value => exact .cons (.nil hvalue) .nil
  · rintro way ⟨label, child⟩ ⟨hlabel, hchild⟩
    obtain rfl : child = ofHistory (history.through way) := hchild
    dsimp only
    rw [entriesOf, List.map_map, List.forall₂_map_left_iff, List.forall₂_map_right_iff]
    have hunder := hbelow way
    rw [listed, List.forall₂_map_right_iff] at hunder
    exact hunder.imp fun _ _ hlists => hlists.cons hlabel

/-- A node lists what its insertions lead to. -/
theorem exists_listing {bound : Nat} {history : History (Nat × α)} (hascending : history.Ascending)
    (hbound : ∀ entry ∈ history, entry.1.length < bound) :
    ∃ fronts, Listing Label.ofSegment history fronts (ofHistory history).listed := by
  -- Segments get fewer from a node to the next, and none are left where there is no insertion.
  induction bound generalizing history with
  | zero =>
    obtain rfl := History.eq_nil_of_length_lt hbound
    exact ⟨[], .nil, by simp, .nil⟩
  | succ bound ih =>
    have hthrough (way : Way) :
        ∃ fronts, Listing Label.ofSegment (history.through way) fronts
          (ofHistory (history.through way)).listed := by
      refine ih (hascending.through way) ?_
      rintro ⟨rest, numbered⟩ hentry
      obtain ⟨segment, hentry, -⟩ := History.mem_through.mp hentry
      exact Nat.lt_of_succ_lt_succ (hbound _ hentry)
    choose below hbelow using hthrough
    obtain ⟨ways, hsorted, hways, hbranches⟩ := exists_ways hascending
    exact ⟨frontsOf history ways below,
      pairwise_frontsOf hsorted (fun way => (hbelow way).sorted) history,
      mem_frontsOf hways fun way => (hbelow way).mem_iff,
      forall₂_frontsOf hbranches fun way => (hbelow way).entries⟩

/-- Without their numbers insertions make the same node, but for the numbers. -/
theorem map_ofHistory {γ : Type*} (f : β → γ) (history : History β) :
    (ofHistory history).map f = ofHistory (history.map fun entry => (entry.1, f entry.2)) := by
  induction history using List.reverseRecOn with
  | nil => rfl
  | append_singleton history entry ih =>
    obtain ⟨segments, value⟩ := entry
    rw [ofHistory_append_singleton, map_insert, ih, List.map_append, List.map_singleton,
      ofHistory_append_singleton]

end Node

namespace Tree

private theorem insertions_ofHistory (history : History α) :
    (ofHistory history).insertions = history.length := by
  induction history using List.reverseRecOn with
  | nil => rfl
  | append_singleton history entry ih =>
    rw [ofHistory, List.foldl_append, ← ofHistory, List.length_append, ← ih]
    rfl

/-- A tree lists what its insertions lead to. -/
theorem exists_listing_ofHistory (history : History α) :
    ∃ fronts, Listing Segment.listed history.numbered fronts (ofHistory history).entries := by
  obtain ⟨bound, hbound⟩ := history.numbered.exists_length_lt
  obtain ⟨fronts, hlisting⟩ := Node.exists_listing history.ascending_numbered hbound
  refine ⟨fronts, hlisting.sorted, hlisting.mem_iff, ?_⟩
  have hentries : (ofHistory history).entries =
      (Node.ofHistory history.numbered).listed.map fun entry =>
        (entry.1.map Label.render, entry.2) := by
    rw [entries, root_ofHistory, ← history.map_numbered, ← Node.map_ofHistory, Node.entries_map,
      Node.listed, history.map_numbered]
  have hrender : Label.render ∘ Label.ofSegment = Segment.listed :=
    funext Label.render_ofSegment
  rw [hentries, List.forall₂_map_right_iff, ← hrender]
  exact hlisting.entries.imp fun _ _ hlists => hlists.map Label.render

/-- Where only literals lead the names of no two entries are the same. -/
theorem nodup_entries_ofNames (places : List (List String × α)) :
    ((ofHistory (History.ofNames places)).entries.map Prod.fst).Nodup := by
  obtain ⟨fronts, hlisting⟩ := exists_listing_ofHistory (History.ofNames places)
  have hnames : ∀ front ∈ fronts, ∃ names : List String, front = names.map .literal := by
    intro front hfront
    obtain ⟨entry, hentry, rfl⟩ := (hlisting.mem_iff front).mp hfront
    have hpast := List.mem_map_of_mem (f := fun entry => (entry.1, entry.2.2)) hentry
    rw [History.map_numbered] at hpast
    obtain ⟨⟨names, value⟩, -, heq⟩ := List.mem_map.mp hpast
    refine ⟨names, ?_⟩
    rw [terminal, ← (Prod.mk.inj heq).1, List.map_map]
    rfl
  have hfronts : List.Forall₂ (fun front entry => front = entry.1.map Way.literal) fronts
      (ofHistory (History.ofNames places)).entries := by
    refine ((List.forall₂_and_left _ _).mpr ⟨hnames, hlisting.entries⟩).imp ?_
    rintro front entry ⟨⟨names, rfl⟩, hlists⟩
    rw [hlists.eq_names]
  rw [← List.forall₂_map_right_iff, List.forall₂_eq_eq_eq] at hfronts
  have hnodup := hlisting.nodup
  rw [hfronts] at hnodup
  exact List.Nodup.of_map (List.map Way.literal) (by rwa [List.map_map])

/-- Every tree has one entry for every terminal, in the order of the terminals, with the value
inserted last at it and texts as the latest insertions through it wrote them.  Two insertions lead
to one terminal if neither has a pattern and their segments are alike.  So there are not more
entries than insertions, and none only if there was no insertion. -/
theorem listing_ofHistory (history : History α) :
    (∃ fronts, Listing Segment.listed history.numbered fronts (ofHistory history).entries) ∧
      history.numbered.Pairwise (fun a b => terminal a = terminal b ↔
        (∀ segment ∈ a.1, segment.isConstrained = false) ∧
          (∀ segment ∈ b.1, segment.isConstrained = false) ∧
            List.Forall₂ Segment.Agree a.1 b.1) ∧
      (ofHistory history).entries.length ≤ (ofHistory history).insertions ∧
      ((ofHistory history).entries = [] ↔ (ofHistory history).isEmpty = true) := by
  obtain ⟨fronts, hlisting⟩ := exists_listing_ofHistory history
  refine ⟨⟨fronts, hlisting⟩, ?_, ?_, ?_⟩
  · exact history.ascending_numbered.imp fun hlt => map_ofSegment_eq_iff hlt.ne
  · rw [insertions_ofHistory, ← history.length_numbered]
    exact hlisting.length_le
  · rw [isEmpty, insertions_ofHistory, beq_iff_eq, hlisting.eq_nil_iff,
      ← List.length_eq_zero_iff, history.length_numbered]

end Tree

end Signpost.Route
