import Signpost.Proofs.Path
import Signpost.Proofs.Route.Entries

/-!
# Insertions at literals

A literal goes before every pattern and every variable that lead on from its node, so nothing that
is inserted elsewhere leads a request away from where only literals lead.  Main statement: a path
that encodes their texts gets the value that was inserted there last, and binds nothing.
-/

namespace Signpost.Route

universe u

variable {α : Type u}

/-- The texts of segments all of which are literals. -/
def Segment.texts? : List Segment → Option (List String)
  | [] => some []
  | .literal text :: rest => (texts? rest).map (text :: ·)
  | _ :: _ => none

private theorem Segment.texts?_eq_some_iff {segments : List Segment} {texts : List String} :
    texts? segments = some texts ↔ segments = texts.map .literal := by
  induction segments generalizing texts with
  | nil => cases texts <;> simp [texts?]
  | cons segment rest ih =>
    obtain text | ⟨name, isOptional⟩ | ⟨name, pattern, isOptional⟩ := segment
    case literal =>
      rw [texts?, Option.map_eq_some_iff]
      constructor
      · rintro ⟨others, hothers, rfl⟩
        rw [List.map_cons, ih.mp hothers]
      · intro h
        obtain ⟨first, others, rfl, hfirst, hothers⟩ := List.map_eq_cons_iff.mp h.symm
        obtain rfl := Segment.literal.inj hfirst
        exact ⟨others, ih.mpr hothers.symm, rfl⟩
    all_goals cases texts <;> simp [texts?]

namespace History

/-- The insertions at literals alone, with the texts of the literals. -/
def literals (history : History α) : List (List String × α) :=
  history.filterMap fun (segments, value) => (Segment.texts? segments).map (·, value)

/-- The texts of literals are inserted where the literals are. -/
theorem mem_literals {history : History α} {texts : List String} {value : α} :
    (texts, value) ∈ history.literals ↔ (texts.map .literal, value) ∈ history := by
  rw [literals, List.mem_filterMap]
  constructor
  · rintro ⟨⟨segments, v⟩, hentry, hliteral⟩
    obtain ⟨found, hfound, heq⟩ := Option.map_eq_some_iff.mp hliteral
    obtain ⟨rfl, rfl⟩ := Prod.mk.inj heq
    rwa [← Segment.texts?_eq_some_iff.mp hfound]
  · intro hentry
    exact ⟨_, hentry, Option.map_eq_some_iff.mpr ⟨_, Segment.texts?_eq_some_iff.mpr rfl, rfl⟩⟩

/-- The insertions at literals of one run come before those of the next. -/
theorem literals_append (front back : History α) :
    (front ++ back).literals = front.literals ++ back.literals := List.filterMap_append

/-- The value at a node was inserted at no literals. -/
theorem value?_eq_latest? (history : History α) : history.value? = latest? [] history.literals := by
  rw [value?, latest?, latestWhere?, latestWhere?, literals, List.filterMap_filterMap]
  congr 2
  funext entry
  obtain ⟨_ | ⟨text | _ | _, rest⟩, value⟩ := entry
  case cons.literal => cases hrest : Segment.texts? rest <;> simp [Segment.texts?, hrest]
  all_goals rfl

/-- What goes on with a literal goes on at literals under its text. -/
theorem literals_afterLiteral (text : String) (history : History α) :
    (history.afterLiteral text).literals = under text history.literals := by
  rw [afterLiteral, literals, literals, under, List.filterMap_filterMap, List.filterMap_filterMap]
  congr 1
  funext entry
  obtain ⟨_ | ⟨t | _ | _, rest⟩, value⟩ := entry
  case cons.literal =>
    by_cases ht : t = text <;> cases hrest : Segment.texts? rest <;>
      simp [Segment.texts?, hrest, ht]
  all_goals rfl

/-- The texts of literals lead along the literals to the latest value there. -/
theorem resolve?_of_latest? {history : History α} {texts : List String} {value : α}
    (h : latest? texts history.literals = some value) :
    history.resolve? texts = some (value, []) := by
  induction texts generalizing history with
  | nil => rw [resolve?, value?_eq_latest?, h, Option.map_some]
  | cons text rest ih =>
    rw [← latest?_under, ← literals_afterLiteral] at h
    have hne : history.afterLiteral text ≠ [] := by
      intro hempty
      rw [hempty] at h
      contradiction
    rw [resolve?, narrow?, if_pos hne]
    dsimp only
    rw [ih h, Option.map_some, List.append_nil]

end History

/-- A path that encodes the texts of literals gets the latest value there and binds nothing. -/
theorem Tree.find?_of_latest? {history : History α} {texts : List String}
    (hparts : ∀ text ∈ texts, Path.IsPart text) {value : α}
    (h : latest? texts history.literals = some value) :
    (ofHistory history).find? (Path.render (texts.map Text.Percent.encode)) =
      some (value, .empty) := by
  have hencoded : ∀ part ∈ texts.map Text.Percent.encode, Path.IsPart part := by
    rw [List.forall_mem_map]
    exact fun text htext => Path.isPart_encode (hparts text htext).1
  have hdecoded : (texts.map Text.Percent.encode).map Text.Percent.decode = texts := by
    rw [List.map_map]
    exact List.map_id'' Text.Percent.decode_encode texts
  rw [find?_ofHistory, Path.segments_render hencoded, hdecoded, History.resolve?_of_latest? h]
  rfl

end Signpost.Route
