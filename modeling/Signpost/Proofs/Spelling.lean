import Mathlib.Data.List.Induction
import Signpost.Proofs.Dict
import Signpost.Proofs.Lists
import Signpost.Response

/-!
# Spellings of header names

A response keeps a header under the name as it was spelled, and the content type apart.  It is read,
and goes out, whatever the spelling, so a header that is set in two spellings is two headers.  Main
statement: a header reads as it was set last, in whatever order the headers are kept, exactly if
every spelling of it was last given that value; and it goes out once exactly if there is one
spelling.
-/

namespace Signpost

namespace Response

private theorem sameName_iff {a b : String} : sameName a b = true ↔ lower a = lower b := beq_iff_eq

/-- Whether a name is a spelling of the one that is kept apart. -/
def IsContentType (name : String) : Prop := sameName name "content-type" = true

private theorem isContentType_congr {a b : String} (h : sameName a b = true) :
    IsContentType a ↔ IsContentType b := by
  rw [IsContentType, IsContentType, sameName_iff, sameName_iff, sameName_iff.mp h]

/-- The response on which headers were set, one after the other. -/
def ofCalls (calls : List (String × String)) : Response :=
  calls.foldl (fun res call => res.setHeader call.1 call.2) {}

/-- What a header reads as if the last call counts. -/
def expected? (name : String) (calls : List (String × String)) : Option String :=
  if sameName name "content-type" then
    some ((latestWhere? (sameName · "content-type") calls).getD ({} : Response).contentType)
  else latestWhere? (sameName · name) calls

/-- What is kept under the spellings of a name. -/
def keptUnder (res : Response) (name : String) : List (String × String) :=
  res.headers.entries.filter fun entry => sameName entry.1 name

private theorem expected?_of_isContentType {name : String} (h : IsContentType name)
    (calls : List (String × String)) :
    expected? name calls =
      some ((latestWhere? (sameName · "content-type") calls).getD ({} : Response).contentType) :=
  if_pos h

private theorem expected?_of_not_isContentType {name : String} (h : ¬IsContentType name)
    (calls : List (String × String)) :
    expected? name calls = latestWhere? (sameName · name) calls := if_neg h

private theorem header?_of_isContentType {name : String} (h : IsContentType name) (res : Response) :
    res.header? name = some res.contentType := if_pos h

private theorem header?_of_not_isContentType {name : String} (h : ¬IsContentType name)
    (res : Response) :
    res.header? name = (res.keptUnder name).head?.map (·.2) := by
  have hother : ¬sameName name "content-type" = true := h
  rw [header?, if_neg hother, keptUnder, List.head?_filter]

/-- Whether a response is another one whose headers are kept in whichever order. -/
def Reorders (res other : Response) : Prop :=
  ∃ listed, listed.Perm other.headers.entries ∧ res = { other with headers := ⟨listed⟩ }

private theorem Reorders.refl (res : Response) : res.Reorders res := ⟨_, List.Perm.refl _, rfl⟩

section Calls

variable (calls : List (String × String))

private theorem ofCalls_append (name value : String) :
    ofCalls (calls ++ [(name, value)]) = (ofCalls calls).setHeader name value := by
  rw [ofCalls, List.foldl_append]
  rfl

/-- The content type is what it was given last, however it was spelled. -/
theorem contentType_ofCalls :
    (ofCalls calls).contentType =
      (latestWhere? (sameName · "content-type") calls).getD ({} : Response).contentType := by
  induction calls using List.reverseRecOn with
  | nil => rfl
  | append_singleton calls call ih =>
    obtain ⟨name, value⟩ := call
    rw [ofCalls_append, latestWhere?_append_singleton, setHeader]
    split
    · rfl
    · exact ih

private theorem nodup_keys_ofCalls : ((ofCalls calls).headers.entries.map Prod.fst).Nodup := by
  induction calls using List.reverseRecOn with
  | nil => exact List.nodup_nil
  | append_singleton calls call ih =>
    rw [ofCalls_append, setHeader]
    split
    · exact ih
    · exact Dict.nodup_keys_put ih call.1 call.2

private theorem get?_headers_ofCalls (spelling : String) :
    (ofCalls calls).headers.get? spelling =
      if sameName spelling "content-type" then none else latest? spelling calls := by
  induction calls using List.reverseRecOn with
  | nil => exact (ite_self _).symm
  | append_singleton calls call ih =>
    obtain ⟨name, value⟩ := call
    rw [ofCalls_append, latest?_append_singleton, setHeader]
    by_cases hname : name = spelling
    · subst hname
      split
      next htype => rw [ih, if_pos htype]
      next => rw [if_pos rfl, Dict.get?_insert_self]
    · rw [if_neg hname, ← ih]
      split
      · rfl
      · rw [Dict.get?_insert_of_ne _ _ hname]

/-- Every spelling but those of the content type is kept with what it was given last. -/
theorem mem_entries_ofCalls {spelling value : String} :
    (spelling, value) ∈ (ofCalls calls).headers.entries ↔
      ¬IsContentType spelling ∧ latest? spelling calls = some value := by
  rw [← Dict.get?_eq_some_iff_mem (nodup_keys_ofCalls calls), get?_headers_ofCalls, IsContentType]
  split
  next htype => simp [htype]
  next htype => simp [htype]

end Calls

section Kept

variable {calls : List (String × String)} {name : String} (htype : ¬IsContentType name)
  {res : Response} (hres : res.Reorders (ofCalls calls))

include htype hres

private theorem mem_keptUnder {entry : String × String} :
    entry ∈ res.keptUnder name ↔
      sameName entry.1 name = true ∧ latest? entry.1 calls = some entry.2 := by
  obtain ⟨listed, hlisted, rfl⟩ := hres
  rw [keptUnder, List.mem_filter, hlisted.mem_iff, mem_entries_ofCalls, and_comm]
  refine and_congr_right fun hsame => and_iff_right ?_
  exact (isContentType_congr hsame).not.mpr htype

/-- Under a name that was never set nothing is kept. -/
theorem keptUnder_eq_nil (h : latestWhere? (sameName · name) calls = none) :
    res.keptUnder name = [] := by
  rw [List.eq_nil_iff_forall_not_mem]
  intro entry hentry
  obtain ⟨hsame, hspelled⟩ := (mem_keptUnder htype hres).mp hentry
  obtain ⟨last, hlast⟩ : ∃ last, latestWhere? (sameName · name) calls = some last :=
    exists_latestWhere?_iff.mpr ⟨entry, mem_of_latest? hspelled, hsame⟩
  rw [h] at hlast
  contradiction

private theorem keptUnder_ne_nil
    {value : String} (h : latestWhere? (sameName · name) calls = some value) :
    res.keptUnder name ≠ [] := by
  obtain ⟨spelling, hsame, hspelled⟩ := exists_latest?_of_latestWhere? h
  have hentry : (spelling, value) ∈ res.keptUnder name :=
    (mem_keptUnder htype hres).mpr ⟨hsame, hspelled⟩
  exact List.ne_nil_of_mem hentry

/-- Under a name that was always spelled alike its latest value is kept. -/
theorem exists_keptUnder_eq_singleton {value : String}
    (h : latestWhere? (sameName · name) calls = some value)
    (halike : ∀ a ∈ calls, ∀ b ∈ calls,
      sameName a.1 name = true → sameName b.1 name = true → a.1 = b.1) :
    ∃ spelling, res.keptUnder name = [(spelling, value)] := by
  obtain ⟨spelling, hsame, hspelled⟩ := exists_latest?_of_latestWhere? h
  have hnodup : (res.keptUnder name).Nodup := by
    obtain ⟨listed, hlisted, rfl⟩ := hres
    have hkeys : (listed.map Prod.fst).Nodup :=
      (hlisted.map Prod.fst).nodup_iff.mpr (nodup_keys_ofCalls calls)
    exact (List.Nodup.of_map Prod.fst hkeys).filter _
  refine ⟨spelling, List.perm_singleton.mp
    ((List.perm_ext_iff_of_nodup hnodup (List.nodup_singleton _)).mpr fun entry => ?_)⟩
  rw [List.mem_singleton, mem_keptUnder htype hres]
  constructor
  · rintro ⟨hsameOther, hother⟩
    have hspelling : entry.1 = spelling :=
      halike _ (mem_of_latest? hother) _ (mem_of_latest? hspelled) hsameOther hsame
    rw [hspelling, hspelled] at hother
    exact Prod.ext hspelling (Option.some.inj hother).symm
  · rintro rfl
    exact ⟨hsame, hspelled⟩

end Kept

/-- A header reads as it was set last, in whatever order the headers are kept, exactly if it is the
content type or every spelling of it was last given that value. -/
theorem header?_ofCalls_iff (calls : List (String × String)) (name : String) :
    (∀ res : Response, res.Reorders (ofCalls calls) → res.header? name = expected? name calls) ↔
      IsContentType name ∨ ∀ spelling value, sameName spelling name = true →
        latest? spelling calls = some value →
          latestWhere? (sameName · name) calls = some value := by
  by_cases htype : IsContentType name
  · refine iff_of_true ?_ (Or.inl htype)
    rintro res ⟨listed, -, rfl⟩
    rw [header?_of_isContentType htype, expected?_of_isContentType htype, contentType_ofCalls]
  · rw [or_iff_right htype, expected?_of_not_isContentType htype]
    constructor
    · intro hreads spelling value hsame hspelled
      -- Nothing keeps this spelling from being the first that is looked at.
      have hentry : (spelling, value) ∈ (ofCalls calls).headers.entries :=
        (mem_entries_ofCalls calls).mpr ⟨(isContentType_congr hsame).not.mpr htype, hspelled⟩
      have hfirst := hreads _ ⟨_, (List.perm_cons_erase hentry).symm, rfl⟩
      rw [header?_of_not_isContentType htype, keptUnder, List.filter_cons_of_pos (by exact hsame),
        List.head?_cons, Option.map_some] at hfirst
      exact hfirst.symm
    · intro hagree res hres
      rw [header?_of_not_isContentType htype]
      cases hlatest : latestWhere? (sameName · name) calls with
      | none => rw [keptUnder_eq_nil htype hres hlatest, List.head?_nil, Option.map_none]
      | some value =>
        obtain ⟨entry, rest, hkept⟩ :=
          List.exists_cons_of_ne_nil (keptUnder_ne_nil htype hres hlatest)
        have hentry : entry ∈ res.keptUnder name := hkept ▸ List.mem_cons_self
        obtain ⟨hsame, hspelled⟩ := (mem_keptUnder htype hres).mp hentry
        rw [hkept, List.head?_cons, Option.map_some, ← hlatest]
        exact (hagree _ _ hsame hspelled).symm

end Response

namespace HttpResponse

/-- The values that go out under a name. -/
def values (out : HttpResponse) (name : String) : List Http.HeaderValue :=
  (out.headers.filter fun field => field.1 == Response.lower name).map (·.2)

/-- Whether a header can go out. -/
def IsValid (header : String × String) : Prop := (header? header.1 header.2).isSome

instance (header : String × String) : Decidable (IsValid header) :=
  inferInstanceAs (Decidable (_ = true))

/-- A text as the value of a header. -/
def written (text : String) : Http.HeaderValue := ⟨Text.Percent.bytes text⟩

private theorem header?_eq_some {name value : String} {field : String × Http.HeaderValue}
    (h : header? name value = some field) : field = (Response.lower name, written value) := by
  obtain ⟨sentName, hname, hrest⟩ := Option.bind_eq_some_iff.mp h
  obtain ⟨sentValue, hvalue, hfield⟩ := Option.bind_eq_some_iff.mp hrest
  obtain rfl : (sentName, sentValue) = field := Option.some.inj hfield
  obtain ⟨-, rfl⟩ := Option.ite_some_none_eq_some.mp hname
  obtain ⟨-, rfl⟩ := Option.ite_some_none_eq_some.mp hvalue
  rfl

/-- Valid headers go out under their names in lower case. -/
theorem values_ofResponse {res : Response} (hvalid : ∀ named ∈ namedHeaders res, IsValid named)
    (name : String) :
    (ofResponse res).values name =
      ((namedHeaders res).filter fun named => Response.sameName named.1 name).map
        fun named => written named.2 := by
  have hheaders : (namedHeaders res).mapM (fun named => header? named.1 named.2) =
      some ((namedHeaders res).map fun named => (Response.lower named.1, written named.2)) :=
    mapM_eq_some_map fun named hnamed => by
      obtain ⟨field, hfield⟩ := Option.isSome_iff_exists.mp (hvalid named hnamed)
      rw [hfield, header?_eq_some hfield]
  rw [values, ofResponse, hheaders, List.filter_map, List.map_map]
  rfl

private theorem isValid_iff {name value : String} :
    IsValid (name, value) ↔
      (Http.headerName? name).isSome ∧ (Http.HeaderValue.ofText? value).isSome := by
  rw [IsValid, header?]
  cases Http.headerName? name <;> cases Http.HeaderValue.ofText? value <;> simp [bind, pure]

section Calls

variable {calls : List (String × String)}

/-- What goes out for valid calls is valid, in whatever order the headers are kept. -/
theorem isValid_of_mem_namedHeaders (hvalid : ∀ call ∈ calls, IsValid call) {res : Response}
    (hres : res.Reorders (.ofCalls calls)) : ∀ named ∈ namedHeaders res, IsValid named := by
  obtain ⟨listed, hlisted, rfl⟩ := hres
  have hname : (Http.headerName? "content-type").isSome := by decide +kernel
  rw [namedHeaders, List.forall_mem_cons, isValid_iff, Response.contentType_ofCalls]
  refine ⟨⟨hname, ?_⟩, fun entry hentry => ?_⟩
  · cases hlatest : latestWhere? (Response.sameName · "content-type") calls with
    | none => decide +kernel
    | some value =>
      obtain ⟨spelling, -, hspelled⟩ := exists_latest?_of_latestWhere? hlatest
      exact (isValid_iff.mp (hvalid _ (mem_of_latest? hspelled))).2
  · have hkept := (Response.mem_entries_ofCalls calls).mp (hlisted.mem_iff.mp hentry)
    exact hvalid entry (mem_of_latest? hkept.2)

/-- Under the name of the content type nothing else goes out. -/
theorem values_of_isContentType (hvalid : ∀ call ∈ calls, IsValid call) {name : String}
    (htype : Response.IsContentType name) {res : Response} (hres : res.Reorders (.ofCalls calls)) :
    (ofResponse res).values name = [written res.contentType] := by
  have hself : Response.sameName "content-type" name = true :=
    Response.sameName_iff.mpr (Response.sameName_iff.mp htype).symm
  rw [values_ofResponse (isValid_of_mem_namedHeaders hvalid hres)]
  obtain ⟨listed, hlisted, rfl⟩ := hres
  have hnone : listed.filter (fun named => Response.sameName named.1 name) = [] := by
    rw [List.filter_eq_nil_iff]
    intro entry hentry hsame
    have hkept := (Response.mem_entries_ofCalls calls).mp (hlisted.mem_iff.mp hentry)
    exact hkept.1 ((Response.isContentType_congr hsame).mpr htype)
  rw [namedHeaders, List.filter_cons_of_pos (by exact hself), hnone]
  rfl

private theorem values_of_not_isContentType (hvalid : ∀ call ∈ calls, IsValid call) {name : String}
    (htype : ¬Response.IsContentType name) {res : Response}
    (hres : res.Reorders (.ofCalls calls)) :
    (ofResponse res).values name = (res.keptUnder name).map fun entry => written entry.2 := by
  have hother : ¬Response.sameName "content-type" name = true := fun hsame =>
    htype (Response.sameName_iff.mpr (Response.sameName_iff.mp hsame).symm)
  rw [values_ofResponse (isValid_of_mem_namedHeaders hvalid hres), namedHeaders,
    List.filter_cons_of_neg (by exact hother)]
  rfl

/-- A header goes out once, with the value it was given last, in whatever order the headers are
kept, exactly if it is the content type or all calls that set it spell it alike. -/
theorem values_ofCalls_iff (hvalid : ∀ call ∈ calls, IsValid call) (name : String) :
    (∀ res : Response, res.Reorders (.ofCalls calls) →
      (ofResponse res).values name = ((Response.expected? name calls).map written).toList) ↔
      Response.IsContentType name ∨ ∀ a ∈ calls, ∀ b ∈ calls,
        Response.sameName a.1 name = true → Response.sameName b.1 name = true → a.1 = b.1 := by
  by_cases htype : Response.IsContentType name
  · refine iff_of_true (fun res hres => ?_) (Or.inl htype)
    rw [values_of_isContentType hvalid htype hres, Response.expected?_of_isContentType htype,
      ← Response.contentType_ofCalls]
    obtain ⟨listed, -, rfl⟩ := hres
    rfl
  · rw [or_iff_right htype, Response.expected?_of_not_isContentType htype]
    constructor
    · intro hsent a ha b hb hsameA hsameB
      have hone := hsent _ (.refl _)
      rw [values_of_not_isContentType hvalid htype (.refl _)] at hone
      have hlength : ((Response.ofCalls calls).keptUnder name).length ≤ 1 := by
        rw [← List.length_map (fun entry => written entry.2), hone]
        exact Option.length_toList_le
      have hkept {call : String × String} (hcall : call ∈ calls)
          (hsame : Response.sameName call.1 name = true) :
          ∃ value, (call.1, value) ∈ (Response.ofCalls calls).keptUnder name := by
        obtain ⟨value, hvalue⟩ := exists_latest?_iff.mpr (List.mem_map_of_mem hcall)
        exact ⟨value, (Response.mem_keptUnder htype (.refl _)).mpr ⟨hsame, hvalue⟩⟩
      obtain ⟨valueA, hentryA⟩ := hkept ha hsameA
      obtain ⟨valueB, hentryB⟩ := hkept hb hsameB
      have hsame : (a.1, valueA) = (b.1, valueB) :=
        eq_of_mem_of_length_le_one hlength hentryA hentryB
      exact (Prod.mk.inj hsame).1
    · intro halike res hres
      rw [values_of_not_isContentType hvalid htype hres]
      cases hlatest : latestWhere? (Response.sameName · name) calls with
      | none =>
        rw [Response.keptUnder_eq_nil htype hres hlatest]
        rfl
      | some value =>
        obtain ⟨spelling, hone⟩ :=
          Response.exists_keptUnder_eq_singleton htype hres hlatest halike
        rw [hone]
        rfl

end Calls

/-- Whatever the order in which the headers are kept, a header reads as it was set last exactly if
it is the content type or every spelling of it was last given that value; and if all calls are valid
it goes out once and with that value exactly if it is the content type or was always spelled
alike. -/
theorem header?_values_iff (calls : List (String × String)) (name : String) :
    ((∀ res : Response, res.Reorders (.ofCalls calls) →
      res.header? name = Response.expected? name calls) ↔
        Response.IsContentType name ∨
          ∀ spelling value, Response.sameName spelling name = true →
            latest? spelling calls = some value →
              latestWhere? (Response.sameName · name) calls = some value) ∧
    ((∀ call ∈ calls, IsValid call) →
      ((∀ res : Response, res.Reorders (.ofCalls calls) →
        (ofResponse res).values name = ((Response.expected? name calls).map written).toList) ↔
          Response.IsContentType name ∨ ∀ a ∈ calls, ∀ b ∈ calls,
            Response.sameName a.1 name = true → Response.sameName b.1 name = true → a.1 = b.1)) :=
  ⟨Response.header?_ofCalls_iff calls name, fun hvalid => values_ofCalls_iff hvalid name⟩

/-- A header that is set twice in one spelling reads and goes out as it was set last. -/
theorem header?_values_alike :
    let calls := [("X-Request-Id", "first"), ("content-Type", "text/html"),
      ("X-Request-Id", "second")]
    (∀ call ∈ calls, IsValid call) ∧
    ∀ res : Response, res.Reorders (.ofCalls calls) →
      res.header? "x-request-id" = some "second" ∧
        (ofResponse res).values "x-request-id" = [written "second"] := by
  intro calls
  have hvalid : ∀ call ∈ calls, IsValid call := by decide +kernel
  obtain ⟨hreads, hsends⟩ := header?_values_iff calls "x-request-id"
  have hspelling : ∀ a ∈ calls, Response.sameName a.1 "x-request-id" = true →
      a.1 = "X-Request-Id" := by decide +kernel
  have hread := hreads.mpr <| Or.inr fun spelling value hsame hspelled => by
    obtain rfl := hspelling _ (mem_of_latest? hspelled) hsame
    exact hspelled
  have hsent := (hsends hvalid).mpr <| Or.inr fun a ha b hb hsameA hsameB =>
    (hspelling a ha hsameA).trans (hspelling b hb hsameB).symm
  exact ⟨hvalid, fun res hres => ⟨hread res hres, hsent res hres⟩⟩

/-- A header that is set in two spellings is kept twice: it reads as it was set first, and both
values go out. -/
theorem header?_values_two_spellings :
    let calls := [("X-Request-Id", "first"), ("x-request-id", "second")]
    Response.expected? "x-request-id" calls = some "second" ∧
    (Response.ofCalls calls).header? "x-request-id" = some "first" ∧
    (∀ call ∈ calls, IsValid call) ∧
    (ofResponse (.ofCalls calls)).values "x-request-id" = [written "first", written "second"] := by
  decide +kernel

end HttpResponse

end Signpost
