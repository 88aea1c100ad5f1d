import Signpost.Proofs.Route.Rebuilt

/-!
# The addresses of a named route

A named route makes addresses of values for its placeholders, and its method answers requests for
them.  Main statements, for a router without other routes: an address made of values that answer the
placeholders leads back to the route and binds every name to what its value decodes to; and when an
address made of the values that a request bound leads back to the route with the same values.
-/

namespace Signpost

open Route Text.Percent

variable {ε : Type}

namespace Registration

/-- What is known of a named route in a router without others: its segments were understood, it
answers what its tree finds, and it makes addresses of its joined path. -/
theorem exists_of_named_route {router router' : Router ε} {scope : Scope ε} {method : Method}
    {path name : String} {action : Action ε} (hfresh : router.trees = .empty)
    (hroute : route method path action scope router = (.ok (), router'))
    (hname : action.name = some name) :
    ∃ prepared segments, action.prepare router.aliases router.resolver scope.space scope.nameStart
        (Path.join scope.base path) = .ok prepared ∧
      Segment.classifyAll (prepared.patternOf router.patterns)
        (Path.segments (Path.join scope.base path)) = .ok segments ∧
      (∀ request found, router'.match? method request = .ok found ↔
        (Route.Tree.ofHistory (.ofRoute ((Path.segments (Path.join scope.base path)).map
          (Segment.ofText (prepared.patternOf router.patterns))) (scope.stack prepared))).find?
            request = some found) ∧
      ∀ params, router'.url? (scope.nameStart ++ name) params =
        some (Template.url (Path.join scope.base path) params) := by
  obtain ⟨plan, hplan, rfl⟩ := exists_plan_of_route hroute
  obtain ⟨prepared, hprepared, hofPath, hpath, hstack, hnamed⟩ := Router.plan_eq_ok_iff.mp hplan
  obtain ⟨-, -, -, -, -, hprefixed⟩ := Action.prepare_eq_ok_iff.mp hprepared
  rw [hprefixed, hname, Option.map_some] at hnamed
  refine ⟨prepared, plan.segments, hprepared, Segment.classifyAll_of_ofPath hofPath,
    fun request found => ?_, fun params => ?_⟩
  · rw [plan.match?_carryOut_eq_ok_iff hfresh, Plan.insertions, hstack,
      Segment.eq_map_ofText_of_ofPath hofPath]
    rfl
  · rw [Router.url?, Names.url?, plan.names_carryOut, hnamed]
    dsimp only
    rw [Dict.get?_insert_self, Option.map_some, hpath]

/-- The address that a named route makes of values leads back to the route, if every placeholder is
given a value that answers it and the literals decode to themselves.  Every name is bound to what
its last value decodes to, and no other name is bound. -/
theorem match?_url {router router' : Router ε} {scope : Scope ε} {method : Method}
    {path name : String} {action : Action ε} {params : List (String × Option String)}
    (hfresh : router.trees = .empty)
    (hroute : route method path action scope router = (.ok (), router'))
    (hname : action.name = some name)
    (hliterals : ∀ written ∈ Path.segments (Path.join scope.base path),
      Placeholder.parse? written = none → decode written = written)
    (hkeys : ∀ param ∈ params,
      param.1 ∈ Template.placeholderNames (Path.join scope.base path)) :
    ∃ prepared, action.prepare router.aliases router.resolver scope.space scope.nameStart
        (Path.join scope.base path) = .ok prepared ∧
      ((∀ written ∈ Path.segments (Path.join scope.base path),
          Given (prepared.patternOf router.patterns) (Template.setParams params) written) →
        ∃ url bound, router'.url? (scope.nameStart ++ name) params = some url ∧
          router'.match? method url = .ok (scope.stack prepared, bound) ∧
          ∀ x, bound.get? x =
            if x ≠ "" ∧ x ∈ Template.placeholderNames (Path.join scope.base path)
            then (latest? x (Template.setParams params)).map decode else none) := by
  obtain ⟨prepared, -, hprepared, -, hanswers, hurl⟩ := exists_of_named_route hfresh hroute hname
  have hparts : ∀ written ∈ Path.segments (Path.join scope.base path), Path.IsPart written :=
    fun _ => Path.isPart_of_mem_segments_join
  refine ⟨prepared, hprepared, fun hgiven => ?_⟩
  have hfills : ∀ written ∈ Path.segments (Path.join scope.base path), ∃ raw,
      FillsIn (prepared.patternOf router.patterns) (Template.setParams params) written raw :=
    fun written hwritten => (hgiven written hwritten).exists_fillsIn (hparts written hwritten)
      (hliterals written hwritten)
  obtain ⟨bound, hfind, hbound⟩ :=
    Tree.find?_path hparts .whole hfills rfl (scope.stack prepared)
  rw [Path.render_segments_join] at hfind
  rw [← Template.placeholderNames_render hparts, Path.render_segments_join] at hbound
  refine ⟨_, bound, hurl params, ?_, hbound⟩
  rw [Template.url_eq_path hkeys, hanswers]
  exact hfind

/-- Files of an owner: of two owners the last counts, and its escape is read as a slash. -/
theorem match?_url_file :
    ∃ router' : Router Unit,
      route .get "/files/\x7b\x7d/\x7bowner\x7d/\x7bfile?\x7d"
        { target := some (.handler logging), name := some "file", constraints := [("file", "c")] }
        {} {} = (.ok (), router') ∧
      ∃ stack url bound,
        router'.url? "file" [("owner", some "a"), ("file", some "c"), ("owner", some "b%2Fb")] =
          some url ∧
        router'.match? .get url = .ok (stack, bound) ∧
        bound.get? "owner" = some "b/b" ∧ bound.get? "file" = some "c" ∧ bound.get? "" = none := by
  have hroute : route .get "/files/\x7b\x7d/\x7bowner\x7d/\x7bfile?\x7d"
      { target := some (.handler logging), name := some "file", constraints := [("file", "c")] }
      {} {} = (.ok (), (apply (route .get "/files/\x7b\x7d/\x7bowner\x7d/\x7bfile?\x7d"
        { target := some (.handler logging), name := some "file", constraints := [("file", "c")] })
          ({} : Router Unit)).2) :=
    Prod.ext (by decide +kernel) rfl
  have hliterals : ∀ written ∈ Path.segments
      (Path.join "/" "/files/\x7b\x7d/\x7bowner\x7d/\x7bfile?\x7d"),
      Placeholder.parse? written = none → decode written = written := by decide +kernel
  have hkeys : ∀ param ∈ [("owner", some "a"), ("file", some "c"), ("owner", some "b%2Fb")],
      param.1 ∈ Template.placeholderNames
        (Path.join "/" "/files/\x7b\x7d/\x7bowner\x7d/\x7bfile?\x7d") := by decide +kernel
  obtain ⟨prepared, hprepared, hmatch⟩ := match?_url rfl hroute rfl hliterals hkeys
  obtain ⟨-, -, -, hconstraints, -, -⟩ := Action.prepare_eq_ok_iff.mp hprepared
  have hcheck : ((Patterns.declareAll .empty [("file", "c")]).toOption.any fun patterns =>
      (patterns.get? "owner").isNone && (patterns.get? "file").any (·.accepts "c")) = true := by
    decide +kernel
  rw [hconstraints] at hcheck
  obtain ⟨howner, hfile⟩ := Bool.and_eq_true_iff.mp hcheck
  have hsegments : Path.segments
      (Path.join "/" "/files/\x7b\x7d/\x7bowner\x7d/\x7bfile?\x7d") =
        ["files", "\x7b\x7d", "\x7bowner\x7d", "\x7bfile?\x7d"] := by decide +kernel
  have hparse : ["files", "\x7b\x7d", "\x7bowner\x7d", "\x7bfile?\x7d"].map Placeholder.parse? =
      [none, some ⟨"", false⟩, some ⟨"owner", false⟩, some ⟨"file", true⟩] := by decide +kernel
  simp only [List.map_cons, List.map_nil, List.cons.injEq, and_true] at hparse
  obtain ⟨hparse₁, hparse₂, hparse₃, hparse₄⟩ := hparse
  have hdecode : decode "c" = "c" := by decide +kernel
  have hgiven : ∀ written ∈ Path.segments
      (Path.join "/" "/files/\x7b\x7d/\x7bowner\x7d/\x7bfile?\x7d"),
      Given (prepared.patternOf .empty) (Template.setParams
        [("owner", some "a"), ("file", some "c"), ("owner", some "b%2Fb")]) written := by
    rw [hsegments]
    simp only [List.forall_mem_cons]
    refine ⟨.of_literal hparse₁, .of_unset hparse₂ (by decide +kernel),
      .of_value hparse₃ "b%2Fb" (by decide +kernel) (by decide +kernel) (by decide)
        fun _ pattern hpattern => ?_,
      .of_value hparse₄ "c" (by decide +kernel) (by decide +kernel) (by decide)
        fun _ pattern hpattern => ?_, nofun⟩
    · rw [Prepared.patternOf, Option.isNone_iff_eq_none.mp howner] at hpattern
      exact absurd hpattern (Option.not_mem_none pattern)
    · obtain ⟨found, hfound, haccepts⟩ := Option.any_eq_true _ _ |>.mp hfile
      rw [Prepared.patternOf, hfound] at hpattern
      obtain rfl : found = pattern := Option.some.inj hpattern
      rwa [hdecode]
  obtain ⟨url, bound, hurl, hbound, hget⟩ := hmatch hgiven
  refine ⟨_, hroute, _, url, bound, hurl, hbound, ?_⟩
  rw [hget, hget, hget]
  decide +kernel

/-- A request that a named route answers has bound values, and the route makes an address of them
again.  It answers that address, with the same values bound, exactly if its literals and all those
values are read back from an address, and no anonymous placeholder that may be missing stands behind
a pattern. -/
theorem match?_url_of_match?_iff {router router' : Router ε} {scope : Scope ε} {method : Method}
    {path name request : String} {action : Action ε} {stack : Stack ε}
    {params : Dict String String} {given : List (String × Option String)}
    (hfresh : router.trees = .empty)
    (hroute : route method path action scope router = (.ok (), router'))
    (hname : action.name = some name)
    (hmatch : router'.match? method request = .ok (stack, params))
    (hgiven : given.Perm (params.entries.map fun entry => (entry.1, some entry.2))) :
    ∃ prepared, action.prepare router.aliases router.resolver scope.space scope.nameStart
        (Path.join scope.base path) = .ok prepared ∧
      stack = scope.stack prepared ∧
      ∃ url, router'.url? (scope.nameStart ++ name) given = some url ∧
        ((∃ bound, router'.match? method url = .ok (stack, bound) ∧
            ∀ x, bound.get? x = params.get? x) ↔
          (∀ written ∈ Path.segments (Path.join scope.base path),
            Placeholder.parse? written = none → decode written = written) ∧
          (∀ x value, params.get? x = some value → IsPlain value) ∧
          (∀ initial last, Path.segments (Path.join scope.base path) = initial ++ [last] →
            Placeholder.parse? last = some ⟨"", true⟩ →
            ∀ written ∈ initial, ¬IsConstrained (prepared.patternOf router.patterns) written)) := by
  obtain ⟨prepared, segments, hprepared, hclassify, hanswers, hurl⟩ :=
    exists_of_named_route hfresh hroute hname
  have hparts : ∀ written ∈ Path.segments (Path.join scope.base path), Path.IsPart written :=
    fun _ => Path.isPart_of_mem_segments_join
  have hfind := (hanswers request (stack, params)).mp hmatch
  have hnodup : (params.entries.map Prod.fst).Nodup := by
    obtain ⟨-, form, -, -, rfl⟩ := Tree.find?_ofRoute_iff.mp hfind
    exact Dict.nodup_keys_ofList _
  have hvalues := Template.latest?_setParams hnodup hgiven
  obtain ⟨rfl, form, texts, htook⟩ := TookForm.exists_of_find? hparts hclassify hfind hvalues
  have hkeys : ∀ param ∈ given,
      param.1 ∈ Template.placeholderNames (Path.join scope.base path) := by
    intro param hparam
    obtain ⟨entry, hentry, rfl⟩ := List.mem_map.mp (hgiven.mem_iff.mp hparam)
    rw [← Path.render_segments_join, Template.placeholderNames_render hparts]
    have hvalue : params.get? entry.1 = some entry.2 :=
      (Dict.get?_eq_some_iff_mem hnodup).mpr hentry
    exact htook.mem_namesOf ((hvalues entry.1).trans hvalue)
  refine ⟨prepared, hprepared, rfl, _, hurl given, ?_⟩
  have hiff := htook.find?_path_iff (scope.stack prepared)
  rw [Path.render_segments_join, ← Template.url_eq_path hkeys] at hiff
  simp only [hvalues, ← hanswers] at hiff
  exact hiff

/-- A file is found again whose name has a space, which a request escapes and an address does
not. -/
theorem match?_url_of_match?_space :
    ∃ router' : Router Unit,
      route .get "/files/\x7bfile\x7d/\x7bpart?\x7d"
        { target := some (.handler logging), name := some "file" } {} {} = (.ok (), router') ∧
      ∃ stack params, router'.match? .get "/files/a%20b" = .ok (stack, params) ∧
        ∃ url bound, router'.url? "file" [("file", some "a b")] = some url ∧
          router'.match? .get url = .ok (stack, bound) ∧ bound.get? "file" = some "a b" := by
  have hroute : route .get "/files/\x7bfile\x7d/\x7bpart?\x7d"
      { target := some (.handler logging), name := some "file" } {} {} =
        (.ok (), (apply (route .get "/files/\x7bfile\x7d/\x7bpart?\x7d"
          { target := some (.handler logging), name := some "file" }) ({} : Router Unit)).2) :=
    Prod.ext (by decide +kernel) rfl
  refine ⟨_, hroute, ?_⟩
  have hentries : ((apply (route .get "/files/\x7bfile\x7d/\x7bpart?\x7d"
      { target := some (.handler logging), name := some "file" }) ({} : Router Unit)).2.match? .get
        "/files/a%20b").toOption.map (·.2.entries) = some [("file", "a b")] := by decide +kernel
  obtain ⟨⟨stack, ⟨entries⟩⟩, hmatch, hparams⟩ := exists_of_toOption_map_eq_some hentries
  replace hparams : entries = [("file", "a b")] := hparams
  subst hparams
  obtain ⟨prepared, -, -, url, hurl, hiff⟩ :=
    match?_url_of_match?_iff rfl hroute rfl hmatch (List.Perm.refl _)
  have hsegments : Path.segments (Path.join "/" "/files/\x7bfile\x7d/\x7bpart?\x7d") =
      ["files", "\x7bfile\x7d"] ++ ["\x7bpart?\x7d"] := by decide +kernel
  have hliterals : ∀ written ∈ Path.segments (Path.join "/" "/files/\x7bfile\x7d/\x7bpart?\x7d"),
      Placeholder.parse? written = none → decode written = written := by decide +kernel
  have hplain : ∀ x value, (⟨[("file", "a b")]⟩ : Dict String String).get? x = some value →
      IsPlain value := by
    intro x value hvalue
    rw [Dict.get?, Dict.get] at hvalue
    split at hvalue
    · obtain rfl := Option.some.inj hvalue
      exact ⟨by decide, by decide +kernel⟩
    · cases hvalue
  have hnamed : Placeholder.parse? "\x7bpart?\x7d" = some ⟨"part", true⟩ := by decide +kernel
  have hreach : ∀ initial last,
      Path.segments (Path.join "/" "/files/\x7bfile\x7d/\x7bpart?\x7d") = initial ++ [last] →
      Placeholder.parse? last = some ⟨"", true⟩ →
      ∀ written ∈ initial, ¬IsConstrained (prepared.patternOf .empty) written := by
    intro initial last hwritten hlast
    rw [hsegments] at hwritten
    obtain ⟨-, heq⟩ := List.append_inj' hwritten rfl
    rw [← List.singleton_inj.mp heq, hnamed] at hlast
    exact absurd hlast (by decide)
  obtain ⟨bound, hbound, hsame⟩ := hiff.mpr ⟨hliterals, hplain, hreach⟩
  exact ⟨stack, _, hmatch, url, bound, hurl, hbound, (hsame "file").trans rfl⟩

/-- A file is not found again whose name has a slash: a request escapes it and an address does
not. -/
theorem match?_url_slash :
    ∃ router' : Router Unit,
      route .get "/files/\x7bfile\x7d"
        { target := some (.handler logging), name := some "file" } {} {} = (.ok (), router') ∧
      (router'.match? .get "/files/a%2Fb").toOption.map (·.2.entries) = some [("file", "a/b")] ∧
      router'.url? "file" [("file", some "a/b")] = some "/files/a/b" ∧
      ∀ found, router'.match? .get "/files/a/b" ≠ .ok found := by
  refine ⟨(apply (route .get "/files/\x7bfile\x7d"
    { target := some (.handler logging), name := some "file" }) ({} : Router Unit)).2,
    Prod.ext (by decide +kernel) rfl, by decide +kernel, by decide +kernel, fun found hfound => ?_⟩
  have hmissed : ((apply (route .get "/files/\x7bfile\x7d"
      { target := some (.handler logging), name := some "file" }) ({} : Router Unit)).2.match? .get
        "/files/a/b").toOption.isNone = true := by
    decide +kernel
  rw [hfound] at hmissed
  exact absurd hmissed Bool.false_ne_true

end Registration

end Signpost
