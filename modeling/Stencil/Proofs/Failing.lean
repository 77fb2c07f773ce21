import Stencil.Proofs.Inclusion

/-!
How a node fails: with what a deed raises there, because something is refused, because a partial
fails that it includes, or with a fault of its own. Nothing else makes a node fail.
-/

namespace Stencil.Render.Site

variable {setup : Setup} {site : Site}

theorem helper?_eq_ok {name : String} {found : Option Helper} {state after : State}
    (h : (helper? setup site.frame site.node.offset name).run state = (.ok found, after)) :
    setup.helpers.find? name = found ∧ after = state := by
  unfold helper? at h
  split at h
  · rename_i helper hFound
    cases h
    exact ⟨hFound, rfl⟩
  · rename_i hFound
    split at h
    · cases h
    · cases h
      exact ⟨hFound, rfl⟩

theorem helper?_eq_error {name : String} {failure : Failure} {state after : State}
    (hName : name ∈ site.node.helperNames)
    (h : (helper? setup site.frame site.node.offset name).run state = (.error failure, after)) :
    site.Fails setup failure := by
  unfold helper? at h
  split at h
  · cases h
  · rename_i hFound
    split at h
    · rename_i hStrict
      cases h
      exact .refusal (.unknownHelper hName hFound hStrict)
    · cases h

theorem call_eq_error {helper : Helper} {name : String} {arguments : List Value}
    {children : Option (List Node)} {state after : State} {failure : Failure}
    (hDone : site.Performs setup (.call helper name arguments children) state)
    (h : (call (site.body setup name children) site.frame site.node.offset helper name arguments).run
      state = (.error failure, after)) : site.Fails setup failure := by
  obtain ⟨raised, hRaised, rfl⟩ := run_guarding_eq_error.1 h
  exact .deed hDone (.call hRaised)

theorem textOf_eq_error {value : Value} {state after : State} {failure : Failure}
    (hDone : site.Performs setup (.textOf value) state)
    (h : (textOf site.frame site.node.offset value).run state = (.error failure, after)) :
    site.Fails setup failure := by
  rw [run_textOf] at h
  cases hText : value.display with
  | ok text =>
    rw [hText] at h
    cases h
  | error fault =>
    rw [hText] at h
    cases h
    exact .deed hDone (.textOf hText)

theorem callInline_eq_error {helper : Helper} {name : String} {arguments : List Value}
    {state after : State} {failure : Failure} (hName : name ∈ site.node.helperNames)
    (hFound : setup.helpers.find? name = some helper)
    (hDone : helper.isBlock = false → site.Performs setup (.call helper name arguments none) state)
    (h : (callInline site.frame site.node.offset helper name arguments).run state =
      (.error failure, after)) : site.Fails setup failure := by
  cases hKind : helper.isBlock with
  | true =>
    rw [callInline, if_pos hKind] at h
    cases h
    exact .refusal (.blockHelperInline hName hFound hKind)
  | false =>
    rw [callInline_of_inline hKind] at h
    exact call_eq_error (hDone hKind) h

/-- Either the arguments of the helper that is called first can be looked up, or the node fails. -/
theorem arguments_cases {name : String} {arguments : List String} {helper : Helper}
    (hNode : site.node.call? = some (name, arguments))
    (hFound : setup.helpers.find? name = some helper) :
    (∃ values, arguments.mapM site.resolve = .ok values) ∨
      ∃ failure, site.Fails setup failure ∧
        (arguments.mapM (lookUp site.frame site.node.offset site.context site.metadata)).run
          site.state = (.error failure, site.state) := by
  rcases resolveAll_cases site.context site.metadata arguments with
    hValues | ⟨before, path, after, values, fault, rfl, hBefore, hFault⟩
  · exact .inl hValues
  · refine .inr ⟨_, .deed (.argument hNode hFound hBefore) (.lookUp hFault), ?_⟩
    exact run_lookUpAll_of_error hBefore hFault after site.state

theorem first_eq_error {offset : Nat} {path : String} {arguments : List String}
    {filters : List Filter} {after : State} {failure : Failure}
    (hNode : site.node = .output offset path arguments filters)
    (h : (site.first setup path arguments).run site.state = (.error failure, after)) :
    site.Fails setup failure := by
  cases hSome : arguments.isEmpty with
  | true =>
    obtain rfl : arguments = [] := by simpa using hSome
    rw [first_nil, run_bind_eq_error] at h
    rcases h with h | ⟨value, middle, -, h⟩
    · rw [run_lookUp] at h
      cases hResolve : Path.resolve site.context path site.metadata with
      | ok value =>
        rw [hResolve] at h
        cases h
      | error fault =>
        rw [hResolve] at h
        cases h
        exact .deed (.path hNode) (.lookUp hResolve)
    · cases h
  | false =>
    have hCall : site.node.call? = some (path, arguments) := by
      rw [hNode, Node.call?, hSome]
      rfl
    have hName : path ∈ site.node.helperNames := Node.mem_helperNames_of_call? hCall
    cases hFound : setup.helpers.find? path with
    | none =>
      rw [first, head?, hSome] at h
      rcases run_bind_eq_error.1 h with h | ⟨found, middle, hOk, h⟩
      · exact helper?_eq_error hName h
      · obtain ⟨hSame, rfl⟩ := helper?_eq_ok hOk
        rw [hFound] at hSame
        subst hSame
        cases h
    | some helper =>
      rw [first_of_found hSome hFound] at h
      rcases arguments_cases hCall hFound with ⟨values, hValues⟩ | ⟨other, hFails, hRun⟩
      · rw [run_bind_of_ok (run_lookUpAll_of_ok hValues _), run_bind_eq_error] at h
        rcases h with h | ⟨value, middle, -, h⟩
        · exact callInline_eq_error hName hFound (.alone hCall hFound · hValues) h
        · cases h
      · rw [run_bind_of_error hRun] at h
        cases h
        exact hFails

theorem filtered_eq_error {offset : Nat} {path : String} {arguments : List String}
    {before filters : List Filter} {first value : Value} {middle state after : State}
    {failure : Failure} (hNode : site.node = .output offset path arguments (before ++ filters))
    (hFirst : (site.first setup path arguments).run site.state = (.ok (some first), middle))
    (hBefore : (site.filtered setup before first).run middle = (.ok value, state))
    (h : (site.filtered setup filters value).run state = (.error failure, after)) :
    site.Fails setup failure := by
  -- Filters move from those that are still to be applied to those that have been.
  induction filters generalizing before value state with
  | nil => cases h
  | cons filter filters ih =>
    have hName : filter.name ∈ site.node.helperNames := by
      simp [Node.helperNames, Node.filterNames, hNode]
    have hNode' : site.node = .output offset path arguments ((before ++ [filter]) ++ filters) := by
      rw [hNode, List.append_assoc, List.singleton_append]
    cases hFound : setup.helpers.find? filter.name with
    | none =>
      rw [filtered, applyFilters] at h
      rcases run_bind_eq_error.1 h with h | ⟨found, later, hOk, h⟩
      · exact helper?_eq_error hName h
      · obtain ⟨hSame, rfl⟩ := helper?_eq_ok hOk
        rw [hFound] at hSame
        subst hSame
        refine ih hNode' ?_ h
        rw [filtered_append, run_bind_of_ok hBefore, filtered, applyFilters, run_bind_of_ok hOk]
        rfl
    | some helper =>
      rw [filtered_of_found hFound] at h
      rcases run_bind_eq_error.1 h with h | ⟨next, later, hOk, h⟩
      · exact callInline_eq_error hName hFound (.filter hNode hFirst hBefore hFound) h
      · refine ih hNode' ?_ h
        rw [filtered_append, run_bind_of_ok hBefore, filtered_of_found hFound,
          run_bind_of_ok hOk]
        rfl

theorem enter_eq_error {frame : Frame} {name source : String} {error : RenderError}
    (h : frame.enter name source = .error error) :
    error = .ofCause (.partialCycle name frame.stack) { templateName := frame.templateName } := by
  unfold Frame.enter at h
  split at h
  · cases h
    rfl
  · cases h

theorem block_eq_error {offset : Nat} {name : String} {arguments : List String}
    {children : List Node} {failure : Failure} {after : State}
    (hNode : site.node = .block offset name arguments children)
    (h : site.outcome setup = (.error failure, after)) : site.Fails setup failure := by
  have hCall : site.node.call? = some (name, arguments) := by rw [hNode]; rfl
  have hName : name ∈ site.node.helperNames := Node.mem_helperNames_of_call? hCall
  cases hFound : setup.helpers.find? name with
  | none =>
    unfold Site.outcome at h
    rw [hNode] at h
    unfold renderNode helper? at h
    rw [hFound] at h
    dsimp only at h
    split at h
    · rename_i hStrict
      cases h
      have hPlace : site.place = site.frame.place offset := by rw [place, hNode]; rfl
      rw [← hPlace]
      exact .refusal (.unknownHelper hName hFound hStrict)
    · cases h
  | some helper =>
    rw [outcome_block hNode hFound] at h
    rcases arguments_cases hCall hFound with ⟨values, hValues⟩ | ⟨other, hFails, hRun⟩
    · rw [run_bind_of_ok (run_lookUpAll_of_ok hValues _)] at h
      -- Whether the helper takes a block matters only for what it is called with.
      have hDone : ∃ given inside, site.Performs setup (.call helper name given inside) site.state ∧
          (if helper.isBlock then
            call (site.body setup name (some children)) site.frame site.node.offset helper name
              (values ++ [.blockOptions name site.context])
          else call (site.body setup name none) site.frame site.node.offset helper name values) =
          call (site.body setup name inside) site.frame site.node.offset helper name given := by
        cases hKind : helper.isBlock with
        | true => exact ⟨_, _, .block hNode hFound hKind hValues, rfl⟩
        | false => exact ⟨_, _, .alone hCall hFound hKind hValues, rfl⟩
      obtain ⟨given, inside, hDone, hSame⟩ := hDone
      rw [hSame] at h
      rcases run_bind_eq_error.1 h with h | ⟨value, middle, hOk, h⟩
      · exact call_eq_error hDone h
      · exact textOf_eq_error (.blockShown hNode hDone (run_guarding_eq_ok.1 hOk)) h
    · rw [run_bind_of_error hRun] at h
      cases h
      exact hFails

theorem inclusion_eq_error {offset : Nat} {name : String} {expression : Option String}
    {failure : Failure} {after : State} (hNode : site.node = .inclusion offset name expression)
    (h : site.outcome setup = (.error failure, after)) : site.Fails setup failure := by
  have hIncluded : site.Included setup name expression (site.outcome setup) := included hNode
  rw [h] at hIncluded
  cases hIncluded with
  | unknown hFound hStrict => exact .refusal (.unknownPartial hNode hFound hStrict)
  | unresolved hFound hPath hFault =>
    subst hPath
    exact .deed (.context hNode hFound) (.lookUp hFault)
  | uncompared hFound hPath hValue hKeys =>
    subst hPath
    exact .leak (.keys hNode hFound hValue hKeys)
  | refused hFound hContext hEnter =>
    rw [enter_eq_error hEnter]
    exact .refusal (.cycle hNode)
  | uncompiled hFound hContext hEnter hCompile =>
    exact .refusal (.uncompiled hNode hFound hCompile)
  | bounded => exact .refusal (.cycle hNode)
  | closed hFound hContext hEnter hCompile hRoom hOpens =>
    exact .leak (.stack hNode hRoom hFound hContext hEnter hCompile hOpens)
  | rendered hFound hContext hEnter hCompile hRoom hOpens hInner =>
    exact .inside (.inclusion hNode hRoom hFound hContext hEnter hCompile hOpens)
      (congrArg Prod.fst hInner)

/-- A node that fails does so because of a deed, a refusal or a partial, or by itself. -/
theorem fails_of_outcome {failure : Failure} {after : State}
    (h : site.outcome setup = (.error failure, after)) : site.Fails setup failure := by
  cases hNode : site.node with
  | text offset content =>
    rw [outcome_text hNode] at h
    cases h
  | output offset path arguments filters =>
    rw [outcome_output hNode] at h
    rcases run_bind_eq_error.1 h with h | ⟨found, middle, hFirst, h⟩
    · exact first_eq_error hNode h
    · cases found with
      | none => cases h
      | some first =>
        rcases run_bind_eq_error.1 h with h | ⟨value, later, hFilters, h⟩
        · exact filtered_eq_error (List.nil_append filters ▸ hNode) hFirst rfl h
        · rcases run_bind_eq_error.1 h with h | ⟨text, last, -, h⟩
          · exact textOf_eq_error (.shown hNode hFirst hFilters) h
          · cases h
  | block offset name arguments children => exact block_eq_error hNode h
  | inclusion offset name expression => exact inclusion_eq_error hNode h

end Stencil.Render.Site
