import Stencil.Proofs.PlainData
import Stencil.Proofs.Scoping
import Stencil.Proofs.Whereabouts

/-!
Looking up paths in a render. If the data that a render starts with are plain, and helpers hand on
nothing else to the bodies of their blocks, then the data at every node are plain, and a path that
cannot be resolved is one that stumbles there.
-/

namespace Stencil

/-! ### What helpers hand on -/

namespace Action

variable {α β : Type} {P : Value → Metadata → Prop}

/-- Whatever the action is told, it asks for bodies in such contexts and with such metadata only. -/
inductive HandsOn (P : Value → Metadata → Prop) : Action α → Prop
  | done (result : α) : HandsOn P (.done result)
  | fail (failure : Failure) : HandsOn P (.fail failure)
  | body {context : Value} {metadata : Metadata} {next : Except Failure String → Action α}
      (hGiven : P context metadata) (h : ∀ outcome, HandsOn P (next outcome)) :
      HandsOn P (.body context metadata next)
  | frame {next : Option Frame → Action α} (h : ∀ current, HandsOn P (next current)) :
      HandsOn P (.frame next)

theorem HandsOn.bind {action : Action α} {k : α → Action β} (h : action.HandsOn P)
    (hk : ∀ a, (k a).HandsOn P) : (action.bind k).HandsOn P := by
  induction h with
  | done a => exact hk a
  | fail failure => exact .fail failure
  | body hGiven h ih => exact .body hGiven ih
  | frame h ih => exact .frame ih

theorem HandsOn.ofExcept (result : Except Fault α) : (ofExcept result).HandsOn P := by
  cases result with
  | ok a => exact .done a
  | error fault => exact .fail _

theorem HandsOn.notOptions (member : String) (value : Value) :
    (notOptions member value : Action α).HandsOn P := by
  unfold Action.notOptions
  split
  · exact .fail _
  · exact .fail _

/-- Only options of a block have something rendered. -/
theorem HandsOn.content {options : Value} {context : Option Value} {metadata : Metadata}
    (h : ∀ name ambient, options = .blockOptions name ambient →
      P (context.getD ambient) metadata) : (content options context metadata).HandsOn P := by
  unfold Action.content
  split
  · refine .body (h _ _ rfl) fun outcome => ?_
    cases outcome with
    | ok text => exact .done text
    | error failure => exact .fail failure
  · exact .notOptions "fn" _

theorem HandsOn.alternative (options : Value) : (alternative options).HandsOn P := by
  unfold Action.alternative
  split
  · exact .done ""
  · exact .notOptions "inverse" _

end Action

theorem Render.Asks.handsOn {α : Type} {P : Value → Metadata → Prop}
    {body : Value → Metadata → Step String} {action : Action α} {state last : State} {inner : Value}
    {more : Metadata} (hAsks : Asks body action state inner more last) (h : action.HandsOn P) :
    P inner more := by
  induction hAsks with
  | now =>
    cases h with
    | body hGiven h => exact hGiven
  | later hBody hAsks ih =>
    cases h with
    | body hGiven h => exact ih (h _)
  | frame hAsks ih =>
    cases h with
    | frame h => exact ih (h _)

/-- What a helper is given where the data are plain: plain values, and the options of its block. -/
def Value.GivenPlain (value : Value) : Prop :=
  value.Plain ∨ ∃ name ambient, value = .blockOptions name ambient ∧ ambient.Plain

/-- Where the data are plain, the helper has its body rendered with plain data. -/
def Helper.HandsOnPlain (helper : Helper) : Prop :=
  ∀ arguments, (∀ argument ∈ arguments, argument.GivenPlain) →
    (helper.act arguments).HandsOn fun context metadata => context.Plain ∧ metadata.Plain

/-! ### Built-in helpers -/

namespace Value

theorem plain_of_mem_insert {key value : Value} {entries : List (Value × Value)}
    (hValue : value.Plain) (h : ∀ entry ∈ entries, entry.2.Plain) :
    ∀ entry ∈ insert key value entries, entry.2.Plain := by
  induction entries with
  | nil => exact fun entry hEntry => List.mem_singleton.1 hEntry ▸ hValue
  | cons first entries ih =>
    obtain ⟨hFirst, hLater⟩ := List.forall_mem_cons.1 h
    rw [insert]
    split
    · exact List.forall_mem_cons.2 ⟨hValue, hLater⟩
    · exact List.forall_mem_cons.2 ⟨hFirst, ih hLater⟩

theorem plain_of_mem_merge {entries later : List (Value × Value)}
    (h : ∀ entry ∈ entries, entry.2.Plain) (hLater : ∀ entry ∈ later, entry.2.Plain) :
    ∀ entry ∈ merge entries later, entry.2.Plain := by
  unfold merge
  induction later generalizing entries with
  | nil => exact h
  | cons first later ih =>
    obtain ⟨hFirst, hLater⟩ := List.forall_mem_cons.1 hLater
    exact ih (plain_of_mem_insert hFirst h) hLater

theorem Plain.of_mem_entries {value : Value} (h : value.Plain) {entries : List (Value × Value)}
    (hEntries : value.entries? = some entries) : ∀ entry ∈ entries, entry.2.Plain := by
  cases h with
  | map h =>
    cases hEntries
    exact h
  | _ => cases hEntries

theorem Plain.getD_entries? {value : Value} (h : value.Plain) :
    ∀ entry ∈ value.entries?.getD [], entry.2.Plain := by
  cases hEntries : value.entries? with
  | none => exact fun entry hEntry => nomatch hEntry
  | some entries => exact h.of_mem_entries hEntries

theorem Plain.of_mem_items {value : Value} (h : value.Plain) {items : List Value}
    (hItems : value.items? = some items) : ∀ item ∈ items, item.Plain := by
  cases h with
  | list h =>
    cases hItems
    exact h
  | tuple h =>
    cases hItems
    exact h
  | _ => cases hItems

end Value

namespace Loop

theorem plain_metadata (loop : Loop) : loop.metadata.Plain := by
  intro entry hEntry
  simp only [metadata, List.mem_cons, List.not_mem_nil, or_false] at hEntry
  rcases hEntry with rfl | rfl | rfl
  · exact .int _
  · exact .bool _
  · exact .bool _

theorem plain_scope (loop : Loop) {item : Value} (h : item.Plain) : (loop.scope item).Plain := by
  unfold scope
  split
  · rename_i entries hEntries
    refine .map (Value.plain_of_mem_merge (h.of_mem_entries hEntries) fun entry hEntry => ?_)
    obtain ⟨datum, hDatum, rfl⟩ := List.mem_map.1 hEntry
    exact loop.plain_metadata datum hDatum
  · exact h

end Loop

namespace Helper

theorem handsOn_bodies {options : Value} {items : List Value}
    (hItems : ∀ item ∈ items, item.Plain) (loop : Loop) (before : String) :
    (bodies options loop before items).HandsOn fun context metadata =>
      context.Plain ∧ metadata.Plain := by
  induction items generalizing loop before with
  | nil => exact .done before
  | cons item items ih =>
    obtain ⟨hItem, hLater⟩ := List.forall_mem_cons.1 hItems
    refine Action.HandsOn.bind ?_ fun text => ih hLater _ _
    exact .content fun _ _ _ => ⟨loop.plain_scope hItem, loop.plain_metadata⟩

theorem Form.handsOnPlain {helper : Helper} (h : Form helper) : helper.HandsOnPlain := by
  intro arguments hArguments
  cases h with
  | function name most f =>
    dsimp only [Helper.function]
    split
    · exact .fail _
    · exact .ofExcept _
  | choice chosen =>
    dsimp only [blockFunction]
    split
    · exact .fail _
    · rename_i options hLast
      have hOptions := hArguments options (List.mem_of_getLast? hLast)
      unfold Helper.choice
      dsimp only
      split
      · refine Action.HandsOn.bind (.content fun name ambient hSame => ⟨?_, nofun⟩) fun _ => .done _
        subst hSame
        rcases hOptions with hPlain | ⟨_, _, hSame, hAmbient⟩
        · cases hPlain
        · cases hSame
          exact hAmbient
      · exact Action.HandsOn.bind (.alternative _) fun _ => .done _
  | eachItem =>
    dsimp only [Helper.eachItem, blockFunction]
    split
    · exact .fail _
    · split
      · exact .done _
      · rename_i items hItems
        obtain ⟨value, hValue, hSome⟩ := Option.bind_eq_some_iff.1 hItems
        have hGiven := hArguments value (List.dropLast_subset _ (List.mem_of_head? hValue))
        refine Action.HandsOn.bind (handsOn_bodies ?_ _ _) fun text => .done _
        rcases hGiven with hPlain | ⟨_, _, rfl, -⟩
        · exact hPlain.of_mem_items hSome
        · cases hSome

theorem IsBuiltin.handsOnPlain {helper : Helper} (h : helper.IsBuiltin) : helper.HandsOnPlain :=
  h.form.handsOnPlain

end Helper

/-! ### Data at nodes -/

namespace Render

variable {setup : Setup} {site : Site} {task : Task}

/-- The data that the node is rendered with are plain. -/
structure Site.IsPlain (site : Site) : Prop where
  context : site.context.Plain
  metadata : site.metadata.Plain

/-- The data that the nodes are rendered with are plain. -/
structure Task.IsPlain (task : Task) : Prop where
  context : task.context.Plain
  metadata : task.metadata.Plain

theorem plain_innerContext {context value : Value} (hContext : context.Plain)
    (hValue : value.Plain) : (innerContext context value).Plain := by
  unfold innerContext
  split
  · rename_i entries hEntries
    exact .map (Value.plain_of_mem_merge hContext.getD_entries? (hValue.of_mem_entries hEntries))
  · exact hContext

theorem plain_topContext {context : Value} (hContext : context.Plain)
    {named : List (String × Value)} (hNamed : ∀ entry ∈ named, entry.2.Plain) :
    (topContext context named).Plain := by
  unfold topContext
  extract_lets top
  have hTop : top.Plain := by
    unfold top
    split
    · exact .map nofun
    · exact hContext
  split
  · exact hTop
  · refine .map (Value.plain_of_mem_merge hTop.getD_entries? fun entry hEntry => ?_)
    obtain ⟨datum, hDatum, rfl⟩ := List.mem_map.1 hEntry
    exact hNamed datum hDatum

namespace Site.IsPlain

theorem resolve (h : site.IsPlain) {path : String} {value : Value}
    (hValue : site.resolve path = .ok value) : value.Plain := by
  have hResolve : Value.PlainUnless _ (site.resolve path) :=
    Path.plainUnless_resolve h.context h.metadata path
  rw [hValue] at hResolve
  exact hResolve.of_ok

theorem of_mem_values (h : site.IsPlain) {arguments : List String} {values : List Value}
    (hValues : arguments.mapM site.resolve = .ok values) : ∀ value ∈ values, value.Plain := by
  induction arguments generalizing values with
  | nil =>
    cases hValues
    exact fun value hValue => nomatch hValue
  | cons path arguments ih =>
    rw [List.mapM_cons] at hValues
    cases hFirst : site.resolve path with
    | error fault =>
      rw [hFirst] at hValues
      cases hValues
    | ok first =>
      cases hRest : arguments.mapM site.resolve with
      | error fault =>
        rw [hFirst, hRest] at hValues
        cases hValues
      | ok later =>
        rw [hFirst, hRest] at hValues
        cases hValues
        exact List.forall_mem_cons.2 ⟨h.resolve hFirst, ih hRest⟩

theorem of_starts (h : site.IsPlain) (hHelpers : setup.Every Helper.HandsOnPlain)
    {entered : List String} (hStarts : site.Starts setup entered task) : task.IsPlain := by
  cases hStarts with
  | @body offset name arguments children helper values inner more last hNode hFound hKind hValues
      hAsks =>
    have hGiven : ∀ argument ∈ values ++ [.blockOptions name site.context],
        argument.GivenPlain := by
      intro argument hArgument
      rcases List.mem_append.1 hArgument with hValue | hOptions
      · exact .inl (h.of_mem_values hValues argument hValue)
      · exact .inr ⟨name, site.context, List.mem_singleton.1 hOptions, h.context⟩
    obtain ⟨hInner, hMore⟩ := hAsks.handsOn (hHelpers name helper hFound _ hGiven)
    refine ⟨hInner, fun entry hEntry => ?_⟩
    exact (List.mem_append.1 hEntry).elim (hMore entry) (h.metadata entry)
  | @inclusion offset room name source expression inner frame template after hNode hRoom hFound
      hContext hEnter hCompile =>
    refine ⟨?_, h.metadata⟩
    cases expression with
    | none =>
      cases hContext
      exact h.context
    | some path =>
      unfold Site.innerContext? at hContext
      cases hValue : site.resolve path with
      | error fault =>
        simp only [hValue] at hContext
        cases hContext
      | ok value =>
        simp only [hValue] at hContext
        change Render.innerContext? (site.compares setup) site.context value = .ok inner at hContext
        rcases innerContext?_cases (site.compares setup) site.context value with hDeep | hOk
        · rw [hDeep] at hContext
          cases hContext
        · rw [hOk] at hContext
          cases hContext
          exact plain_innerContext h.context (h.resolve hValue)

/-- A path that is looked up at such a node raises a fault just if it stumbles there. -/
theorem raises_iff (h : site.IsPlain) {path : String} {state : State} :
    (∃ fault, site.Raises setup (.lookUp path) state (.fault fault)) ↔
      Path.Stumbles site.context path site.metadata := by
  rw [← (Path.plainUnless_resolve h.context h.metadata path).error_iff]
  constructor
  · rintro ⟨fault, hRaises⟩
    cases hRaises with
    | lookUp hFault => exact ⟨fault, hFault⟩
  · exact fun ⟨fault, hFault⟩ => ⟨fault, .lookUp hFault⟩

end Site.IsPlain

theorem Task.Visits.isPlain (hVisits : task.Visits setup site) (h : task.IsPlain) :
    site.IsPlain :=
  ⟨hVisits.context ▸ h.context, hVisits.metadata ▸ h.metadata⟩

/-- From plain data, a render leads to plain data everywhere. -/
theorem Leads.isPlain {path : List String} (hLeads : Leads setup task path site)
    (h : task.IsPlain) (hHelpers : setup.Every Helper.HandsOnPlain) : site.IsPlain := by
  induction hLeads with
  | visit hVisits => exact hVisits.isPlain h
  | inside hVisits hStarts hLeads ih => exact ih ((hVisits.isPlain h).of_starts hHelpers hStarts)

/-- The engine reports that a path cannot be resolved only where looking it up raises a fault. -/
theorem Site.Reports.unresolved {error : RenderError} (h : site.Reports setup error)
    {path : String} {fault : Fault} (hCause : error.cause = .unresolved path fault) :
    ∃ state, site.Performs setup (.lookUp path) state ∧
      site.Raises setup (.lookUp path) state (.fault fault) := by
  cases h with
  | @fault deed state raised hDone hRaises =>
    cases deed with
    | lookUp other =>
      cases hCause
      exact ⟨state, hDone, hRaises⟩
    | call => cases hCause
    | textOf => cases hCause
  | refusal hRefused =>
    cases hRefused with
    | _ => cases hCause

/-- At every node that the render leads to the data are plain, and a path that is looked up there
raises a fault just if it stumbles. -/
def LooksUpPlain (setup : Setup) (task : Task) : Prop :=
  ∀ path site, Leads setup task path site → site.IsPlain ∧
    ∀ name state, site.Performs setup (.lookUp name) state →
      ((∃ fault, site.Raises setup (.lookUp name) state (.fault fault)) ↔
        Path.Stumbles site.context name site.metadata)

/-- The render leads to a node at which the path is looked up and stumbles, or to one at which a
helper raises the error. -/
def StumblesAt (setup : Setup) (task : Task) (name : String) (error : RenderError) : Prop :=
  ∃ path site, Leads setup task path site ∧
    ((∃ state, site.Performs setup (.lookUp name) state) ∧
        Path.Stumbles site.context name site.metadata ∨
      site.LetsRaise setup error)

theorem looksUpPlain (h : task.IsPlain) (hHelpers : setup.Every Helper.HandsOnPlain) :
    LooksUpPlain setup task := fun _ _ hLeads =>
  ⟨hLeads.isPlain h hHelpers, fun _ _ _ => (hLeads.isPlain h hHelpers).raises_iff⟩

theorem stumblesAt_of_outcome (h : task.IsPlain) (hHelpers : setup.Every Helper.HandsOnPlain)
    {error : RenderError} (hFails : (task.outcome setup).1 = .error (.error (.render error)))
    {name : String} {fault : Fault} (hCause : error.cause = .unresolved name fault) :
    StumblesAt setup task name error := by
  obtain ⟨path, site, hLeads, -, hReports | hOwn⟩ := exists_arising hFails
  · obtain ⟨state, hDone, hRaises⟩ := hReports.unresolved hCause
    exact ⟨path, site, hLeads, .inl
      ⟨⟨state, hDone⟩, (hLeads.isPlain h hHelpers).raises_iff.1 ⟨fault, hRaises⟩⟩⟩
  · exact ⟨path, site, hLeads, .inr hOwn⟩

end Render

namespace Engine

open Render

theorem isPlain_task (engine : Engine) (template : Template) {context : Value}
    (hContext : context.Plain) {named : List (String × Value)}
    (hNamed : ∀ entry ∈ named, entry.2.Plain) : (engine.task template context named).IsPlain :=
  ⟨plain_topContext hContext hNamed, nofun⟩

/-- In plain data, looking up a path fails just if the path stumbles: if it leads to a list, and on
by digits that cannot be read as a number. Otherwise there is a value, which is `null` if a name is
missing. So if helpers hand on plain data only, as those do that every engine starts with, a render
with plain data fails to resolve a path only where it stumbles, unless a helper makes the error
up. -/
theorem lookups_in_plain_data (machine : Machine) (options : Options) (operations : List Operation) :
    (∀ (context : Value) (path : String) (metadata : Metadata), context.Plain → metadata.Plain →
        (¬ Path.Stumbles context path metadata →
          ∃ found, Path.resolve context path metadata = .ok found ∧ found.Plain) ∧
        (Path.Stumbles context path metadata →
          ∃ fault, Path.resolve context path metadata = .error fault) ∧
        ∀ before name after found, Path.Walks metadata path (before ++ name :: after) →
          context.walk before = .ok found → found.Lacks name →
          Path.resolve context path metadata = .ok .null) ∧
      let engine := (new machine options).performAll operations
      engine.setup.Every Helper.HandsOnPlain →
        (∀ (template : Template) (context : Value) (named : List (String × Value)),
          context.Plain → (∀ entry ∈ named, entry.2.Plain) →
          let task := engine.task template context named
          LooksUpPlain engine.setup task ∧
            ∀ error name fault,
              (engine.call template context named).1 = .error (.error (.render error)) →
              error.cause = .unresolved name fault →
              StumblesAt engine.setup task name error) ∧
        ∀ (source : String) (context : Value) (overrides : Overrides), context.Plain →
          ∀ error name fault,
            (engine.render source context overrides).1 = .error (.error (.render error)) →
            error.cause = .unresolved name fault →
            ∃ template after, engine.compile source none overrides = (.ok template, after) ∧
              StumblesAt engine.setup (after.task template context []) name error := by
  refine ⟨?_, ?_⟩
  · intro context path metadata hContext hMetadata
    have hResolve := Path.plainUnless_resolve hContext hMetadata path
    refine ⟨hResolve.exists_ok, hResolve.error_iff.2, ?_⟩
    intro before name after found hWalks hBefore hLacks
    rw [Path.resolve_of_walks hWalks]
    exact Value.walk_of_lacks hBefore hLacks after
  · intro engine hHelpers
    refine ⟨?_, ?_⟩
    · intro template context named hContext hNamed task
      have hTask : task.IsPlain := engine.isPlain_task template hContext hNamed
      exact ⟨looksUpPlain hTask hHelpers,
        fun error name fault h hCause => stumblesAt_of_outcome hTask hHelpers h hCause⟩
    · intro source context overrides hContext error name fault h hCause
      obtain ⟨template, after, hCompile, -, hSetup, hCall⟩ :=
        exists_call_of_render (faithful_performAll machine options operations) h
      have hTask : (after.task template context []).IsPlain :=
        after.isPlain_task template hContext nofun
      rw [← hSetup] at hHelpers ⊢
      exact ⟨template, after, hCompile, stumblesAt_of_outcome hTask hHelpers hCall hCause⟩

/-- The item of a list is found, and so it would be at any node of a render. -/
theorem lookups_in_plain_data_item :
    let context : Value := .map [(.text "items", .list [.text "a", .null])]
    let template : Template := ⟨0, 0, [.output 0 "items.0" [] []], "", none, {}⟩
    let engine := (new .small {}).performAll []
    context.Plain ∧ Metadata.Plain [] ∧ engine.setup.Every Helper.HandsOnPlain ∧
      ¬ Path.Stumbles context "items.0" [] ∧
      Path.resolve context "items.0" [] = .ok (.text "a") ∧
      LooksUpPlain engine.setup (engine.task template context []) := by
  intro context template engine
  have hContext : context.Plain := by
    refine .map fun entry hEntry => ?_
    cases List.mem_singleton.1 hEntry
    refine .list fun item hItem => ?_
    rcases List.mem_cons.1 hItem with rfl | hItem
    · exact .text "a"
    · cases List.mem_singleton.1 hItem
      exact .null
  have hHelpers : engine.setup.Every Helper.HandsOnPlain :=
    (every_new .small {}).mono fun helper h => h.handsOnPlain
  have hFound : Path.resolve context "items.0" [] = .ok (.text "a") := rfl
  obtain ⟨hResolve, hRenders⟩ := lookups_in_plain_data .small {} []
  refine ⟨hContext, nofun, hHelpers, fun hStumbles => ?_, hFound,
    ((hRenders hHelpers).1 template context [] hContext nofun).1⟩
  obtain ⟨fault, hFault⟩ := (hResolve context "items.0" [] hContext nofun).2.1 hStumbles
  cases hFault.symm.trans hFound

/-- A raised two consists of digits and is no number. -/
theorem raised_two_fails :
    let context : Value := .list [.text "a"]
    let error := RenderError.ofCause (.unresolved "\u00b2" (.invalidInteger "\u00b2"))
      ⟨some (Node.tag "\u00b2"), some 0, none⟩
    context.Plain ∧
      Path.resolve context "\u00b2" [] = .error (.invalidInteger "\u00b2") ∧
      ((new .small {}).render (Node.tag "\u00b2") context {}).1 = .error (.error (.render error)) := by
  intro context error
  refine ⟨.list fun item hItem => ?_, rfl, by decide +kernel⟩
  cases List.mem_singleton.1 hItem
  exact .text "a"

end Engine

end Stencil
