import Stencil.Proofs.Agreement
import Stencil.Proofs.Faithful
import Stencil.Proofs.Operation

/-!
Two renders in lockstep. They render the same nodes, with options and histories of their own, and
every partial that one of them enters is entered by the other, in the same place. If the walks over
single lists of nodes agree, then so do the renders: all caches are faithful, and what one of the
renders has in its cache the other one has too, so both compile a source or neither does.
-/

namespace Stencil

namespace Render

variable {α β : Type} {E : Failure → Prop} {F : Option Frame → Option Frame → Prop}
  {T : String → String → Prop}

/-- Two states in the same place with faithful caches that hold the same sources, in which related
frames are published. -/
structure Alike (F : Option Frame → Option Frame → Prop) (state state' : State) : Prop where
  below : state.history.Below state'.history
  above : state'.history.Below state.history
  around : state.around = state'.around
  published : F state.published state'.published

theorem steady_alike : Steady (Alike F) where
  opened surrounding h := ⟨h.below, h.above, congrArg (surrounding :: ·) h.around, h.published⟩
  closed h h' := ⟨h'.below, h'.above, h.around, h'.published⟩

theorem agree_published : AgreeUnless E (Alike F) F published published :=
  fun _ _ hs => .inr ⟨.ok hs.published, hs⟩

theorem agree_publishing {R : α → β → Prop} {frame frame' : Frame} {x : Step α} {y : Step β}
    (hF : F (some frame) (some frame')) (h : AgreeUnless E (Alike F) R x y) :
    AgreeUnless E (Alike F) R (publishing frame x) (publishing frame' y) := by
  intro state state' hs
  rw [run_publishing, run_publishing]
  exact (h { state with published := some frame } { state' with published := some frame' }
    ⟨hs.below, hs.above, hs.around, hF⟩).imp id
    fun ⟨hr, ht⟩ => ⟨hr, ht.below, ht.above, ht.around, hs.published⟩

/-! ### Compiling -/

/-- Templates that were compiled from the source under the name, each with options of its own. -/
def SameSource (options options' : Options) (source : String) (name : Option String)
    (template template' : Template) : Prop :=
  ∃ nodes, Template.Reads source nodes ∧
    template.anonymous = ⟨0, 0, nodes, source, name, options⟩ ∧
    template'.anonymous = ⟨0, 0, nodes, source, name, options'⟩

/-- Compiling gives templates with the nodes of the source, or the same error. -/
theorem agree_compile (machine : Machine) {options options' : Options}
    (hCache : options.cache = options'.cache) (source : String) (name : Option String) :
    AgreeUnless E (Alike F) (SameSource options options' source name)
      (compile machine options source name) (compile machine options' source name) := by
  intro state state' hs
  have hSame := History.compiledAlike hs.below hs.above hCache (machine.nesting state.around) source
    name
  generalize hc : state.history.compile (machine.nesting state.around) options source name = result
    at hSame
  generalize hc' : state'.history.compile (machine.nesting state.around) options' source name =
    result' at hSame
  rw [hs.around] at hc'
  cases hSame with
  | ok hNodes hSpec hSpec' hAfter hAfter' =>
    rw [run_compile_of_ok _ hc, run_compile_of_ok _ hc']
    exact .inr ⟨.ok ⟨_, hNodes, hSpec, hSpec'⟩, hAfter, hAfter', hs.around, hs.published⟩
  | error error =>
    rw [run_compile_of_error _ hc, run_compile_of_error _ hc']
    exact .inr ⟨.error _, hs⟩

/-! ### Partials -/

/-- Two frames of one template or partial, in renders that may differ in their options. -/
structure Paired (options options' : Options) (frame frame' : Frame) : Prop where
  source : frame.source = frame'.source
  templateName : frame.templateName = frame'.templateName
  stack : frame.stack = frame'.stack
  strict : frame.strict = options.strict
  strict' : frame'.strict = options'.strict
  noEscape : frame.noEscape = options.noEscape
  noEscape' : frame'.noEscape = options'.noEscape

variable {options options' : Options} {frame frame' : Frame}

theorem Paired.eq (h : Paired options options' frame frame')
    (hs : options.strict = options'.strict) (he : options.noEscape = options'.noEscape) :
    frame = frame' := by
  obtain ⟨name, source, strict, noEscape, stack⟩ := frame
  obtain ⟨name', source', strict', noEscape', stack'⟩ := frame'
  obtain ⟨h1, h2, h3, h4, h5, h6, h7⟩ := h
  simp_all

theorem Paired.beside (h : Paired options options' frame frame')
    (hStrict : options.strict = options'.strict ∨ options.strict = true ∧
      ∀ error : RenderError, error.IsUnknown → E (.error (.render error))) :
    Beside E frame frame' where
  place := .inl fun offset => by simp only [Frame.place, h.source, h.templateName]
  strict := by
    rw [h.strict, h.strict']
    exact hStrict

/-- Either both frames refuse a partial, with the same error, or both are left for paired ones. -/
theorem Paired.enter (h : Paired options options' frame frame') (name source : String) :
    (∃ error, frame.enter name source = .error error ∧ frame'.enter name source = .error error) ∨
      ∃ inner inner', frame.enter name source = .ok inner ∧
        frame'.enter name source = .ok inner' ∧ Paired options options' inner inner' := by
  unfold Frame.enter
  rw [← h.stack, ← h.templateName]
  split
  · exact .inl ⟨_, rfl, rfl⟩
  · exact .inr ⟨_, _, rfl, rfl, rfl, rfl, rfl, h.strict, h.strict', h.noEscape, h.noEscape'⟩

/-- The nodes include the partial with the name and the source. -/
def Includes (setup : Setup) (nodes : List Node) (name source : String) : Prop :=
  (∃ offset expression, .inclusion offset name expression ∈ Node.preorderAll nodes) ∧
    setup.partials.find? name = some source

/-- The lists of nodes that a render may walk over: those of the template itself, and those of the
partials that it includes, directly or through others. -/
inductive Walks (setup : Setup) (root : List Node) : List Node → Prop
  | template : Walks setup root root
  | inclusion {nodes inner : List Node} {name source : String} (hOuter : Walks setup root nodes)
      (hName : Includes setup nodes name source)
      (hNodes : Template.Reads source inner) : Walks setup root inner

/-- Paired frames agree on what the partials are rendered to that the nodes include. -/
def EntriesAgree (setup : Setup) (E : Failure → Prop) (S : State → State → Prop)
    (T : String → String → Prop) (options options' : Options) (nodes : List Node)
    (enter enter' : Entry) : Prop :=
  ∀ frame frame', Paired options options' frame frame' → ∀ name source,
    Includes setup nodes name source → ∀ context metadata,
    AgreeUnless E S T (enter frame name source context metadata)
      (enter' frame' name source context metadata)

/-- Walks over the nodes agree in paired frames if these agree on partials. -/
def WalksAgree (setup : Setup) (E : Failure → Prop) (S : State → State → Prop)
    (T : String → String → Prop) (options options' : Options) (nodes : List Node) : Prop :=
  ∀ enter enter', EntriesAgree setup E S T options options' nodes enter enter' →
    ∀ frame frame', Paired options options' frame frame' → ∀ context metadata,
    AgreeUnless E S T (renderNodes setup enter frame nodes context metadata)
      (renderNodes setup enter' frame' nodes context metadata)

/-- No helper can tell two walks apart in which it sees the same frames. -/
theorem suits_of_same_frames (setup : Setup) : Suits setup (fun _ => False) (Alike Eq) :=
  .of_look steady_alike (.inl agree_published)

theorem Paired.frames (h : Paired options options frame frame') : some frame = some frame' :=
  congrArg some (h.eq rfl rfl)

/-- Walks that escape alike agree on their texts. If only one of them is strict, then what is
unknown to it must be an excuse. -/
theorem walks_eq {setup : Setup} {S : State → State → Prop} (hSuits : Suits setup E S)
    (hAround : ∀ {state state'}, S state state' → state.around = state'.around)
    (hStrict : options.strict = options'.strict ∨ options.strict = true ∧
      ∀ error : RenderError, error.IsUnknown → E (.error (.render error)))
    (hEscape : options.noEscape = options'.noEscape) (nodes : List Node) :
    WalksAgree setup E S Eq options options' nodes := by
  intro enter enter' hEnter frame frame' hPaired context metadata
  have hSame : frame.noEscape = frame'.noEscape := by
    rw [hPaired.noEscape, hPaired.noEscape', hEscape]
  have hNodes : NodesAgree setup setup.machine E S Eq enter enter' frame frame'
      (· ∈ Node.preorderAll nodes) :=
    .of_eq (hPaired.beside hStrict) hSuits (.of_around hAround _) hSame
      fun offset name expression hNode source inner more hFound =>
        hEnter frame frame' hPaired name source ⟨⟨offset, expression, hNode⟩, hFound⟩ inner more
  exact hNodes.renderNodes nodes (fun _ hNode => hNode) context metadata

theorem walks_self (setup : Setup) (options : Options) (nodes : List Node) :
    WalksAgree setup (fun _ => False) (Alike Eq) Eq options options nodes :=
  walks_eq (suits_of_same_frames setup) Alike.around (.inl rfl) rfl nodes

variable {setup : Setup} {root : List Node}
  (hF : ∀ frame frame', Paired options options' frame frame' → F (some frame) (some frame'))
  (hWalk : ∀ nodes, Walks setup root nodes →
    WalksAgree setup E (Alike F) T options options' nodes)
include hF hWalk

/-- Partials are compiled on the way, and what they render to does not depend on the history. -/
theorem agree_enterPartial (depth : Nat) {nodes : List Node} (hNodes : Walks setup root nodes) :
    EntriesAgree setup E (Alike F) T options options' nodes (enterPartial setup depth)
      (enterPartial setup depth) := by
  -- By induction on how many more partials can be entered, since those agree that are inside.
  induction depth generalizing nodes with
  | zero =>
    intro frame frame' hp name source hName context metadata
    unfold enterPartial
    rcases hp.enter name source with ⟨error, he, he'⟩ | ⟨inner, inner', he, he', hi⟩
    · rw [he, he']
      exact .stop _
    · rw [he, he']
      refine (agree_compile setup.machine (by rfl) source name).bind fun _ _ _ => ?_
      rw [hp.stack, hp.templateName]
      exact .stop _
  | succ depth ih =>
    intro frame frame' hp name source hName context metadata
    unfold enterPartial
    rcases hp.enter name source with ⟨error, he, he'⟩ | ⟨inner, inner', he, he', hi⟩
    · rw [he, he']
      exact .stop _
    · rw [he, he']
      refine (agree_compile setup.machine (by rfl) source name).bind
        fun template template' ⟨within, hn, h, h'⟩ => ?_
      rw [(Template.anonymous_eq_iff.1 h).1, (Template.anonymous_eq_iff.1 h').1]
      have hInner : Walks setup root within := .inclusion hNodes hName hn
      exact agree_publishing (hF _ _ hi)
        (.inside steady_alike (.of_around Alike.around _)
          (hWalk within hInner _ _ (ih hInner) _ _ hi _ _) _)

/-- Two renders of templates with the same nodes, source and name agree. -/
theorem agree_render {template template' : Template} (hRoot : template.nodes = root)
    (hNodes : template'.nodes = root) (hSource : template.source = template'.source)
    (hName : template.name = template'.name) (hOptions : template.options = options)
    (hOptions' : template'.options = options') (context : Value) (named : List (String × Value)) :
    AgreeUnless E (Alike F) T (render setup template context named)
      (render setup template' context named) := by
  subst hOptions hOptions'
  have hp : Paired template.options template'.options (topFrame template) (topFrame template') :=
    ⟨congrArg some hSource, hName, rfl, rfl, rfl, rfl, rfl⟩
  unfold render
  rw [hRoot, hNodes]
  exact agree_publishing (hF _ _ hp)
    (hWalk root .template _ _ (agree_enterPartial hF hWalk _ .template) _ _ hp _ _)

omit hWalk

/-- Two renders of a source agree, each with its own options but for the option `cache`. -/
theorem agree_compile_render {T : List Node → String → String → Prop} {source : String}
    (name : Option String) (hCache : options.cache = options'.cache)
    (hWalk : ∀ root, Template.Reads source root → ∀ nodes, Walks setup root nodes →
      WalksAgree setup E (Alike F) (T root) options options' nodes)
    (context : Value) (named : List (String × Value)) :
    AgreeUnless E (Alike F)
      (fun text text' => ∃ root, Template.Reads source root ∧ T root text text')
      (compile setup.machine options source name >>= fun template =>
        render setup template context named)
      (compile setup.machine options' source name >>= fun template =>
        render setup template context named) := by
  refine (agree_compile setup.machine hCache source name).bind
    fun template template' ⟨root, hn, h, h'⟩ => ?_
  obtain ⟨hNodes, hSource, hName, hOptions⟩ := Template.anonymous_eq_iff.1 h
  obtain ⟨hNodes', hSource', hName', hOptions'⟩ := Template.anonymous_eq_iff.1 h'
  have hRender := agree_render hF (hWalk root hn) hNodes hNodes' (hSource.trans hSource'.symm)
    (hName.trans hName'.symm) hOptions hOptions' context named
  exact hRender.mono fun text text' hText => ⟨root, hn, hText⟩

end Render

/-! ### Engines with faithful caches -/

namespace Engine

/-- The cache of an engine is faithful. -/
def Faithful (engine : Engine) : Prop := engine.history.cache.Faithful

theorem faithful_new (machine : Machine) (options : Options) : (new machine options).Faithful :=
  Cache.Faithful.empty

/-- The state of a render that starts now, taken twice. -/
theorem alike_start {F : Option Frame → Option Frame → Prop} {engine : Engine}
    (h : engine.Faithful) (hF : F none none) :
    Render.Alike F { history := engine.history } { history := engine.history } :=
  ⟨.refl h, .refl h, rfl, hF⟩

/-- Two runs, one of which may have an excuse. -/
theorem run_agree {α β : Type} {E : Failure → Prop} {F : Option Frame → Option Frame → Prop}
    {R : α → β → Prop} {engine : Engine} (h : engine.Faithful) (hF : F none none)
    {x : Render.Step α} {y : Render.Step β}
    (hxy : Render.AgreeUnless E (Render.Alike F) R x y) :
    (∃ failure, (engine.run x).1 = .error failure ∧ E failure) ∨
      Render.SameResult R (engine.run x).1 (engine.run y).1 :=
  (hxy _ _ (alike_start h hF)).imp id fun h => h.1

theorem faithful_run {α : Type} {F : Option Frame → Option Frame → Prop} {R : α → α → Prop}
    {engine : Engine} (h : engine.Faithful) (hF : F none none) {step : Render.Step α}
    (hs : Render.Agree (Render.Alike F) R step step) : (engine.run step).2.Faithful :=
  (hs.of_start (alike_start h hF)).2.below.faithful

/-- Every operation keeps the cache faithful, whether it succeeds or fails. -/
theorem faithful_perform {engine : Engine} (operation : Operation) (h : engine.Faithful) :
    (engine.perform operation).Faithful := by
  cases operation with
  | registerHelper | registerHelpers | registerPartial | registerPartials => exact h
  | compile source name overrides =>
    exact faithful_run h (rfl : none = none) (Render.agree_compile _ rfl _ _)
  | render source context overrides =>
    exact faithful_run h rfl (Render.agree_compile_render (fun _ _ hp => hp.frames) _ rfl
      (fun _ _ nodes _ => Render.walks_self _ _ nodes) context [])
  | call template context named =>
    exact faithful_run h rfl (Render.agree_render (fun _ _ hp => hp.frames)
      (fun nodes _ => Render.walks_self _ _ nodes) rfl rfl rfl rfl rfl rfl context named)
  | clearCache => exact Cache.Faithful.empty

theorem faithful_performAll (machine : Machine) (options : Options)
    (operations : List Operation) : ((new machine options).performAll operations).Faithful :=
  performAll_induction operations (faithful_new machine options) fun _ operation h =>
    faithful_perform operation h

end Engine

end Stencil
