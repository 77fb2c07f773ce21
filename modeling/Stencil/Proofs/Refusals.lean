import Stencil.Proofs.Inclusion
import Stencil.Proofs.Lockstep
import Stencil.Proofs.Origin

/-!
Renders on less of a machine. Inside of many blocks and partials there is less left of the machine,
and a partial may be refused there that is compiled elsewhere, or taken from the cache. A render
that comes to no such partial comes to the same on every machine that yields as much, and with every
cache that holds as much.
-/

namespace Stencil

/-- The machine opens and compares the same as that of the setup, and where the blocks of a partial
lie too deep for it, they do so for that of the setup. -/
structure Machine.Suffices (machine : Machine) (setup : Setup) : Prop where
  opens : machine.opens = setup.machine.opens
  compares : machine.compares = setup.machine.compares
  compiles : ∀ name source, setup.partials.find? name = some source → ∀ around,
    Template.TooDeep (machine.nesting around) source →
      Template.TooDeep (setup.machine.nesting around) source

theorem Setup.suffices_self (setup : Setup) : setup.machine.Suffices setup :=
  ⟨rfl, rfl, fun _ _ _ _ hDeep => hDeep⟩

/-- No partial lies too deep for the machine, wherever it is included. -/
def Setup.Ample (setup : Setup) : Prop :=
  ∀ name source, setup.partials.find? name = some source → ∀ around,
    ¬Template.TooDeep (setup.machine.nesting around) source

namespace Render

variable {setup : Setup} {machine : Machine} {α β γ δ : Type}

/-! ### Partials that are refused -/

/-- The node includes a partial, which is not compiled since its blocks lie too deep for what is
left of the machine there. -/
inductive Site.Overflows (setup : Setup) (site : Site) : Prop
  | intro {offset : Nat} {name source : String} {expression : Option String} {inner : Value}
      {frame : Frame} {error : CompileError} (hNode : site.node = .inclusion offset name expression)
      (hFound : setup.partials.find? name = some source)
      (hContext : site.innerContext? setup expression = .ok inner)
      (hEnter : site.frame.enter name source = .ok frame)
      (hCompile : site.state.history.compile (site.limit setup) (site.innerOptions setup) source
        (some name) = .error error)
      (hDeep : Template.TooDeep (site.limit setup) source) : Overflows setup site

/-- The render leads to a partial that is refused because of what is left of the machine. -/
def Task.Overflows (setup : Setup) (task : Task) : Prop :=
  ∃ path site, Leads setup task path site ∧ site.Overflows setup

theorem Task.not_overflows (h : setup.Ample) (task : Task) : ¬task.Overflows setup := by
  rintro ⟨path, site, -, hOver⟩
  cases hOver with
  | intro _ hFound _ _ _ hDeep => exact h _ _ hFound _ hDeep

/-! ### Two renders -/

/-- Two states in the same place, in which the same frame is published. Whatever is in the cache of
the first one is in the cache of the second one too. -/
structure Beneath (state state' : State) : Prop where
  below : state.history.Below state'.history
  around : state.around = state'.around
  published : state.published = state'.published

theorem Beneath.refl {state : State} (h : state.history.cache.Faithful) : Beneath state state :=
  ⟨.refl h, rfl, rfl⟩

theorem steady_beneath : Steady Beneath where
  opened surrounding h := ⟨h.below, congrArg (surrounding :: ·) h.around, h.published⟩
  closed h h' := ⟨h'.below, h.around, h'.published⟩

theorem suits_beneath (setup : Setup) : Suits setup (fun _ => False) Beneath :=
  .of_look steady_beneath (.inl fun _ _ h => .inr ⟨.ok h.published, h⟩)

/-- What two parts come to: related results or one failure, and states of which the first one is
beneath the second one. -/
structure Concur (R : α → β → Prop) (outcome : Except Failure α × State)
    (outcome' : Except Failure β × State) : Prop where
  result : SameResult R outcome.1 outcome'.1
  state : Beneath outcome.2 outcome'.2

namespace Concur

variable {R : α → β → Prop} {Q : γ → δ → Prop} {x : Step α} {y : Step β} {state state' : State}

theorem of_agree (h : Agree Beneath R x y) (hs : Beneath state state') :
    Concur R (x.run state) (y.run state') :=
  ⟨(h.of_start hs).1, (h.of_start hs).2⟩

theorem bind {f : α → Step γ} {g : β → Step δ} (h : Concur R (x.run state) (y.run state'))
    (hf : ∀ a b after after', R a b → x.run state = (.ok a, after) → Beneath after after' →
      Concur Q ((f a).run after) ((g b).run after')) :
    Concur Q ((x >>= f).run state) ((y >>= g).run state') := by
  obtain ⟨hResult, hState⟩ := h
  rcases hx : x.run state with ⟨r, after⟩
  rcases hy : y.run state' with ⟨r', after'⟩
  rw [hx, hy] at hResult hState
  cases hResult with
  | ok hab =>
    rw [run_bind_of_ok hx, run_bind_of_ok hy]
    exact hf _ _ _ _ hab hx hState
  | error failure =>
    rw [run_bind_of_error hx, run_bind_of_error hy]
    exact ⟨.error failure, hState⟩

theorem guarding (h : Concur R (x.run state) (y.run state')) (place : Place)
    (cause : Fault → RenderError.Cause) :
    Concur R ((guarding place cause x).run state) ((guarding place cause y).run state') := by
  rw [run_guarding, run_guarding]
  obtain ⟨hResult, hState⟩ := h
  generalize x.run state = p at hResult hState
  generalize y.run state' = q at hResult hState
  obtain ⟨r, after⟩ := p
  obtain ⟨r', after'⟩ := q
  cases hResult with
  | ok hab => exact ⟨.ok hab, hState⟩
  | error failure => exact ⟨.error _, hState⟩

theorem inside {surrounding : Surrounding} {machine machine' : Machine}
    (hSame : machine'.opens = machine.opens) (hs : Beneath state state')
    (h : machine.opens (surrounding :: state.around) = true →
      Concur R (x.run (state.inside surrounding)) (y.run (state'.inside surrounding))) :
    Concur R ((inside machine surrounding x).run state)
      ((inside machine' surrounding y).run state') := by
  have hOther : machine'.opens (surrounding :: state'.around) =
      machine.opens (surrounding :: state.around) := by rw [hSame, hs.around]
  cases hOpens : machine.opens (surrounding :: state.around) with
  | true =>
    rw [run_inside_of_opens hOpens, run_inside_of_opens (hOther.trans hOpens)]
    exact ⟨(h hOpens).result, steady_beneath.closed hs (h hOpens).state⟩
  | false =>
    rw [run_inside_of_not_opens hOpens, run_inside_of_not_opens (hOther.trans hOpens)]
    exact ⟨.error _, hs⟩

theorem publishing {frame : Frame} (hs : Beneath state state')
    (h : Concur R (x.run { state with published := some frame })
      (y.run { state' with published := some frame })) :
    Concur R ((publishing frame x).run state) ((publishing frame y).run state') :=
  ⟨h.result, h.state.below, h.state.around, hs.published⟩

/-- A helper does the same if every body that it asks for comes to the same. -/
theorem carryOut {body body' : Value → Metadata → Step String} {action : Action α}
    {state state' : State} (hs : Beneath state state')
    (hBody : ∀ inner more last last', Asks body action state inner more last → Beneath last last' →
      Concur Eq ((body inner more).run last) ((body' inner more).run last')) :
    Concur Eq ((carryOut body action).run state) ((carryOut body' action).run state') := by
  induction action generalizing state state' with
  | done a => exact ⟨.ok rfl, hs⟩
  | fail failure => exact ⟨.error failure, hs⟩
  | body context metadata next ih =>
    have hFirst := hBody context metadata state state' .now hs
    rw [run_carryOut_body, run_carryOut_body, ← hFirst.result.eq]
    exact ih _ hFirst.state fun inner more last last' hAsks => hBody inner more last last'
      (.later rfl hAsks)
  | frame next ih =>
    have hNext := ih state.published hs fun inner more last last' hAsks =>
      hBody inner more last last' (.frame hAsks)
    have hSame : (Render.carryOut body' (.frame next)).run state' =
        (Render.carryOut body' (next state.published)).run state' := by
      rw [hs.published]
      rfl
    rw [hSame]
    exact hNext

end Concur

/-- A source that is not refused for its depth is compiled to the same on the other machine. The
first part may do without the cache. -/
theorem concur_compile (machine other : Machine) (options options' : Options) (source : String)
    (name : Option String) {state state' : State} (hs : Beneath state state')
    (hCache : options.cache = true → options'.cache = true)
    (hLimit : Template.TooDeep (other.nesting state.around) source →
      Template.TooDeep (machine.nesting state.around) source)
    (hDeep : ∀ error, state.history.compile (machine.nesting state.around) options source name =
      .error error → ¬Template.TooDeep (machine.nesting state.around) source) :
    Concur (SameSource options options' source name)
      ((compile machine options source name).run state)
      ((compile other options' source name).run state') := by
  have hCompiled := History.compiledBelow hs.below hCache hLimit name
  generalize hc : state.history.compile (machine.nesting state.around) options source name = result
    at hCompiled hDeep
  generalize hc' : state'.history.compile (other.nesting state.around) options' source name =
    result' at hCompiled
  rw [hs.around] at hc'
  cases hCompiled with
  | ok hNodes hSpec hSpec' hAfter =>
    rw [run_compile_of_ok _ hc, run_compile_of_ok _ hc']
    exact ⟨.ok ⟨_, hNodes, hSpec, hSpec'⟩, hAfter, hs.around, hs.published⟩
  | error error =>
    rw [run_compile_of_error _ hc, run_compile_of_error _ hc']
    exact ⟨.error _, hs⟩
  | refused hRefused => exact absurd hRefused (hDeep _ rfl)

/-! ### Nodes -/

namespace Site

variable {site : Site} {state' : State} {offset : Nat} {name : String}

/-- What is rendered inside the node comes to the same on the other machine, from every state that
the one it is rendered from is beneath. -/
def InsideConcurs (setup : Setup) (machine : Machine) (site : Site) : Prop :=
  ∀ entered inner, site.Starts setup entered inner → ∀ state', Beneath inner.state state' →
    Concur Eq (inner.outcome setup) (Task.outcome (setup.on machine) { inner with state := state' })

theorem concur_output {path : String} {arguments : List String} {filters : List Filter}
    (hNode : site.node = .output offset path arguments filters) (hs : Beneath site.state state') :
    Concur Eq (site.outcome setup) (outcome (setup.on machine) { site with state := state' }) := by
  unfold outcome
  rw [hNode]
  unfold renderNode
  rw [renderOutput_on]
  exact .of_agree (.renderOutput (.refl _ _) (suits_beneath setup) _ _ _ _ _ _ rfl
    fun _ _ => rfl) hs

theorem concur_block (hMachine : machine.Suffices setup) {arguments : List String}
    {children : List Node} (hNode : site.node = .block offset name arguments children)
    (hs : Beneath site.state state')
    (hInside : site.InsideConcurs setup machine) :
    Concur Eq (site.outcome setup) (outcome (setup.on machine) { site with state := state' }) := by
  have hSuits := suits_beneath setup
  cases hFound : setup.helpers.find? name with
  | none =>
    unfold outcome
    rw [hNode]
    unfold renderNode
    refine .bind (.of_agree (.helper? (.refl _ site.frame) offset name) hs) ?_
    rintro found found' after after' ⟨hNone, rfl⟩ - hAfter
    rw [hFound] at hNone
    subst hNone
    exact ⟨.ok rfl, hAfter⟩
  | some helper =>
    have hOther := @outcome_block (setup.on machine) { site with state := state' } _ _ _ _ _ hNode
      hFound
    rw [outcome_block hNode hFound, hOther]
    rcases resolveAll_cases site.context site.metadata arguments with
      ⟨values, hValues⟩ | ⟨before, path, after, values, fault, rfl, hBefore, hFault⟩
    · rw [run_bind_of_ok (run_lookUpAll_of_ok hValues _),
        run_bind_of_ok (run_lookUpAll_of_ok hValues _)]
      refine Concur.bind (R := Eq) ?_ fun value value' _ _ hSame _ hAfter =>
        hSame ▸ .of_agree (.textOf (.refl _ _) hSuits _ _) hAfter
      cases hKind : helper.isBlock with
      | false => exact .of_agree (.callAlone (.refl _ _) hSuits hFound _ _ _) hs
      | true =>
        refine .guarding (.carryOut hs fun inner more last last' hAsks hLast => ?_) _ _
        exact .inside hMachine.opens hLast fun hOpens =>
          hInside _ _ (.body hNode hFound hKind hValues hAsks hOpens) _
            (steady_beneath.opened _ hLast)
    · rw [run_bind_of_error (run_lookUpAll_of_error hBefore hFault after _),
        run_bind_of_error (run_lookUpAll_of_error hBefore hFault after _)]
      exact ⟨.error _, hs⟩

theorem concur_enterPartial (hMachine : machine.Suffices setup) {source : String}
    {expression : Option String} {inner : Value}
    (hNode : site.node = .inclusion offset name expression)
    (hFound : setup.partials.find? name = some source)
    (hContext : site.innerContext? setup expression = .ok inner) (hs : Beneath site.state state')
    (hClean : ¬site.Overflows setup) (hInside : site.InsideConcurs setup machine) :
    Concur Eq
      ((enterPartial setup site.room site.frame name source inner site.metadata).run site.state)
      ((enterPartial (setup.on machine) site.room site.frame name source inner site.metadata).run
        state') := by
  cases hEnter : site.frame.enter name source with
  | error error =>
    unfold enterPartial
    rw [hEnter]
    exact ⟨.error _, hs⟩
  | ok frame =>
    have hCompile : Concur (SameSource (site.innerOptions setup) (site.innerOptions setup) source
        (some name)) ((compile setup.machine (site.innerOptions setup) source name).run site.state)
        ((compile machine (site.innerOptions setup) source name).run state') :=
      concur_compile _ _ _ _ _ _ hs id (hMachine.compiles name source hFound _)
        fun _ hRefused hDeep => hClean ⟨hNode, hFound, hContext, hEnter, hRefused, hDeep⟩
    unfold enterPartial
    rw [hEnter]
    refine hCompile.bind ?_
    rintro template template' after after' ⟨nodes, -, hSpec, hSpec'⟩ hRun hAfter
    cases hRoom : site.room with
    | zero => exact ⟨.error _, hAfter⟩
    | succ room =>
      obtain ⟨history, hCompiled, rfl⟩ := exists_of_run_compile hRun
      have hInner : Beneath ⟨history, some frame, site.state.around⟩
          { after' with published := some frame } := ⟨hAfter.below, hAfter.around, rfl⟩
      rw [(Template.anonymous_eq_iff.1 hSpec).1, (Template.anonymous_eq_iff.1 hSpec').1]
      refine .publishing hAfter (.inside hMachine.opens hInner fun hOpens => ?_)
      have hTask := hInside _ _ (.inclusion hNode hRoom hFound hContext hEnter hCompiled hOpens) _
        (steady_beneath.opened (.inclusion name) hInner)
      rwa [Task.outcome, (Template.anonymous_eq_iff.1 hSpec).1] at hTask

theorem concur_inclusion (hMachine : machine.Suffices setup) {expression : Option String}
    (hNode : site.node = .inclusion offset name expression) (hs : Beneath site.state state')
    (hClean : ¬site.Overflows setup) (hInside : site.InsideConcurs setup machine) :
    Concur Eq (site.outcome setup) (outcome (setup.on machine) { site with state := state' }) := by
  cases hFound : setup.partials.find? name with
  | none =>
    unfold outcome
    rw [hNode]
    unfold renderNode
    refine .bind (.of_agree (.partial? (.refl _ site.frame) offset name) hs) ?_
    rintro found found' after after' ⟨hNone, rfl⟩ - hAfter
    rw [hFound] at hNone
    subst hNone
    exact ⟨.ok rfl, hAfter⟩
  | some source =>
    have hCompares : Site.compares (setup.on machine) { site with state := state' } =
        site.compares setup := by
      change machine.compares state'.around = setup.machine.compares site.state.around
      rw [hMachine.compares, hs.around]
    have hSame : Site.innerContext? (setup.on machine) { site with state := state' } expression =
        site.innerContext? setup expression := by
      unfold innerContext?
      rw [hCompares]
      rfl
    cases hContext : site.innerContext? setup expression with
    | ok inner =>
      have hOther := @outcome_inclusion (setup.on machine) { site with state := state' } _ _ _ _ _
        hNode hFound (hSame.trans hContext)
      rw [outcome_inclusion hNode hFound hContext, hOther]
      exact concur_enterPartial hMachine hNode hFound hContext hs hClean hInside
    | error fault =>
      obtain ⟨path, rfl, hFault | ⟨value, hValue, hKeys⟩⟩ := exists_path_of_innerContext? hContext
      · have hOther := @outcome_inclusion_of_error (setup.on machine) { site with state := state' }
          _ _ _ _ _ hNode hFound hFault
        rw [outcome_inclusion_of_error hNode hFound hFault, hOther]
        exact ⟨.error _, hs⟩
      · have hOther := @outcome_inclusion_of_keys (setup.on machine) { site with state := state' }
          _ _ _ _ _ _ hNode hFound hValue (hCompares ▸ hKeys)
        rw [outcome_inclusion_of_keys hNode hFound hValue hKeys, hOther]
        exact ⟨.error _, hs⟩

/-- A node that is not refused itself comes to the same if all that is rendered inside it does. -/
theorem concur (hMachine : machine.Suffices setup) (hs : Beneath site.state state')
    (hClean : ¬site.Overflows setup) (hInside : site.InsideConcurs setup machine) :
    Concur Eq (site.outcome setup) (outcome (setup.on machine) { site with state := state' }) := by
  obtain ⟨node, hNode⟩ : ∃ node, site.node = node := ⟨_, rfl⟩
  cases node with
  | text offset content =>
    have hOther := @outcome_text (setup.on machine) { site with state := state' } _ _ hNode
    rw [outcome_text hNode, hOther]
    exact ⟨.ok rfl, hs⟩
  | output offset path arguments filters => exact concur_output hNode hs
  | block offset name arguments children => exact concur_block hMachine hNode hs hInside
  | inclusion offset name expression => exact concur_inclusion hMachine hNode hs hClean hInside

end Site

/-! ### Renders -/

namespace Task

/-- Nodes come to the same if each of them does that is rendered. -/
theorem concur_of_visits {task : Task} {state' : State} (hs : Beneath task.state state')
    (hSites : ∀ site, task.Visits setup site → ∀ state', Beneath site.state state' →
      Concur Eq (site.outcome setup)
        (Site.outcome (setup.on machine) { site with state := state' })) :
    Concur Eq (task.outcome setup)
      (outcome (setup.on machine) { task with state := state' }) := by
  obtain ⟨room, frame, nodes, context, metadata, state⟩ := task
  induction nodes generalizing state state' with
  | nil =>
    unfold outcome renderNodes
    exact ⟨.ok rfl, hs⟩
  | cons node nodes ih =>
    rw [outcome_cons, outcome_cons]
    refine Concur.bind (R := Eq) (hSites _ .head _ hs) ?_
    rintro text _ after after' rfl hRun hAfter
    refine Concur.bind (R := Eq)
      (ih _ hAfter fun site hVisits => hSites site (.tail hRun hVisits)) ?_
    rintro later _ last last' rfl - hLast
    exact ⟨.ok rfl, hLast⟩

/-- A render that leads to no partial that is refused for its depth comes to the same on every
machine that yields as much, from every state that its own is beneath. -/
theorem concur (hMachine : machine.Suffices setup) (task : Task) {state' : State}
    (hs : Beneath task.state state') (hClean : ¬task.Overflows setup) :
    Concur Eq (task.outcome setup)
      (outcome (setup.on machine) { task with state := state' }) := by
  refine concur_of_visits hs fun site hVisits other hSite => ?_
  refine Site.concur hMachine hSite (fun h => hClean ⟨[], site, .visit hVisits, h⟩) ?_
  -- Bodies of blocks are smaller than the list that the block is in, and inside a partial there is
  -- less room.
  intro entered inner hStarts state'' hInner
  have hSmaller := hStarts.smaller hVisits
  refine concur hMachine inner hInner ?_
  rintro ⟨path, last, hLeads, hOver⟩
  exact hClean ⟨entered ++ path, last, .inside hVisits hStarts hLeads, hOver⟩
termination_by (task.room, sizeOf task.nodes)
decreasing_by
  rcases hSmaller with hRoom | ⟨hRoom, hNodes⟩
  · exact .left _ _ hRoom
  · rw [hRoom]
    exact .right _ hNodes

end Task

end Render

end Stencil
