import Stencil.Proofs.Origin
import Stencil.Proofs.Ending

/-!
What renders keep. The history changes at one place only, where a partial is compiled. So whatever
compiling keeps of the history is kept by a whole render, whether it succeeds or fails, and the
frame that is published before it is published after it.
-/

namespace Stencil.Render

variable {setup : Setup} {α : Type}

/-- The part keeps what holds of the state, also if it fails. -/
def Keeps (I : State → Prop) (x : Step α) : Prop := ∀ state, I state → I (x.run state).2

/-- Compiling partials keeps what holds of the history. -/
def KeptByCompiling (setup : Setup) (J : History → Prop) : Prop :=
  ∀ history limit (strict noEscape : Bool) source name template after, J history →
    history.compile limit (setup.options.merge { strict, noEscape }) source name =
      .ok (template, after) → J after

/-- What holds of a state holds whatever is open around it. -/
def Indifferent (I : State → Prop) : Prop :=
  ∀ (state : State) (around : List Surrounding), I state → I { state with around }

/-- The frame is published, and something holds of the history. -/
structure Kept (J : History → Prop) (frame : Option Frame) (state : State) : Prop where
  history : J state.history
  published : state.published = frame

theorem indifferent_kept (J : History → Prop) (frame : Option Frame) :
    Indifferent (Kept J frame) := fun _ _ h => ⟨h.history, h.published⟩

/-! ### Parts -/

/-- A part that keeps something agrees with itself in all states of which it holds. -/
theorem agree_of_keeps {I : State → Prop} {x : Step α} (h : Keeps I x) :
    Agree (fun state state' => state = state' ∧ I state) Eq x x := by
  rintro state state' ⟨rfl, hs⟩
  exact .inr ⟨((agree_self x).of_start rfl).1, rfl, h state hs⟩

theorem keeps_of_agree {I : State → Prop} {x : Step α}
    (h : Agree (fun state state' => state = state' ∧ I state) Eq x x) : Keeps I x :=
  fun _ hs => (h.of_start ⟨rfl, hs⟩).2.2

theorem keeps_published (I : State → Prop) : Keeps I published := fun _ hs => hs

theorem keeps_pure (I : State → Prop) (a : α) : Keeps I (pure a) := fun _ hs => hs

theorem keeps_stop {I : State → Prop} (error : RenderError) : Keeps I (stop error : Step α) :=
  fun _ hs => hs

/-- What holds after the first of two parts holds after both, if the second one keeps it. -/
theorem holds_bind {β : Type} {I : State → Prop} {x : Step α} {f : α → Step β} {state : State}
    (h : I (x.run state).2) (hf : ∀ a, Keeps I (f a)) : I ((x >>= f).run state).2 := by
  rcases hx : x.run state with ⟨failure | a, after⟩
  · rw [hx] at h
    rwa [run_bind_of_error hx]
  · rw [hx] at h
    rw [run_bind_of_ok hx]
    exact hf a after h

theorem Keeps.bind {β : Type} {I : State → Prop} {x : Step α} {f : α → Step β} (h : Keeps I x)
    (hf : ∀ a, Keeps I (f a)) : Keeps I (x >>= f) := fun state hs => holds_bind (h state hs) hf

theorem keeps_carryOut {I : State → Prop} {body : Value → Metadata → Step String}
    (hBody : ∀ context metadata, Keeps I (body context metadata)) (action : Action α) :
    Keeps I (carryOut body action) :=
  keeps_of_agree (.act action (fun context metadata => agree_of_keeps (hBody context metadata))
    (.inl (agree_of_keeps (keeps_published I))) (.of_none (fun _ h => h) action))

theorem keeps_inside {I : State → Prop} (hI : Indifferent I) (machine : Machine)
    (surrounding : Surrounding) {x : Step α} (h : Keeps I x) :
    Keeps I (inside machine surrounding x) := by
  intro state hs
  cases hOpens : machine.opens (surrounding :: state.around) with
  | true =>
    rw [run_inside_of_opens hOpens]
    exact hI _ _ (h _ (hI _ _ hs))
  | false =>
    rw [run_inside_of_not_opens hOpens]
    exact hs

theorem run_call (body : Value → Metadata → Step String) (frame : Frame) (offset : Nat)
    (helper : Helper) (name : String) (arguments : List Value) (state : State) :
    ((call body frame offset helper name arguments).run state).2 =
      ((carryOut body (helper.act arguments)).run state).2 := by
  rw [call, run_guarding]
  rcases (carryOut body (helper.act arguments)).run state with ⟨(fault | error) | value, after⟩ <;>
    rfl

/-! ### Expressions

What is not a body or a partial leaves the state alone, whatever is open around it. -/

theorem keeps_lookUp (I : State → Prop) (frame : Frame) (offset : Nat) (context : Value)
    (metadata : Metadata) (path : String) : Keeps I (lookUp frame offset context metadata path) := by
  intro state hs
  rw [run_lookUp]
  cases Path.resolve context path metadata with
  | ok value => exact hs
  | error fault => exact hs

theorem keeps_lookUpAll (I : State → Prop) (frame : Frame) (offset : Nat) (context : Value)
    (metadata : Metadata) (paths : List String) :
    Keeps I (paths.mapM (lookUp frame offset context metadata)) := by
  induction paths with
  | nil => exact keeps_pure I []
  | cons path paths ih =>
    rw [List.mapM_cons]
    exact (keeps_lookUp I _ _ _ _ _).bind fun value => ih.bind fun values => keeps_pure I _

theorem keeps_helper? (I : State → Prop) (frame : Frame) (offset : Nat) (name : String) :
    Keeps I (helper? setup frame offset name) := by
  unfold helper?
  split
  · exact keeps_pure I _
  · split
    · exact keeps_stop _
    · exact keeps_pure I _

theorem keeps_partial? (I : State → Prop) (frame : Frame) (offset : Nat) (name : String) :
    Keeps I (partial? setup frame offset name) := by
  unfold partial?
  split
  · exact keeps_pure I _
  · split
    · exact keeps_stop _
    · exact keeps_pure I _

theorem keeps_contextHere (I : State → Prop) (machine : Machine) (context value : Value) :
    Keeps I (contextHere machine context value) := by
  intro state hs
  rw [run_contextHere]
  exact hs

theorem keeps_textOf (I : State → Prop) (frame : Frame) (offset : Nat) (value : Value) :
    Keeps I (textOf frame offset value) := by
  intro state hs
  rw [run_textOf]
  cases value.display with
  | ok text => exact hs
  | error fault => exact hs

theorem keeps_call {I : State → Prop} {body : Value → Metadata → Step String}
    (hBody : ∀ context metadata, Keeps I (body context metadata)) (frame : Frame) (offset : Nat)
    (helper : Helper) (name : String) (arguments : List Value) :
    Keeps I (call body frame offset helper name arguments) := by
  intro state hs
  rw [run_call]
  exact keeps_carryOut hBody _ _ hs

theorem keeps_callAlone (I : State → Prop) (frame : Frame) (offset : Nat) (helper : Helper)
    (name : String) (arguments : List Value) :
    Keeps I (call noBody frame offset helper name arguments) :=
  keeps_call (fun _ _ => keeps_pure I _) _ _ _ _ _

theorem keeps_callInline (I : State → Prop) (frame : Frame) (offset : Nat) (helper : Helper)
    (name : String) (arguments : List Value) :
    Keeps I (callInline frame offset helper name arguments) := by
  unfold callInline
  split
  · exact keeps_stop _
  · exact keeps_callAlone I _ _ _ _ _

theorem keeps_applyFilters (I : State → Prop) (frame : Frame) (offset : Nat)
    (filters : List Filter) (value : Value) :
    Keeps I (applyFilters setup frame offset filters value) := by
  induction filters generalizing value with
  | nil => exact keeps_pure I _
  | cons filter filters ih =>
    unfold applyFilters
    refine (keeps_helper? I _ _ _).bind fun found => ?_
    cases found with
    | none => exact ih value
    | some helper => exact (keeps_callInline I _ _ _ _ _).bind ih

theorem keeps_head? (I : State → Prop) (frame : Frame) (offset : Nat) (path : String)
    (arguments : List String) (context : Value) (metadata : Metadata) :
    Keeps I (head? setup frame offset path arguments context metadata) := by
  unfold head?
  split
  · exact (keeps_lookUp I _ _ _ _ _).bind fun value => keeps_pure I _
  · refine (keeps_helper? I _ _ _).bind fun found => ?_
    cases found with
    | none => exact keeps_pure I _
    | some helper =>
      exact (keeps_lookUpAll I _ _ _ _ _).bind fun values =>
        (keeps_callInline I _ _ _ _ _).bind fun value => keeps_pure I _

theorem keeps_renderOutput (I : State → Prop) (frame : Frame) (offset : Nat) (path : String)
    (arguments : List String) (filters : List Filter) (context : Value) (metadata : Metadata) :
    Keeps I (renderOutput setup frame offset path arguments filters context metadata) := by
  unfold renderOutput
  refine (keeps_head? I _ _ _ _ _ _).bind fun found => ?_
  cases found with
  | none => exact keeps_pure I _
  | some value =>
    exact (keeps_applyFilters I _ _ _ _).bind fun value =>
      (keeps_textOf I _ _ _).bind fun text => keeps_pure I _

/-! ### Walks -/

mutual

theorem keeps_renderNode {I : State → Prop} {enter : Entry} {frame : Frame}
    (hInside : ∀ surrounding {x : Step String}, Keeps I x →
      Keeps I (inside setup.machine surrounding x))
    (hEnter : ∀ name source context metadata, Keeps I (enter frame name source context metadata))
    (node : Node) (context : Value) (metadata : Metadata) :
    Keeps I (renderNode setup enter frame node context metadata) := by
  unfold renderNode
  cases node with
  | text offset content => exact keeps_pure I _
  | output offset path arguments filters => exact keeps_renderOutput I _ _ _ _ _ _ _
  | block offset name arguments children =>
    refine (keeps_helper? I _ _ _).bind fun found => ?_
    cases found with
    | none => exact keeps_pure I _
    | some helper =>
      refine (keeps_lookUpAll I _ _ _ _ _).bind fun values => ?_
      dsimp only
      split
      · exact (keeps_call (fun inner more =>
          hInside _ (keeps_renderNodes hInside hEnter children inner _)) _ _ _ _ _).bind fun value => keeps_textOf I _ _ _
      · exact (keeps_callAlone I _ _ _ _ _).bind fun value => keeps_textOf I _ _ _
  | inclusion offset name expression =>
    refine (keeps_partial? I _ _ _).bind fun found => ?_
    cases found with
    | none => exact keeps_pure I _
    | some source =>
      have hSource (inner : Value) : Keeps I (enter frame name source inner metadata) :=
        hEnter name source inner metadata
      dsimp only
      cases expression with
      | none => exact (keeps_pure I context).bind hSource
      | some path =>
        exact ((keeps_lookUp I _ _ _ _ _).bind fun value => keeps_contextHere I _ _ _).bind hSource

/-- A walk keeps what entering partials keeps, and rendering something inside of something else. -/
theorem keeps_renderNodes {I : State → Prop} {enter : Entry} {frame : Frame}
    (hInside : ∀ surrounding {x : Step String}, Keeps I x →
      Keeps I (inside setup.machine surrounding x))
    (hEnter : ∀ name source context metadata, Keeps I (enter frame name source context metadata))
    (nodes : List Node) (context : Value) (metadata : Metadata) :
    Keeps I (renderNodes setup enter frame nodes context metadata) := by
  unfold renderNodes
  cases nodes with
  | nil => exact keeps_pure I _
  | cons node nodes =>
    exact (keeps_renderNode hInside hEnter node context metadata).bind fun text =>
      (keeps_renderNodes hInside hEnter nodes context metadata).bind fun later => keeps_pure I _

end

theorem keeps_compile {J : History → Prop} (hJ : KeptByCompiling setup J) (frame : Option Frame)
    (strict noEscape : Bool) (source : String) (name : Option String) :
    Keeps (Kept J frame)
      (compile setup.machine (setup.options.merge { strict, noEscape }) source name) := by
  intro state hs
  cases hc : state.history.compile (setup.machine.nesting state.around)
      (setup.options.merge { strict, noEscape }) source name with
  | error error =>
    rw [run_compile_of_error state hc]
    exact hs
  | ok compiled =>
    obtain ⟨template, after⟩ := compiled
    rw [run_compile_of_ok state hc]
    exact ⟨hJ _ _ _ _ _ _ _ _ hs.history hc, hs.published⟩

/-- What happens in a frame of its own leaves the frame from before published. -/
theorem keeps_publishing {J : History → Prop} {inner : Frame} {x : Step α}
    (h : Keeps (Kept J (some inner)) x) (frame : Option Frame) :
    Keeps (Kept J frame) (publishing inner x) := by
  intro state hs
  rw [run_publishing]
  exact ⟨(h { state with published := some inner } ⟨hs.history, rfl⟩).history, hs.published⟩

theorem keeps_enterPartial {J : History → Prop} (hJ : KeptByCompiling setup J) (depth : Nat)
    (published : Option Frame) (frame : Frame) (name source : String) (context : Value)
    (metadata : Metadata) :
    Keeps (Kept J published) (enterPartial setup depth frame name source context metadata) := by
  induction depth generalizing published frame name source context metadata with
  | zero =>
    unfold enterPartial
    split
    · exact keeps_stop _
    · exact (keeps_compile hJ _ _ _ _ _).bind fun _ => keeps_stop _
  | succ depth ih =>
    unfold enterPartial
    split
    · exact keeps_stop _
    · rename_i inner hEnter
      have hInside := @keeps_inside String _ (indifferent_kept J (some inner)) setup.machine
      -- The frame around the partial comes back at the end, whatever was published inside.
      refine (keeps_compile hJ _ _ _ _ _).bind fun template => keeps_publishing ?_ _
      exact hInside _ (keeps_renderNodes hInside (fun _ _ _ _ => ih _ _ _ _ _ _) template.nodes
        context metadata)

/-! ### Closing

Whatever is opened is closed again. -/

/-- So much is open around the place. -/
def In (around : List Surrounding) (state : State) : Prop := state.around = around

theorem keeps_in_inside (around : List Surrounding) (machine : Machine) (surrounding : Surrounding)
    (x : Step α) : Keeps (In around) (inside machine surrounding x) := by
  intro state hs
  rw [In, around_inside, hs]

theorem keeps_in_enterPartial (around : List Surrounding) (depth : Nat) (frame : Frame)
    (name source : String) (context : Value) (metadata : Metadata) :
    Keeps (In around) (enterPartial setup depth frame name source context metadata) := by
  have hCompile (options : Options) :
      Keeps (In around) (compile setup.machine options source (some name)) := by
    intro state hs
    cases hc : state.history.compile (setup.machine.nesting state.around) options source
        (some name) with
    | error error =>
      rw [run_compile_of_error state hc]
      exact hs
    | ok compiled =>
      rw [run_compile_of_ok state hc]
      exact hs
  unfold enterPartial
  split
  · exact keeps_stop _
  · rename_i inner hEnter
    refine (hCompile _).bind fun template => ?_
    cases depth with
    | zero => exact keeps_stop _
    | succ depth =>
      intro state hs
      exact keeps_in_inside around _ _ _ { state with published := some inner } hs

/-- What is open around some nodes is open after them, whether they are rendered or fail. -/
theorem keeps_in_renderNodes (around : List Surrounding) (depth : Nat) (frame : Frame)
    (nodes : List Node) (context : Value) (metadata : Metadata) :
    Keeps (In around)
      (renderNodes setup (enterPartial setup depth) frame nodes context metadata) :=
  keeps_renderNodes (fun _ x _ => keeps_in_inside around _ _ x)
    (fun _ _ _ _ => keeps_in_enterPartial around _ _ _ _ _ _) nodes context metadata

/-! ### Renders -/

variable {J : History → Prop} {frame : Option Frame}

theorem Task.kept_outcome (hJ : KeptByCompiling setup J) {task : Task}
    (h : Kept J frame task.state) : Kept J frame (task.outcome setup).2 :=
  keeps_renderNodes (keeps_inside (indifferent_kept J _) _)
    (fun _ _ _ _ => keeps_enterPartial hJ _ _ _ _ _ _ _) task.nodes task.context task.metadata
    task.state h

theorem Site.outcome_eq_task (site : Site) :
    (site.outcome setup).2 = (Task.outcome setup ⟨site.room, site.frame, [site.node], site.context,
      site.metadata, site.state⟩).2 := by
  rw [Task.outcome_cons]
  rcases hSite : site.outcome setup with ⟨failure | text, after⟩
  · rw [run_bind_of_error hSite]
  · rw [run_bind_of_ok hSite, renderNodes]
    rfl

theorem Site.kept_outcome (hJ : KeptByCompiling setup J) {site : Site}
    (h : Kept J frame site.state) : Kept J frame (site.outcome setup).2 := by
  rw [site.outcome_eq_task]
  exact Task.kept_outcome hJ h

theorem Asks.kept {body : Value → Metadata → Step String} {action : Action α} {state last : State}
    {inner : Value} {more : Metadata} {I : State → Prop}
    (hAsks : Asks body action state inner more last)
    (hBody : ∀ context metadata, Keeps I (body context metadata)) (h : I state) : I last := by
  induction hAsks with
  | now => exact h
  | @later context inner metadata more next outcome state middle last hRun hAsks ih =>
    have hMiddle := hBody context metadata state h
    rw [hRun] at hMiddle
    exact ih hMiddle
  | frame hAsks ih => exact ih h

theorem Site.keeps_body (hJ : KeptByCompiling setup J) (site : Site) (name : String)
    (children : Option (List Node)) (context : Value) (metadata : Metadata) :
    Keeps (Kept J frame) (site.body setup name children context metadata) := by
  cases children with
  | none => exact fun _ hs => hs
  | some children =>
    have hInside := @keeps_inside String _ (indifferent_kept J frame) setup.machine
    exact hInside _ (keeps_renderNodes hInside (fun _ _ _ _ => keeps_enterPartial hJ _ _ _ _ _ _ _)
      children context _)

theorem Task.Visits.kept (hJ : KeptByCompiling setup J) {task : Task} {site : Site}
    (hVisits : task.Visits setup site) (h : Kept J frame task.state) :
    Kept J frame site.state := by
  induction hVisits with
  | head => exact h
  | @tail room frame node nodes context metadata state middle text site hFirst hVisits ih =>
    have hMiddle : Kept J _
        (Site.outcome setup ⟨room, frame, node, context, metadata, state⟩).2 :=
      Site.kept_outcome hJ h
    rw [hFirst] at hMiddle
    exact ih hMiddle

/-- Where a render starts inside a node, its frame is published, and the history is as it should
be. -/
theorem Site.Starts.kept (hJ : KeptByCompiling setup J) {site : Site} {entered : List String}
    {task : Task} (hStarts : site.Starts setup entered task)
    (h : Kept J (some site.frame) site.state) : Kept J (some task.frame) task.state := by
  cases hStarts with
  | body hNode hFound hKind hValues hAsks =>
    exact indifferent_kept J _ _ _ (hAsks.kept (site.keeps_body hJ _ _) h)
  | inclusion hNode hRoom hFound hContext hEnter hCompile =>
    exact ⟨hJ _ _ _ _ _ _ _ _ h.history hCompile, rfl⟩

/-- Wherever a render leads, the frame of the node is published there, and the history is as it
should be. -/
theorem Leads.kept (hJ : KeptByCompiling setup J) {task : Task} {path : List String} {site : Site}
    (hLeads : Leads setup task path site) (h : Kept J (some task.frame) task.state) :
    Kept J (some site.frame) site.state := by
  induction hLeads with
  | visit hVisits =>
    rw [hVisits.frame]
    exact hVisits.kept hJ h
  | inside hVisits hStarts hLeads ih =>
    have hSite := hVisits.kept hJ h
    rw [← hVisits.frame] at hSite
    exact ih (hStarts.kept hJ hSite)

/-! ### Afterwards -/

/-- What holds after a body that is asked for holds in the end. -/
theorem Asks.holds {body : Value → Metadata → Step String} {action : Action α}
    {state last : State} {inner : Value} {more : Metadata} {I : State → Prop}
    (hAsks : Asks body action state inner more last)
    (hBody : ∀ context metadata, Keeps I (body context metadata))
    (h : I ((body inner more).run last).2) : I ((carryOut body action).run state).2 := by
  induction hAsks with
  | now =>
    rw [run_carryOut_body]
    exact keeps_carryOut hBody _ _ h
  | later hRun hAsks ih =>
    rw [run_carryOut_body, hRun]
    exact ih h
  | frame hAsks ih => exact ih h

/-- A walk keeps what holds of the history alone. -/
theorem keeps_history (hJ : KeptByCompiling setup J) (room : Nat) (frame : Frame)
    (nodes : List Node) (context : Value) (metadata : Metadata) :
    Keeps (fun state => J state.history)
      (renderNodes setup (enterPartial setup room) frame nodes context metadata) := by
  intro state hs
  have hKept : Kept J state.published
      (Task.outcome setup ⟨room, frame, nodes, context, metadata, state⟩).2 :=
    Task.kept_outcome hJ ⟨hs, rfl⟩
  exact hKept.history

theorem Task.Visits.holds (hJ : KeptByCompiling setup J) {task : Task} {site : Site}
    (hVisits : task.Visits setup site) (h : J (site.outcome setup).2.history) :
    J (task.outcome setup).2.history := by
  induction hVisits with
  | head =>
    rw [Task.outcome_cons]
    exact holds_bind h fun text => (keeps_history hJ _ _ _ _ _).bind fun later => keeps_pure _ _
  | tail hFirst hVisits ih =>
    rw [Task.outcome_cons, run_bind_of_ok hFirst]
    exact holds_bind (I := fun state => J state.history) (ih h) fun later => keeps_pure _ _

theorem Site.Starts.holds (hJ : KeptByCompiling setup J) {site : Site} {entered : List String}
    {task : Task} (hStarts : site.Starts setup entered task)
    (h : J (task.outcome setup).2.history) : J (site.outcome setup).2.history := by
  cases hStarts with
  | @body offset name arguments children helper values inner more last hNode hFound hKind hValues
      hAsks hOpens =>
    have hBody : J ((site.body setup name (some children) inner more).run last).2.history := by
      rw [Site.run_body_of_opens hOpens]
      exact h
    rw [Site.outcome_block hNode hFound, run_bind_of_ok (run_lookUpAll_of_ok hValues _),
      if_pos hKind]
    refine holds_bind ?_ (keeps_textOf (fun state => J state.history) _ _)
    rw [run_call]
    refine hAsks.holds (I := fun state => J state.history) (fun _ _ => ?_) hBody
    exact keeps_inside (fun _ _ hs => hs) _ _ (keeps_history hJ _ _ _ _ _)
  | @inclusion offset room name source expression context frame template after hNode hRoom hFound
      hContext hEnter hCompile hOpens =>
    rw [Site.outcome_inclusion hNode hFound hContext, hRoom, enterPartial_succ, enterOnce, hEnter]
    have hRun := run_compile_of_ok site.state hCompile
    rw [Site.innerOptions] at hRun
    let opened : State := { site.state with history := after }
    have hRoomFor : setup.machine.opens (.inclusion name :: opened.around) = true := hOpens
    dsimp only
    rw [run_bind_of_ok hRun, run_entered_of_opens hRoomFor]
    exact h

/-- What holds of the history after a node on the way of a render, and is kept by compiling, holds
in the end. -/
theorem Leads.holds (hJ : KeptByCompiling setup J) {task : Task} {path : List String} {site : Site}
    (hLeads : Leads setup task path site) (h : J (site.outcome setup).2.history) :
    J (task.outcome setup).2.history := by
  induction hLeads with
  | visit hVisits => exact hVisits.holds hJ h
  | inside hVisits hStarts hLeads ih => exact hVisits.holds hJ (hStarts.holds hJ (ih h))

end Stencil.Render
