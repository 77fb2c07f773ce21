import Stencil.Proofs.Lockstep
import Stencil.Template.Print

/-!
Escaping touches the text of output tags and nothing else. A render with escaping and one without go
through the same segments, and differ only in how those are written that output tags stand for. The
text of a block is put together from the segments of its body, and is not escaped again.
-/

namespace Stencil

open Render

/-! ### Segments -/

/-- A stretch of the text of a render: what an output tag stands for, or text that is copied. -/
inductive Segment where
  | output (text : String)
  | verbatim (text : String)

namespace Segment

def text : Segment → String
  | output text | verbatim text => text

def escaped : Segment → String
  | output text => Text.Html.escape text
  | verbatim text => text

/-- Where the segments of a render come from. The nodes are those of the template, or of a partial
that it includes. -/
inductive From (setup : Setup) (root : List Node) : Segment → Prop
  | output {nodes : List Node} {offset : Nat} {path : String} {arguments : List String}
      {filters : List Filter} {frame : Frame} {context : Value} {metadata : Metadata}
      {text : String} (hWalks : Walks setup root nodes)
      (hNode : .output offset path arguments filters ∈ Node.preorderAll nodes)
      (hShows : Shows setup frame offset path arguments filters context metadata text) :
      From setup root (.output text)
  | content {nodes : List Node} {offset : Nat} {text : String} (hWalks : Walks setup root nodes)
      (hNode : .text offset text ∈ Node.preorderAll nodes) : From setup root (.verbatim text)
  | /-- What a helper that takes no block makes of its arguments where a block is written. -/
    alone {nodes : List Node} {offset : Nat} {name : String} {arguments : List String}
      {children : List Node} {helper : Helper} {context : Value} {metadata : Metadata}
      {values : List Value} {value : Value} {text : String} (hWalks : Walks setup root nodes)
      (hNode : .block offset name arguments children ∈ Node.preorderAll nodes)
      (hFound : setup.helpers.find? name = some helper) (hKind : helper.isBlock = false)
      (hValues : arguments.mapM (Path.resolve context · metadata) = .ok values)
      (hValue : helper.act values = .done value) (hText : value.display = .ok text) :
      From setup root (.verbatim text)

end Segment

/-- The texts are those of the same segments, written with escapes and as they are. -/
def Told (setup : Setup) (root : List Node) (escaped plain : String) : Prop :=
  ∃ segments : List Segment, (∀ segment ∈ segments, segment.From setup root) ∧
    escaped = String.join (segments.map Segment.escaped) ∧
    plain = String.join (segments.map Segment.text)

namespace Told

variable {setup : Setup} {root : List Node}

theorem nil : Told setup root "" "" := ⟨[], nofun, rfl, rfl⟩

theorem append {escaped plain escaped' plain' : String} (h : Told setup root escaped plain)
    (h' : Told setup root escaped' plain') :
    Told setup root (escaped ++ escaped') (plain ++ plain') := by
  obtain ⟨segments, hFrom, rfl, rfl⟩ := h
  obtain ⟨segments', hFrom', rfl, rfl⟩ := h'
  refine ⟨segments ++ segments', List.forall_mem_append.2 ⟨hFrom, hFrom'⟩, ?_, ?_⟩
  · rw [List.map_append, String.join_append]
  · rw [List.map_append, String.join_append]

theorem single {segment : Segment} (h : segment.From setup root) :
    Told setup root segment.escaped segment.text := by
  refine ⟨[segment], List.forall_mem_singleton.2 h, ?_, ?_⟩
  · rw [List.map_singleton, String.join_cons, String.join_nil, String.append_empty]
  · rw [List.map_singleton, String.join_cons, String.join_nil, String.append_empty]

end Told

namespace Render

variable {α β : Type}

/-! ### What parts of a walk give -/

theorem display_of_gives {frame : Frame} {offset : Nat} {value : Value} {text : String}
    (h : Gives (textOf frame offset value) text) : value.display = .ok text := by
  obtain ⟨state, after, h⟩ := h
  rw [run_textOf] at h
  cases hr : value.display with
  | ok shown =>
    rw [hr] at h
    cases h
    rfl
  | error fault =>
    rw [hr] at h
    cases h

theorem resolveAll_of_gives {frame : Frame} {offset : Nat} {context : Value} {metadata : Metadata}
    {paths : List String} {values : List Value}
    (h : Gives (paths.mapM (lookUp frame offset context metadata)) values) :
    paths.mapM (Path.resolve context · metadata) = .ok values := by
  obtain ⟨state, after, h⟩ := h
  rcases resolveAll_cases context metadata paths with
    ⟨found, hFound⟩ | ⟨before, path, later, found, fault, rfl, hBefore, hFault⟩
  · rw [run_lookUpAll_of_ok hFound] at h
    cases h
    exact hFound
  · rw [run_lookUpAll_of_error hBefore hFault] at h
    cases h

/-! ### Helpers -/

theorem carryOut_bind (body : Value → Metadata → Step String) (action : Action α)
    (k : α → Action β) :
    carryOut body (action.bind k) = carryOut body action >>= fun a => carryOut body (k a) := by
  induction action with
  | done a => exact (pure_bind a fun a => carryOut body (k a)).symm
  | fail failure => rfl
  | body context metadata next ih =>
    change (attempt _ >>= fun outcome => carryOut body ((next outcome).bind k)) =
      (attempt _ >>= fun outcome => carryOut body (next outcome)) >>= _
    simp only [ih, bind_assoc]
  | frame next ih =>
    change (published >>= fun current => carryOut body ((next current).bind k)) =
      (published >>= fun current => carryOut body (next current)) >>= _
    simp only [ih, bind_assoc]

/-- Whoever asks for the content of a block gets the text of the body, or fails as the body does. -/
theorem carryOut_content (body : Value → Metadata → Step String) (name : String) (ambient : Value)
    (context : Option Value) (metadata : Metadata) :
    carryOut body (.content (.blockOptions name ambient) context metadata) =
      body (context.getD ambient) metadata := by
  refine run_ext fun state => ?_
  change (attempt _ >>= fun outcome => carryOut body (.passOn outcome)).run state = _
  rw [run_bind_of_ok (run_attempt _ state)]
  rcases (body (context.getD ambient) metadata).run state with ⟨failure | text, after⟩
  · rfl
  · rfl

theorem textOf_text (frame : Frame) (offset : Nat) (text : String) :
    textOf frame offset (.text text) = pure text := by
  refine run_ext fun state => ?_
  rw [textOf, run_guarding, Value.display_text, run_raising_ok, run_pure]

/-- What a helper that takes no block gives, it gives whatever its arguments are looked up for. -/
theorem act_of_gives {helper : Helper} (hForm : helper.Form) (hKind : helper.isBlock = false)
    {frame : Frame} {offset : Nat} {name : String} {values : List Value} {value : Value}
    (h : Gives (call noBody frame offset helper name values) value) :
    helper.act values = .done value := by
  obtain ⟨state, after, h⟩ := h
  have hCases : ∀ result : Except Fault Value, helper.act values = .ofExcept result →
      helper.act values = .done value := by
    intro result hr
    rw [call, run_guarding, hr] at h
    cases result with
    | ok found =>
      cases h
      exact hr
    | error fault => cases h
  cases hForm with
  | function name most f =>
    by_cases hm : most < values.length
    · exact hCases (.error _) (if_pos hm)
    · exact hCases (f values) (if_neg hm)
  | choice chosen => cases hKind
  | eachItem => cases hKind

/-! ### Block helpers

The text of a block is the text of its body, once or more often or not at all. -/

/-- Two texts that are related. -/
def Texts (T : String → String → Prop) (value value' : Value) : Prop :=
  ∃ text text' : String, value = .text text ∧ value' = .text text' ∧ T text text'

section Bodies

variable {E : Failure → Prop} {S : State → State → Prop} {T : String → String → Prop}
  {body body' : Value → Metadata → Step String}

theorem agree_alternative (hNil : T "" "") (options : Value) :
    AgreeUnless E S T (carryOut body (.alternative options))
      (carryOut body' (.alternative options)) := by
  unfold Action.alternative
  split
  · exact .pure hNil
  · unfold Action.notOptions
    split
    · exact .throw _
    · exact .throw _

variable
  (hBody : ∀ context metadata, AgreeUnless E S T (body context metadata) (body' context metadata))
include hBody

theorem agree_content (options : Value) (context : Option Value) (metadata : Metadata) :
    AgreeUnless E S T (carryOut body (.content options context metadata))
      (carryOut body' (.content options context metadata)) := by
  by_cases h : ∃ name ambient, options = .blockOptions name ambient
  · obtain ⟨name, ambient, rfl⟩ := h
    rw [carryOut_content, carryOut_content]
    exact hBody _ _
  · have hFails : ∃ fault, Action.content options context metadata = .raise fault := by
      unfold Action.content
      split
      · exact absurd ⟨_, _, rfl⟩ h
      · unfold Action.notOptions
        split
        · exact ⟨_, rfl⟩
        · exact ⟨_, rfl⟩
    obtain ⟨fault, hFault⟩ := hFails
    rw [hFault]
    exact .throw _

variable (hAppend : ∀ {s t s' t' : String}, T s t → T s' t' → T (s ++ s') (t ++ t'))
include hAppend

theorem agree_bodies (options : Value) (items : List Value) (loop : Loop) {before before' : String}
    (h : T before before') :
    AgreeUnless E S T (carryOut body (Helper.bodies options loop before items))
      (carryOut body' (Helper.bodies options loop before' items)) := by
  induction items generalizing loop before before' with
  | nil => exact .pure h
  | cons item items ih =>
    have hItem := agree_content hBody options (some (loop.scope item)) loop.metadata
    change AgreeUnless E S T (carryOut body ((Action.content _ _ _).bind _))
      (carryOut body' ((Action.content _ _ _).bind _))
    rw [carryOut_bind, carryOut_bind]
    exact hItem.bind fun text text' hText => ih _ (hAppend h hText)

/-- Block helpers give texts that are related like those of the bodies. -/
theorem agree_blockHelper (hNil : T "" "") {helper : Helper} (hForm : helper.Form)
    (hKind : helper.isBlock = true) (arguments : List Value) :
    AgreeUnless E S (Texts T) (carryOut body (helper.act arguments))
      (carryOut body' (helper.act arguments)) := by
  have hReturn : ∀ action action' : Action String,
      AgreeUnless E S T (carryOut body action) (carryOut body' action') →
      AgreeUnless E S (Texts T)
        (carryOut body (action.bind fun text => .done (.text text)))
        (carryOut body' (action'.bind fun text => .done (.text text))) := by
    intro action action' h
    rw [carryOut_bind, carryOut_bind]
    exact h.bind fun s t hst => .pure ⟨s, t, rfl, rfl, hst⟩
  cases hForm with
  | function name most f => cases hKind
  | choice chosen =>
    dsimp only [Helper.blockFunction]
    split
    · exact .throw _
    · unfold Helper.choice
      dsimp only
      split
      · exact hReturn _ _ (agree_content hBody _ _ _)
      · exact hReturn _ _ (agree_alternative hNil _)
  | eachItem =>
    dsimp only [Helper.eachItem, Helper.blockFunction]
    split
    · exact .throw _
    · split
      · exact .pure ⟨"", "", rfl, rfl, hNil⟩
      · exact hReturn _ _ (agree_bodies hBody hAppend _ _ _ hNil)

end Bodies

/-! ### Renders -/

/-- Walks that differ in whether they escape go through the same segments. -/
theorem walks_segments {setup : Setup} {root nodes : List Node} {options options' : Options}
    (hBuiltin : setup.Every Helper.IsBuiltin) (hStrict : options.strict = options'.strict)
    (hEscape : options.noEscape = false) (hEscape' : options'.noEscape = true)
    (hWalks : Walks setup root nodes) :
    WalksAgree setup (fun _ => False) (Alike fun _ _ => True) (Told setup root) options options'
      nodes := by
  intro enter enter' hEnter frame frame' hPaired context metadata
  have hBeside : Beside (fun _ => False) frame frame' := hPaired.beside (.inl hStrict)
  have hSuits : Suits setup (fun _ => False) (Alike fun _ _ => True) :=
    .of_look steady_alike (.inr (hBuiltin.mono fun _ h => h.blind))
  have hMatched : Matched (fun _ => False) (Alike fun _ _ => True) setup.machine setup.machine :=
    .of_around Alike.around _
  have hAgree : NodesAgree setup setup.machine (fun _ => False) (Alike fun _ _ => True)
      (Told setup root) enter enter' frame frame' (· ∈ Node.preorderAll nodes) :=
    { beside := hBeside
      suits := hSuits
      matched := hMatched
      nil := .nil
      append := .append
      text := fun offset content hNode => .single (.content hWalks hNode)
      output := by
        intro offset path arguments filters hNode context metadata
        refine .renderOutput hBeside hSuits _ _ _ _ _ _ .nil fun text hShows => ?_
        rw [hPaired.noEscape, hEscape, hPaired.noEscape', hEscape']
        exact .single (.output hWalks hNode hShows)
      block := by
        intro offset name arguments children hNode hBody context metadata
        refine .renderBlock hBeside hSuits _ _ _ _ _ _ _ .nil ?_ ?_
        · intro helper values value hFound hKind hValues hValue
          have hText := (AgreeUnless.textOf hBeside hSuits offset value).and_gives
          refine hText.mono fun text text' ⟨hSame, hGives⟩ => ?_
          subst hSame
          exact .single (.alone hWalks hNode hFound hKind (resolveAll_of_gives hValues)
            (act_of_gives (hBuiltin _ _ hFound).form hKind hValue) (display_of_gives hGives))
        · -- The helper gives a text, which stands as it is between the other segments.
          intro helper values hFound hKind
          have hHelper := agree_blockHelper
            (fun inner more => .inside steady_alike hMatched (hBody inner (more ++ metadata))
              (.body name))
            .append .nil (hBuiltin _ _ hFound).form hKind (values ++ [.blockOptions name context])
          unfold call
          refine (AgreeUnless.guardingAt hBeside hSuits hHelper _ fun _ => rfl).bind ?_
          rintro _ _ ⟨text, text', rfl, rfl, hTold⟩
          rw [textOf_text, textOf_text]
          exact .pure hTold
      enter := by
        intro offset name expression hNode source context metadata hFound
        exact hEnter frame frame' hPaired name source ⟨⟨offset, expression, hNode⟩, hFound⟩ _ _ }
  exact hAgree.renderNodes nodes (fun _ h => h) context metadata

end Render

namespace Engine

/-- With only the built-in helpers, a render with escaping and one without fail with the same error,
or their texts are those of the same segments. -/
theorem escape_touches_output (machine : Machine) (options : Options) (operations : List Operation)
    (hBuiltin : ((new machine options).performAll operations).setup.Every Helper.IsBuiltin) :
    let engine := (new machine options).performAll operations
    (∀ (template : Template) (context : Value) (named : List (String × Value)),
      SameResult (Told engine.setup template.nodes)
        (engine.call { template with options.noEscape := false } context named).1
        (engine.call { template with options.noEscape := true } context named).1) ∧
    ∀ (source : String) (context : Value) (overrides : Overrides),
      SameResult (fun escaped plain => ∃ nodes, Template.Reads source nodes ∧
          Told engine.setup nodes escaped plain)
        (engine.render source context { overrides with noEscape := some false }).1
        (engine.render source context { overrides with noEscape := some true }).1 := by
  intro engine
  have hFaithful : engine.Faithful := faithful_performAll machine options operations
  constructor
  · intro template context named
    have hWalk : ∀ nodes, Walks engine.setup template.nodes nodes → WalksAgree engine.setup _
        (Alike fun _ _ => True) (Told engine.setup template.nodes)
        { template.options with noEscape := false } { template.options with noEscape := true }
        nodes := fun _ => walks_segments hBuiltin rfl rfl rfl
    have hAgree : Agree (Alike fun _ _ => True) (Told engine.setup template.nodes)
        (Render.render engine.setup { template with options.noEscape := false } context named)
        (Render.render engine.setup { template with options.noEscape := true } context named) := by
      apply agree_render (fun _ _ _ => trivial) hWalk
      all_goals rfl
    exact (hAgree.of_start (alike_start hFaithful trivial)).1
  · intro source context overrides
    have hWalk : ∀ root, Template.Reads source root → ∀ nodes,
        Walks engine.setup root nodes → WalksAgree engine.setup _ (Alike fun _ _ => True)
        (Told engine.setup root)
        (engine.setup.options.merge { overrides with noEscape := some false })
        (engine.setup.options.merge { overrides with noEscape := some true })
        nodes := fun _ _ _ => walks_segments hBuiltin rfl rfl rfl
    have hAgree := agree_compile_render (fun _ _ _ => trivial) none (by rfl) hWalk context []
    exact (hAgree.of_start (alike_start hFaithful trivial)).1

/-- A name is shown by a partial, which also writes it in capitals where a block could be. -/
theorem escape_touches_output_card :
    let card := "<i>" ++ Node.tag "name" ++ "</i>" ++ Node.tag "#uppercase name" ++
      Node.tag "/uppercase"
    let engine := (new .small {}).performAll [.registerPartial "card" card]
    let source := Node.tag "> card" ++ Node.tag "#if name" ++ Node.tag "name" ++ Node.tag "/if"
    let context : Value := .map [(.text "name", .text "a<b")]
    engine.setup.Every Helper.IsBuiltin ∧
      (engine.render source context { noEscape := some false }).1.toOption =
        some "<i>a&lt;b</i>A<Ba&lt;b" ∧
      (engine.render source context { noEscape := some true }).1.toOption =
        some "<i>a<b</i>A<Ba<b" ∧
      SameResult (fun escaped plain => ∃ nodes, Template.Reads source nodes ∧
          Told engine.setup nodes escaped plain)
        (engine.render source context { noEscape := some false }).1
        (engine.render source context { noEscape := some true }).1 := by
  intro card engine source context
  have hBuiltin : engine.setup.Every Helper.IsBuiltin := every_new .small {}
  obtain ⟨-, hRender⟩ := escape_touches_output .small {} [.registerPartial "card" card] hBuiltin
  exact ⟨hBuiltin, by decide +kernel, by decide +kernel, hRender source context {}⟩

end Engine

end Stencil
