import Stencil.Proofs.Keeping
import Stencil.Proofs.Lockstep

/-!
Where a render is. Inside the partials on its path a node is rendered in the frame of the last of
them, and belongs to the source of that partial. The path is what the frame has on its stack.
-/

namespace Stencil

theorem Node.mem_preorder_self (node : Node) : node ∈ node.preorder := by
  cases node <;> simp [Node.preorder]

theorem Node.mem_preorderAll {node inner : Node} {nodes : List Node} (hNode : node ∈ nodes)
    (hInner : inner ∈ node.preorder) : inner ∈ Node.preorderAll nodes := by
  induction nodes with
  | nil => cases hNode
  | cons first nodes ih =>
    rw [Node.preorderAll]
    rcases List.mem_cons.1 hNode with rfl | hLater
    · exact List.mem_append_left _ hInner
    · exact List.mem_append_right _ (ih hLater)

namespace Render

variable {setup : Setup}

/-! ### Caches stay faithful -/

/-- The cache is faithful. -/
def State.Faithful (state : State) : Prop := state.history.cache.Faithful

theorem keptByCompiling_faithful :
    KeptByCompiling setup fun history => history.cache.Faithful := by
  intro history limit strict noEscape source name template after h hCompile
  obtain ⟨nodes, -, -, hAfter⟩ := History.spec_of_compile_ok h hCompile
  exact hAfter

theorem Task.Visits.faithful {task : Task} {site : Site} (hVisits : task.Visits setup site)
    (h : task.state.Faithful) : site.state.Faithful :=
  (hVisits.kept keptByCompiling_faithful ⟨h, rfl⟩).history

theorem Site.faithful_of_asks {site : Site} {α : Type} {action : Action α} {name : String}
    {children : List Node} {state last : State} {inner : Value} {more : Metadata}
    (hAsks : Asks (site.body setup name (some children)) action state inner more last)
    (h : state.Faithful) : last.Faithful :=
  (hAsks.kept (site.keeps_body keptByCompiling_faithful _ _) ⟨h, rfl⟩).history

/-! ### Frames and sources -/

/-- The frame and the source's nodes that the walk is in, inside the partials on the path, if it
started in the frame `top` with the nodes `root`. -/
inductive Located (setup : Setup) (root : List Node) (top : Frame) :
    List String → Frame → List Node → Prop
  | template : Located setup root top [] top root
  | inclusion {path : List String} {frame inner : Frame} {nodes within : List Node}
      {name source : String} (hOuter : Located setup root top path frame nodes)
      (hName : Includes setup nodes name source) (hEnter : frame.enter name source = .ok inner)
      (hNodes : Template.Reads source within) :
      Located setup root top (path ++ [name]) inner within

namespace Located

variable {root nodes : List Node} {top frame : Frame} {path : List String}

theorem walks (h : Located setup root top path frame nodes) : Walks setup root nodes := by
  induction h with
  | template => exact .template
  | inclusion hOuter hName hEnter hNodes ih => exact .inclusion ih hName hNodes

/-- The stack of the frame tells the path. -/
theorem stack (h : Located setup root top path frame nodes) : frame.stack = top.stack ++ path := by
  induction h with
  | template => exact (List.append_nil _).symm
  | inclusion hOuter hName hEnter hNodes ih => rw [Frame.eq_of_enter hEnter, ih, List.append_assoc]

/-- The innermost partial gives its name and its source to the frame, and its nodes to the walk. -/
theorem innermost (h : Located setup root top path frame nodes) :
    match path.getLast? with
    | none => frame = top ∧ nodes = root
    | some name => ∃ source, setup.partials.find? name = some source ∧
        frame.templateName = some name ∧ frame.source = some source ∧
        Template.Reads source nodes := by
  cases h with
  | template => exact ⟨rfl, rfl⟩
  | inclusion hOuter hName hEnter hNodes =>
    rw [List.getLast?_append, Frame.eq_of_enter hEnter]
    exact ⟨_, hName.2, rfl, rfl, hNodes⟩

end Located

/-- A render leads to nodes of the source that it is in. -/
theorem Leads.located {task : Task} {site : Site} {path before : List String} {top : Frame}
    {root nodes : List Node} (hLeads : Leads setup task path site)
    (h : Located setup root top before task.frame nodes)
    (hNodes : ∀ node ∈ Node.preorderAll task.nodes, node ∈ Node.preorderAll nodes)
    (hState : task.state.Faithful) :
    ∃ within, Located setup root top (before ++ path) site.frame within ∧
      site.node ∈ Node.preorderAll within := by
  -- Along the way, `before` is the path so far, and the nodes belong to the last source on it.
  induction hLeads generalizing before nodes with
  | visit hVisits =>
    rw [List.append_nil, hVisits.frame]
    exact ⟨nodes, h, hNodes _ (Node.mem_preorderAll hVisits.mem (Node.mem_preorder_self _))⟩
  | @inside task inner site last entered path hVisits hStarts hLeads ih =>
    have hSite := hVisits.faithful hState
    have hMem : ∀ inner ∈ site.node.preorder, inner ∈ Node.preorderAll nodes :=
      fun inner hInner => hNodes _ (Node.mem_preorderAll hVisits.mem hInner)
    rw [← hVisits.frame] at h
    cases hStarts with
    | @body offset name arguments children helper values inner more later hNode hFound hKind hValues
        hAsks =>
      have hLater : later.Faithful := Site.faithful_of_asks hAsks hSite
      refine ih h (fun node hIn => hMem node ?_) hLater
      rw [hNode, Node.preorder]
      exact List.mem_cons_of_mem _ hIn
    | @inclusion offset room name source expression context frame template after hNode hRoom hFound
        hContext hEnter hCompile =>
      obtain ⟨within, hWithin, hSpec, hAfter⟩ := History.spec_of_compile_ok hSite hCompile
      have hIncluded : Includes setup nodes name source := by
        refine ⟨⟨offset, expression, hMem _ ?_⟩, hFound⟩
        rw [← hNode]
        exact Node.mem_preorder_self _
      have hInner := Located.inclusion h hIncluded hEnter hWithin
      rw [← List.append_assoc]
      refine ih hInner (fun node hIn => ?_) hAfter
      rwa [(Template.anonymous_eq_iff.1 hSpec).1] at hIn

end Render

end Stencil
