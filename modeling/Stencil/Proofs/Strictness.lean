import Stencil.Proofs.Located
import Stencil.Proofs.Transparency
import Stencil.Template.Print

/-!
Strict renders refine lenient ones. Side by side, the two look up the same names in the same order,
and part only where a helper or a partial is not known: there the strict one fails. If all names are
known that a template mentions, and all that its partials mention, they never part.
-/

namespace Stencil

/-! ### Known names -/

/-- The name of the partial that a node includes. -/
def Node.inclusionName? : Node → Option String
  | .inclusion _ name _ => some name
  | _ => none

namespace Setup

variable (setup : Setup)

/-- All helpers and partials are registered whose names occur at the node. -/
def Knows (node : Node) : Prop :=
  (∀ name ∈ node.helperNames, (setup.helpers.find? name).isSome) ∧
    ∀ name ∈ node.inclusionName?, (setup.partials.find? name).isSome

instance (node : Node) : Decidable (setup.Knows node) :=
  inferInstanceAs (Decidable (_ ∧ _))

/-- All names are known that occur in the nodes and in those of the partials that they include,
directly or through others. -/
def KnowsAll (root : List Node) : Prop :=
  ∀ nodes, Render.Walks setup root nodes → ∀ node ∈ Node.preorderAll nodes, setup.Knows node

/-- All names are known that occur in the source. -/
def KnowsIn (source : String) : Prop :=
  ∀ nodes, Template.Reads source nodes → ∀ node ∈ Node.preorderAll nodes, setup.Knows node

variable {setup}

/-- A limit that is high enough tells the names of a source. -/
theorem knowsIn_of_isOk {source : String} (limit : Nat)
    (hOk : (Template.compile limit source none).isOk = true)
    (h : ∀ node ∈ Node.preorderAll ((Template.compile limit source none).toOption.getD []),
      setup.Knows node) : setup.KnowsIn source := by
  intro nodes hNodes
  rwa [hNodes.unique (Template.reads_of_compile (Template.compile_of_isOk hOk))]

/-- It is enough to know the names in the source and in all partials that are registered. -/
theorem knowsAll_of_knowsIn {source : String} {root : List Node} (hSource : setup.KnowsIn source)
    (hPartials : ∀ name source, setup.partials.find? name = some source → setup.KnowsIn source)
    (hRoot : Template.Reads source root) : setup.KnowsAll root := by
  intro nodes hWalks
  cases hWalks with
  | template => exact hSource root hRoot
  | inclusion hOuter hName hNodes => exact hPartials _ _ hName.2 nodes hNodes

end Setup

namespace Render

/-! ### Two renders -/

/-- The failure says that a helper or a partial is not known. -/
def Unknown (failure : Failure) : Prop :=
  ∃ error : RenderError, failure = .error (.render error) ∧ error.IsUnknown

/-- What comes of both renders is the same, unless the first one says that a name is not known. -/
def SameUnlessUnknown (strict lenient : Except Failure String) : Prop :=
  strict = lenient ∨ ∃ failure, strict = .error failure ∧ Unknown failure

/-- If the render says that a name is not known, then a helper says so of its own accord. -/
def UnknownOnlyToHelpers (setup : Setup) (result : Except Failure String) : Prop :=
  ∀ failure, result = .error failure → Unknown failure → setup.MayRaise failure

/-- The first options are strict, and the others escape alike and use the cache alike. -/
def Stricter (options options' : Options) : Prop :=
  options.strict = true ∧ options.noEscape = options'.noEscape ∧ options.cache = options'.cache

variable {setup : Setup} {options options' : Options}

theorem suits_unknown {S : State → State → Prop}
    (h : setup.Every fun helper => helper.Blind ∧ helper.CatchesNothing) (hSteady : Steady S) :
    Suits setup Unknown S where
  steady := hSteady
  reports place cause failure _ hUnknown := by
    obtain ⟨error, rfl, hName⟩ := hUnknown
    exact ⟨error, rfl, hName⟩
  look := .inr (h.mono fun _ hHelper => hHelper.1)
  passes := h.mono fun _ hHelper => hHelper.2.passesOn Unknown

theorem Stricter.walks (hStricter : Stricter options options')
    (h : setup.Every fun helper => helper.Blind ∧ helper.CatchesNothing)
    {F : Option Frame → Option Frame → Prop} (nodes : List Node) :
    WalksAgree setup Unknown (Alike F) Eq options options' nodes := by
  have hExcuse : ∀ error : RenderError, error.IsUnknown → Unknown (.error (.render error)) :=
    fun error hUnknown => ⟨error, rfl, hUnknown⟩
  exact walks_eq (suits_unknown h steady_alike) Alike.around (.inr ⟨hStricter.1, hExcuse⟩)
    hStricter.2.1 nodes

theorem Stricter.compile_render (hStricter : Stricter options options')
    (h : setup.Every fun helper => helper.Blind ∧ helper.CatchesNothing) {source : String}
    {name : Option String} (context : Value) (named : List (String × Value)) :
    AgreeUnless Unknown (Alike fun _ _ => True) Eq
      (compile setup.machine options source name >>= fun template =>
        render setup template context named)
      (compile setup.machine options' source name >>= fun template =>
        render setup template context named) := by
  refine AgreeUnless.mono (agree_compile_render (T := fun _ => Eq) (fun _ _ _ => trivial) name
    hStricter.2.2 (fun _ _ nodes _ => hStricter.walks h nodes) context named) ?_
  exact fun text text' ⟨_, _, hText⟩ => hText

/-! ### Where names are not known -/

/-- That a name is not known is said at a node that mentions the name, or by a helper. -/
theorem Site.Explains.of_unknown {site : Site} {error : TemplateError}
    (h : site.Explains setup error) (hUnknown : Unknown (.error error)) :
    ¬ setup.Knows site.node ∨ setup.MayRaise (.error error) := by
  obtain ⟨reason, hSame, unknown, hCause⟩ := hUnknown
  cases h with
  | @report deed state fault hDone hRaises =>
    -- Reports have a fault behind them, and are never about a name.
    cases hSame
    cases deed <;> rcases hCause with hCause | hCause <;> cases hCause
  | own hDone hMay => exact .inr ⟨_, _, hDone.found, _, hMay⟩
  | refusal hRefused =>
    cases hRefused with
    | unknownHelper hName hFound =>
      refine .inl fun hKnows => ?_
      have hSome := hKnows.1 _ hName
      rw [hFound] at hSome
      cases hSome
    | unknownPartial hNode hFound =>
      refine .inl fun hKnows => ?_
      have hSome := hKnows.2 _ (by rw [hNode]; rfl)
      rw [hFound] at hSome
      cases hSome
    | uncompiled => cases hSame
    | _ =>
      cases hSame
      rcases hCause with hCause | hCause <;> cases hCause

end Render

namespace Engine

open Render

variable {engine : Engine} (hFaithful : engine.Faithful)
include hFaithful

theorem sameUnlessUnknown_of_agree {x y : Step String}
    (h : AgreeUnless Unknown (Alike fun _ _ => True) Eq x y) :
    SameUnlessUnknown (engine.run x).1 (engine.run y).1 := by
  rcases run_agree hFaithful trivial h with hUnknown | hSame
  · exact .inr hUnknown
  · exact .inl hSame.eq

/-- If all names are known, every node at which an error arises knows its own. -/
theorem unknownOnlyToHelpers_of_call (template : Template)
    (hKnows : engine.setup.KnowsAll template.nodes) (context : Value)
    (named : List (String × Value)) :
    UnknownOnlyToHelpers engine.setup (engine.call template context named).1 := by
  rintro failure hFails ⟨error, rfl, hUnknown⟩
  obtain ⟨path, site, hLeads, hOrigin⟩ := exists_origin (engine.task template context named) hFails
  obtain ⟨nodes, hLocated, hNode⟩ := hLeads.located .template (fun _ hNode => hNode) hFaithful
  have hKnown : engine.setup.Knows site.node := hKnows nodes hLocated.walks _ hNode
  rcases hOrigin.explains.of_unknown ⟨error, rfl, hUnknown⟩ with hNot | hMay
  · exact absurd hKnown hNot
  · exact hMay

omit hFaithful

end Engine

end Stencil
