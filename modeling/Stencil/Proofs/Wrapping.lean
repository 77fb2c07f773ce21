import Stencil.Proofs.Transparency

/-!
Which faults are wrapped. A fault that a helper, a path or the text of a value raises is reported
once, where it is raised, and remains behind the error. There are two exceptions. If the words for a
fault raise another one, nobody reports that, and nobody reports what including a partial raises by
itself. Such a fault passes through the partials around it as it is, up to the next block.
-/

namespace Stencil

namespace Render

variable {setup : Setup}

theorem underlying_report (deed : Deed) (fault : Fault) (place : Place) :
    (RenderError.ofCause (deed.cause fault) place).underlying = some fault := by
  cases deed <;> rfl

/-- What becomes of a fault that is raised at a node: it is reported there, or what its words raise
takes its place. -/
theorem Site.Performs.outcome_of_fault {site : Site} {deed : Deed} {state : State} {fault : Fault}
    (hDone : site.Performs setup deed state)
    (hRaises : site.Raises setup deed state (.fault fault)) :
    (site.outcome setup).1 =
      match fault.raised? with
      | none => .error (.error (.render (.ofCause (deed.cause fault) site.place)))
      | some raised => .error (.fault raised) := by
  obtain ⟨after, hOutcome⟩ := hDone.outcome hRaises
  rw [hOutcome]
  cases hRaised : fault.raised? with
  | none => rw [reported_of_raised?_none hRaised]
  | some raised => rw [reported_of_raised?_some hRaised]

/-- A fault is behind no error but the report of the fault, and those that helpers make up. -/
theorem Site.Explains.of_underlying {site : Site} {error : RenderError} {fault : Fault}
    (h : site.Explains setup (.render error)) (hFault : error.underlying = some fault) :
    (∃ deed state, site.Performs setup deed state ∧ site.Raises setup deed state (.fault fault) ∧
      error = .ofCause (deed.cause fault) site.place) ∨
    setup.MayRaise (.error (.render error)) := by
  generalize hSame : TemplateError.render error = reason at h
  cases h with
  | @report deed state other hDone hRaises =>
    cases hSame
    have hOther : other = fault := by
      rw [underlying_report] at hFault
      exact Option.some.inj hFault
    exact .inl ⟨deed, state, hDone, hOther ▸ hRaises, by rw [hOther]⟩
  | own hDone hMay =>
    subst hSame
    exact .inr ⟨_, _, hDone.found, _, hMay⟩
  | refusal hRefused =>
    cases hRefused with
    | uncompiled => cases hSame
    | _ =>
      cases hSame
      cases hFault

/-- Through no block, but perhaps through partials, the render leads to a node from which the fault
comes out as it is. -/
def Task.LetsOut (setup : Setup) (task : Task) (fault : Fault) : Prop :=
  ∃ path site, Exposes setup task path site ∧ site.Escapes setup fault

theorem Task.outcome_eq_fault_iff (task : Task) (fault : Fault) :
    (task.outcome setup).1 = .error (.fault fault) ↔ task.LetsOut setup fault := by
  constructor
  · exact exists_exposed task
  · rintro ⟨path, site, hExposes, hEscapes⟩
    exact hExposes.outcome hEscapes.outcome

end Render

namespace Engine

open Render

variable (engine : Engine)

theorem call_eq_fault_iff (template : Template) (context : Value)
    (named : List (String × Value)) (fault : Fault) :
    (engine.call template context named).1 = .error (.fault fault) ↔
      (engine.task template context named).LetsOut engine.setup fault :=
  (engine.task template context named).outcome_eq_fault_iff fault

theorem render_eq_fault_iff (source : String) (context : Value) (overrides : Overrides)
    (fault : Fault) :
    (engine.render source context overrides).1 = .error (.fault fault) ↔
      ∃ template after, engine.compile source none overrides = (.ok template, after) ∧
        (after.task template context []).LetsOut engine.setup fault := by
  rw [render_eq_outcome, outcome]
  cases hc : engine.history.compile (engine.setup.machine.nesting [])
      (engine.setup.options.merge overrides) source none with
  | error error =>
    rw [compile_of_error hc]
    constructor
    · intro h
      cases h
    · rintro ⟨template, after, hSame, -⟩
      cases hSame
  | ok compiled =>
    rw [compile_of_ok hc]
    dsimp only
    rw [call_eq_fault_iff]
    constructor
    · exact fun h => ⟨_, _, rfl, h⟩
    · rintro ⟨template, after, hSame, h⟩
      cases hSame
      exact h

end Engine

end Stencil
