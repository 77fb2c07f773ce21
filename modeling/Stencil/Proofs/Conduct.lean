import Stencil.Engine.Basic

/-!
How helpers behave: whether they look at the frame that they are called in, whether they go on when
a body cannot be rendered, and what they may raise of their own accord. The built-in helpers do
neither, and raise nothing but faults.
-/

namespace Stencil

namespace Action

variable {α β : Type}

/-- The action never looks at the frame. -/
inductive Blind : Action α → Prop
  | done (result : α) : Blind (.done result)
  | fail (failure : Failure) : Blind (.fail failure)
  | body {context : Value} {metadata : Metadata} {next : Except Failure String → Action α}
      (h : ∀ outcome, Blind (next outcome)) : Blind (.body context metadata next)

/-- The action raises again whatever a body raises. -/
inductive CatchesNothing : Action α → Prop
  | done (result : α) : CatchesNothing (.done result)
  | fail (failure : Failure) : CatchesNothing (.fail failure)
  | body {context : Value} {metadata : Metadata} {next : Except Failure String → Action α}
      (hText : ∀ text, CatchesNothing (next (.ok text)))
      (hFailure : ∀ failure, next (.error failure) = .fail failure) :
      CatchesNothing (.body context metadata next)
  | frame {next : Option Frame → Action α} (h : ∀ current, CatchesNothing (next current)) :
      CatchesNothing (.frame next)

/-- The action raises a failure of the sort, whatever its bodies do. -/
inductive MustRaise (E : Failure → Prop) : Action α → Prop
  | fail {failure : Failure} (h : E failure) : MustRaise E (.fail failure)
  | body {context : Value} {metadata : Metadata} {next : Except Failure String → Action α}
      (h : ∀ outcome, MustRaise E (next outcome)) : MustRaise E (.body context metadata next)
  | frame {next : Option Frame → Action α} (h : ∀ current, MustRaise E (next current)) :
      MustRaise E (.frame next)

/-- If a body raises a failure of the sort, then so does the action. -/
inductive PassesOn (E : Failure → Prop) : Action α → Prop
  | done (result : α) : PassesOn E (.done result)
  | fail (failure : Failure) : PassesOn E (.fail failure)
  | body {context : Value} {metadata : Metadata} {next : Except Failure String → Action α}
      (h : ∀ outcome, PassesOn E (next outcome))
      (hFailure : ∀ failure, E failure → MustRaise E (next (.error failure))) :
      PassesOn E (.body context metadata next)
  | frame {next : Option Frame → Action α} (h : ∀ current, PassesOn E (next current)) :
      PassesOn E (.frame next)

/-- The action may raise the failure of its own accord, which no body has told it. -/
inductive MayRaise (failure : Failure) : Action α → Prop
  | fail : MayRaise failure (.fail failure)
  | body {context : Value} {metadata : Metadata} {next : Except Failure String → Action α}
      (outcome : Except Failure String) (hNew : outcome ≠ .error failure)
      (h : MayRaise failure (next outcome)) : MayRaise failure (.body context metadata next)
  | frame {next : Option Frame → Action α} (current : Option Frame)
      (h : MayRaise failure (next current)) : MayRaise failure (.frame next)

theorem Blind.next {context : Value} {metadata : Metadata}
    {next : Except Failure String → Action α} (h : Blind (.body context metadata next))
    (outcome : Except Failure String) : Blind (next outcome) := by
  cases h with
  | body h => exact h outcome

theorem Blind.bind {action : Action α} {k : α → Action β} (h : action.Blind)
    (hk : ∀ a, (k a).Blind) : (action.bind k).Blind := by
  induction h with
  | done a => exact hk a
  | fail failure => exact .fail failure
  | body h ih => exact .body ih

theorem PassesOn.of_none {E : Failure → Prop} (hE : ∀ failure, ¬ E failure) (action : Action α) :
    action.PassesOn E := by
  induction action with
  | done a => exact .done a
  | fail failure => exact .fail failure
  | body context metadata next ih => exact .body ih fun failure h => absurd h (hE failure)
  | frame next ih => exact .frame ih

theorem CatchesNothing.passesOn {action : Action α} (h : action.CatchesNothing)
    (E : Failure → Prop) : action.PassesOn E := by
  induction h with
  | done a => exact .done a
  | fail failure => exact .fail failure
  | body hText hFailure ih =>
    refine .body (fun outcome => ?_) fun failure h => hFailure failure ▸ .fail h
    cases outcome with
    | ok text => exact ih text
    | error failure => exact hFailure failure ▸ .fail failure
  | frame h ih => exact .frame ih

theorem CatchesNothing.bind {action : Action α} {k : α → Action β} (h : action.CatchesNothing)
    (hk : ∀ a, (k a).CatchesNothing) : (action.bind k).CatchesNothing := by
  induction h with
  | done a => exact hk a
  | fail failure => exact .fail failure
  | body h hFailure ih =>
    refine .body ih fun failure => ?_
    rw [hFailure]
    rfl
  | frame h ih => exact .frame ih

theorem mayRaise_bind {failure : Failure} {action : Action α} {k : α → Action β}
    (h : (action.bind k).MayRaise failure) :
    action.MayRaise failure ∨ ∃ a, (k a).MayRaise failure := by
  induction action with
  | done a => exact .inr ⟨a, h⟩
  | fail other =>
    cases h
    exact .inl .fail
  | body context metadata next ih =>
    cases h with
    | body outcome hNew h => exact (ih outcome h).imp (.body outcome hNew) id
  | frame next ih =>
    cases h with
    | frame current h => exact (ih current h).imp (.frame current) id

/-- The action asks for nothing, catches nothing and raises nothing but faults. -/
structure Tame (action : Action α) : Prop where
  blind : action.Blind
  catchesNothing : action.CatchesNothing
  faults : ∀ error, ¬ action.MayRaise (.error error)

namespace Tame

theorem done (a : α) : Tame (.done a) := ⟨.done a, .done a, fun _ h => nomatch h⟩

theorem raise (fault : Fault) : Tame (.raise fault : Action α) :=
  ⟨.fail _, .fail _, fun _ h => nomatch h⟩

theorem ofExcept (result : Except Fault α) : Tame (.ofExcept result) := by
  cases result with
  | ok a => exact .done a
  | error fault => exact .raise fault

theorem bind {action : Action α} {k : α → Action β} (h : action.Tame) (hk : ∀ a, (k a).Tame) :
    (action.bind k).Tame where
  blind := h.blind.bind fun a => (hk a).blind
  catchesNothing := h.catchesNothing.bind fun a => (hk a).catchesNothing
  faults error hr := by
    rcases mayRaise_bind hr with hr | ⟨a, hr⟩
    · exact h.faults error hr
    · exact (hk a).faults error hr

theorem notOptions (member : String) (value : Value) :
    Tame (.notOptions member value : Action α) := by
  unfold Action.notOptions
  split
  · exact .raise _
  · exact .raise _

theorem content (options : Value) (context : Option Value) (metadata : Metadata) :
    Tame (.content options context metadata) := by
  unfold Action.content
  split
  · refine ⟨.body fun outcome => ?_, .body (fun text => .done text) fun failure => rfl,
      fun error h => ?_⟩
    · cases outcome with
      | ok text => exact .done text
      | error failure => exact .fail failure
    · cases h with
      | body outcome hNew h =>
        cases outcome with
        | ok text => nomatch h
        | error failure =>
          cases h
          exact hNew rfl
  · exact .notOptions "fn" _

theorem alternative (options : Value) : Tame (.alternative options) := by
  unfold Action.alternative
  split
  · exact .done ""
  · exact .notOptions "inverse" _

end Tame

end Action

/-! ### Helpers -/

namespace Helper

/-- The helper never looks at the frame. -/
def Blind (helper : Helper) : Prop := ∀ arguments, (helper.act arguments).Blind

/-- The helper raises again whatever the body of its block raises. -/
def CatchesNothing (helper : Helper) : Prop := ∀ arguments, (helper.act arguments).CatchesNothing

/-- If the body of its block raises a failure of the sort, then so does the helper. -/
def PassesOn (E : Failure → Prop) (helper : Helper) : Prop :=
  ∀ arguments, (helper.act arguments).PassesOn E

/-- The helper fails if the body of its block does. -/
def FailsWithBody (helper : Helper) : Prop := helper.PassesOn fun _ => True

/-- The helper may raise the failure of its own accord. -/
def MayRaise (helper : Helper) (failure : Failure) : Prop :=
  ∃ arguments, (helper.act arguments).MayRaise failure

theorem PassesOn.of_none {E : Failure → Prop} (hE : ∀ failure, ¬ E failure) (helper : Helper) :
    helper.PassesOn E :=
  fun arguments => .of_none hE (helper.act arguments)

theorem CatchesNothing.passesOn {helper : Helper} (h : helper.CatchesNothing)
    (E : Failure → Prop) : helper.PassesOn E :=
  fun arguments => (h arguments).passesOn E

/-- The helper is one of those that every engine starts with, on any machine and under any name. -/
def IsBuiltin (helper : Helper) : Prop := ∃ machine name, (name, helper) ∈ builtins machine

/-- The forms of the built-in helpers. -/
inductive Form : Helper → Prop
  | function (name : String) (most : Nat) (f : List Value → Except Fault Value) :
      Form (function name most f)
  | choice (chosen : Bool → Bool) :
      Form (blockFunction fun arguments => choice (chosen (condition arguments)))
  | eachItem : Form eachItem

theorem IsBuiltin.form {helper : Helper} (h : helper.IsBuiltin) : Form helper := by
  obtain ⟨machine, name, hmem⟩ := h
  have hAll : ∀ entry ∈ builtins machine, Form entry.2 := by
    simp only [builtins, List.forall_mem_cons]
    exact ⟨.choice id, .choice not, .eachItem, .function .., .function .., .function ..,
      .function .., .function .., .function .., .function .., .function .., .function ..,
      .function .., .function .., .function .., .function .., .function .., .function ..,
      .function .., .function .., .function .., .function .., .function .., .function ..,
      .function .., .function .., .function .., nofun⟩
  exact hAll _ hmem

theorem tame_bodies (options : Value) (loop : Loop) (before : String) (items : List Value) :
    (bodies options loop before items).Tame := by
  induction items generalizing loop before with
  | nil => exact .done before
  | cons item items ih => exact (Action.Tame.content _ _ _).bind fun text => ih _ _

theorem Form.tame {helper : Helper} (h : Form helper) (arguments : List Value) :
    (helper.act arguments).Tame := by
  cases h with
  | function name most f =>
    dsimp only [Helper.function]
    split
    · exact .raise _
    · exact .ofExcept _
  | choice chosen =>
    dsimp only [blockFunction]
    split
    · exact .raise _
    · unfold Helper.choice
      dsimp only
      split
      · exact (Action.Tame.content _ _ _).bind fun text => .done _
      · exact (Action.Tame.alternative _).bind fun text => .done _
  | eachItem =>
    dsimp only [Helper.eachItem, blockFunction]
    split
    · exact .raise _
    · split
      · exact .done _
      · exact (tame_bodies _ _ _ _).bind fun text => .done _

theorem IsBuiltin.blind {helper : Helper} (h : helper.IsBuiltin) : helper.Blind :=
  fun arguments => (h.form.tame arguments).blind

theorem IsBuiltin.catchesNothing {helper : Helper} (h : helper.IsBuiltin) :
    helper.CatchesNothing :=
  fun arguments => (h.form.tame arguments).catchesNothing

theorem IsBuiltin.not_mayRaise {helper : Helper} (h : helper.IsBuiltin) (error : TemplateError) :
    ¬ helper.MayRaise (.error error) :=
  fun ⟨arguments, hr⟩ => (h.form.tame arguments).faults error hr

end Helper

/-- What holds of every helper of an engine. -/
def Setup.Every (setup : Setup) (P : Helper → Prop) : Prop :=
  ∀ name helper, setup.helpers.find? name = some helper → P helper

/-- Some helper of an engine may raise the failure of its own accord. -/
def Setup.MayRaise (setup : Setup) (failure : Failure) : Prop :=
  ∃ name helper, setup.helpers.find? name = some helper ∧ helper.MayRaise failure

theorem Setup.Every.mono {setup : Setup} {P Q : Helper → Prop} (h : setup.Every P)
    (hPQ : ∀ helper, P helper → Q helper) : setup.Every Q :=
  fun name helper hf => hPQ helper (h name helper hf)

/-- What is found after items are put into a table was put there or was there before. -/
theorem Table.find?_insertAll {α : Type} {table : Table α} {items : List (String × α)}
    {name : String} {item : α} (h : (table.insertAll items).find? name = some item) :
    (name, item) ∈ items ∨ table.find? name = some item := by
  induction items generalizing table with
  | nil => exact .inr h
  | cons entry items ih =>
    rcases ih h with h | h
    · exact .inl (List.mem_cons_of_mem _ h)
    · rw [find?_insert] at h
      split at h
      · rename_i hn
        cases h
        exact .inl (hn ▸ List.mem_cons_self)
      · exact .inr h

theorem Engine.every_new (machine : Machine) (options : Options) :
    (new machine options).setup.Every Helper.IsBuiltin := by
  intro name helper h
  rcases Table.find?_insertAll h with h | h
  · exact ⟨machine, name, h⟩
  · cases h

end Stencil
