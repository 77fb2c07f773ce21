import Stencil.Proofs.Conduct
import Stencil.Proofs.Running

/-!
Two parts of renders side by side. `AgreeUnless` relates parts that are started in related states:
they end in related states, and with related results or with the same failure, unless the first one
raises a failure that excuses it. With `Agree` there is no excuse. Both are kept by everything that
parts of renders are put together with.
-/

namespace Stencil

/-- The error says that a helper or a partial is not known. -/
def RenderError.IsUnknown (error : RenderError) : Prop :=
  ∃ name, error.cause = .unknownHelper name ∨ error.cause = .unknownPartial name

/-- The setup on another machine. -/
def Setup.on (setup : Setup) (machine : Machine) : Setup := { setup with machine }

/-- What an action must raise comes of it, whatever its bodies are rendered to. -/
theorem Action.MustRaise.run_carryOut {α : Type} {E : Failure → Prop} {action : Action α}
    (h : action.MustRaise E) (body : Value → Metadata → Render.Step String)
    (state : Render.State) :
    ∃ failure, ((Render.carryOut body action).run state).1 = .error failure ∧ E failure := by
  induction h generalizing state with
  | fail h => exact ⟨_, rfl, h⟩
  | body h ih =>
    rw [Render.run_carryOut_body]
    exact ih _ _
  | frame h ih => exact ih state.published state

namespace Render

variable {α β γ δ : Type}

/-- Related values, or one and the same failure. -/
inductive SameResult (R : α → β → Prop) : Except Failure α → Except Failure β → Prop where
  | ok {a : α} {b : β} (h : R a b) : SameResult R (.ok a) (.ok b)
  | error (failure : Failure) : SameResult R (.error failure) (.error failure)

theorem SameResult.eq {r r' : Except Failure α} (h : SameResult Eq r r') : r = r' := by
  cases h with
  | ok h => rw [h]
  | error => rfl

theorem SameResult.of_eq {r r' : Except Failure α} (h : r = r') : SameResult Eq r r' := by
  subst h
  cases r with
  | ok a => exact .ok rfl
  | error failure => exact .error failure

theorem SameResult.mono {R R' : α → β → Prop} {r : Except Failure α} {r' : Except Failure β}
    (h : SameResult R r r') (hR : ∀ a b, R a b → R' a b) : SameResult R' r r' := by
  cases h with
  | ok h => exact .ok (hR _ _ h)
  | error failure => exact .error failure

theorem SameResult.map_eq {R : α → β → Prop} {r : Except Failure α} {r' : Except Failure β}
    (h : SameResult R r r') {f : α → γ} {g : β → γ} (hf : ∀ a b, R a b → f a = g b) :
    r.map f = r'.map g := by
  cases h with
  | ok h => exact congrArg Except.ok (hf _ _ h)
  | error => rfl

/-- Started in states that `S` relates, the two parts end in such states, and with results that
`R` relates or with the same failure; or the first one raises a failure that `E` excuses. -/
def AgreeUnless (E : Failure → Prop) (S : State → State → Prop) (R : α → β → Prop) (x : Step α)
    (y : Step β) : Prop :=
  ∀ state state', S state state' →
    (∃ failure, (x.run state).1 = .error failure ∧ E failure) ∨
      SameResult R (x.run state).1 (y.run state').1 ∧ S (x.run state).2 (y.run state').2

/-- Parts that agree without any excuse. -/
abbrev Agree (S : State → State → Prop) (R : α → β → Prop) (x : Step α) (y : Step β) : Prop :=
  AgreeUnless (fun _ => False) S R x y

theorem AgreeUnless.of_start {S : State → State → Prop} {R : α → β → Prop} {x : Step α} {y : Step β}
    (h : Agree S R x y) {state state' : State} (hs : S state state') :
    SameResult R (x.run state).1 (y.run state').1 ∧ S (x.run state).2 (y.run state').2 := by
  rcases h state state' hs with ⟨_, _, hE⟩ | h
  · exact hE.elim
  · exact h

/-- States that are related are so inside of a block or a partial too, and when it is closed. -/
structure Steady (S : State → State → Prop) : Prop where
  opened : ∀ {state state'} surrounding, S state state' →
    S (state.inside surrounding) (state'.inside surrounding)
  closed : ∀ {state state' after after'}, S state state' → S after after' →
    S { after with around := state.around } { after' with around := state'.around }

theorem steady_eq : Steady Eq := ⟨fun _ h => by rw [h], fun h h' => by rw [h, h']⟩

/-- In related states two machines open the same and compare the same keys, unless the first one
has used up its stack and that is an excuse. Then the second one may have more of it. -/
structure Matched (E : Failure → Prop) (S : State → State → Prop) (machine machine' : Machine) :
    Prop where
  opens : ∀ {state state'} surrounding, S state state' →
    machine.opens (surrounding :: state.around) = machine'.opens (surrounding :: state'.around) ∨
      machine.opens (surrounding :: state.around) = false ∧ E (.fault .stackUsedUp)
  compares : ∀ {state state'}, S state state' →
    machine.compares state.around = machine'.compares state'.around ∨
      (∀ depth, machine.compares state.around depth = true →
        machine'.compares state'.around depth = true) ∧ E (.fault .keysTooDeep)

/-- A machine does the same in the same place. -/
theorem Matched.of_around {E : Failure → Prop} {S : State → State → Prop}
    (h : ∀ {state state'}, S state state' → state.around = state'.around) (machine : Machine) :
    Matched E S machine machine :=
  ⟨fun _ hs => .inl (by rw [h hs]), fun hs => .inl (by rw [h hs])⟩

/-- What a part may give: its result in some state. -/
def Gives (x : Step α) (a : α) : Prop := ∃ state after, x.run state = (.ok a, after)

namespace AgreeUnless

variable {E : Failure → Prop} {S : State → State → Prop} {R : α → β → Prop} {Q : γ → δ → Prop}

theorem pure {a : α} {b : β} (h : R a b) : AgreeUnless E S R (pure a) (pure b) :=
  fun _ _ hs => .inr ⟨.ok h, hs⟩

theorem throw (failure : Failure) : AgreeUnless E S R (throw failure) (throw failure) :=
  fun _ _ hs => .inr ⟨.error failure, hs⟩

theorem stop (error : RenderError) : AgreeUnless E S R (Render.stop error) (Render.stop error) :=
  .throw _

/-- A part that raises an excuse agrees with everything. -/
theorem excused {failure : Failure} (h : E failure) (y : Step β) :
    AgreeUnless E S R (MonadExcept.throw failure) y :=
  fun _ _ _ => .inl ⟨failure, rfl, h⟩

/-- What goes on may count on the result that there was. -/
theorem bind_gives {x : Step α} {y : Step β} {f : α → Step γ} {g : β → Step δ}
    (h : AgreeUnless E S R x y)
    (hf : ∀ a b, R a b → Gives x a → AgreeUnless E S Q (f a) (g b)) :
    AgreeUnless E S Q (x >>= f) (y >>= g) := by
  intro state state' hs
  have hxy := h state state' hs
  rcases hx : x.run state with ⟨r, after⟩
  rcases hy : y.run state' with ⟨r', after'⟩
  rw [hx, hy] at hxy
  rcases hxy with ⟨failure, hr, hE⟩ | ⟨hr, ht⟩
  · cases hr
    rw [run_bind_of_error hx]
    exact .inl ⟨failure, rfl, hE⟩
  · cases hr with
    | ok hab =>
      rw [run_bind_of_ok hx, run_bind_of_ok hy]
      exact hf _ _ hab ⟨state, after, hx⟩ _ _ ht
    | error failure =>
      rw [run_bind_of_error hx, run_bind_of_error hy]
      exact .inr ⟨.error failure, ht⟩

theorem bind {x : Step α} {y : Step β} {f : α → Step γ} {g : β → Step δ}
    (h : AgreeUnless E S R x y) (hf : ∀ a b, R a b → AgreeUnless E S Q (f a) (g b)) :
    AgreeUnless E S Q (x >>= f) (y >>= g) :=
  h.bind_gives fun a b hab _ => hf a b hab

theorem mono {x : Step α} {y : Step β} {R' : α → β → Prop} (h : AgreeUnless E S R x y)
    (hR : ∀ a b, R a b → R' a b) : AgreeUnless E S R' x y :=
  fun state state' hs => (h state state' hs).imp id fun ⟨hr, ht⟩ => ⟨hr.mono hR, ht⟩

theorem and_gives {x : Step α} {y : Step β} (h : AgreeUnless E S R x y) :
    AgreeUnless E S (fun a b => R a b ∧ Gives x a) x y := by
  have hxy := h.bind_gives (Q := fun a b => R a b ∧ Gives x a) (f := Pure.pure) (g := Pure.pure)
    fun a b hab hGives => .pure ⟨hab, hGives⟩
  rwa [bind_pure, bind_pure] at hxy

/-- A part with a result that is only passed on through a function. -/
theorem map {x : Step α} {y : Step β} {f : α → γ} {g : β → δ} (h : AgreeUnless E S R x y)
    (hf : ∀ a b, R a b → Q (f a) (g b)) : AgreeUnless E S Q (f <$> x) (g <$> y) := by
  rw [map_eq_pure_bind, map_eq_pure_bind]
  exact h.bind fun a b hab => .pure (hf a b hab)

/-- Parts with equal results may go on with one value. -/
theorem bind_eq {x y : Step α} {f : α → Step γ} {g : α → Step δ} (h : AgreeUnless E S Eq x y)
    (hf : ∀ a, AgreeUnless E S Q (f a) (g a)) : AgreeUnless E S Q (x >>= f) (y >>= g) :=
  h.bind fun a _ hab => hab ▸ hf a

theorem raising (result : Except Fault α) :
    AgreeUnless E S Eq (Render.raising result) (Render.raising result) := by
  cases result with
  | ok a => exact .pure rfl
  | error fault => exact .throw _

/-- What is done inside of the same block or partial agrees there. -/
theorem inside {machine machine' : Machine} {x : Step α} {y : Step β} (hS : Steady S)
    (hMachines : Matched E S machine machine') (h : AgreeUnless E S R x y)
    (surrounding : Surrounding) :
    AgreeUnless E S R (Render.inside machine surrounding x)
      (Render.inside machine' surrounding y) := by
  intro state state' hs
  cases hOpens : machine.opens (surrounding :: state.around) with
  | true =>
    rcases hMachines.opens surrounding hs with hSame | ⟨hNot, -⟩
    · rw [run_inside_of_opens hOpens, run_inside_of_opens (hSame ▸ hOpens)]
      exact (h _ _ (hS.opened surrounding hs)).imp id fun ⟨hr, ht⟩ => ⟨hr, hS.closed hs ht⟩
    · rw [hOpens] at hNot
      cases hNot
  | false =>
    rw [run_inside_of_not_opens hOpens]
    rcases hMachines.opens surrounding hs with hSame | ⟨-, hE⟩
    · rw [run_inside_of_not_opens (hSame ▸ hOpens)]
      exact .inr ⟨.error _, hs⟩
    · exact .inl ⟨_, rfl, hE⟩

/-- The contexts of partials agree where the same keys can be compared. -/
theorem contextHere {machine machine' : Machine} (hMachines : Matched E S machine machine')
    (context value : Value) :
    AgreeUnless E S Eq (Render.contextHere machine context value)
      (Render.contextHere machine' context value) := by
  intro state state' hs
  rw [run_contextHere, run_contextHere]
  rcases hMachines.compares hs with hSame | ⟨hMore, hE⟩
  · rw [hSame]
    exact .inr ⟨.of_eq rfl, hs⟩
  · rcases innerContext?_cases (machine.compares state.around) context value with hDeep | hOk
    · rw [hDeep]
      exact .inl ⟨_, rfl, hE⟩
    · rw [hOk, innerContext?_mono hMore hOk]
      exact .inr ⟨.ok rfl, hs⟩

/-- A guard leaves excuses alone, or makes other excuses of them. -/
theorem guarding {x : Step α} {y : Step β} {place place' : Place}
    {cause : Fault → RenderError.Cause}
    (hE : ∀ failure, E failure → E (reported place cause failure))
    (hPlace : place = place' ∨ ∀ error, E (.error error)) (h : AgreeUnless E S R x y) :
    AgreeUnless E S R (Render.guarding place cause x) (Render.guarding place' cause y) := by
  intro state state' hs
  rw [run_guarding, run_guarding]
  have hxy := h state state' hs
  generalize x.run state = p at hxy
  generalize y.run state' = q at hxy
  obtain ⟨r, after⟩ := p
  obtain ⟨r', after'⟩ := q
  rcases hxy with ⟨failure, hr, hF⟩ | ⟨hr, ht⟩
  · cases hr
    exact .inl ⟨_, rfl, hE failure hF⟩
  · cases hr with
    | ok hab => exact .inr ⟨.ok hab, ht⟩
    | error failure =>
      -- The same fault is reported on both sides, but perhaps not at the same place.
      rcases hPlace with rfl | hAll
      · exact .inr ⟨.error _, ht⟩
      · rcases reported_cases place place' cause failure with hSame | ⟨error, hError⟩
        · dsimp only
          rw [hSame]
          exact .inr ⟨.error _, ht⟩
        · exact .inl ⟨_, rfl, hError ▸ hAll error⟩

theorem mapM {ι : Type} (items : List ι) {f g : ι → Step α}
    (h : ∀ i, AgreeUnless E S Eq (f i) (g i)) :
    AgreeUnless E S Eq (items.mapM f) (items.mapM g) := by
  induction items with
  | nil => exact .pure rfl
  | cons i items ih =>
    rw [List.mapM_cons, List.mapM_cons]
    exact (h i).bind_eq fun a => ih.bind_eq fun as => .pure rfl

/-- What a helper does agrees if its bodies do, and the frames that it sees if it looks at them. If
a body raises an excuse, then so must the helper. -/
theorem act {body body' : Value → Metadata → Step String} (action : Action α)
    (hBody : ∀ context metadata, AgreeUnless E S Eq (body context metadata)
      (body' context metadata))
    (hLook : AgreeUnless E S Eq published published ∨ action.Blind) (hPasses : action.PassesOn E) :
    AgreeUnless E S Eq (carryOut body action) (carryOut body' action) := by
  induction action with
  | done a => exact .pure rfl
  | fail failure => exact .throw failure
  | body context metadata next ih =>
    cases hPasses with
    | body hNext hFailure =>
      intro state state' hs
      rw [run_carryOut_body, run_carryOut_body]
      rcases hBody context metadata state state' hs with ⟨failure, hr, hE⟩ | ⟨hr, ht⟩
      · -- The other body may have done anything, but the first helper has to fail.
        rw [hr]
        exact .inl ((hFailure failure hE).run_carryOut body _)
      · rw [← hr.eq]
        exact ih _ (hLook.imp id fun h => h.next _) (hNext _) _ _ ht
  | frame next ih =>
    cases hPasses with
    | frame hNext =>
      rcases hLook with hSeen | hBlind
      · exact hSeen.bind_eq fun current => ih current (.inl hSeen) (hNext current)
      · nomatch hBlind

end AgreeUnless

/-! ### Between two frames

The parts of a walk that no other nodes have a part in agree in frames that tell the same place, if
the helpers of the engine cannot tell the two walks apart. -/

/-- Two frames that tell the same place, unless all errors are excuses. If only one of them is
strict it is the first, and what is unknown there is an excuse. -/
structure Beside (E : Failure → Prop) (frame frame' : Frame) : Prop where
  place : (∀ offset, frame.place offset = frame'.place offset) ∨ ∀ error, E (.error error)
  strict : frame.strict = frame'.strict ∨
    frame.strict = true ∧ ∀ error : RenderError, error.IsUnknown → E (.error (.render error))

theorem Beside.refl (E : Failure → Prop) (frame : Frame) : Beside E frame frame :=
  ⟨.inl fun _ => rfl, .inl rfl⟩

/-- No helper can tell two walks apart that are related by `S`, or make a value of an excuse. -/
structure Suits (setup : Setup) (E : Failure → Prop) (S : State → State → Prop) : Prop where
  steady : Steady S
  reports : ∀ place cause failure, (∀ fault, RenderError.Cause.underlying? (cause fault) = some fault) →
    E failure → E (reported place cause failure)
  look : AgreeUnless E S Eq published published ∨ setup.Every Helper.Blind
  passes : setup.Every fun helper => helper.PassesOn E

/-- Where nothing is excused, helpers may do as they like, as long as they see the same. -/
theorem Suits.of_look {setup : Setup} {S : State → State → Prop} (hSteady : Steady S)
    (hLook : Agree S Eq published published ∨ setup.Every Helper.Blind) :
    Suits setup (fun _ => False) S :=
  ⟨hSteady, fun _ _ _ _ h => h.elim, hLook, fun _ helper _ => .of_none (fun _ h => h) helper⟩

namespace AgreeUnless

variable {setup : Setup} {E : Failure → Prop} {S : State → State → Prop} {frame frame' : Frame}
  {T : String → String → Prop}

/-- Both frames refuse something at an offset. -/
theorem stopAt (hFrames : Beside E frame frame') (offset : Nat) (cause : RenderError.Cause) :
    AgreeUnless E S R (Render.stop (.ofCause cause (frame.place offset)))
      (Render.stop (.ofCause cause (frame'.place offset))) := by
  rcases hFrames.place with hSame | hAll
  · rw [hSame]
    exact .stop _
  · exact .excused (hAll _) _

/-- Both frames report faults at an offset. -/
theorem guardingAt {x : Step α} {y : Step β} (hFrames : Beside E frame frame')
    (hSetup : Suits setup E S) (h : AgreeUnless E S R x y) (offset : Nat)
    {cause : Fault → RenderError.Cause} (hCause : ∀ fault, (cause fault).underlying? = some fault) :
    AgreeUnless E S R (Render.guarding (frame.place offset) cause x)
      (Render.guarding (frame'.place offset) cause y) :=
  .guarding (hSetup.reports _ cause · hCause) (hFrames.place.imp (fun hSame => hSame offset) id) h

/-- Both frames are strict or neither is, unless what is unknown is an excuse. -/
theorem unknown {cause : RenderError.Cause} (hFrames : Beside E frame frame')
    (hUnknown : ∀ place, (RenderError.ofCause cause place).IsUnknown) (offset : Nat) :
    AgreeUnless E S (fun found found' : Option α => found = none ∧ found' = found)
      (if frame.strict then Render.stop (.ofCause cause (frame.place offset)) else Pure.pure none)
      (if frame'.strict then Render.stop (.ofCause cause (frame'.place offset))
        else Pure.pure none) := by
  rcases hFrames.strict with hSame | ⟨hStrict, hE⟩
  · rw [← hSame]
    split
    · exact .stopAt hFrames _ _
    · exact .pure ⟨rfl, rfl⟩
  · rw [if_pos hStrict]
    exact .excused (hE _ (hUnknown _)) _

/-- What is registered, if it is needed. -/
theorem helper? (hFrames : Beside E frame frame') (offset : Nat) (name : String) :
    AgreeUnless E S (fun found found' => found = setup.helpers.find? name ∧ found' = found)
      (Render.helper? setup frame offset name) (Render.helper? setup frame' offset name) := by
  unfold Render.helper?
  cases setup.helpers.find? name with
  | some helper => exact .pure ⟨rfl, rfl⟩
  | none => exact .unknown hFrames (fun _ => ⟨name, .inl rfl⟩) offset

theorem partial? (hFrames : Beside E frame frame') (offset : Nat) (name : String) :
    AgreeUnless E S (fun found found' => found = setup.partials.find? name ∧ found' = found)
      (Render.partial? setup frame offset name) (Render.partial? setup frame' offset name) := by
  unfold Render.partial?
  cases setup.partials.find? name with
  | some source => exact .pure ⟨rfl, rfl⟩
  | none => exact .unknown hFrames (fun _ => ⟨name, .inr rfl⟩) offset

variable (hFrames : Beside E frame frame') (hSetup : Suits setup E S)
include hFrames hSetup

theorem lookUp (offset : Nat) (context : Value) (metadata : Metadata) (path : String) :
    AgreeUnless E S Eq (Render.lookUp frame offset context metadata path)
      (Render.lookUp frame' offset context metadata path) := by
  unfold Render.lookUp
  exact .guardingAt hFrames hSetup (.raising _) _ fun _ => rfl

theorem lookUpAll (offset : Nat) (context : Value) (metadata : Metadata) (paths : List String) :
    AgreeUnless E S Eq (paths.mapM (Render.lookUp frame offset context metadata))
      (paths.mapM (Render.lookUp frame' offset context metadata)) :=
  .mapM _ fun path => .lookUp hFrames hSetup offset context metadata path

theorem textOf (offset : Nat) (value : Value) :
    AgreeUnless E S Eq (Render.textOf frame offset value) (Render.textOf frame' offset value) := by
  unfold Render.textOf
  exact .guardingAt hFrames hSetup (.raising _) _ fun _ => rfl

theorem call {body body' : Value → Metadata → Step String} {key : String} {helper : Helper}
    (hBody : ∀ context metadata, AgreeUnless E S Eq (body context metadata)
      (body' context metadata))
    (hf : setup.helpers.find? key = some helper) (offset : Nat) (name : String)
    (arguments : List Value) :
    AgreeUnless E S Eq (Render.call body frame offset helper name arguments)
      (Render.call body' frame' offset helper name arguments) := by
  unfold Render.call
  exact .guardingAt hFrames hSetup
    (.act _ hBody (hSetup.look.imp id fun h => h key helper hf arguments)
      (hSetup.passes key helper hf arguments)) _ fun _ => rfl

theorem callAlone {key : String} {helper : Helper} (hf : setup.helpers.find? key = some helper)
    (offset : Nat) (name : String) (arguments : List Value) :
    AgreeUnless E S Eq (Render.call noBody frame offset helper name arguments)
      (Render.call noBody frame' offset helper name arguments) :=
  .call hFrames hSetup (fun _ _ => .pure rfl) hf offset name arguments

theorem callInline {key : String} {helper : Helper} (hf : setup.helpers.find? key = some helper)
    (offset : Nat) (name : String) (arguments : List Value) :
    AgreeUnless E S Eq (Render.callInline frame offset helper name arguments)
      (Render.callInline frame' offset helper name arguments) := by
  unfold Render.callInline
  split
  · exact .stopAt hFrames _ _
  · exact .callAlone hFrames hSetup hf offset name arguments

theorem applyFilters (offset : Nat) (filters : List Filter) (value : Value) :
    AgreeUnless E S Eq (Render.applyFilters setup frame offset filters value)
      (Render.applyFilters setup frame' offset filters value) := by
  induction filters generalizing value with
  | nil => exact .pure rfl
  | cons filter filters ih =>
    unfold Render.applyFilters
    refine (AgreeUnless.helper? hFrames _ _).bind fun found found' ⟨hFound, hSame⟩ => ?_
    subst hSame
    cases found' with
    | none => exact ih value
    | some helper => exact (AgreeUnless.callInline hFrames hSetup hFound.symm _ _ _).bind_eq ih

theorem head? (offset : Nat) (path : String) (arguments : List String) (context : Value)
    (metadata : Metadata) :
    AgreeUnless E S Eq (Render.head? setup frame offset path arguments context metadata)
      (Render.head? setup frame' offset path arguments context metadata) := by
  unfold Render.head?
  split
  · exact (AgreeUnless.lookUp hFrames hSetup _ _ _ _).bind_eq fun value => .pure rfl
  · refine (AgreeUnless.helper? hFrames _ _).bind fun found found' ⟨hFound, hSame⟩ => ?_
    subst hSame
    cases found' with
    | none => exact .pure rfl
    | some helper =>
      refine (AgreeUnless.lookUpAll hFrames hSetup _ _ _ _).bind_eq fun values => ?_
      refine (AgreeUnless.callInline hFrames hSetup hFound.symm _ _ _).bind_eq fun value => ?_
      exact .pure rfl

end AgreeUnless

/-- The machine has no part in filters. -/
theorem applyFilters_on {setup : Setup} (machine : Machine) (frame : Frame) (offset : Nat)
    (filters : List Filter) (value : Value) :
    applyFilters (setup.on machine) frame offset filters value =
      applyFilters setup frame offset filters value := by
  induction filters generalizing value with
  | nil => rfl
  | cons filter filters ih =>
    unfold applyFilters
    refine congrArg _ (funext fun found => ?_)
    cases found with
    | none => exact ih value
    | some helper => exact congrArg (callInline frame offset helper _ _ >>= ·) (funext ih)

theorem renderOutput_on {setup : Setup} (machine : Machine) (frame : Frame) (offset : Nat)
    (path : String) (arguments : List String) (filters : List Filter) (context : Value)
    (metadata : Metadata) :
    renderOutput (setup.on machine) frame offset path arguments filters context metadata =
      renderOutput setup frame offset path arguments filters context metadata := by
  unfold renderOutput
  refine congrArg _ (funext fun found => ?_)
  cases found with
  | none => rfl
  | some value => exact congrArg (· >>= _) (applyFilters_on ..)

/-- The text of an expression, before it is escaped. -/
def Shows (setup : Setup) (frame : Frame) (offset : Nat) (path : String) (arguments : List String)
    (filters : List Filter) (context : Value) (metadata : Metadata) (text : String) : Prop :=
  ∃ first value, Gives (head? setup frame offset path arguments context metadata) (some first) ∧
    Gives (applyFilters setup frame offset filters first) value ∧
    Gives (textOf frame offset value) text

namespace AgreeUnless

variable {setup : Setup} {E : Failure → Prop} {S : State → State → Prop} {frame frame' : Frame}
  {T : String → String → Prop} {machine : Machine} (hFrames : Beside E frame frame')
  (hSetup : Suits setup E S)
include hFrames hSetup

/-- Expressions have the same text in both frames, and are shown as they are shown there. -/
theorem renderOutput (offset : Nat) (path : String) (arguments : List String)
    (filters : List Filter) (context : Value) (metadata : Metadata) (hNil : T "" "")
    (hText : ∀ text, Shows setup frame offset path arguments filters context metadata text →
      T (if frame.noEscape then text else Text.Html.escape text)
        (if frame'.noEscape then text else Text.Html.escape text)) :
    AgreeUnless E S T
      (Render.renderOutput setup frame offset path arguments filters context metadata)
      (Render.renderOutput setup frame' offset path arguments filters context metadata) := by
  unfold Render.renderOutput
  refine (AgreeUnless.head? hFrames hSetup _ _ _ _ _).bind_gives fun found found' hSame hHead => ?_
  subst hSame
  cases found with
  | none => exact .pure hNil
  | some first =>
    refine (AgreeUnless.applyFilters hFrames hSetup _ _ _).bind_gives
      fun value value' hSame hFilters => ?_
    subst hSame
    refine (AgreeUnless.textOf hFrames hSetup _ _).bind_gives fun text text' hSame hShown => ?_
    subst hSame
    exact .pure (hText text ⟨first, value, hHead, hFilters, hShown⟩)

theorem renderBlock {enter enter' : Entry} (offset : Nat) (name : String)
    (arguments : List String) (children children' : List Node) (context : Value)
    (metadata : Metadata) (hNil : T "" "")
    (hAlone : ∀ helper values value, setup.helpers.find? name = some helper →
      helper.isBlock = false →
      Gives (arguments.mapM (Render.lookUp frame offset context metadata)) values →
      Gives (Render.call noBody frame offset helper name values) value →
      AgreeUnless E S T (Render.textOf frame offset value) (Render.textOf frame' offset value))
    (hBlock : ∀ helper values, setup.helpers.find? name = some helper → helper.isBlock = true →
      AgreeUnless E S T
        (Render.call (fun inner more => Render.inside setup.machine (.body name)
            (renderNodes setup enter frame children inner (more ++ metadata))) frame offset helper
            name (values ++ [.blockOptions name context]) >>=
          Render.textOf frame offset)
        (Render.call (fun inner more => Render.inside machine (.body name)
            (renderNodes (setup.on machine) enter' frame' children' inner (more ++ metadata)))
            frame' offset helper name (values ++ [.blockOptions name context]) >>=
          Render.textOf frame' offset)) :
    AgreeUnless E S T
      (renderNode setup enter frame (.block offset name arguments children) context metadata)
      (renderNode (setup.on machine) enter' frame' (.block offset name arguments children')
        context metadata) := by
  unfold renderNode
  refine (AgreeUnless.helper? hFrames _ _).bind fun found found' ⟨hFound, hSame⟩ => ?_
  subst hSame
  cases found' with
  | none => exact .pure hNil
  | some helper =>
    refine (AgreeUnless.lookUpAll hFrames hSetup _ _ _ _).bind_gives
      fun values values' hSame hValues => ?_
    subst hSame
    dsimp only
    split
    · rename_i hb
      exact hBlock helper values hFound.symm hb
    · rename_i hb
      refine (AgreeUnless.callAlone hFrames hSetup hFound.symm _ _ _).bind_gives
        fun value value' hSame hValue => ?_
      subst hSame
      exact hAlone helper values value hFound.symm (by simpa using hb) hValues hValue

variable (hMachines : Matched E S setup.machine machine)
include hMachines

/-- Blocks agree on their texts if their bodies do. -/
theorem renderBlock_eq {enter enter' : Entry} (offset : Nat) (name : String)
    (arguments : List String) {children children' : List Node}
    (hBody : ∀ context metadata,
      AgreeUnless E S Eq (renderNodes setup enter frame children context metadata)
        (renderNodes (setup.on machine) enter' frame' children' context metadata))
    (context : Value) (metadata : Metadata) :
    AgreeUnless E S Eq
      (renderNode setup enter frame (.block offset name arguments children) context metadata)
      (renderNode (setup.on machine) enter' frame' (.block offset name arguments children')
        context metadata) :=
  .renderBlock hFrames hSetup _ _ _ _ _ _ _ rfl (fun _ _ _ _ _ _ _ => .textOf hFrames hSetup _ _)
    fun _ _ hf _ => (AgreeUnless.call hFrames hSetup
      (fun _ _ => .inside hSetup.steady hMachines (hBody _ _) _) hf _ _ _).bind_eq
        fun _ => .textOf hFrames hSetup _ _

theorem inclusion {enter enter' : Entry} (offset : Nat) (name : String)
    (expression : Option String) (context : Value) (metadata : Metadata) (hNil : T "" "")
    (hEnter : ∀ source context, setup.partials.find? name = some source →
      AgreeUnless E S T (enter frame name source context metadata)
        (enter' frame' name source context metadata)) :
    AgreeUnless E S T
      (renderNode setup enter frame (.inclusion offset name expression) context metadata)
      (renderNode (setup.on machine) enter' frame' (.inclusion offset name expression) context
        metadata) := by
  unfold renderNode
  refine (AgreeUnless.partial? hFrames _ _).bind fun found found' ⟨hFound, hSame⟩ => ?_
  subst hSame
  cases found' with
  | none => exact .pure hNil
  | some source =>
    dsimp only
    cases expression with
    | none => exact (AgreeUnless.pure rfl).bind_eq fun inner => hEnter source inner hFound.symm
    | some path =>
      refine AgreeUnless.bind_eq ?_ fun inner => hEnter source inner hFound.symm
      exact (AgreeUnless.lookUp hFrames hSetup _ _ _ _).bind_eq fun _ => .contextHere hMachines _ _

end AgreeUnless

/-! ### Whole walks -/

/-- What makes two walks over good nodes agree: their texts, expressions and blocks do, and what
partials are rendered to, and `T` is kept when texts are put behind one another. -/
structure NodesAgree (setup : Setup) (machine : Machine) (E : Failure → Prop)
    (S : State → State → Prop) (T : String → String → Prop) (enter enter' : Entry)
    (frame frame' : Frame) (Good : Node → Prop) : Prop where
  beside : Beside E frame frame'
  suits : Suits setup E S
  matched : Matched E S setup.machine machine
  nil : T "" ""
  append : ∀ {a a' b b' : String}, T a a' → T b b' → T (a ++ b) (a' ++ b')
  text : ∀ offset content, Good (.text offset content) → T content content
  output : ∀ offset path arguments filters, Good (.output offset path arguments filters) →
    ∀ context metadata, AgreeUnless E S T
      (renderOutput setup frame offset path arguments filters context metadata)
      (renderOutput setup frame' offset path arguments filters context metadata)
  block : ∀ offset name arguments children, Good (.block offset name arguments children) →
    (∀ context metadata, AgreeUnless E S T (renderNodes setup enter frame children context metadata)
      (renderNodes (setup.on machine) enter' frame' children context metadata)) →
    ∀ context metadata, AgreeUnless E S T
      (renderNode setup enter frame (.block offset name arguments children) context metadata)
      (renderNode (setup.on machine) enter' frame' (.block offset name arguments children) context
        metadata)
  enter : ∀ offset name expression, Good (.inclusion offset name expression) →
    ∀ source context metadata, setup.partials.find? name = some source →
    AgreeUnless E S T (enter frame name source context metadata)
      (enter' frame' name source context metadata)

namespace NodesAgree

variable {setup : Setup} {machine : Machine} {E : Failure → Prop} {S : State → State → Prop}
  {T : String → String → Prop} {enter enter' : Entry} {frame frame' : Frame} {Good : Node → Prop}

mutual

theorem renderNode (h : NodesAgree setup machine E S T enter enter' frame frame' Good)
    (node : Node) (hGood : ∀ inner ∈ node.preorder, Good inner) (context : Value)
    (metadata : Metadata) :
    AgreeUnless E S T (Render.renderNode setup enter frame node context metadata)
      (Render.renderNode (setup.on machine) enter' frame' node context metadata) := by
  cases node with
  | text offset content =>
    unfold Render.renderNode
    exact .pure (h.text offset content (hGood _ (by simp [Node.preorder])))
  | output offset path arguments filters =>
    unfold Render.renderNode
    rw [renderOutput_on]
    exact h.output _ _ _ _ (hGood _ (by simp [Node.preorder])) _ _
  | block offset name arguments children =>
    refine h.block _ _ _ _ (hGood _ (by simp [Node.preorder])) ?_ _ _
    refine renderNodes h children fun inner hi => hGood inner ?_
    rw [Node.preorder]
    exact List.mem_cons_of_mem _ hi
  | inclusion offset name expression =>
    exact .inclusion h.beside h.suits h.matched _ _ _ _ _ h.nil fun source context hf =>
      h.enter offset name expression (hGood _ (by simp [Node.preorder])) source context metadata hf

theorem renderNodes (h : NodesAgree setup machine E S T enter enter' frame frame' Good)
    (nodes : List Node) (hGood : ∀ inner ∈ Node.preorderAll nodes, Good inner) (context : Value)
    (metadata : Metadata) :
    AgreeUnless E S T (Render.renderNodes setup enter frame nodes context metadata)
      (Render.renderNodes (setup.on machine) enter' frame' nodes context metadata) := by
  cases nodes with
  | nil =>
    unfold Render.renderNodes
    exact .pure h.nil
  | cons node nodes =>
    rw [Node.preorderAll] at hGood
    unfold Render.renderNodes
    refine (renderNode h node (fun inner hi => hGood inner (List.mem_append_left _ hi)) _ _).bind
      fun text text' hText => ?_
    refine (renderNodes h nodes (fun inner hi => hGood inner (List.mem_append_right _ hi)) _ _).bind
      fun later later' hLater => ?_
    exact .pure (h.append hText hLater)

end

/-- In frames that escape alike, walks agree on their texts if they agree on partials. -/
theorem of_eq (hFrames : Beside E frame frame') (hSetup : Suits setup E S)
    (hMachines : Matched E S setup.machine machine) (hEscape : frame.noEscape = frame'.noEscape)
    (hEnter : ∀ offset name expression, Good (.inclusion offset name expression) →
      ∀ source context metadata, setup.partials.find? name = some source →
      AgreeUnless E S Eq (enter frame name source context metadata)
        (enter' frame' name source context metadata)) :
    NodesAgree setup machine E S Eq enter enter' frame frame' Good where
  beside := hFrames
  suits := hSetup
  matched := hMachines
  nil := rfl
  append h h' := by rw [h, h']
  text _ _ _ := rfl
  output _ _ _ _ _ _ _ := .renderOutput hFrames hSetup _ _ _ _ _ _ rfl fun _ _ => by rw [hEscape]
  block _ _ _ _ _ hBody _ _ := .renderBlock_eq hFrames hSetup hMachines _ _ _ hBody _ _
  enter := hEnter

end NodesAgree

end Render

end Stencil
