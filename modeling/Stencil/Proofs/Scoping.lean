import Stencil.Proofs.Cycles

/-!
The scope of metadata. A helper that has its body rendered may give data with it, and a path that
starts with `@` is looked up in the data of the bodies around it, the innermost first. Partials are
no boundary for it, and what a block gives is gone behind the block. The helper that runs through a
list gives the place in the list as data, and lays it over the entries of an item that is a map,
where it hides nothing that other paths lead to.
-/

namespace Stencil

/-! ### Paths -/

namespace Path

/-- The first name of the path is neither missing nor `this`, and does not start with `@`. -/
def Ordinary (path : String) : Prop :=
  ∀ first ∈ (Text.cut '.' path).head?, first ≠ "" ∧ first ≠ "this" ∧ first.toList.head? ≠ some '@'

instance (path : String) : Decidable (Ordinary path) :=
  inferInstanceAs (Decidable (∀ first ∈ (Text.cut '.' path).head?, _))

theorem exists_cut_eq (path : String) : ∃ first later, Text.cut '.' path = first :: later :=
  ⟨_, _, rfl⟩

/-- A path that starts with `@` is looked up in the metadata, and then in the context. -/
theorem resolve_of_at {path : String} (h : path.toList.head? = some '@') (context : Value)
    (metadata : Metadata) :
    resolve context path metadata =
      match metadata.lookup path with
      | some value => .ok value
      | none => context.walk (Text.cut '.' path) := by
  obtain ⟨cs, hChars⟩ := List.head?_eq_some_iff.1 h
  have hThis : ¬ "this.".toList <+: path.toList := by
    rw [hChars]
    exact fun hFront => absurd (List.cons_prefix_cons.1 hFront).1 (by decide)
  have hResolve := @resolve_of_ne path (by rintro rfl; cases h) (by rintro rfl; cases h)
    (by rintro rfl; cases h) context metadata
  rw [withoutThis_eq_self hThis, metadata?, if_pos h] at hResolve
  exact hResolve

theorem resolve_of_ordinary {path : String} (h : Ordinary path) (context : Value)
    (metadata : Metadata) :
    resolve context path metadata = context.walk (Text.cut '.' path) := by
  have hEmpty : path ≠ "" := by
    rintro rfl
    exact (h "" (by decide)).1 rfl
  have hSelf : path ≠ "this" := by
    rintro rfl
    exact (h "this" (by decide)).2.1 rfl
  have hDot : path ≠ "." := by
    rintro rfl
    exact (h "" (by decide)).1 rfl
  have hThis : ¬ "this.".toList <+: path.toList := by
    rintro ⟨cs, hChars⟩
    refine absurd rfl (h "this" ?_).2.1
    rw [Text.cut, ← hChars]
    rfl
  -- If the path started with `@`, then so would its first name.
  have hAt : path.toList.head? ≠ some '@' := by
    intro hAt
    obtain ⟨cs, hChars⟩ : ∃ cs, path.toList = '@' :: cs := List.head?_eq_some_iff.1 hAt
    refine (h (String.ofList ('@' :: (Text.cutChars '.' cs).1)) ?_).2.2 ?_
    · rw [Text.cut, hChars]
      rfl
    · rw [String.toList_ofList]
      rfl
  rw [resolve_of_ne hEmpty hSelf hDot, withoutThis_eq_self hThis, metadata?_of_not_at hAt]

end Path

/-! ### Items of a loop -/

theorem Value.walk_map (entries : List (Value × Value)) (name : String) (later : List String) :
    (map entries).walk (name :: later) = ((find? (text name) entries).getD null).walk later := rfl

namespace Loop

variable {loop : Loop}

/-- The metadata of a loop hide nothing that does not start with `@`. -/
theorem find?_metadata {name : String} (h : name.toList.head? ≠ some '@')
    (entries : List (Value × Value)) :
    Value.find? (.text name)
        (Value.merge entries (loop.metadata.map fun (name, value) => (.text name, value))) =
      Value.find? (.text name) entries := by
  have hOther (key : String) (hKey : key.toList.head? = some '@') :
      (Value.text key).sameItem (.text name) = false := by
    rw [← Bool.not_eq_true, Value.sameItem_text_iff]
    intro hSame
    cases hSame
    exact h hKey
  rw [Value.find?_merge]
  simp only [metadata, List.map_cons, List.map_nil, List.reverse_cons, List.reverse_nil,
    List.nil_append, List.cons_append, Value.find?_cons, hOther "@index" (by decide),
    hOther "@first" (by decide), hOther "@last" (by decide)]
  rfl

/-- An ordinary path leads to the same in the scope of an item as in the item, unless that is a map
that refuses to be looked into. -/
theorem resolve_scope {path : String} (h : Path.Ordinary path) {item : Value}
    (hItem : ∀ entries fault, item ≠ .lockedMap entries fault) (metadata metadata' : Metadata) :
    Path.resolve (loop.scope item) path metadata = Path.resolve item path metadata' := by
  rw [Path.resolve_of_ordinary h, Path.resolve_of_ordinary h]
  obtain ⟨first, later, hCut⟩ := Path.exists_cut_eq path
  have hFirst := (h first (by rw [hCut]; rfl)).2.2
  cases item with
  | map entries =>
    rw [hCut, scope, Value.entries?]
    dsimp only
    rw [Value.walk_map, Value.walk_map, find?_metadata hFirst]
  | lockedMap entries fault => exact absurd rfl (hItem entries fault)
  | _ => rfl

/-- The scope of a map that refuses to be looked into can be looked into. -/
theorem resolve_scope_lockedMap {path : String} (h : Path.Ordinary path)
    (entries : List (Value × Value)) (fault : Fault) (metadata metadata' : Metadata) :
    Path.resolve (loop.scope (.lockedMap entries fault)) path metadata =
      Path.resolve (.map entries) path metadata' := by
  have hOpen (other : List (Value × Value)) (refusal : Fault) :
      Value.map entries ≠ .lockedMap other refusal := nofun
  have hMap := @resolve_scope loop path h (.map entries) hOpen metadata metadata'
  exact hMap

end Loop

namespace Render

variable {setup : Setup}

/-! ### Bodies around a node -/

/-- What is rendered inside a node, with the data that it is given: those of the call if it is the
body of a block, and none if it is a partial. -/
inductive Site.Opens (setup : Setup) (site : Site) : List Metadata → Task → Prop
  | body {helper : Helper} {name : String} {given : List Value} {children : List Node}
      {inner : Value} {data : Metadata} {state last : State}
      (hDone : site.Performs setup (.call helper name given (some children)) state)
      (hAsks : Asks (site.body setup name (some children)) (helper.act given) state inner data last)
      (hOpens : setup.machine.opens (.body name :: last.around) = true) :
      Opens setup site [data]
        ⟨site.room, site.frame, children, inner, data ++ site.metadata, last.inside (.body name)⟩
  | inclusion {name : String} {task : Task} (h : site.Starts setup [name] task) :
      Opens setup site [] task

/-- The render leads to the node, inside bodies that were given the data, the innermost first. -/
inductive Enclosed (setup : Setup) : Task → List Metadata → Site → Prop
  | visit {task : Task} {site : Site} (h : task.Visits setup site) : Enclosed setup task [] site
  | inside {task inner : Task} {site last : Site} {given data : List Metadata}
      (hVisits : task.Visits setup site) (hOpens : site.Opens setup given inner)
      (h : Enclosed setup inner data last) : Enclosed setup task (data ++ given) last

theorem Task.Visits.metadata {task : Task} {site : Site} (hVisits : task.Visits setup site) :
    site.metadata = task.metadata := by
  induction hVisits with
  | head => rfl
  | tail hFirst hVisits ih => exact ih

theorem Task.Visits.context {task : Task} {site : Site} (hVisits : task.Visits setup site) :
    site.context = task.context := by
  induction hVisits with
  | head => rfl
  | tail hFirst hVisits ih => exact ih

theorem Site.Starts.opens {site : Site} {entered : List String} {task : Task}
    (hStarts : site.Starts setup entered task) : ∃ given, site.Opens setup given task := by
  cases hStarts with
  | body hNode hFound hKind hValues hAsks hOpens =>
    exact ⟨_, .body (.block hNode hFound hKind hValues) hAsks hOpens⟩
  | inclusion hNode hRoom hFound hContext hEnter hCompile hOpens =>
    exact ⟨_, .inclusion (.inclusion hNode hRoom hFound hContext hEnter hCompile hOpens)⟩

theorem Leads.enclosed {task : Task} {path : List String} {site : Site}
    (hLeads : Leads setup task path site) : ∃ data, Enclosed setup task data site := by
  induction hLeads with
  | visit hVisits => exact ⟨_, .visit hVisits⟩
  | inside hVisits hStarts hLeads ih =>
    obtain ⟨given, hOpens⟩ := hStarts.opens
    obtain ⟨data, hLast⟩ := ih
    exact ⟨_, .inside hVisits hOpens hLast⟩

theorem Site.Opens.metadata {site : Site} {given : List Metadata} {task : Task}
    (hOpens : site.Opens setup given task) : task.metadata = given.flatten ++ site.metadata := by
  cases hOpens with
  | body hDone hAsks => rw [List.flatten_singleton]
  | inclusion hStarts =>
    cases hStarts with
    | inclusion => rfl

/-- The metadata of a node are the data of the bodies around it, and what the render started
with. -/
theorem Enclosed.metadata {task : Task} {data : List Metadata} {site : Site}
    (h : Enclosed setup task data site) : site.metadata = data.flatten ++ task.metadata := by
  induction h with
  | visit hVisits => exact hVisits.metadata
  | inside hVisits hOpens hLast ih =>
    rw [ih, hOpens.metadata, hVisits.metadata, List.flatten_append, List.append_assoc]

theorem lookup_flatten (data : List Metadata) (key : String) :
    data.flatten.lookup key = data.findSome? fun given => given.lookup key := by
  induction data with
  | nil => rfl
  | cons given data ih =>
    rw [List.flatten_cons, List.lookup_append, List.findSome?_cons, ih]
    cases given.lookup key <;> rfl

/-- A path that starts with `@` leads to what the innermost body gives that has it, and otherwise to
what the render started with or to the context. -/
theorem Enclosed.resolve {task : Task} {data : List Metadata} {site : Site}
    (h : Enclosed setup task data site) {path : String} (hAt : path.toList.head? = some '@') :
    site.resolve path =
      match data.findSome? fun given => given.lookup path with
      | some value => .ok value
      | none => Path.resolve site.context path task.metadata := by
  rw [Site.resolve, Path.resolve_of_at hAt, Path.resolve_of_at hAt, h.metadata, List.lookup_append,
    lookup_flatten]
  cases data.findSome? fun given => given.lookup path <;> rfl

/-! ### Lists -/

/-- The body for an item at a place of a list of so many. -/
def bodyAt (body : Value → Metadata → Step String) (length : Nat) (item : Value × Nat) :
    Step String :=
  body (Loop.scope ⟨length, item.2⟩ item.1) (Loop.metadata ⟨length, item.2⟩)

/-- The body for the first item is asked for, and the rest follows if it gives a text. -/
theorem bodies_cons_bind {α : Type} (name : String) (ambient item : Value) (loop : Loop)
    (before : String) (items : List Value) (next : String → Action α) :
    (Helper.bodies (.blockOptions name ambient) loop before (item :: items)).bind next =
      .body (loop.scope item) loop.metadata fun outcome =>
        ((Action.passOn outcome).bind fun text => Helper.bodies (.blockOptions name ambient)
          { loop with index := loop.index + 1 } (before ++ text) items).bind next := rfl

theorem carryOut_bodies {α : Type} (body : Value → Metadata → Step String) (name : String)
    (ambient : Value) (loop : Loop) (before : String) (items : List Value)
    (next : String → Action α) :
    carryOut body ((Helper.bodies (.blockOptions name ambient) loop before items).bind next) =
      (items.zipIdx loop.index).mapM (bodyAt body loop.length) >>= fun texts =>
        carryOut body (next (before ++ String.join texts)) := by
  induction items generalizing loop before with
  | nil =>
    have hSame : before ++ String.join [] = before := String.append_empty
    rw [List.zipIdx_nil, List.mapM_nil, pure_bind, hSame]
    rfl
  | cons item items ih =>
    refine run_ext fun state => ?_
    rw [bodies_cons_bind, run_carryOut_body, List.zipIdx_cons, List.mapM_cons, bind_assoc]
    rcases hBody : (body (loop.scope item) loop.metadata).run state with ⟨failure | text, middle⟩
    · exact (run_bind_of_error hBody).symm
    · have hJoin (texts : List String) :
          before ++ String.join (text :: texts) = before ++ text ++ String.join texts := by
        rw [String.join_cons, String.append_assoc]
      refine Eq.trans ?_ (run_bind_of_ok hBody).symm
      simp only [bind_assoc, pure_bind, hJoin]
      exact congrFun (ih { loop with index := loop.index + 1 } (before ++ text)) middle

theorem not_asks_done {α : Type} {body : Value → Metadata → Step String} {result : α}
    {state last : State} {inner : Value} {more : Metadata} :
    ¬ Asks body (.done result) state inner more last := nofun

/-- A body that is asked for belongs to one of the items. -/
theorem asks_bodies {α : Type} {body : Value → Metadata → Step String} {name : String}
    {ambient inner : Value} {more : Metadata} {loop : Loop} {before : String} {items : List Value}
    {next : String → Action α} {state last : State}
    (hNext : ∀ text state, ¬ Asks body (next text) state inner more last)
    (h : Asks body ((Helper.bodies (.blockOptions name ambient) loop before items).bind next) state
      inner more last) :
    ∃ item ∈ items.zipIdx loop.index, inner = Loop.scope ⟨loop.length, item.2⟩ item.1 ∧
      more = Loop.metadata ⟨loop.length, item.2⟩ := by
  induction items generalizing loop before state with
  | nil => exact absurd h (hNext before state)
  | cons item items ih =>
    rw [bodies_cons_bind] at h
    rw [List.zipIdx_cons]
    cases h with
    | now => exact ⟨_, List.mem_cons_self, rfl, rfl⟩
    | @later _ _ _ _ _ outcome _ middle _ hBody h =>
      cases outcome with
      | error failure => cases h
      | ok text =>
        obtain ⟨other, hOther, hInner⟩ := ih h
        exact ⟨other, List.mem_cons_of_mem _ hOther, hInner⟩

theorem isBlock_eachItem : Helper.eachItem.isBlock = true := rfl

theorem act_eachItem {values : List Value} {items : List Value}
    (hItems : values.head?.bind Value.items? = some items) (name : String) (context : Value) :
    Helper.eachItem.act (values ++ [.blockOptions name context]) =
      (Helper.bodies (.blockOptions name context) ⟨items.length, 0⟩ "" items).bind fun text =>
        .done (.text text) := by
  simp only [Helper.eachItem, Helper.blockFunction, List.getLast?_concat, List.dropLast_concat,
    hItems]
  rfl

namespace Site

/-- The body of a block for the item at a place of a list of so many, done from a state. -/
def iteration (site : Site) (children : List Node) (length : Nat) (item : Value × Nat)
    (state : State) : Task :=
  ⟨site.room, site.frame, children, Loop.scope ⟨length, item.2⟩ item.1,
    Loop.metadata ⟨length, item.2⟩ ++ site.metadata, state⟩

variable {site : Site} {offset : Nat} {name : String} {arguments : List String}
  {children : List Node} {values items : List Value}

/-- What becomes of the items of a list: their texts, one behind the other. A fault that a body raises
is reported at the block. -/
def iterate (setup : Setup) (site : Site) (name : String) (children : List Node)
    (items : List Value) : Step String :=
  guarding site.place (.helperFailed name)
    (items.zipIdx.mapM (bodyAt (site.body setup name (some children)) items.length) >>= fun texts =>
      pure (String.join texts))

/-- A block that runs through a list has its body rendered for each item, one after the other, as
long as none fails. -/
theorem outcome_each (hNode : site.node = .block offset name arguments children)
    (hFound : setup.helpers.find? name = some Helper.eachItem)
    (hValues : arguments.mapM site.resolve = .ok values)
    (hItems : values.head?.bind Value.items? = some items) :
    site.outcome setup = (site.iterate setup name children items).run site.state := by
  have hAct : carryOut (site.body setup name (some children))
      (Helper.eachItem.act (values ++ [.blockOptions name site.context])) =
      items.zipIdx.mapM (bodyAt (site.body setup name (some children)) items.length) >>= fun texts =>
        pure (.text (String.join texts)) := by
    rw [act_eachItem hItems, carryOut_bodies]
    refine congrArg _ (funext fun texts => ?_)
    rw [String.empty_append]
    rfl
  rw [outcome_block hNode hFound, run_bind_of_ok (run_lookUpAll_of_ok hValues _),
    if_pos isBlock_eachItem, iterate, run_guarding]
  rcases hRun : (items.zipIdx.mapM (bodyAt (site.body setup name (some children)) items.length)).run
      site.state with ⟨failure | texts, after⟩
  · have hCall : (call (site.body setup name (some children)) site.frame site.node.offset
        Helper.eachItem name (values ++ [.blockOptions name site.context])).run site.state =
        (.error (reported site.place (.helperFailed name) failure), after) := by
      rw [call, run_guarding, hAct, run_bind_of_error hRun]
      rfl
    rw [run_bind_of_error hCall, run_bind_of_error hRun]
  · have hCall : (call (site.body setup name (some children)) site.frame site.node.offset
        Helper.eachItem name (values ++ [.blockOptions name site.context])).run site.state =
        (.ok (.text (String.join texts)), after) := by
      rw [call, run_guarding, hAct, run_bind_of_ok hRun]
      rfl
    rw [run_bind_of_ok hCall, run_bind_of_ok hRun, run_textOf, Value.display_text]
    rfl

/-- What is rendered inside such a block is its body for one of the items. -/
theorem Opens.exists_iteration (hNode : site.node = .block offset name arguments children)
    (hFound : setup.helpers.find? name = some Helper.eachItem)
    (hValues : arguments.mapM site.resolve = .ok values)
    (hItems : values.head?.bind Value.items? = some items) {given : List Metadata} {task : Task}
    (h : site.Opens setup given task) :
    ∃ item ∈ items.zipIdx, given = [Loop.metadata ⟨items.length, item.2⟩] ∧
      ∃ state, task = site.iteration children items.length item state := by
  cases h with
  | body hDone hAsks =>
    cases hDone with
    | block hSame hOther hKind hAll =>
      rw [hNode] at hSame
      cases hSame
      rw [hFound] at hOther
      cases hOther
      rw [hValues] at hAll
      cases hAll
      rw [act_eachItem hItems] at hAsks
      obtain ⟨item, hItem, rfl, rfl⟩ := asks_bodies (fun _ _ => not_asks_done) hAsks
      exact ⟨item, hItem, rfl, _, rfl⟩
  | inclusion hStarts =>
    cases hStarts with
    | inclusion hSame =>
      rw [hNode] at hSame
      cases hSame

end Site

/-- At a place of a list, what a loop says about the place holds for all nodes but those inside a
body that is given something else under the same name. -/
theorem Enclosed.resolve_metadata {site last : Site} {children : List Node} {length : Nat}
    {item : Value × Nat} {state : State} {data : List Metadata} {key : String} {value : Value}
    (h : Enclosed setup (site.iteration children length item state) data last)
    (hKey : (Loop.metadata ⟨length, item.2⟩).lookup key = some value)
    (hAt : key.toList.head? = some '@') (hNone : ∀ given ∈ data, given.lookup key = none) :
    last.resolve key = .ok value := by
  have hData : (data.findSome? fun given => given.lookup key) = none :=
    List.findSome?_eq_none_iff.2 hNone
  have hHere : (site.iteration children length item state).metadata.lookup key = some value := by
    change (Loop.metadata ⟨length, item.2⟩ ++ site.metadata).lookup key = _
    rw [List.lookup_append, hKey, Option.some_or]
  rw [h.resolve hAt, hData]
  dsimp only
  rw [Path.resolve_of_at hAt, hHere]

end Render

namespace Engine

open Render

end Engine

end Stencil
