import ScreenBinding.Proofs.Built

/-!
# The acts of the engine are built of primitives

One lemma for each act, in the order in which the engine defines them. An event that marks a step
of a request or of a submission, that is a write, or that tells of a hook called at the end, is
admitted by name; all others are admitted together, so that a lemma about an act says which of these
it may record.
-/
namespace ScreenBinding

/-- Whether an event is a write, or a step of a request or of a submission. -/
def Event.isStep : Event → Bool
  | .stored .. | .sent .. | .answered _ | .injected _ | .ruled _ => true
  | _ => false

/-- All events that are no steps. -/
class Admits (P : Event → Prop) : Prop where
  plain : ∀ {e}, e.isStep = false → P e

/-- Any event. -/
abbrev Anything : Event → Prop := fun _ => True

instance : Admits Anything := ⟨fun _ => trivial⟩

instance : Admits (·.isStep = false) := ⟨id⟩

/-- Whether an event tells of a hook that is called at the end of a submission. -/
def Event.concludes : Event → Bool
  | .succeeded _ | .failed => true
  | _ => false

/-- All events that are neither steps nor tell of such a hook. -/
class AdmitsRoutine (P : Event → Prop) : Prop where
  routine : ∀ {e}, e.isStep = false → e.concludes = false → P e

instance {P : Event → Prop} [Admits P] : AdmitsRoutine P := ⟨fun h _ => Admits.plain h⟩

instance : AdmitsRoutine (·.concludes = false) := ⟨fun _ h => h⟩

/-- Whether an event is part of the refresh of a surface. -/
def Event.isRefresh : Event → Bool
  | .refreshed .. | .textFilled .. | .listFilled .. => true
  | _ => false

/-- All events of a refresh. -/
class AdmitsRefresh (P : Event → Prop) : Prop where
  refresh : ∀ {e}, e.isRefresh = true → P e

instance {P : Event → Prop} [AdmitsRoutine P] : AdmitsRefresh P :=
  ⟨fun {e} h => AdmitsRoutine.routine (by cases e <;> first | rfl | cases h)
    (by cases e <;> first | rfl | cases h)⟩

/-- All writes under a source. -/
def AdmitsWrites (P : Event → Prop) (source : Option Source) : Prop :=
  ∀ key v, P (.stored key v source)

theorem Built.routine {P : Event → Prop} [AdmitsRoutine P] {e : Event} (h : e.isStep = false)
    (hc : e.concludes = false) : Built P (Act.emit e) :=
  .emit (AdmitsRoutine.routine h hc) (by cases e <;> first | rfl | cases h)

theorem Built.refresh {P : Event → Prop} [AdmitsRefresh P] {e : Event} (h : e.isRefresh = true) :
    Built P (Act.emit e) :=
  .emit (AdmitsRefresh.refresh h) (by cases e <;> first | rfl | cases h)

section
variable {β : Type} {P : Event → Prop} {l : List β}

theorem Built.forIn {f : β → PUnit → Act (ForInStep PUnit)}
    (h : ∀ x ∈ l, ∀ u, Built P (f x u)) : Built P (ForIn.forIn l PUnit.unit f) := by
  induction l with
  | nil => exact .pure _
  | cons x l ih =>
      rw [List.forIn_cons]
      refine .bind (h x (List.mem_cons_self ..) _) fun step => ?_
      cases step with
      | done u => exact .pure _
      | yield u => exact ih fun y hy => h y (List.mem_cons_of_mem x hy)

theorem Built.forEach {f : β → Act Unit} (h : ∀ x ∈ l, Built P (f x)) :
    Built P (do for x in l do f x) :=
  .bind (.forIn fun x hx _ => .bind (h x hx) fun _ => .pure _) fun _ => .pure _

end

namespace Session

theorem unseen_resolve (ticket : Ticket) (answer : Bool) : Unseen (·.resolve ticket answer) where
  trace s T := by
    simp only [resolve, retrace]
    split <;> rfl
  settings s := by
    simp only [resolve]
    split <;> rfl
  values s := by
    simp only [resolve]
    split <;> rfl
  reloads s := by
    simp only [resolve]
    split <;> rfl
  listeners s := by
    simp only [resolve]
    split <;> exact List.prefix_rfl

theorem unseen_drop (ticket : Option Ticket) : Unseen (·.drop ticket) := by
  cases ticket with
  | none => exact .apart fun _ _ => rfl
  | some t => exact unseen_resolve t false

@[simp] theorem surfaces_retrace (s : Session) (T : List Event) (kind : SurfaceKind) :
    (s.retrace T).surfaces kind = s.surfaces kind := by
  cases kind <;> rfl

theorem unseen_setSurfaces (kind : SurfaceKind) (g : Table Surface → Table Surface) :
    Unseen fun s => s.setSurfaces kind (g (s.surfaces kind)) := by
  cases kind <;> exact .apart fun _ _ => rfl

/-- Putting a surface into its table drops the question that waited there. -/
theorem unseen_replace (kind : SurfaceKind) (name : String) (g : Table Surface → Table Surface) :
    Unseen fun s => (s.setSurfaces kind (g (s.surfaces kind))).drop
      ((Table.find? (s.surfaces kind) name).bind (·.pending)) where
  trace s T := by
    rw [surfaces_retrace, ← (unseen_drop _).trace, ← (unseen_setSurfaces kind g).trace s T,
      surfaces_retrace]
  settings s := by rw [(unseen_drop _).settings, (unseen_setSurfaces kind g).settings]
  values s := by rw [(unseen_drop _).values, (unseen_setSurfaces kind g).values]
  reloads s := by rw [(unseen_drop _).reloads, (unseen_setSurfaces kind g).reloads]
  listeners s := ((unseen_setSurfaces kind g).listeners s).trans ((unseen_drop _).listeners _)

theorem unseen_ask (kind : SurfaceKind) (name : String) (ticket : Option Ticket) :
    Unseen (·.ask kind name ticket) :=
  unseen_replace kind name fun t => Table.adjust (fun x => { x with pending := ticket }) t name

theorem unseen_defineSurface (kind : SurfaceKind) (name : String) (x : Surface) :
    Unseen (·.defineSurface kind name x) :=
  unseen_replace kind name fun t => Table.file t name x

end Session

namespace Act
variable {α : Type} {P : Event → Prop}

theorem built_ofExcept (x : Except Fault α) : Built P (ofExcept x) := by
  cases x with
  | ok a => exact .pure a
  | error f => exact .throw f

theorem built_needRenderer : Built P needRenderer := by
  refine .bind (.gets fun _ _ => rfl) fun b => ?_
  split
  · exact .throw _
  · exact .pure _

theorem built_needNotifier : Built P needNotifier := by
  refine .bind (.gets fun _ _ => rfl) fun b => ?_
  split
  · exact .throw _
  · exact .pure _

theorem built_needTransport : Built P needTransport := by
  refine .bind (.gets fun _ _ => rfl) fun t => ?_
  split
  · exact .pure _
  · exact .throw _

theorem built_separators : Built P separators := .gets fun _ _ => rfl

theorem built_element (e : ElementRef) : Built P (element e) := .gets fun _ _ => rfl

theorem built_modify (e : ElementRef) (f : Element → Element) : Built P (modify e f) :=
  .change (.apart fun _ _ => rfl)

theorem built_onEvent (e : ElementRef) (event : EventKind) (h : Handler) :
    Built P (onEvent e event h) :=
  .change (.apart fun _ _ => rfl)

theorem built_raise (e : ElementRef) (event : EventKind) : Built P (raise e event) :=
  .bind (.gets fun _ _ => rfl) fun _ => .forEach fun _ _ => .react _

theorem built_put (e : ElementRef) (v : Json) : Built P (put e v) :=
  .bind built_separators fun _ => .bind (built_modify e _) fun _ => built_raise e .change

theorem built_type (e : ElementRef) (text : String) : Built P (type e text) :=
  .bind (built_modify e _) fun _ => built_raise e .change

theorem built_click (e : ElementRef) : Built P (click e) := by
  refine .bind (built_element e) fun x => ?_
  split
  · exact built_raise e .click
  · exact .pure _

theorem built_textOf (e : ElementRef) : Built P (textOf e) :=
  .bind built_separators fun _ => .bind (built_element e) fun _ => .pure _

theorem built_discard {a : Act α} (h : Built P a) : Built P (discard a) :=
  .bind h fun _ => .pure _

theorem built_listen (keys : List String) (l : Listener) : Built P (listen keys l) :=
  .change ⟨fun _ _ => rfl, fun _ => rfl, fun _ => rfl, fun _ => rfl,
    fun _ => List.prefix_append _ _⟩

theorem built_notify (key : String) (v : Json) (source : Option Source) :
    Built P (notify key v source) :=
  .bind (.gets fun _ _ => rfl) fun _ => .forEach fun _ _ => .react _

theorem built_write (key : String) (v : Json) {source : Option Source}
    (h : AdmitsWrites P source) : Built P (write key v source) := .write (h key v)

theorem built_merge (key : String) (v : Json) {source : Option Source}
    (h : AdmitsWrites P source) : Built P (merge key v source) := by
  refine .bind (.gets fun _ _ => rfl) fun old => ?_
  split
  · exact built_discard (built_write key _ h)
  · exact .bind built_separators fun _ => built_discard (built_write key _ h)

theorem built_writeAll (values : Fields) {source : Option Source} (h : AdmitsWrites P source) :
    Built P (writeAll values source) := by
  induction values with
  | nil => exact .pure _
  | cons entry values ih =>
      rw [writeAll_cons]
      exact .bind (built_discard (built_write _ _ h)) fun _ => ih

theorem built_getList (key : String) : Built P (getList key) := by
  refine .bind (.gets fun _ _ => rfl) fun v => ?_
  split
  · exact .bind built_separators fun _ => built_ofExcept _
  · exact .pure _

theorem built_carriedOr (x : Evaluation) {other : Act Json} (h : Built P other) :
    Built P (carriedOr x other) := by
  unfold carriedOr
  split
  · split
    · exact .pure _
    · exact h
  · exact h

theorem built_fieldValue (x : Evaluation) : Built P (fieldValue x) :=
  built_carriedOr x (.bind (built_element x.field) fun _ => .pure _)

theorem built_stateValue (x : Evaluation) (unset : Json) : Built P (stateValue x unset) :=
  built_carriedOr x (.gets fun _ _ => rfl)

theorem built_stateList (x : Evaluation) : Built P (stateList x) := by
  refine .bind (built_stateValue x _) fun v => ?_
  split
  · exact .pure _
  · exact .bind built_separators fun _ => built_ofExcept _

section
variable [AdmitsRoutine P]

theorem built_evaluate (x : Evaluation) (v : Evaluator) (h : AdmitsWrites P x.source) :
    Built P (evaluate x v) := by
  cases v with
  | saveAssign =>
      exact .bind (built_fieldValue x) fun _ => built_discard (built_write x.key _ h)
  | saveMerge => exact .bind (built_fieldValue x) fun _ => built_merge x.key _ h
  | loadAssign => exact .bind (built_stateValue x _) fun _ => built_put x.field _
  | loadCount => exact .bind (built_stateList x) fun _ => built_put x.field _
  | loadFirst =>
      refine .bind (built_stateList x) fun items => ?_
      cases items with
      | nil => exact .pure _
      | cons a r => exact built_put x.field _
  | loadDefault =>
      refine .bind (built_textOf x.field) fun text => ?_
      split
      · exact .bind (built_stateValue x _) fun _ => built_put x.field _
      · exact .pure _
  | scripted label actions =>
      exact .bind (built_element x.field) fun _ => .bind (.routine rfl rfl) fun _ => .react _

theorem built_evaluateAll (t : Trigger) (x : Evaluation) (operators : List Operator)
    (h : AdmitsWrites P x.source) : Built P (evaluateAll t x operators) := by
  induction operators with
  | nil => exact .pure _
  | cons o os ih =>
      rw [evaluateAll_cons]
      refine .bind (.gets fun _ _ => rfl) fun v => .bind ?_ fun _ => ih
      cases v with
      | none => exact .pure _
      | some v => exact built_evaluate x v h

theorem built_execute (t : Trigger) (directive : String) (carried : Option Json)
    (field : ElementRef) {source : Option Source} (h : AdmitsWrites P source) :
    Built P (execute t directive carried field source) := by
  change Built P (if _ then _ else _)
  split
  · cases t with
    | save => exact built_evaluateAll _ _ _ h
    | load =>
        exact .bind (.change (.apart fun _ _ => rfl)) fun _ =>
          .ending (built_evaluateAll _ _ _ h) (.apart fun _ _ => rfl)
  · exact .pure _

theorem built_executeAll (t : Trigger) (carried : Option Json) (field : ElementRef)
    {source : Option Source} (directives : List String) (h : AdmitsWrites P source) :
    Built P (executeAll t carried field source directives) := by
  induction directives with
  | nil => exact .pure _
  | cons d ds ih =>
      exact .bind (.outcome (built_execute t d carried field h)) fun _ =>
        .bind (.outcome ih) fun _ => built_ofExcept _

theorem built_connect (t : Trigger) (directive : String) (field : ElementRef)
    (source : Option Source) : Built P (connect t directive field source) := by
  refine .bind (.gets fun _ _ => rfl) fun connectors => ?_
  split
  · exact .bind (built_element field) fun _ => .routine rfl rfl
  · cases t with
    | save => exact built_onEvent field .change _
    | load => exact built_listen _ _

theorem built_connectAll (t : Trigger) (directives : List String) (field : ElementRef)
    (source : Option Source) : Built P (connectAll t directives field source) :=
  .forEach fun d _ => built_connect t d field source

end
end Act
end ScreenBinding
