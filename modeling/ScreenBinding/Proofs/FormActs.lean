import ScreenBinding.Proofs.EngineActs

/-!
# The acts of surfaces, modes and forms are built of primitives

The same for what shows surfaces, applies modes, and checks, loads and saves forms. Of these only a
mode and the save of a form write the state themselves, each under a source of its own.
-/
namespace ScreenBinding.Act
variable {α : Type} {P : Event → Prop}

theorem built_surface (kind : SurfaceKind) (name : String) : Built P (surface kind name) := by
  refine .bind (.gets fun s T => by rw [Session.surfaces_retrace]) fun t => ?_
  split
  · exact .pure _
  · exact .throw _

theorem built_surfaceClass (kind : SurfaceKind) : Built P (surfaceClass kind) :=
  .bind (.gets fun _ _ => rfl) fun _ => .pure _

theorem built_listArgument (args : Fields) (key : String) : Built P (listArgument args key) := by
  unfold listArgument
  split
  · exact .pure _
  · exact .pure _
  · exact .bind built_separators fun _ => built_ofExcept _

theorem built_answer (ticket : Option Ticket) (accepted : Bool) :
    Built P (answer ticket accepted) := by
  cases ticket with
  | none => exact .change (.apart fun _ _ => rfl)
  | some t => exact .change (Session.unseen_resolve t accepted)

theorem built_respond (kind : SurfaceKind) (name : String) (accepted : Bool) :
    Built P (respond kind name accepted) := by
  refine .bind (built_surface kind name) fun x => ?_
  split
  · rename_i t _
    refine .bind (.change ?_) fun _ => .pure _
    exact .comp (Session.unseen_setSurfaces kind fun u =>
      Table.adjust (fun x => { x with pending := none }) u name) (Session.unseen_resolve t _)
  · exact .pure _

theorem built_mode (name : String) : Built P (mode name) := by
  refine .bind (.gets fun _ _ => rfl) fun modes => ?_
  split
  · exact .pure _
  · exact .throw _

section
variable [AdmitsRefresh P]

theorem built_fillText (e : ElementRef) (slot text : String) : Built P (fillText e slot text) :=
  .bind (built_element e) fun _ => .refresh rfl

theorem built_fillList (e : ElementRef) (slot : String) (items : List String) :
    Built P (fillList e slot items) :=
  .bind (built_element e) fun _ => .refresh rfl

theorem built_refreshConfirm (kind : SurfaceKind) (name : String) (x : Surface) (args : Fields)
    (ticket : Option Ticket) : Built P (refreshConfirm kind name x args ticket) := by
  refine .bind (built_listArgument args "previous") fun _ =>
    .bind (built_listArgument args "next") fun _ => ?_
  dsimp only
  split
  · exact .bind (built_answer ticket true) fun _ => .pure _
  · exact .bind (.gets fun _ _ => rfl) fun _ => .bind built_needRenderer fun _ =>
      .bind (built_fillText _ _ _) fun _ => .bind (built_fillText _ _ _) fun _ =>
        .bind (built_fillList _ _ _) fun _ => .bind (built_fillList _ _ _) fun _ =>
          .bind (.change (Session.unseen_ask kind name ticket)) fun _ => .pure _

theorem built_refreshAlert (kind : SurfaceKind) (name : String) (x : Surface) (args : Fields)
    (ticket : Option Ticket) : Built P (refreshAlert kind name x args ticket) :=
  .bind (.gets fun _ _ => rfl) fun _ => .bind built_needRenderer fun _ =>
    .bind (built_fillText _ _ _) fun _ => .bind (built_fillText _ _ _) fun _ =>
      .bind (.change (Session.unseen_ask kind name ticket)) fun _ => .pure _

theorem built_refresh (kind : SurfaceKind) (name : String) (x : Surface) (args : Fields)
    (ticket : Option Ticket) : Built P (refresh kind name x args ticket) := by
  unfold refresh
  split
  · exact built_refreshConfirm kind name x args ticket
  · exact built_refreshAlert kind name x args ticket
  · exact .bind (.refresh rfl) fun _ => .bind (.react _) fun _ => .pure _
  · exact .pure _

end

section
variable [AdmitsRoutine P]

theorem built_prepareSurface (name : String) (x : Surface) : Built P (prepareSurface name x) := by
  unfold prepareSurface
  split
  · exact .bind (built_element _) fun _ => .bind (built_surfaceClass .modal) fun _ =>
      .bind (.routine rfl rfl) fun _ => .react _
  · exact .pure _

theorem built_prepareAll (kind : SurfaceKind) : Built P (prepareAll kind) :=
  .bind (built_surfaceClass kind) fun _ =>
    .bind (.gets fun s T => Session.surfaces_retrace s T kind) fun _ =>
      .bind (.forIn fun x _ _ => .bind (built_modify x.2.element _) fun _ =>
        .bind (built_prepareSurface x.1 x.2) fun _ => .pure _) fun _ => .pure _

theorem built_prepareViews : Built P prepareViews :=
  .bind (built_prepareAll .interface) fun _ => built_prepareAll .modal

theorem built_hideAll (kind : SurfaceKind) : Built P (hideAll kind) :=
  .bind built_needRenderer fun _ => .routine (by cases kind <;> rfl) (by cases kind <;> rfl)

theorem built_hideViews : Built P hideViews :=
  .bind (built_hideAll .modal) fun _ => built_hideAll .interface

theorem built_showSurface (kind : SurfaceKind) (name : String) (args : Fields)
    (ticket : Option Ticket) : Built P (showSurface kind name args ticket) := by
  refine .bind (built_surface kind name) fun x =>
    .bind (built_refresh kind name x args ticket) fun shown => ?_
  split
  · exact .bind built_needRenderer fun _ => .bind (built_hideAll kind) fun _ =>
      .bind (built_element _) fun _ =>
        .bind (.routine (by cases kind <;> rfl) (by cases kind <;> rfl)) fun _ => .pure _
  · exact .pure _

theorem built_respondModal (name : String) (accepted : Bool) :
    Built P (respondModal name accepted) :=
  .bind (built_respond .modal name accepted) fun _ => .bind (built_hideAll .modal) fun _ =>
    .pure _

theorem built_question (name : String) (args : Fields) : Built P (question name args) := by
  refine .bind (.gets fun _ _ => rfl) fun ticket =>
    .bind (.change (.apart fun _ _ => rfl)) fun _ =>
      .bind (built_discard (built_showSurface .modal name args (some ticket))) fun _ =>
        .bind (.change ⟨fun s T => ?_, fun s => ?_, fun s => ?_, fun s => ?_, fun s => ?_⟩)
          fun _ => .pure _
  · rw [(Session.unseen_resolve ticket false).trace]
    exact (apply_ite (Session.retrace · T) _ _ _).symm
  · split
    · rfl
    · exact (Session.unseen_resolve ticket false).settings s
  · split
    · rfl
    · exact (Session.unseen_resolve ticket false).values s
  · split
    · rfl
    · exact (Session.unseen_resolve ticket false).reloads s
  · split
    · exact List.prefix_rfl
    · exact (Session.unseen_resolve ticket false).listeners s

theorem built_askConfirm (name : String) (previous next : Json) :
    Built P (askConfirm name previous next) := built_question name _

theorem built_arrange (screen : Screen) : Built P (arrange screen) :=
  .bind built_hideViews fun _ =>
    .bind (.forIn fun _ _ _ => .bind (built_discard (built_showSurface .modal _ [] none))
      fun _ => .pure _) fun _ =>
    .bind (.forIn fun _ _ _ => .bind (built_discard (built_showSurface .interface _ [] none))
      fun _ => .pure _) fun _ => .pure _

theorem built_applyMode (m : Mode) (h : AdmitsWrites P (some .mode)) :
    Built P (applyMode m) := by
  obtain ⟨name, patch, screen, logic⟩ := m
  refine .bind (built_writeAll patch h) fun _ => ?_
  cases screen with
  | none =>
      cases logic with
      | none => exact .pure _
      | some actions => exact .react _
  | some screen =>
      refine .bind (built_arrange screen) fun _ => ?_
      cases logic with
      | none => exact .pure _
      | some actions => exact .react _

end

theorem built_eachField (f : Form) (spec : Table (List String))
    {act : List String → ElementRef → Act Unit} (h : ∀ ds e, Built P (act ds e)) :
    Built P (eachField f spec act) := by
  induction spec with
  | nil => exact .pure _
  | cons entry spec ih =>
      rw [eachField_cons]
      refine .bind (.gets fun _ _ => rfl) fun e => .bind ?_ fun _ => ih
      cases e with
      | none => exact .pure _
      | some e => exact h entry.2 e

theorem built_newForm (name : String) (elements : List ElementRef) :
    Built P (newForm name elements) :=
  .bind (.gets fun _ _ => rfl) fun _ =>
    .bind (.change (.apart fun _ _ => rfl)) fun _ => .pure _

theorem built_mark (good : Bool) (e : ElementRef) : Built P (mark good e) := by
  refine .bind (.gets fun _ _ => rfl) fun _ => ?_
  split
  · exact built_modify e _
  · exact built_modify e _

theorem built_checkField (b : BoundForm) (e : ElementRef) : Built P (checkField b e) := by
  refine .bind (built_element e) fun x => ?_
  split
  · exact .pure _
  · exact .bind built_separators fun _ => .bind (.gets fun _ _ => rfl) fun _ =>
      .bind (built_mark _ e) fun _ => .pure _

theorem built_instrument (b : BoundForm) : Built P (instrument b) := by
  have wire (event : EventKind) (h : Handler) (l : List ElementRef) :
      Built P (ForIn.forIn l PUnit.unit fun e (_ : PUnit) => do
        onEvent e event h
        pure (ForInStep.yield PUnit.unit)) :=
    .forIn fun e _ _ => .bind (built_onEvent e event h) fun _ => .pure _
  exact .bind (.gets fun _ _ => rfl) fun _ => .bind (.gets fun _ _ => rfl) fun _ =>
    .bind (wire .click _ _) fun _ => .bind (.gets fun _ _ => rfl) fun _ =>
      .bind (wire .click _ _) fun _ => .bind (.gets fun _ _ => rfl) fun _ =>
        .bind (wire .blur _ _) fun _ => .pure _

theorem built_clickSubmit (b : BoundForm) (e : ElementRef) : Built P (clickSubmit b e) := by
  refine .bind (built_element e) fun x => ?_
  split
  · exact .bind (built_modify e _) fun _ => .change (.apart fun _ _ => rfl)
  · exact .pure _

theorem built_callHook {e : Event} (h : P e) (hw : e.write? = none)
    (hook : Option (List Command)) : Built P (callHook e hook) := by
  cases hook with
  | some actions => exact .bind (.emit h hw) fun _ => .attempt (.react _)
  | none => exact .pure _

theorem built_clearMarks (b : BoundForm) : Built P (clearMarks b) :=
  .bind (.gets fun _ _ => rfl) fun _ => .bind (.gets fun _ _ => rfl) fun _ =>
    .forEach fun e _ => built_modify e _

section
variable [AdmitsRoutine P]

theorem built_connectForm (f : Form) (spec : Table (List String)) (both : Bool) :
    Built P (connectForm f spec both) := by
  unfold connectForm
  cases both with
  | true => exact .throw _
  | false =>
      rw [if_neg Bool.false_ne_true]
      exact built_eachField f spec fun ds e => built_connectAll .load ds e _

/-- A form is saved under its own source. -/
theorem built_saveForm (f : Form) (spec : Table (List String))
    (h : AdmitsWrites P (some f.source)) : Built P (saveForm f spec) :=
  built_eachField f spec fun ds e => .bind (built_element e) fun _ =>
    built_executeAll .save _ e ds h

theorem built_loadForm (f : Form) (spec : Table (List String)) (h : AdmitsWrites P none) :
    Built P (loadForm f spec) :=
  built_eachField f spec fun ds e => built_executeAll .load none e ds h

theorem built_restoreForm (b : BoundForm) (h : AdmitsWrites P none) : Built P (restoreForm b) := by
  unfold restoreForm
  split
  · exact built_loadForm b.form b.state h
  · exact .pure _

theorem built_rejectFields (b : BoundForm) (names : List String) :
    Built P (rejectFields b names) :=
  .bind (.forIn fun _ _ _ => .bind (.gets fun _ _ => rfl) fun _ =>
    .bind (.forIn fun e _ _ => .bind (built_mark false e) fun _ => .pure _) fun _ => .pure _)
    fun _ => .bind built_needNotifier fun _ => .routine rfl rfl

theorem built_defineForm (f : Form) (spec : Table FieldSpec) (options : FormOptions Command) :
    Built P (defineForm f spec options) :=
  .bind (.gets fun _ _ => rfl) fun _ =>
    .bind (built_callHook (AdmitsRoutine.routine rfl rfl) rfl _) fun _ =>
      .bind (built_connectForm f _ false) fun _ => .bind (built_instrument _) fun _ => .pure _

end

/-- What follows the save. -/
theorem built_acknowledge [Admits P] (b : BoundForm) (response : Json) :
    Built P (do
      if b.options.modal then hideAll .modal
      callHook (.succeeded response) b.options.onSuccess) := by
  have hhook : Built P (callHook (.succeeded response) b.options.onSuccess) :=
    built_callHook (Admits.plain rfl) rfl _
  dsimp only
  split
  · exact .bind (built_hideAll .modal) fun _ => hhook
  · exact hhook

theorem built_succeed [Admits P] (b : BoundForm) (response : Json)
    (h : AdmitsWrites P (some b.form.source)) : Built P (succeed b response) :=
  .bind (built_saveForm b.form b.state h) fun _ => built_acknowledge b response

end ScreenBinding.Act
