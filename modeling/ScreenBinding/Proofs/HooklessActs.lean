import ScreenBinding.Proofs.HookCalls

/-!
# Acts that call no hook

Elements and the store, relations, surfaces, the saves and loads of a form, and requests: none of
their acts calls a hook of a form, whatever it does with other callbacks.
-/
namespace ScreenBinding.Act
variable {α : Type}

instance (x : Except Fault α) : Hookless (ofExcept x) := ⟨fun _ => by cases x <;> rfl⟩

instance : Hookless needRenderer := by unfold needRenderer; infer_instance

instance : Hookless needNotifier := by unfold needNotifier; infer_instance

instance : Hookless needTransport := .seq inferInstance fun way => by cases way <;> infer_instance

instance : Hookless separators := .gets _

instance (e : ElementRef) : Hookless (element e) := .gets _

instance (e : ElementRef) (f : Element → Element) : Hookless (modify e f) := .change _

instance (e : ElementRef) (event : EventKind) : Hookless (raise e event) := by
  unfold raise; infer_instance

instance (e : ElementRef) (v : Json) : Hookless (put e v) := by unfold put; infer_instance

instance (e : ElementRef) : Hookless (textOf e) := by unfold textOf; infer_instance

instance (key : String) (v : Json) (source : Option Source) : Hookless (merge key v source) :=
  .seq inferInstance fun old => by cases old <;> infer_instance

instance (key : String) : Hookless (getList key) :=
  .seq inferInstance fun v => by cases v <;> infer_instance

instance (x : Evaluation) (other : Act Json) [Hookless other] : Hookless (carriedOr x other) := by
  unfold carriedOr
  split <;> infer_instance

instance (x : Evaluation) : Hookless (fieldValue x) := by unfold fieldValue; infer_instance

instance (x : Evaluation) (unset : Json) : Hookless (stateValue x unset) := by
  unfold stateValue; infer_instance

instance (x : Evaluation) : Hookless (stateList x) :=
  .seq inferInstance fun v => by cases v <;> infer_instance

instance (x : Evaluation) (v : Evaluator) : Hookless (evaluate x v) := by
  cases v with
  | loadFirst => exact .seq inferInstance fun items => by cases items <;> infer_instance
  | _ => unfold evaluate; infer_instance

instance (x : Evaluation) (v : Option Evaluator) : Hookless (evaluate? x v) := by
  cases v with
  | none => exact .pure ()
  | some v => exact inferInstanceAs (Hookless (evaluate x v))

instance (t : Trigger) (x : Evaluation) (operators : List Operator) :
    Hookless (evaluateAll t x operators) := by unfold evaluateAll; infer_instance

instance (t : Trigger) (directive : String) (carried : Option Json) (field : ElementRef)
    (source : Option Source) : Hookless (execute t directive carried field source) := by
  change Hookless (if _ then _ else _)
  cases t <;> infer_instance

instance (t : Trigger) (carried : Option Json) (field : ElementRef) (source : Option Source)
    (directives : List String) : Hookless (executeAll t carried field source directives) := by
  induction directives with
  | nil => exact .pure ()
  | cons d ds ih => unfold executeAll; infer_instance

instance (kind : SurfaceKind) (name : String) : Hookless (surface kind name) :=
  .seq inferInstance fun t => by split <;> infer_instance

instance (e : ElementRef) (slot text : String) : Hookless (fillText e slot text) := by
  unfold fillText; infer_instance

instance (e : ElementRef) (slot : String) (items : List String) :
    Hookless (fillList e slot items) := by unfold fillList; infer_instance

instance (args : Fields) (key : String) : Hookless (listArgument args key) := by
  unfold listArgument
  split <;> infer_instance

instance (ticket : Option Ticket) (accepted : Bool) : Hookless (answer ticket accepted) := by
  cases ticket <;> exact .change _

instance (kind : SurfaceKind) (name : String) (x : Surface) (args : Fields)
    (ticket : Option Ticket) : Hookless (refreshConfirm kind name x args ticket) := by
  refine .seq inferInstance fun _ => .seq inferInstance fun _ => ?_
  dsimp only
  split
  · infer_instance
  · exact .seq inferInstance fun slots => .seq inferInstance fun _ => .seq inferInstance fun _ =>
      inferInstance

instance (kind : SurfaceKind) (name : String) (x : Surface) (args : Fields)
    (ticket : Option Ticket) : Hookless (refreshAlert kind name x args ticket) := by
  unfold refreshAlert; infer_instance

instance (kind : SurfaceKind) (name : String) (x : Surface) (args : Fields)
    (ticket : Option Ticket) : Hookless (refresh kind name x args ticket) := by
  unfold refresh
  split <;> infer_instance

instance (kind : SurfaceKind) : Hookless (hideAll kind) := by unfold hideAll; infer_instance

instance (kind : SurfaceKind) (name : String) (args : Fields) (ticket : Option Ticket) :
    Hookless (showSurface kind name args ticket) := by unfold showSurface; infer_instance

instance (name : String) (args : Fields) : Hookless (question name args) := by
  unfold question; infer_instance

instance (name : String) (previous next : Json) : Hookless (askConfirm name previous next) := by
  unfold askConfirm; infer_instance

instance (f : Form) (spec : Table (List String)) (act : List String → ElementRef → Act Unit)
    [∀ ds e, Hookless (act ds e)] : Hookless (eachField f spec act) := by
  have hfield (e : Option ElementRef) (ds : List String) : Hookless (match e with
      | some e => act ds e
      | none => pure ()) := by
    cases e <;> infer_instance
  induction spec with
  | nil => exact .pure ()
  | cons entry spec ih =>
      rw [eachField_cons]
      infer_instance

instance (f : Form) (spec : Table (List String)) : Hookless (saveForm f spec) := by
  unfold saveForm; infer_instance

instance (f : Form) (spec : Table (List String)) : Hookless (loadForm f spec) := by
  unfold loadForm; infer_instance

instance (b : BoundForm) : Hookless (restoreForm b) := by unfold restoreForm; infer_instance

instance (good : Bool) (e : ElementRef) : Hookless (mark good e) := by unfold mark; infer_instance

instance (b : BoundForm) (names : List String) : Hookless (rejectFields b names) := by
  unfold rejectFields; infer_instance

instance (b : BoundForm) : Hookless (clearMarks b) := by unfold clearMarks; infer_instance

instance (url : String) : Hookless (takeReply url) :=
  .seq inferInstance fun replies => by split <;> infer_instance

instance (way : Transport) (verb : Verb) (url : String) (data : Json) :
    Hookless (send way verb url data) := by
  cases way <;> exact .seq inferInstance fun _ => inferInstance

instance (p : Pending) : Hookless (arrived p) := by
  cases p <;> unfold arrived <;> infer_instance

instance (p : Pending) : Hookless (receive p) := by unfold receive; infer_instance

instance (method : String) : Hookless (route method) := by unfold route; infer_instance

instance (method : String) : Hookless (dispatch method) := by unfold dispatch; infer_instance

instance (options : RemoteOptions) (e : Event) : Hookless (lock options e) := by
  unfold lock; infer_instance

instance (options : RemoteOptions) : Hookless (reportSuccess options) := by
  unfold reportSuccess; infer_instance

instance (options : RemoteOptions) : Hookless (reportFailure options) := by
  unfold reportFailure; infer_instance

end ScreenBinding.Act
