import ScreenBinding.Proofs.StageActs

/-!
# Commands and tasks on stage

The acts above surfaces: modes, forms, remote calls, every command and every place where a task goes
on. A command of the host that speaks to the renderer is the only one that needs `raw`.
-/
namespace ScreenBinding
open Act
variable {raw : Bool}

namespace Act
variable {α : Type}

instance (name : String) : Stages raw (mode name) :=
  .seq inferInstance fun t => by split <;> infer_instance

instance (screen : Screen) : Stages raw (arrange screen) := by unfold arrange; infer_instance

instance (m : Mode) : Stages raw (applyMode m) := by
  obtain ⟨name, patch, screen, logic⟩ := m
  unfold applyMode
  cases screen <;> cases logic <;> infer_instance

instance (name : String) (elements : List ElementRef) : Stages raw (newForm name elements) :=
  .seq inferInstance fun _ => .seq (.change fun _ => .apart rfl) fun _ => inferInstance

instance (f : Form) (spec : Table (List String)) (act : List String → ElementRef → Act Unit)
    [∀ ds e, Stages raw (act ds e)] : Stages raw (eachField f spec act) := by
  have hfield (e : Option ElementRef) (ds : List String) : Stages raw (match e with
      | some e => act ds e
      | none => pure ()) := by
    cases e <;> infer_instance
  induction spec with
  | nil => exact .pure ()
  | cons entry spec ih =>
      rw [eachField_cons]
      infer_instance

instance (f : Form) (spec : Table (List String)) (both : Bool) :
    Stages raw (connectForm f spec both) := by unfold connectForm; infer_instance

instance (f : Form) (spec : Table (List String)) : Stages raw (saveForm f spec) := by
  unfold saveForm; infer_instance

instance (f : Form) (spec : Table (List String)) : Stages raw (loadForm f spec) := by
  unfold loadForm; infer_instance

instance (b : BoundForm) : Stages raw (restoreForm b) := by unfold restoreForm; infer_instance

instance (good : Bool) (e : ElementRef) : Stages raw (mark good e) := by
  unfold mark; infer_instance

instance (b : BoundForm) (e : ElementRef) : Stages raw (checkField b e) :=
  .seq inferInstance fun x => by split <;> infer_instance

instance (b : BoundForm) : Stages raw (instrument b) :=
  .seq inferInstance fun _ => .seq inferInstance fun _ => .seq inferInstance fun _ => inferInstance

theorem stages_callHook {e : Event} (h : e.arranges = false) (hook : Option (List Command)) :
    Stages raw (callHook e hook) := by
  cases hook with
  | some actions => exact .seq (.emit h) fun _ => inferInstance
  | none => exact .pure ()

instance (f : Form) (spec : Table FieldSpec) (options : FormOptions Command) :
    Stages raw (defineForm f spec options) :=
  .seq inferInstance fun _ => .seq (stages_callHook rfl _) fun _ => inferInstance

instance (b : BoundForm) (e : ElementRef) : Stages raw (clickSubmit b e) := by
  have hspawn : Stages raw (change fun s =>
      (s.spawn .detached (.cooldown e)).spawn .detached (.submit b)) := .change fun _ => .apart rfl
  unfold clickSubmit; infer_instance

instance (b : BoundForm) (names : List String) : Stages raw (rejectFields b names) :=
  .seq inferInstance fun _ => .seq inferInstance fun _ => .emit rfl

instance (b : BoundForm) : Stages raw (clearMarks b) := by unfold clearMarks; infer_instance

instance (b : BoundForm) (response : Json) : Stages raw (succeed b response) := by
  have hhook : Stages raw (callHook (.succeeded response) b.options.onSuccess) :=
    stages_callHook rfl _
  unfold succeed; infer_instance

instance (ms : Nat) (frame : Frame) (go : Act Progress) [Stages raw go] :
    Stages raw (after ms frame go) := by unfold after; infer_instance

instance (ticket : Ticket) (frame : Frame) (go : Bool → Act Progress) [∀ b, Stages raw (go b)] :
    Stages raw (awaitAnswer ticket frame go) := by
  refine .seq inferInstance fun answers => ?_
  split
  · exact .seq (.change fun _ => .apart rfl) fun _ => inferInstance
  · infer_instance

instance (url : String) : Stages raw (takeReply url) := by
  refine .seq inferInstance fun replies => ?_
  split
  · infer_instance
  · infer_instance
  · infer_instance
  · exact .seq (.change fun _ => .apart rfl) fun _ => inferInstance

instance (t : Transport) (verb : Verb) (url : String) (data : Json) :
    Stages raw (send t verb url data) := by
  cases t <;> exact .seq (.emit rfl) fun _ => inferInstance

instance (p : Pending) : Stages raw (arrived p) := by
  cases p with
  | settled a => exact .pure a
  | canned responses url => exact .seq inferInstance fun _ => inferInstance

instance (p : Pending) : Stages raw (receive p) :=
  .seq inferInstance fun _ => .seq (.emit rfl) fun _ => inferInstance

instance (method : String) : Stages raw (route method) := by unfold route; infer_instance

instance (method : String) : Stages raw (dispatch method) := by unfold dispatch; infer_instance

instance (v : Json) : Stages raw (applyState v) := by
  unfold applyState
  split <;> infer_instance

instance (sub : Subscription) (item : Except TransportFault Json) :
    Stages raw (deliver sub item) := by
  unfold deliver
  split
  · exact .seq (.emit rfl) fun _ => inferInstance
  · infer_instance
  · dsimp only
    infer_instance
  · infer_instance

instance (n ms : Nat) (frame : Frame) : Stages raw (onward n ms frame) := by
  induction n generalizing ms frame with
  | zero => exact inferInstanceAs (Stages raw (pure (.sleep ms frame) : Act Progress))
  | succ n ih =>
      unfold onward
      have hgo (x : Sum Answer Subscription) : Stages raw (match x with
          | .inl a => pure (.done a)
          | .inr sub => onward n sub.interval (.resting sub) : Act Progress) := by
        cases x <;> infer_instance
      cases frame <;> infer_instance

instance (frame : Frame) : Stages raw (proceed frame) := by unfold proceed; infer_instance

instance (sub : Subscription) : Stages raw (ask sub) := by
  unfold ask
  split <;> infer_instance

instance (sub : Subscription) (p : Pending) : Stages raw (arrive sub p) := by
  unfold arrive; infer_instance

instance (url : String) (data : Json) (interval : Nat) (sink : Sink) :
    Stages raw (subscribe url data interval sink) := by unfold subscribe; infer_instance

instance (method : String) (data : Json) (sink : Sink) : Stages raw (poll method data sink) := by
  have hspawn (sub : Subscription) : Stages raw (change (·.spawn .detached (.subscribe sub))) :=
    .change fun _ => .apart rfl
  unfold poll; infer_instance

instance : Stages raw live := by
  refine .seq inferInstance fun id => .change fun s => ?_
  dsimp only
  split
  · exact (Session.Offstage.aborted s _).trans (.apart rfl)
  · exact .apart rfl

instance : Stages raw logState := by
  have hlog : Stages raw (change fun s => { s with logsState := true }) :=
    .change fun _ => .apart rfl
  unfold logState; infer_instance

instance (config : DebugConfig) : Stages raw (enableDebug config) := by
  refine .seq (.change fun _ => .apart rfl) fun _ => .seq inferInstance fun _ =>
    .seq inferInstance fun _ => ?_
  split
  · exact .change fun _ => .apart rfl
  · infer_instance

instance (view : String) (options : StartOptions) : Stages raw (openView view options) := by
  obtain ⟨debug, warn, live⟩ := options
  unfold openView
  cases debug <;> infer_instance

instance (next : AfterReload) (o : ReloadOutcome) : Stages raw (afterReload next o) := by
  cases next <;> unfold afterReload <;> infer_instance

instance (issue : Nat) (o : RemoteOutcome) : Stages raw (concludeReload issue o) := by
  cases o <;> unfold concludeReload <;> infer_instance

instance (next : AfterCall) (o : RemoteOutcome) : Stages raw (afterCall next o) := by
  have hhook (b : BoundForm) : Stages raw (callHook .failed b.options.onFailure) :=
    stages_callHook rfl _
  cases next <;> cases o <;> unfold afterCall <;> infer_instance

theorem stages_lock (options : RemoteOptions) {e : Event} (h : e.arranges = false) :
    Stages raw (lock options e) := by
  have he : Stages raw (emit e) := .emit h
  unfold lock; infer_instance

instance (options : RemoteOptions) : Stages raw (reportSuccess options) := by
  unfold reportSuccess
  split
  · exact .seq inferInstance fun _ => .seq inferInstance fun _ => .emit rfl
  · infer_instance

instance (options : RemoteOptions) : Stages raw (reportFailure options) := by
  unfold reportFailure
  split
  · exact .seq inferInstance fun _ => .seq inferInstance fun _ => .emit rfl
  · infer_instance

instance (c : Call) (x : Except Fault (Except TransportFault Json)) :
    Stages raw (finishCall c x) := by
  refine .seq (stages_lock c.options rfl) fun _ => ?_
  rcases x with why | (why | v)
  · dsimp only
    infer_instance
  · infer_instance
  · infer_instance

instance (method : String) (data : Json) (options : RemoteOptions) (next : AfterCall) :
    Stages raw (call method data options next) := by
  refine .seq (stages_lock options rfl) fun _ => .seq inferInstance fun x => ?_
  split <;> infer_instance

instance (next : AfterReload) : Stages raw (reload next) :=
  .seq (.change fun _ => .apart rfl) fun _ => inferInstance

instance (name : String) (remote : Bool) : Stages raw (setMode name remote) := by
  unfold setMode; infer_instance

instance (view : String) (seed : Seed) (options : StartOptions) :
    Stages raw (start view seed options) := by
  have hwarn : Stages raw (change fun s => { s with warns := true }) := .change fun _ => .apart rfl
  unfold start
  cases seed <;> dsimp only <;> infer_instance

instance (b : BoundForm) (data : Fields) : Stages raw (sendForm b data) := by
  unfold sendForm
  split <;> infer_instance

instance (b : BoundForm) (data : Fields) (accepted : Bool) :
    Stages raw (decided b data accepted) :=
  .seq (.emit rfl) fun _ => inferInstance

instance (name : String) (previous next : Json) : Stages raw (askConfirm name previous next) :=
  inferInstanceAs (Stages raw (question name _))

instance (name title message : String) : Stages raw (askAlert name title message) :=
  inferInstanceAs (Stages raw (question name _))

instance (b : BoundForm) (data : Fields) (hook : Inject Command) :
    Stages raw (inject b data hook) := by
  refine .seq inferInstance fun _ => ?_
  split
  · infer_instance
  · refine .seq inferInstance fun _ => .seq inferInstance fun x => ?_
    split <;> infer_instance

instance (b : BoundForm) (data : Fields) (invalid : List String) :
    Stages raw (judged b data invalid) := by
  change Stages raw (if _ then _ else _)
  split
  · infer_instance
  · refine .seq inferInstance fun _ => ?_
    split
    · exact .seq (.emit rfl) fun _ => inferInstance
    · infer_instance

instance (b : BoundForm) : Stages raw (submit b) := by unfold submit; infer_instance

instance (form : String) (spec : Option (Table (List String))) : Stages raw (specOr form spec) := by
  cases spec <;> unfold specOr <;> infer_instance

instance (name : String) : Stages raw (boundForm name) := by unfold boundForm; infer_instance

instance (name : String) : Stages raw (triggerNamed name) := by unfold triggerNamed; infer_instance

theorem stages_notified {e : Event} (h : e.arranges = false) :
    Stages raw (do needNotifier; emit e) :=
  .seq inferInstance fun _ => .emit h

instance (method text : String) (important : Bool) :
    Stages raw (bridgeMessage method text important) := by
  unfold bridgeMessage
  split
  · rw [pure_bind]
    exact stages_notified rfl
  · rw [pure_bind]
    exact stages_notified rfl
  · rw [pure_bind]
    exact stages_notified rfl
  · exact .throw (.unknownMessageCommand _)

instance (method : String) : Stages raw (bridgeLock method) := by
  unfold bridgeLock
  split
  · rw [pure_bind]
    exact stages_notified rfl
  · rw [pure_bind]
    exact stages_notified rfl
  · exact .throw (.unknownLockCommand _)

/-- The host's own words to the renderer. -/
theorem stages_bridgeModal (h : raw = true) (method : String) (target : Option ElementRef) :
    Stages raw (bridgeModal method target) := by
  refine .seq inferInstance fun _ => ?_
  split
  · exact .step fun s => .hid .modal
  · exact .seq inferInstance fun _ => .step fun s => .opened _ _ h
  · infer_instance
  · infer_instance

instance (c : StateCommand Command) : Stages raw (runState c) := by
  have hmark (b : Bool) : Stages raw (change fun s => { s with isDirty := b }) :=
    .change fun _ => .apart rfl
  cases c <;> unfold runState <;> infer_instance

instance (c : ElementCommand Command) : Stages raw (runElement c) := by
  cases c <;> unfold runElement <;> infer_instance

instance (c : RelationCommand Command) : Stages raw (runRelation c) := by
  cases c with
  | evaluator t o label actions => exact .seq (.change fun _ => .apart rfl) fun _ => inferInstance
  | connector t label => exact .seq (.change fun _ => .apart rfl) fun _ => inferInstance
  | _ => unfold runRelation; infer_instance

instance (c : FormCommand Command) : Stages raw (runForm c) := by
  cases c with
  | define name elements spec options =>
      exact .seq inferInstance fun _ => .seq inferInstance fun _ =>
        .seq (.change fun _ => .apart rfl) fun _ => inferInstance
  | _ => unfold runForm; infer_instance

instance (c : SurfaceCommand Command) : Stages raw (runSurface c) := by
  cases c with
  | define kind name e behavior =>
      exact .seq (.step fun s => s.replaced kind name rfl) fun _ => inferInstance
  | prepare kind => cases kind <;> unfold runSurface <;> infer_instance
  | hide kind => cases kind <;> unfold runSurface <;> infer_instance
  | respond kind name accepted => cases kind <;> unfold runSurface <;> infer_instance
  | mode name patch screen logic =>
      exact .seq (.change fun _ => .apart rfl) fun _ => inferInstance
  | getMode name => exact .seq inferInstance fun t => by split <;> infer_instance
  | _ => unfold runSurface; infer_instance

end Act

/-- Whether a command speaks to the renderer in the words of the host. -/
def Command.bridges : Command → Bool
  | .host (.modal ..) => true
  | _ => false

/-- Whether a task goes on with such a command. -/
def Frame.bridges : Frame → Bool
  | .begin (.now c) => c.bridges
  | _ => false

namespace Act

theorem stages_runHost {c : HostCommand} (h : (Command.host c).bridges = true → raw = true) :
    Stages raw (runHost c) := by
  cases c with
  | note text => exact .seq (.emit rfl) fun _ => inferInstance
  | debug config => unfold runHost; infer_instance
  | poll id method data =>
      exact .seq inferInstance fun _ => .seq (.change fun _ => .apart rfl) fun _ => inferInstance
  | abort id =>
      refine .seq (.change fun s => ?_) fun _ => inferInstance
      split
      · exact .aborted s _
      · exact .refl s
  | install what => cases what <;> exact .seq (.change fun _ => .apart rfl) fun _ => inferInstance
  | modal method e =>
      have hbridge : Stages raw (bridgeModal method e) := stages_bridgeModal (h rfl) method e
      unfold runHost; infer_instance
  | _ => unfold runHost; infer_instance

theorem stages_run {c : Command} (h : c.bridges = true → raw = true) : Stages raw (run c) := by
  cases c with
  | host c => exact stages_runHost h
  | _ => unfold run; infer_instance

instance (l : Listener) (key : String) (v : Json) (writer : Option Source) :
    Stages raw (hear l key v writer) := by
  cases l with
  | load directive field source =>
      change Stages raw (if _ then _ else _)
      infer_instance
  | journal => exact .emit rfl
  | report label actions => exact .seq (.emit rfl) fun _ => inferInstance
  | silent => exact .pure ()

instance (x : Handler) (e : ElementRef) : Stages raw (handle x e) := by
  cases x with
  | watch label actions =>
      exact .seq inferInstance fun _ => .seq inferInstance fun _ => .seq (.emit rfl) fun _ =>
        inferInstance
  | _ => unfold handle; infer_instance

theorem stages_begin {step : Step} (h : (Frame.begin step).bridges = true → raw = true) :
    Stages raw (begin step) := by
  cases step with
  | now c =>
      have hrun : Stages raw (run c) := stages_run h
      unfold begin; infer_instance
  | spawn id step => exact .seq (.change fun _ => .apart rfl) fun _ => inferInstance
  | socket method url data interval take =>
      change Stages raw (if _ then _ else _)
      infer_instance
  | _ => unfold begin; infer_instance

theorem stages_resume {frame : Frame} (h : frame.bridges = true → raw = true) (answer : Bool) :
    Stages raw (resume frame answer) := by
  cases frame with
  | begin step => exact stages_begin h
  | _ => unfold resume; infer_instance

/-- Whatever callbacks do, they are carried out on stage. -/
theorem onStage_cascade (n : Nat) : OnStage true (cascade n) := by
  induction n with
  | zero => exact fun r s x t h => nomatch h
  | succ n ih =>
      intro r s x t h
      cases r with
      | listener l key v source => exact Stages.staged (a := hear l key v source) ih s x t h
      | handler y e => exact Stages.staged (a := handle y e) ih s x t h
      | script commands | hook commands =>
          have hrun (c : Command) : Stages true (run c) := stages_run fun _ => rfl
          have hall : Stages true (runAll commands) := by unfold runAll; infer_instance
          exact hall.staged ih s x t h

end Act
end ScreenBinding
