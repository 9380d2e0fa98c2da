import ScreenBinding.Proofs.Queue
import ScreenBinding.Proofs.Withholding

/-!
# The acts of the engine and the queue

Every act of the engine takes only steps that the queue admits, in the order in which the engine
defines them. Most are found to do so by their parts; what is said here is where a task is spawned,
aborted or resumed, and that each other change goes on aside.
-/
namespace ScreenBinding
open Act

/-- The element that a command switches on or off. -/
def Command.switches : Command → Option ElementRef
  | .element (.disable e _) => some e
  | _ => none

/-- The element that a task switches on or off where it goes on. -/
def Frame.switches : Frame → Option ElementRef
  | .begin (.now c) => c.switches
  | .cool e => some e
  | _ => none

variable {free : ElementRef → Prop}

namespace Session

theorem queued_drop (s : Session) (ticket : Option Ticket) : Queued free s (s.drop ticket) := by
  cases ticket with
  | none => exact .refl
  | some k => exact .single (.resolved k false)

theorem aside_setSurfaces (s : Session) (kind : SurfaceKind) (t : Table Surface) :
    s.Aside (s.setSurfaces kind t) := by
  cases kind <;> exact .apart rfl

theorem queued_ask (s : Session) (kind : SurfaceKind) (name : String) (ticket : Option Ticket) :
    Queued free s (s.ask kind name ticket) :=
  .head (.aside (s.aside_setSurfaces kind _)) (queued_drop _ _)

theorem queued_defineSurface (s : Session) (kind : SurfaceKind) (name : String) (x : Surface) :
    Queued free s (s.defineSurface kind name x) :=
  .head (.aside (s.aside_setSurfaces kind _)) (queued_drop _ _)

end Session

/-- The route that a session has for a method. -/
def Session.routeOf (s : Session) (method : String) : Except Fault Route := do
  (← MethodTable.ofValue (Table.find? s.values "methods")).route method

/-- The subscription is the one that a poll of a method makes in a session. -/
structure Subscription.Made (sub : Subscription) (s : Session) (method : String) (data : Json)
    (sink : Sink) : Prop where
  transport : s.transport = some sub.transport
  url : (s.routeOf method).map Route.url = .ok sub.url
  data : sub.data = data
  interval : sub.interval = s.settings.network.pollMs
  sink : sub.sink = sink

namespace Act
variable {α : Type}

instance (x : Except Fault α) : Queues free (ofExcept x) := by
  cases x with
  | ok a => exact .pure a
  | error f => exact .throw f

instance : Queues free needRenderer := by unfold needRenderer; infer_instance

instance : Queues free needNotifier := by unfold needNotifier; infer_instance

instance : Queues free needTransport := .seq inferInstance fun t => by cases t <;> infer_instance

instance : Queues free separators := .gets _

instance (e : ElementRef) : Queues free (element e) := .gets _

/-- An element is disabled or not as before. -/
theorem queues_modify {e : ElementRef} {f : Element → Element}
    (h : ∀ x, (f x).disabled = x.disabled) : Queues free (modify e f) :=
  .aside fun s => .modified s e h

/-- Who is registered stays registered. -/
instance (e : ElementRef) (event : EventKind) (h : Handler) : Queues free (onEvent e event h) :=
  .aside fun _ => ⟨rfl, rfl, rfl, rfl, rfl, rfl, rfl, rfl, rfl, List.subset_append_left _ _,
    ⟨id, id, id⟩⟩

theorem registered_of_mem {s : Session} {h : Handler} {e : ElementRef} {event : EventKind}
    (hh : h ∈ s.handlersOf e event) : h.Registered e s := by
  obtain ⟨⟨e', event', h'⟩, hr, rfl⟩ := List.mem_map.mp hh
  obtain ⟨hmem, he⟩ := List.mem_filter.mp hr
  obtain ⟨rfl, rfl⟩ : e' = e ∧ event' = event := by simpa using he
  exact ⟨event', hmem⟩

/-- Who is called when an event is raised was registered before, and so still is. -/
theorem queued_calls {carry : React} (hc : OnQueue free carry) (e : ElementRef)
    {l : List Handler} {s t : Session} {x : Except Fault Unit}
    (hl : ∀ h ∈ l, h.Registered e s)
    (hr : (do for h in l do react (.handler h e)) carry s = some (x, t)) : Queued free s t := by
  induction l generalizing s with
  | nil =>
      cases hr
      exact .refl
  | cons h l ih =>
      have hcall {u : Session} {y : Except Fault Unit} (hu : carry (.handler h e) s = some (y, u)) :
          Queued free s u := by
        refine hc _ _ _ _ (fun h' e' he => ?_) hu
        cases he
        exact hl h (List.mem_cons_self ..)
      rw [forEach_cons] at hr
      obtain ⟨_, u, hu, ht⟩ | ⟨f, hf, -⟩ := bind_cases hr
      · exact (hcall hu).trans (ih (fun k hk =>
          (hl k (List.mem_cons_of_mem _ hk)).mono (hcall hu).handlers) ht)
      · exact hcall hf

instance (e : ElementRef) (event : EventKind) : Queues free (raise e event) where
  queued hc s x t h := by
    obtain ⟨l, u, hu, ht⟩ | ⟨f, hf, -⟩ := bind_cases h
    · cases hu
      exact queued_calls hc e (fun _ => registered_of_mem) ht
    · cases hf

instance (e : ElementRef) (v : Json) : Queues free (put e v) :=
  .seq inferInstance fun _ => .seq (queues_modify fun _ => rfl) fun _ => inferInstance

instance (e : ElementRef) (text : String) : Queues free (type e text) :=
  .seq (queues_modify fun _ => rfl) fun _ => inferInstance

instance (e : ElementRef) : Queues free (click e) := by unfold click; infer_instance

instance (e : ElementRef) : Queues free (textOf e) := by unfold textOf; infer_instance

instance (keys : List String) (l : Listener) : Queues free (listen keys l) :=
  .aside fun _ => .apart rfl

instance (key : String) (v : Json) (source : Option Source) : Queues free (store key v source) :=
  .seq (.aside fun _ => .apart rfl) fun _ => inferInstance

instance (key : String) (v : Json) (source : Option Source) :
    Queues free (notify key v source) := by
  unfold notify; infer_instance

instance (key : String) (v : Json) (source : Option Source) : Queues free (write key v source) := by
  unfold write; infer_instance

instance (key : String) (v : Json) (source : Option Source) : Queues free (merge key v source) :=
  .seq inferInstance fun old => by cases old <;> infer_instance

instance (values : Fields) (source : Option Source) : Queues free (writeAll values source) := by
  unfold writeAll; infer_instance

instance (key : String) : Queues free (getList key) :=
  .seq inferInstance fun v => by cases v <;> infer_instance

instance (x : Evaluation) (other : Act Json) [Queues free other] :
    Queues free (carriedOr x other) := by
  unfold carriedOr
  split <;> infer_instance

instance (x : Evaluation) : Queues free (fieldValue x) := by unfold fieldValue; infer_instance

instance (x : Evaluation) (unset : Json) : Queues free (stateValue x unset) := by
  unfold stateValue; infer_instance

instance (x : Evaluation) : Queues free (stateList x) :=
  .seq inferInstance fun v => by cases v <;> infer_instance

instance (x : Evaluation) (v : Evaluator) : Queues free (evaluate x v) := by
  cases v with
  | loadFirst => exact .seq inferInstance fun items => by cases items <;> infer_instance
  | _ => unfold evaluate; infer_instance

instance (x : Evaluation) (v : Option Evaluator) : Queues free (evaluate? x v) := by
  cases v <;> unfold evaluate? <;> infer_instance

instance (t : Trigger) (x : Evaluation) (operators : List Operator) :
    Queues free (evaluateAll t x operators) := by unfold evaluateAll; infer_instance

instance (t : Trigger) (directive : String) (carried : Option Json) (field : ElementRef)
    (source : Option Source) : Queues free (execute t directive carried field source) := by
  change Queues free (if _ then _ else _)
  cases t with
  | save => infer_instance
  | load =>
      have hcount : Queues free (change fun s => { s with loading := s.loading+1 }) :=
        .aside fun _ => .apart rfl
      have hcounted : Queues free ((evaluateAll .load ⟨(Directive.parse directive).key, carried,
          field, source⟩ (Directive.parse directive).operators).ending
            fun s => { s with loading := s.loading-1 }) := .ending fun _ => .apart rfl
      infer_instance

instance (t : Trigger) (carried : Option Json) (field : ElementRef) (source : Option Source)
    (directives : List String) : Queues free (executeAll t carried field source directives) := by
  induction directives with
  | nil => exact .pure ()
  | cons d ds ih => unfold executeAll; infer_instance

instance (t : Trigger) (directive : String) (field : ElementRef) (source : Option Source) :
    Queues free (connect t directive field source) := by
  refine .seq inferInstance fun connectors => ?_
  split
  · infer_instance
  · cases t <;> infer_instance

instance (t : Trigger) (directives : List String) (field : ElementRef) (source : Option Source) :
    Queues free (connectAll t directives field source) := by unfold connectAll; infer_instance

instance (kind : SurfaceKind) (name : String) : Queues free (surface kind name) :=
  .seq inferInstance fun t => by split <;> infer_instance

instance (kind : SurfaceKind) : Queues free (surfaceClass kind) := by
  unfold surfaceClass; infer_instance

instance (name : String) (x : Surface) : Queues free (prepareSurface name x) := by
  unfold prepareSurface
  split <;> infer_instance

instance (kind : SurfaceKind) : Queues free (prepareAll kind) := by
  have hclass (e : ElementRef) (c : String) : Queues free (modify e (·.addClass c)) :=
    queues_modify fun _ => rfl
  unfold prepareAll; infer_instance

instance : Queues free prepareViews := by unfold prepareViews; infer_instance

instance (e : ElementRef) (slot text : String) : Queues free (fillText e slot text) := by
  unfold fillText; infer_instance

instance (e : ElementRef) (slot : String) (items : List String) :
    Queues free (fillList e slot items) := by
  unfold fillList; infer_instance

instance (args : Fields) (key : String) : Queues free (listArgument args key) := by
  unfold listArgument
  split <;> infer_instance

/-- Whoever asked is resumed at once. -/
instance (ticket : Option Ticket) (accepted : Bool) : Queues free (answer ticket accepted) := by
  cases ticket with
  | none => exact .change fun s => .refl
  | some k => exact .change fun s => .single (.resolved k accepted)

/-- Whoever asked before is resumed. -/
instance (kind : SurfaceKind) (name : String) (ticket : Option Ticket) :
    Queues free (change (·.ask kind name ticket)) := .change fun s => s.queued_ask kind name ticket

instance (kind : SurfaceKind) (name : String) (x : Surface) (args : Fields)
    (ticket : Option Ticket) : Queues free (refreshConfirm kind name x args ticket) := by
  refine .seq inferInstance fun _ => .seq inferInstance fun _ => ?_
  dsimp only
  split
  · infer_instance
  · exact .seq inferInstance fun slots => .seq inferInstance fun _ => .seq inferInstance fun _ =>
      inferInstance

instance (kind : SurfaceKind) (name : String) (x : Surface) (args : Fields)
    (ticket : Option Ticket) : Queues free (refreshAlert kind name x args ticket) := by
  unfold refreshAlert; infer_instance

instance (kind : SurfaceKind) (name : String) (x : Surface) (args : Fields)
    (ticket : Option Ticket) : Queues free (refresh kind name x args ticket) := by
  unfold refresh
  split <;> infer_instance

instance (kind : SurfaceKind) : Queues free (hideAll kind) := by unfold hideAll; infer_instance

instance : Queues free hideViews := by unfold hideViews; infer_instance

instance (kind : SurfaceKind) (name : String) (args : Fields) (ticket : Option Ticket) :
    Queues free (showSurface kind name args ticket) := by unfold showSurface; infer_instance

/-- Whoever waits for the response is resumed. -/
instance (kind : SurfaceKind) (name : String) (accepted : Bool) :
    Queues free (respond kind name accepted) := by
  refine .seq inferInstance fun x => ?_
  split
  · rename_i k _
    refine .seq (.change fun s => ?_) fun _ => inferInstance
    exact .head (.aside (s.aside_setSurfaces kind _)) (.single (.resolved k _))
  · infer_instance

instance (name : String) (accepted : Bool) : Queues free (respondModal name accepted) := by
  unfold respondModal; infer_instance

/-- A surface that has not taken the question drops it. -/
instance (name : String) (args : Fields) : Queues free (question name args) := by
  refine .seq inferInstance fun k => .seq (.aside fun _ => .apart rfl) fun _ =>
    .seq inferInstance fun _ => .seq (.change fun s => ?_) fun _ => inferInstance
  split
  · exact .refl
  · exact .single (.resolved k false)

instance (name : String) (previous next : Json) : Queues free (askConfirm name previous next) :=
  inferInstanceAs (Queues free (question name _))

instance (name title message : String) : Queues free (askAlert name title message) :=
  inferInstanceAs (Queues free (question name _))

instance (name : String) : Queues free (mode name) :=
  .seq inferInstance fun t => by split <;> infer_instance

instance (screen : Screen) : Queues free (arrange screen) := by unfold arrange; infer_instance

instance (m : Mode) : Queues free (applyMode m) := by
  obtain ⟨name, patch, screen, logic⟩ := m
  unfold applyMode
  cases screen <;> cases logic <;> infer_instance

instance (name : String) (elements : List ElementRef) : Queues free (newForm name elements) :=
  .seq inferInstance fun _ => .seq (.aside fun _ => .apart rfl) fun _ => inferInstance

instance (f : Form) (spec : Table (List String)) (act : List String → ElementRef → Act Unit)
    [∀ ds e, Queues free (act ds e)] : Queues free (eachField f spec act) := by
  have hfield (e : Option ElementRef) (ds : List String) : Queues free (match e with
      | some e => act ds e
      | none => pure ()) := by
    cases e <;> infer_instance
  induction spec with
  | nil => exact .pure ()
  | cons entry spec ih =>
      rw [eachField_cons]
      infer_instance

instance (f : Form) (spec : Table (List String)) (both : Bool) :
    Queues free (connectForm f spec both) := by
  unfold connectForm; infer_instance

instance (f : Form) (spec : Table (List String)) : Queues free (saveForm f spec) := by
  unfold saveForm; infer_instance

instance (f : Form) (spec : Table (List String)) : Queues free (loadForm f spec) := by
  unfold loadForm; infer_instance

instance (b : BoundForm) : Queues free (restoreForm b) := by unfold restoreForm; infer_instance

instance (good : Bool) (e : ElementRef) : Queues free (mark good e) := by
  have hmark (c d : String) : Queues free (modify e fun x => (x.removeClass c).addClass d) :=
    queues_modify fun _ => rfl
  unfold mark; infer_instance

instance (b : BoundForm) (e : ElementRef) : Queues free (checkField b e) :=
  .seq inferInstance fun x => by split <;> infer_instance

instance (b : BoundForm) : Queues free (instrument b) :=
  .seq inferInstance fun _ => .seq inferInstance fun _ => .seq inferInstance fun _ => inferInstance

instance (e : Event) (hook : Option (List Command)) : Queues free (callHook e hook) := by
  cases hook <;> unfold callHook <;> infer_instance

instance (f : Form) (spec : Table FieldSpec) (options : FormOptions Command) :
    Queues free (defineForm f spec options) := by unfold defineForm; infer_instance

/-- A click presses a button that is enabled. -/
theorem clickSubmit_eq (b : BoundForm) (e : ElementRef) (carry : React) (s : Session) :
    clickSubmit b e carry s =
      some (.ok (), if (s.element e).disabled then s else s.press b e) := by
  unfold clickSubmit
  refine (run_bind_ok (x := s.element e) rfl).trans ?_
  cases (s.element e).disabled <;> rfl

theorem queued_clickSubmit {b : BoundForm} {e : ElementRef} {carry : React} {s t : Session}
    {x : Except Fault Unit} (hb : (Handler.submit b).Registered e s)
    (h : clickSubmit b e carry s = some (x, t)) : Queued free s t := by
  rw [clickSubmit_eq] at h
  cases h
  cases hd : (s.element e).disabled with
  | true => exact .refl
  | false => exact .single (.pressed hb hd)

instance (b : BoundForm) (names : List String) : Queues free (rejectFields b names) := by
  unfold rejectFields; infer_instance

instance (b : BoundForm) : Queues free (clearMarks b) := by
  have hclear (e : ElementRef) (c d : String) :
      Queues free (modify e fun x => (x.removeClass c).removeClass d) :=
    queues_modify fun _ => rfl
  unfold clearMarks; infer_instance

instance (b : BoundForm) (response : Json) : Queues free (succeed b response) := by
  unfold succeed; infer_instance

instance (ms : Nat) (frame : Frame) (go : Act Progress) [Queues free go] :
    Queues free (after ms frame go) := by unfold after; infer_instance

instance (ticket : Ticket) (frame : Frame) (go : Bool → Act Progress) [∀ b, Queues free (go b)] :
    Queues free (awaitAnswer ticket frame go) := by
  refine .seq inferInstance fun answers => ?_
  split
  · exact .seq (.aside fun _ => .apart rfl) fun _ => inferInstance
  · infer_instance

instance (url : String) : Queues free (takeReply url) := by
  refine .seq inferInstance fun replies => ?_
  split
  · infer_instance
  · infer_instance
  · infer_instance
  · exact .seq (.aside fun _ => .apart rfl) fun _ => inferInstance

instance (t : Transport) (verb : Verb) (url : String) (data : Json) :
    Queues free (send t verb url data) := by
  cases t <;> unfold send <;> infer_instance

instance (p : Pending) : Queues free (arrived p) := by
  cases p <;> unfold arrived <;> infer_instance

instance (p : Pending) : Queues free (receive p) := by unfold receive; infer_instance

instance (method : String) : Queues free (route method) := by unfold route; infer_instance

instance (method : String) : Queues free (dispatch method) := by unfold dispatch; infer_instance

instance (v : Json) : Queues free (applyState v) := by
  unfold applyState
  split <;> infer_instance

instance (sub : Subscription) (item : Except TransportFault Json) :
    Queues free (deliver sub item) := by
  unfold deliver
  split
  · infer_instance
  · infer_instance
  · dsimp only
    infer_instance
  · infer_instance

instance (n ms : Nat) (frame : Frame) : Queues free (onward n ms frame) := by
  induction n generalizing ms frame with
  | zero => exact inferInstanceAs (Queues free (pure (.sleep ms frame) : Act Progress))
  | succ n ih =>
      unfold onward
      have hgo (x : Sum Answer Subscription) : Queues free (match x with
          | .inl a => pure (.done a)
          | .inr sub => onward n sub.interval (.resting sub) : Act Progress) := by
        cases x <;> infer_instance
      cases frame <;> infer_instance

instance (frame : Frame) : Queues free (proceed frame) := by unfold proceed; infer_instance

instance (sub : Subscription) : Queues free (ask sub) := by
  unfold ask
  split <;> infer_instance

instance (sub : Subscription) (p : Pending) : Queues free (arrive sub p) := by
  unfold arrive; infer_instance

instance (url : String) (data : Json) (interval : Nat) (sink : Sink) :
    Queues free (subscribe url data interval sink) := by unfold subscribe; infer_instance

section
variable {carry : React} {s t : Session}

/-- Nothing is changed in order to find a route and a transport. -/
theorem run_route (method : String) : route method carry s = some (s.routeOf method, s) := by
  unfold route Session.routeOf
  rw [run_bind_ok (run_gets _)]
  cases MethodTable.ofValue (Table.find? s.values "methods") with
  | error e => rfl
  | ok table => exact run_ofExcept _

theorem needTransport_cases {r : Except Fault Transport}
    (h : needTransport carry s = some (r, t)) :
    t = s ∧ ∀ way, r = .ok way → s.transport = some way := by
  unfold needTransport at h
  rw [run_bind_ok (run_gets _)] at h
  cases hx : s.transport with
  | none =>
      rw [hx] at h
      cases h
      exact ⟨rfl, fun way hway => nomatch hway⟩
  | some y =>
      rw [hx] at h
      cases h
      exact ⟨rfl, fun way hway => congrArg some (Except.ok.inj hway)⟩

theorem subscribe_cases {url : String} {data : Json} {interval : Nat} {sink : Sink}
    {r : Except Fault Subscription} (h : subscribe url data interval sink carry s = some (r, t)) :
    t = s ∧ ∀ sub, r = .ok sub →
      ∃ way, s.transport = some way ∧ sub = ⟨way, url, data, interval, sink⟩ := by
  obtain ⟨way, u, hu, ht⟩ | ⟨f, he, rfl⟩ := bind_cases h
  · obtain ⟨rfl, hway⟩ := needTransport_cases hu
    cases ht
    exact ⟨rfl, fun sub hsub => ⟨way, hway way rfl, (Except.ok.inj hsub).symm⟩⟩
  · exact ⟨(needTransport_cases he).1, fun sub hsub => nomatch hsub⟩

/-- A subscription is a task of its own; where there is no way to ask, nothing happens. -/
theorem poll_cases {method : String} {data : Json} {sink : Sink} {r : Except Fault Nat}
    (h : poll method data sink carry s = some (r, t)) :
    (∃ f, r = .error f ∧ t = s) ∨ ∃ sub : Subscription, sub.Made s method data sink ∧
      r = .ok s.nextTask ∧ t = s.spawn .detached (.subscribe sub) := by
  obtain ⟨way, u, hu, ht⟩ | ⟨f, he, hr⟩ := bind_cases h
  · obtain ⟨hroute, rfl⟩ := Prod.mk.inj (Option.some.inj ((run_route method).symm.trans hu))
    rw [run_bind_ok (run_gets _)] at ht
    obtain ⟨sub, w, hw, hspawn⟩ | ⟨f, he, hr⟩ := bind_cases ht
    · obtain ⟨rfl, hmade⟩ := subscribe_cases hw
      obtain ⟨y, hy, rfl⟩ := hmade sub rfl
      cases hspawn
      exact .inr ⟨_, ⟨hy, by rw [hroute]; rfl, rfl, rfl, rfl⟩, rfl, rfl⟩
    · exact .inl ⟨f, hr, (subscribe_cases he).1⟩
  · exact .inl ⟨f, hr, (Prod.mk.inj (Option.some.inj ((run_route method).symm.trans he))).2.symm⟩

/-- A call for the state to be kept in step polls the whole state; the subscription follows on the
one before. Where there is no way to ask, nothing happens. -/
theorem live_follows {r : Except Fault Unit} (h : live carry s = some (r, t)) :
    (∃ f, r = .error f ∧ t = s) ∨ ∃ sub : Subscription,
      sub.Made s "state.load" (.object []) .state ∧ r = .ok () ∧ t = s.follow sub := by
  unfold live at h
  obtain ⟨id, u, hu, ht⟩ | ⟨f, he, hr⟩ := bind_cases h
  · obtain ⟨f, hf, -⟩ | ⟨sub, hsub, hid, rfl⟩ := poll_cases hu
    · cases hf
    · cases hid
      cases ht
      refine .inr ⟨sub, hsub, rfl, ?_⟩
      cases hl : s.live <;> simp only [Session.follow, Session.dismiss, Session.spawn, hl]
  · obtain ⟨g, -, rfl⟩ | ⟨sub, -, hok, -⟩ := poll_cases he
    · exact .inl ⟨f, hr, rfl⟩
    · cases hok

/-- A subscription follows on the one before, or nothing happens. -/
theorem live_cases {r : Except Fault Unit} (h : live carry s = some (r, t)) :
    (∃ f, r = .error f ∧ t = s) ∨ ∃ sub : Subscription, sub.isLive = true ∧ r = .ok () ∧
      t = s.follow sub := by
  obtain hfault | ⟨sub, hsub, hr, ht⟩ := live_follows h
  · exact .inl hfault
  · exact .inr ⟨sub, by rw [Subscription.isLive, hsub.sink], hr, ht⟩

end

instance : Queues free live where
  queued _ s x t h := by
    obtain ⟨-, -, rfl⟩ | ⟨sub, hsub, -, rfl⟩ := live_cases h
    · exact .refl
    · exact .single (.followed hsub)

instance : Queues free logState := by
  have hlog : Queues free (change fun s => { s with logsState := true }) :=
    .aside fun _ => .apart rfl
  unfold logState; infer_instance

/-- Canned responses take the place of a transport. -/
instance (config : DebugConfig) : Queues free (enableDebug config) := by
  refine .seq (.aside fun _ => .apart rfl) fun _ => .seq inferInstance fun _ =>
    .seq inferInstance fun _ => ?_
  split
  · exact .aside fun s =>
      ⟨rfl, rfl, rfl, rfl, rfl, rfl, rfl, rfl, rfl, List.Subset.refl _, ⟨id, id, fun _ => rfl⟩⟩
  · infer_instance

instance (view : String) (options : StartOptions) : Queues free (openView view options) := by
  obtain ⟨debug, warn, live⟩ := options
  unfold openView
  cases debug <;> infer_instance

instance (next : AfterReload) (o : ReloadOutcome) : Queues free (afterReload next o) := by
  cases next <;> unfold afterReload <;> infer_instance

instance (issue : Nat) (o : RemoteOutcome) : Queues free (concludeReload issue o) := by
  cases o <;> unfold concludeReload <;> infer_instance

instance (next : AfterCall) (o : RemoteOutcome) : Queues free (afterCall next o) := by
  cases next <;> cases o <;> unfold afterCall <;> infer_instance

instance (options : RemoteOptions) (e : Event) : Queues free (lock options e) := by
  unfold lock; infer_instance

instance (options : RemoteOptions) : Queues free (reportSuccess options) := by
  unfold reportSuccess; infer_instance

instance (options : RemoteOptions) : Queues free (reportFailure options) := by
  unfold reportFailure; infer_instance

instance (c : Call) (x : Except Fault (Except TransportFault Json)) :
    Queues free (finishCall c x) := by
  rcases x with why | (why | v) <;> unfold finishCall <;> dsimp only <;> infer_instance

instance (method : String) (data : Json) (options : RemoteOptions) (next : AfterCall) :
    Queues free (call method data options next) := by
  refine .seq inferInstance fun _ => .seq inferInstance fun x => ?_
  split <;> infer_instance

instance (next : AfterReload) : Queues free (reload next) :=
  .seq (.aside fun _ => .apart rfl) fun _ => inferInstance

instance (name : String) (remote : Bool) : Queues free (setMode name remote) := by
  unfold setMode; infer_instance

instance (view : String) (seed : Seed) (options : StartOptions) :
    Queues free (start view seed options) := by
  have hwarn : Queues free (change fun s => { s with warns := true }) := .aside fun _ => .apart rfl
  unfold start
  cases seed <;> dsimp only <;> infer_instance

instance (b : BoundForm) (data : Fields) : Queues free (sendForm b data) := by
  unfold sendForm
  split <;> infer_instance

instance (b : BoundForm) (data : Fields) (accepted : Bool) :
    Queues free (decided b data accepted) := by
  unfold decided; infer_instance

instance (b : BoundForm) (data : Fields) (hook : Inject Command) :
    Queues free (inject b data hook) := by
  refine .seq inferInstance fun _ => ?_
  split
  · infer_instance
  · refine .seq inferInstance fun _ => .seq inferInstance fun x => ?_
    split <;> infer_instance

instance (b : BoundForm) (data : Fields) (invalid : List String) :
    Queues free (judged b data invalid) := by
  change Queues free (if _ then _ else _)
  split
  · infer_instance
  · refine .seq inferInstance fun _ => ?_
    split <;> infer_instance

instance (b : BoundForm) : Queues free (submit b) := by unfold submit; infer_instance

instance (form : String) (spec : Option (Table (List String))) :
    Queues free (specOr form spec) := by
  cases spec <;> unfold specOr <;> infer_instance

instance (name : String) : Queues free (boundForm name) := by unfold boundForm; infer_instance

instance (name : String) : Queues free (triggerNamed name) := by unfold triggerNamed; infer_instance

instance (method : String) (target : Option ElementRef) :
    Queues free (bridgeModal method target) := by
  refine .seq inferInstance fun _ => ?_
  split <;> infer_instance

instance (method text : String) (important : Bool) :
    Queues free (bridgeMessage method text important) := by
  unfold bridgeMessage
  split <;> infer_instance

instance (method : String) : Queues free (bridgeLock method) := by
  unfold bridgeLock
  split <;> infer_instance

instance (c : StateCommand Command) : Queues free (runState c) := by
  have hmark (b : Bool) : Queues free (change fun s => { s with isDirty := b }) :=
    .aside fun _ => .apart rfl
  cases c <;> unfold runState <;> infer_instance

/-- An element that is switched has to be free. -/
theorem queues_runElement (c : ElementCommand Command) (h : ∀ e v, c = .disable e v → free e) :
    Queues free (runElement c) := by
  cases c with
  | poke e text => exact .seq (queues_modify fun _ => rfl) fun _ => inferInstance
  | disable e v =>
      exact .seq (.change fun s => .single (.switched v (h e v rfl))) fun _ => inferInstance
  | setClass e name v =>
      refine .seq (queues_modify fun x => ?_) fun _ => inferInstance
      split <;> rfl
  | _ => unfold runElement; infer_instance

instance (c : RelationCommand Command) : Queues free (runRelation c) := by
  cases c with
  | evaluator t o label actions => exact .seq (.aside fun _ => .apart rfl) fun _ => inferInstance
  | connector t label => exact .seq (.aside fun _ => .apart rfl) fun _ => inferInstance
  | _ => unfold runRelation; infer_instance

instance (c : FormCommand Command) : Queues free (runForm c) := by
  cases c with
  | define name elements spec options =>
      exact .seq inferInstance fun _ => .seq inferInstance fun _ =>
        .seq (.aside fun _ => .apart rfl) fun _ => inferInstance
  | _ => unfold runForm; infer_instance

instance (c : SurfaceCommand Command) : Queues free (runSurface c) := by
  cases c with
  | define kind name e behavior =>
      exact .seq (.change fun s => s.queued_defineSurface kind name _) fun _ => inferInstance
  | prepare kind => cases kind <;> unfold runSurface <;> infer_instance
  | hide kind => cases kind <;> unfold runSurface <;> infer_instance
  | respond kind name accepted => cases kind <;> unfold runSurface <;> infer_instance
  | mode name patch screen logic => exact .seq (.aside fun _ => .apart rfl) fun _ => inferInstance
  | getMode name => exact .seq inferInstance fun t => by split <;> infer_instance
  | _ => unfold runSurface; infer_instance

instance (c : HostCommand) : Queues free (runHost c) := by
  cases c with
  | poll id method data =>
      refine ⟨fun {carry} _ s x t h => ?_⟩
      obtain ⟨n, u, hu, ht⟩ | ⟨f, he, -⟩ := bind_cases h
      · obtain ⟨f, hf, -⟩ | ⟨sub, hsub, hid, rfl⟩ := poll_cases hu
        · cases hf
        · cases hid
          cases ht
          have hf : (Frame.subscribe sub).enlists = true := by
            simp [Frame.enlists, Subscription.isLive, hsub.sink]
          exact .single (.enlisted id .detached hf)
      · obtain ⟨g, -, rfl⟩ | ⟨sub, -, hok, -⟩ := poll_cases he
        · exact .refl
        · cases hok
  | abort id =>
      refine .seq (.change fun s => ?_) fun _ => inferInstance
      split
      · rename_i hfound
        exact .single (.aborted id hfound)
      · exact .refl
  | install what =>
      -- what is supplied anew is no less than before
      cases what with
      | renderer =>
          exact .seq (.aside fun s => ⟨rfl, rfl, rfl, rfl, rfl, rfl, rfl, rfl, rfl,
            List.Subset.refl _, ⟨fun _ => rfl, id, id⟩⟩) fun _ => inferInstance
      | notifier =>
          exact .seq (.aside fun s => ⟨rfl, rfl, rfl, rfl, rfl, rfl, rfl, rfl, rfl,
            List.Subset.refl _, ⟨id, fun _ => rfl, id⟩⟩) fun _ => inferInstance
      | transport =>
          exact .seq (.aside fun s => ⟨rfl, rfl, rfl, rfl, rfl, rfl, rfl, rfl, rfl,
            List.Subset.refl _, ⟨id, id, fun _ => rfl⟩⟩) fun _ => inferInstance
  | _ => unfold runHost; infer_instance

theorem queues_run (c : Command) (h : ∀ e, c.switches = some e → free e) :
    Queues free (run c) := by
  cases c with
  | element c => exact queues_runElement c fun e v hc => h e (hc ▸ rfl)
  | _ => unfold run; infer_instance

theorem queues_runUnless {withheld : Command → Bool} (commands : List Command)
    (h : ∀ c e, withheld c = false → c.switches = some e → free e) :
    Queues free (runUnless withheld commands) := by
  induction commands with
  | nil => exact .pure ()
  | cons c cs ih =>
      unfold runUnless
      split
      · refine ⟨fun _ s x t hr => ?_⟩
        cases hr
      · rename_i hc
        have hrun : Queues free (run c) := queues_run c fun e => h c e (by simpa using hc)
        exact .seq inferInstance fun _ => ih

instance (l : Listener) (key : String) (v : Json) (writer : Option Source) :
    Queues free (hear l key v writer) := by
  cases l with
  | load directive field source =>
      change Queues free (if _ then _ else _)
      infer_instance
  | _ => unfold hear; infer_instance

theorem queues_handle {x : Handler} (h : ∀ b, x ≠ .submit b) (e : ElementRef) :
    Queues free (handle x e) := by
  cases x with
  | submit b => exact (h b rfl).elim
  | _ => unfold handle; infer_instance

theorem queued_handle {x : Handler} {e : ElementRef} {carry : React} {s t : Session}
    {y : Except Fault Unit} (hc : OnQueue free carry) (hx : x.Registered e s)
    (h : handle x e carry s = some (y, t)) : Queued free s t := by
  by_cases hb : ∃ b, x = .submit b
  · obtain ⟨b, rfl⟩ := hb
    exact queued_clickSubmit hx h
  · exact (queues_handle (fun b hx => hb ⟨b, hx⟩) e).queued hc s y t h

/-- A spawned step is a task of its own. -/
theorem queues_begin (step : Step) (h : ∀ e, (Frame.begin step).switches = some e → free e) :
    Queues free (begin step) := by
  cases step with
  | now c =>
      have hc : Queues free (run c) := queues_run c h
      unfold begin; infer_instance
  | spawn id step =>
      exact .seq (.change fun s => .single (.enlisted id (.spawned id) rfl)) fun _ => inferInstance
  | socket method url data interval take =>
      change Queues free (if _ then _ else _)
      infer_instance
  | _ => unfold begin; infer_instance

theorem queues_resume (frame : Frame) (answer : Bool) (h : ∀ e, frame.switches = some e → free e) :
    Queues free (resume frame answer) := by
  cases frame with
  | begin step => exact queues_begin step h
  | cool e =>
      exact .seq (.change fun s => .single (.switched false (h e rfl))) fun _ => inferInstance
  | _ => unfold resume; infer_instance

/-- Whatever callbacks do, the queue admits it, as long as commands that switch elements which are
not free are withheld. -/
theorem onQueue_withholding {withheld : Command → Bool}
    (h : ∀ c e, withheld c = false → c.switches = some e → free e) (n : Nat) :
    OnQueue free (withholding withheld n) := by
  induction n with
  | zero => exact fun r s x t _ hr => nomatch hr
  | succ n ih =>
      intro r s x t hregistered hr
      cases r with
      | listener l key v source => exact Queues.queued (a := hear l key v source) ih s x t hr
      | handler y e => exact queued_handle ih (hregistered y e rfl) hr
      | script commands | hook commands => exact (queues_runUnless commands h).queued ih s x t hr

/-- If all elements are free, nothing has to be withheld. -/
theorem onQueue_cascade (n : Nat) : OnQueue (fun _ => True) (cascade n) :=
  withholding_none n ▸ onQueue_withholding (fun _ _ _ _ => trivial) n

end Act
end ScreenBinding
