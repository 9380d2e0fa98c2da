import ScreenBinding.Proofs.FormActs

/-!
# Commands and callbacks are built of primitives

The last of the engine's acts, then every command, and with them whatever a callback can do. From
this two facts follow for runs of any depth: what every primitive respects, the whole cascade
respects; and no act, with its callbacks, looks at the trace.
-/
namespace ScreenBinding.Act
variable {α : Type} {P : Event → Prop}

theorem built_route (method : String) : Built P (route method) :=
  .bind (.gets fun _ _ => rfl) fun _ => .bind (built_ofExcept _) fun _ => built_ofExcept _

theorem built_takeReply (url : String) : Built P (takeReply url) := by
  refine .bind (.gets fun _ _ => rfl) fun replies => ?_
  split
  · exact .pure _
  · exact .pure _
  · exact .pure _
  · exact .bind (.change (.apart fun _ _ => rfl)) fun _ => .pure _

theorem built_send (h : ∀ scripted verb url data, P (.sent scripted verb url data))
    (t : Transport) (verb : Verb) (url : String) (data : Json) :
    Built P (send t verb url data) := by
  cases t with
  | scripted => exact .bind (.emit (h ..) rfl) fun _ => .bind (built_takeReply url) fun _ => .pure _
  | offline responses latency => exact .bind (.emit (h ..) rfl) fun _ => .pure _
  | http base => exact .bind (.emit (h ..) rfl) fun _ => .pure _

theorem built_dispatch (method : String) : Built P (dispatch method) :=
  .bind (built_route method) fun _ => .bind built_needTransport fun _ => .pure _

theorem built_arrived (p : Pending) : Built P (arrived p) := by
  cases p with
  | settled a => exact .pure _
  | canned responses url => exact .bind (.gets fun _ _ => rfl) fun _ => .pure _

theorem built_receive (h : ∀ a, P (.answered a)) (p : Pending) :
    Built P (receive p) :=
  .bind (built_arrived p) fun a => .bind (.emit (h a) rfl) fun _ => .pure _

theorem built_applyState (v : Json) (h : AdmitsWrites P none) :
    Built P (applyState v) := by
  cases v with
  | object values => exact built_writeAll values h
  | _ => exact .pure _

theorem built_poll (method : String) (data : Json) (sink : Sink) :
    Built P (poll method data sink) :=
  .bind (built_route method) fun _ => .bind (.gets fun _ _ => rfl) fun _ =>
    .bind (.bind built_needTransport fun _ => .pure _) fun _ =>
      .bind (.gets fun _ _ => rfl) fun _ =>
        .bind (.change (.apart fun _ _ => rfl)) fun _ => .pure _

theorem unseen_live (id : Nat) : Unseen fun s =>
    let s := match s.live with
      | some old => s.abort old
      | none => s
    { s with live := some id } where
  trace s T := by
    simp only [Session.retrace]
    split <;> rfl
  settings s := by
    dsimp only
    split <;> rfl
  values s := by
    dsimp only
    split <;> rfl
  reloads s := by
    dsimp only
    split <;> rfl
  listeners s := by
    dsimp only
    split <;> exact List.prefix_rfl

theorem built_live : Built P live :=
  .bind (built_poll _ _ _) fun id => .change (unseen_live id)

theorem built_concludeReload (issue : Nat) (o : RemoteOutcome)
    (h : AdmitsWrites P none) : Built P (concludeReload issue o) := by
  cases o with
  | success v =>
      refine .bind (.gets fun _ _ => rfl) fun _ => ?_
      split
      · exact .bind (built_applyState v h) fun _ => .pure _
      · exact .pure _
  | failure why => exact .pure _

theorem built_logState : Built P logState := by
  refine .bind (.gets fun _ _ => rfl) fun logs => ?_
  split
  · exact .bind (.change (.apart fun _ _ => rfl)) fun _ => built_listen _ _
  · exact .pure _

theorem built_enableDebug (config : DebugConfig) (h : AdmitsWrites P none) :
    Built P (enableDebug config) := by
  refine .bind (.change (.apart fun _ _ => rfl)) fun _ =>
    .bind built_logState fun _ => .bind (built_writeAll _ h) fun _ => ?_
  split
  · exact .change (.apart fun _ _ => rfl)
  · exact .pure _

theorem built_specOr (form : String) (spec : Option (Table (List String))) :
    Built P (specOr form spec) := by
  cases spec with
  | some spec => exact .pure _
  | none => exact .bind (.gets fun _ _ => rfl) fun _ => .pure _

theorem built_boundForm (name : String) : Built P (boundForm name) :=
  .bind (.gets fun _ _ => rfl) fun _ => .pure _

theorem built_runElement (c : ElementCommand Command) : Built P (runElement c) := by
  cases c with
  | type e text => exact .bind (built_type e text) fun _ => .pure _
  | click e => exact .bind (built_click e) fun _ => .pure _
  | raise e event => exact .bind (built_raise e event) fun _ => .pure _
  | watch e event label actions => exact .bind (built_onEvent e event _) fun _ => .pure _
  | put e v => exact .bind (built_put e v) fun _ => .pure _
  | poke e text => exact .bind (built_modify e _) fun _ => .pure _
  | disable e v => exact .bind (built_modify e _) fun _ => .pure _
  | setClass e name v =>
      exact .bind (built_modify e _) fun _ => .bind (built_element e) fun _ => .pure _
  | look e => exact .bind (.gets fun _ _ => rfl) fun _ => .pure _

theorem built_runState (c : StateCommand Command) (h : ∀ source, AdmitsWrites P source) :
    Built P (runState c) := by
  cases c with
  | set key v source => exact .bind (built_write key v (h source)) fun _ => .pure _
  | merge key v source =>
      exact .bind (built_merge key v (h source)) fun _ => .bind (.gets fun _ _ => rfl) fun _ =>
        .pure _
  | bulk values source => exact .bind (built_writeAll values (h source)) fun _ => .pure _
  | get key other => exact .bind (.gets fun _ _ => rfl) fun _ => .pure _
  | has key => exact .bind (.gets fun _ _ => rfl) fun _ => .pure _
  | list key => exact .bind (built_getList key) fun _ => .pure _
  | snapshot => exact .bind (.gets fun _ _ => rfl) fun _ => .pure _
  | listenerCount key => exact .bind (.gets fun _ _ => rfl) fun _ => .pure _
  | listen keys label actions => exact .bind (built_listen keys _) fun _ => .pure _
  | dirty => exact .bind (.change (.apart fun _ _ => rfl)) fun _ => .pure _
  | clean => exact .bind (.change (.apart fun _ _ => rfl)) fun _ => .pure _
  | status => exact .bind (.gets fun _ _ => rfl) fun _ => .pure _
  | option path =>
      exact .bind (.gets fun _ _ => rfl) fun _ => .bind (built_ofExcept _) fun _ => .pure _

section
variable [AdmitsRoutine P]

theorem built_lock (options : RemoteOptions) {e : Event} (h : e.isStep = false)
    (hc : e.concludes = false) : Built P (lock options e) := by
  unfold lock
  split
  · exact .bind built_needNotifier fun _ => .routine h hc
  · exact .pure _

theorem built_reportSuccess (options : RemoteOptions) : Built P (reportSuccess options) := by
  unfold reportSuccess
  split
  · exact .bind built_needNotifier fun _ => .bind (.gets fun _ _ => rfl) fun _ => .routine rfl rfl
  · exact .pure _

theorem built_reportFailure (options : RemoteOptions) : Built P (reportFailure options) := by
  unfold reportFailure
  split
  · exact .bind built_needNotifier fun _ => .bind (.gets fun _ _ => rfl) fun _ => .routine rfl rfl
  · exact .pure _

theorem built_bridgeModal (method : String) (target : Option ElementRef) :
    Built P (bridgeModal method target) := by
  refine .bind built_needRenderer fun _ => ?_
  split
  · exact .routine rfl rfl
  · exact .bind (built_element _) fun _ => .routine rfl rfl
  · exact .throw _
  · exact .throw _

/-- A message is shown by an event that is no step. -/
theorem built_notified {e : Event} (h : e.isStep = false) (hc : e.concludes = false) :
    Built P (do needNotifier; emit e) :=
  .bind built_needNotifier fun _ => .routine h hc

theorem built_bridgeMessage (method text : String) (important : Bool) :
    Built P (bridgeMessage method text important) := by
  unfold bridgeMessage
  split
  · rw [pure_bind]
    exact built_notified rfl rfl
  · rw [pure_bind]
    exact built_notified rfl rfl
  · rw [pure_bind]
    exact built_notified rfl rfl
  · exact .throw (.unknownMessageCommand _)

theorem built_bridgeLock (method : String) : Built P (bridgeLock method) := by
  unfold bridgeLock
  split
  · rw [pure_bind]
    exact built_notified rfl rfl
  · rw [pure_bind]
    exact built_notified rfl rfl
  · exact .throw (.unknownLockCommand _)

variable (h : ∀ source, AdmitsWrites P source)
include h

theorem built_runRelation (c : RelationCommand Command) : Built P (runRelation c) := by
  cases c with
  | execute trigger directives v e source =>
      exact .bind (built_ofExcept _) fun t =>
        .bind (built_executeAll t v e directives (h source)) fun _ => .pure _
  | connect trigger directives e source =>
      exact .bind (built_ofExcept _) fun t => .bind (built_connectAll t directives e source)
        fun _ => .pure _
  | evaluator t o label actions =>
      exact .bind (.change (.apart fun _ _ => rfl)) fun _ => .pure _
  | connector t label =>
      exact .bind (.change (.apart fun _ _ => rfl)) fun _ => .pure _

theorem built_runForm (c : FormCommand Command) : Built P (runForm c) := by
  cases c with
  | group name elements =>
      exact .bind (built_discard (built_newForm name elements)) fun _ => .pure _
  | define name elements spec options =>
      exact .bind (built_newForm name elements) fun f => .bind (built_defineForm f spec options)
        fun b => .bind (.change (.apart fun _ _ => rfl)) fun _ => .pure _
  | info form => exact .bind (.gets fun _ _ => rfl) fun _ => .pure _
  | data form => exact .bind (.gets fun _ _ => rfl) fun _ => .pure _
  | names form => exact .bind (.gets fun _ _ => rfl) fun _ => .pure _
  | find form selector => exact .bind (.gets fun _ _ => rfl) fun _ => .pure _
  | field form key => exact .bind (.gets fun _ _ => rfl) fun _ => .pure _
  | connect form spec both =>
      exact .bind (.gets fun _ _ => rfl) fun f => .bind (built_specOr form spec) fun spec =>
        .bind (built_connectForm f spec both) fun _ => .pure _
  | save form spec =>
      exact .bind (.gets fun _ _ => rfl) fun f => .bind (built_specOr form spec) fun spec =>
        .bind (built_saveForm f spec (h _)) fun _ => .pure _
  | load form spec =>
      exact .bind (.gets fun _ _ => rfl) fun f => .bind (built_specOr form spec) fun spec =>
        .bind (built_loadForm f spec (h none)) fun _ => .pure _
  | restore form =>
      exact .bind (built_boundForm form) fun b => .bind (built_restoreForm b (h none)) fun _ =>
        .pure _
  | check form e =>
      exact .bind (built_boundForm form) fun b => .bind (built_checkField b e) fun _ => .pure _

theorem built_runSurface (c : SurfaceCommand Command) : Built P (runSurface c) := by
  cases c with
  | define kind name e behavior =>
      exact .bind (.change (Session.unseen_defineSurface kind name _)) fun _ => .pure _
  | names name =>
      exact .bind (.gets fun _ _ => rfl) fun _ => .pure _
  | kinds => exact .pure _
  | prepare kind =>
      cases kind with
      | some k => exact .bind (built_prepareAll k) fun _ => .pure _
      | none => exact .bind built_prepareViews fun _ => .pure _
  | «show» kind name args => exact .bind (built_showSurface kind name args none) fun _ => .pure _
  | hide kind =>
      cases kind with
      | some k => exact .bind (built_hideAll k) fun _ => .pure _
      | none => exact .bind built_hideViews fun _ => .pure _
  | respond kind name accepted =>
      cases kind with
      | modal => exact .bind (built_respondModal name accepted) fun _ => .pure _
      | interface => exact .bind (built_respond .interface name accepted) fun _ => .pure _
  | mode name patch screen logic =>
      exact .bind (.change (.apart fun _ _ => rfl)) fun _ => .pure _
  | getMode name =>
      refine .bind (.gets fun _ _ => rfl) fun modes => ?_
      split
      · exact .pure _
      · exact .pure _
  | applyMode name =>
      exact .bind (built_mode name) fun m => .bind (built_applyMode m (h _)) fun _ => .pure _

theorem built_runHost (c : HostCommand) : Built P (runHost c) := by
  cases c with
  | note text => exact .bind (.routine rfl rfl) fun _ => .pure _
  | fail text => exact .throw _
  | malformed => exact .throw _
  | route method => exact .bind (built_route method) fun _ => .pure _
  | debug config => exact .bind (built_enableDebug config (h none)) fun _ => .pure _
  | poll id method data =>
      exact .bind (built_poll method data _) fun _ =>
        .bind (.change (.apart fun _ _ => rfl)) fun _ => .pure _
  | abort id =>
      refine .bind (.change ⟨fun s T => ?_, fun s => ?_, fun s => ?_, fun s => ?_, fun s => ?_⟩)
        fun _ => .pure _
      · simp only [Session.retrace]
        split <;> rfl
      · split <;> rfl
      · split <;> rfl
      · split <;> rfl
      · split <;> exact List.prefix_rfl
  | live => exact .bind built_live fun _ => .pure _
  | install what =>
      cases what with
      | renderer =>
          exact .bind (.change (.apart fun _ _ => rfl)) fun _ => .pure _
      | notifier =>
          exact .bind (.change (.apart fun _ _ => rfl)) fun _ => .pure _
      | transport =>
          exact .bind (.change (.apart fun _ _ => rfl)) fun _ => .pure _
  | modal method e => exact .bind (built_bridgeModal method e) fun _ => .pure _
  | message method text important =>
      exact .bind (built_bridgeMessage method text important) fun _ => .pure _
  | lock method => exact .bind (built_bridgeLock method) fun _ => .pure _

theorem built_run (c : Command) : Built P (run c) := by
  cases c with
  | state c => exact built_runState c h
  | element c => exact built_runElement c
  | relation c => exact built_runRelation h c
  | form c => exact built_runForm h c
  | surface c => exact built_runSurface h c
  | host c => exact built_runHost h c

theorem built_runAll (commands : List Command) : Built P (runAll commands) :=
  .forEach fun c _ => built_discard (built_run h c)

theorem built_hear (l : Listener) (key : String) (v : Json) (writer : Option Source) :
    Built P (hear l key v writer) := by
  cases l with
  | load directive field source =>
      change Built P (if _ then _ else _)
      split
      · exact .pure _
      · exact .attempt (built_execute .load directive (some v) field (h source))
  | journal => exact .routine rfl rfl
  | report label actions => exact .bind (.routine rfl rfl) fun _ => .attempt (.react _)
  | silent => exact .pure _

theorem built_handle (x : Handler) (e : ElementRef) : Built P (handle x e) := by
  cases x with
  | save directive source =>
      refine .bind (.gets fun _ _ => rfl) fun depth => ?_
      split
      · exact .attempt (built_execute .save directive none e (h source))
      · exact .pure _
  | watch label actions =>
      exact .bind (built_element e) fun _ => .bind (.gets fun _ _ => rfl) fun _ =>
        .bind (.routine rfl rfl) fun _ => .attempt (.react _)
  | restore b => exact .attempt (built_restoreForm b (h none))
  | submit b => exact built_clickSubmit b e
  | check b => exact built_discard (built_checkField b e)

theorem built_reaction (r : Reaction) : Built P (reaction r) := by
  cases r with
  | listener l key v source => exact built_hear h l key v source
  | handler x e => exact built_handle h x e
  | script commands | hook commands => exact built_runAll h commands

end

/-- What holds along every primitive holds along a cascade. -/
theorem cascade_respects {R : Session → Session → Prop} (hR : Respected Anything R) (n : Nat)
    (r : Reaction) (s : Session) (x : Except Fault Unit) (t : Session)
    (h : cascade n r s = some (x, t)) : R s t := by
  induction n generalizing r s x t with
  | zero => cases h
  | succ n ih => exact (built_reaction (fun _ _ _ => trivial) r).respects hR ih h

theorem settle_respects {R : Session → Session → Prop} (hR : Respected Anything R)
    {a : Act α} (ha : Built Anything a) {n : Nat} {s t : Session} {x : Except Fault α}
    (h : a.settle n s = some (x, t)) : R s t :=
  ha.respects hR (cascade_respects hR n) h

/-- A cascade takes no notice of the trace. -/
theorem cascade_mirrors (n : Nat) (r : Reaction) :
    Mirrors Anything (cascade n r) (cascade n r) := by
  induction n generalizing r with
  | zero => exact fun s x t h => nomatch h
  | succ n ih => exact (built_reaction (fun _ _ _ => trivial) r).mirrors ih

end ScreenBinding.Act

namespace ScreenBinding.Session
open Act
variable {s t : Session}

/-- The settings are what they were when the session began. -/
theorem respected_settings : Respected Anything fun s t => t.settings = s.settings where
  refl _ := rfl
  trans h k := k.trans h
  unseen hf s := hf.settings s
  emitted _ _ _ := rfl
  stored _ _ := rfl

/-- The state changes by the writes in the trace, and by nothing else. -/
def Accounted (s t : Session) : Prop :=
  ∃ ws, t.values = Table.written s.values ws ∧ t.writes = s.writes ++ ws

theorem Accounted.plain (hv : t.values = s.values) (hw : t.writes = s.writes) : s.Accounted t :=
  ⟨[], hv, hw.trans (List.append_nil _).symm⟩

theorem accounted_respected : Respected Anything Accounted where
  refl s := .plain rfl rfl
  trans := by
    rintro s t u ⟨ws, hv, hw⟩ ⟨vs, hv', hw'⟩
    refine ⟨ws ++ vs, ?_, ?_⟩
    · rw [hv', hv, Table.written_append]
    · rw [hw', hw, List.append_assoc]
  unseen hf s := .plain (hf.values s) (hf.writes_eq s)
  emitted _ hw s := ⟨[], rfl, (Wrote.emit s hw).writes⟩
  stored _ s := ⟨_, rfl, (Wrote.stored s _ _ _).writes⟩

/-- Where no write is recorded, nothing is stored. -/
theorem Accounted.unwritten (h : s.Accounted t) (hw : t.writes = s.writes) :
    t.values = s.values := by
  obtain ⟨ws, hv, hws⟩ := h
  obtain rfl : ws = [] := by simpa using hws.symm.trans hw
  exact hv

end ScreenBinding.Session
