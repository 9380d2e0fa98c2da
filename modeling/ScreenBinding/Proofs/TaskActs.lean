import ScreenBinding.Proofs.CommandActs

/-!
# Tasks are built of primitives

What a task does until it stops, for every place where it can go on. Only the beginning of a reload
is left out, since it draws an issue number; that no other task does is the use of this module, next
to what it says of submissions.
-/
namespace ScreenBinding
open Act

/-- Whether a step draws an issue number. -/
def Step.reloads : Step → Bool
  | .reload => true
  | .setMode _ remote => remote
  | .start _ (.bootstrap _) _ => true
  | _ => false

def Frame.reloads : Frame → Bool
  | .begin step => step.reloads
  | _ => false

namespace Act

theorem built_after {ms : Nat} {frame : Frame} {go : Act Progress} (h : Built Anything go) :
    Built Anything (after ms frame go) := by
  unfold after
  split
  · exact h
  · exact .pure _

theorem built_awaitAnswer {ticket : Ticket} {frame : Frame} {go : Bool → Act Progress}
    (h : ∀ x, Built Anything (go x)) : Built Anything (awaitAnswer ticket frame go) := by
  refine .bind (.gets fun _ _ => rfl) fun answers => ?_
  split
  · exact .bind (.change (.apart fun _ _ => rfl)) fun _ => h _
  · exact .pure _

theorem built_openView (view : String) (options : StartOptions) :
    Built Anything (openView view options) := by
  obtain ⟨debug, warn, isLive⟩ := options
  have enter : Built Anything (do applyMode (← mode view)) :=
    .bind (built_mode view) fun m => built_applyMode m fun _ _ => trivial
  have go : Built Anything (do
      if isLive then live
      applyMode (← mode view)) := by
    cases isLive with
    | true => exact .bind built_live fun _ => enter
    | false => exact enter
  cases debug with
  | none => exact go
  | some config => exact .bind (built_enableDebug config fun _ _ => trivial) fun _ => go

theorem built_afterReload (next : AfterReload) (o : ReloadOutcome) :
    Built Anything (afterReload next o) := by
  cases next with
  | answer => exact .pure _
  | enter m =>
      change Built _ (if _ then _ else _)
      split
      · exact .bind (built_applyMode m fun _ _ => trivial) fun _ => .pure _
      · exact .pure _
  | start url view options =>
      change Built _ (if _ then _ else _)
      split
      · exact .throw _
      · exact .bind (built_openView view options) fun _ => .pure _

theorem built_afterCall (next : AfterCall) (o : RemoteOutcome) :
    Built Anything (afterCall next o) := by
  cases next with
  | answer => exact .pure _
  | reload issue next =>
      exact .bind (built_concludeReload issue o fun _ _ => trivial) fun _ =>
        built_afterReload next _
  | submission b =>
      cases o with
      | success v => exact .bind (built_succeed b v fun _ _ => trivial) fun _ => .pure _
      | failure why => exact .bind (built_callHook trivial rfl _) fun _ => .pure _

theorem built_finishCall (c : Call) (x : Except Fault (Except TransportFault Json)) :
    Built Anything (finishCall c x) := by
  refine .bind (built_lock c.options rfl rfl) fun _ => ?_
  rcases x with why | (why | v)
  · refine .bind (built_reportFailure c.options) fun _ => .bind (.gets fun _ _ => rfl) fun _ => ?_
    split
    · exact built_afterCall c.next _
    · exact .throw _
  · exact .bind (built_reportFailure c.options) fun _ => built_afterCall c.next _
  · exact .bind (built_reportSuccess c.options) fun _ => built_afterCall c.next _

theorem built_reply (c : Call) (p : Pending) : Built Anything (do
    return Progress.done (← finishCall c (.ok (← receive p)))) :=
  .bind (built_receive (fun _ => trivial) p) fun a => .bind (built_finishCall c (.ok a)) fun _ =>
    .pure _

theorem built_call (method : String) (data : Json) (options : RemoteOptions) (next : AfterCall) :
    Built Anything (call method data options next) := by
  refine .bind (built_lock options rfl rfl) fun _ =>
    .bind (.outcome (built_dispatch method)) fun x => ?_
  cases x with
  | error why => exact .bind (built_finishCall _ _) fun _ => .pure _
  | ok p =>
      exact .bind (built_send (fun _ _ _ _ => trivial) _ _ _ _) fun _ =>
        built_after (built_reply _ _)

theorem built_sendForm (b : BoundForm) (data : Fields) : Built Anything (sendForm b data) := by
  unfold sendForm
  split
  · exact built_call _ _ _ _
  · exact .bind (built_succeed b _ fun _ _ => trivial) fun _ => .pure _

theorem built_decided (b : BoundForm) (data : Fields) (accepted : Bool) :
    Built Anything (decided b data accepted) := by
  refine .bind (.emit trivial rfl) fun _ => ?_
  cases accepted with
  | true => exact built_sendForm b data
  | false => exact .bind (built_restoreForm b fun _ _ => trivial) fun _ => .pure _

theorem built_inject (b : BoundForm) (data : Fields) (hook : Inject Command) :
    Built Anything (inject b data hook) := by
  refine .bind (.attempt (.react _)) fun _ => ?_
  split
  · exact built_decided b data _
  · refine .bind (.gets fun _ _ => rfl) fun values =>
      .bind (.outcome (built_askConfirm _ _ _)) fun x => ?_
    cases x with
    | ok ticket => exact built_awaitAnswer fun accepted => built_decided b data accepted
    | error f => exact built_decided b data false

theorem built_submit (b : BoundForm) : Built Anything (submit b) := by
  refine .bind (.gets fun _ _ => rfl) fun data => .bind built_separators fun sep => ?_
  change Built _ (if _ then _ else _)
  split
  · exact .bind (built_rejectFields b _) fun _ => .pure _
  · refine .bind (built_clearMarks b) fun _ => ?_
    split
    · exact .bind (.emit trivial rfl) fun _ => built_after (built_inject b data _)
    · exact built_sendForm b data

theorem built_deliver (sub : Subscription) (item : Except TransportFault Json) :
    Built Anything (deliver sub item) := by
  unfold deliver
  split
  · exact .bind (.routine rfl rfl) fun _ => .pure _
  · exact .bind (built_applyState _ fun _ _ => trivial) fun _ => .pure _
  · dsimp only
    split
    · exact .pure _
    · exact .pure _
  · exact .pure _

theorem built_onward (n ms : Nat) (frame : Frame) : Built Anything (onward n ms frame) := by
  induction n generalizing ms frame with
  | zero => exact .pure _
  | succ n ih =>
      refine built_after ?_
      split
      · refine .bind (built_receive (fun _ => trivial) _) fun a =>
          .bind (built_deliver _ a) fun z => ?_
        cases z with
        | inl answer => exact .pure _
        | inr sub => exact ih _ _
      · exact .bind (built_send (fun _ _ _ _ => trivial) _ _ _ _) fun _ => ih _ _
      · exact .pure _

theorem built_proceed (frame : Frame) : Built Anything (proceed frame) :=
  .bind (.gets fun _ _ => rfl) fun _ => built_onward _ _ _

theorem built_ask (sub : Subscription) : Built Anything (ask sub) := by
  unfold ask
  split
  · exact .pure _
  · exact built_proceed _

theorem built_arrive (sub : Subscription) (p : Pending) : Built Anything (arrive sub p) :=
  built_proceed _

theorem built_begin {step : Step} (h : step.reloads = false) : Built Anything (begin step) := by
  cases step with
  | now c => exact .bind (built_run (fun _ _ _ => trivial) c) fun _ => .pure _
  | wait ms => exact built_after (.pure _)
  | spawn id step =>
      exact .bind (.change (.apart fun _ _ => rfl)) fun _ => .pure _
  | submit form => exact .bind (built_boundForm form) fun b => built_submit b
  | swap name args => exact .bind (built_hideAll .modal) fun _ => .pure _
  | confirm name previous next =>
      exact .bind (built_askConfirm name previous next) fun _ => built_awaitAnswer fun _ => .pure _
  | alert name title message =>
      exact .bind (built_question name _) fun _ => built_awaitAnswer fun _ => .pure _
  | setMode name remote =>
      obtain rfl : remote = false := h
      exact .bind (built_mode name) fun m =>
        .bind (built_applyMode m fun _ _ => trivial) fun _ => .pure _
  | call method data options => exact built_call method data options .answer
  | reload => cases h
  | start view seed options =>
      cases seed with
      | bootstrap url => cases h
      | state values =>
          have go : Built Anything (do
              prepareViews
              writeAll values none
              openView view options
              return Progress.done .nothing) :=
            .bind built_prepareViews fun _ => .bind (built_writeAll values fun _ _ => trivial)
              fun _ => .bind (built_openView view options) fun _ => .pure _
          change Built _ (if _ then _ else _)
          split
          · exact .bind (.change (.apart fun _ _ => rfl)) fun _ => go
          · exact go
  | socket method url data interval take =>
      change Built _ (if _ then _ else _)
      split
      · exact .throw (.unknownSocketCommand method)
      · exact .bind (.bind built_needTransport fun _ => .pure _) fun sub => built_ask sub

theorem built_resume {frame : Frame} (h : frame.reloads = false) (answer : Bool) :
    Built Anything (resume frame answer) := by
  cases frame with
  | begin step => exact built_begin h
  | cooldown button => exact .pure _
  | cool button => exact .bind (built_modify button _) fun _ => .pure _
  | submit b => exact built_submit b
  | subscribe sub => exact built_ask sub
  | paused => exact .pure _
  | swapping name args => exact .bind (built_showSurface .modal name args none) fun _ => .pure _
  | replying c reply => exact built_reply c reply
  | injecting b data hook => exact built_inject b data hook
  | deciding b data => exact built_decided b data answer
  | confirming => exact .pure _
  | alerting => exact .pure _
  | receiving sub reply => exact built_arrive sub reply
  | resting sub => exact built_ask sub

/-- Acts that count reloads, and otherwise are built of the primitives. -/
inductive Tallied : {α : Type} → Act α → Prop
  | built {α : Type} {a : Act α} : Built Anything a → Tallied a
  | counted : Tallied (change fun s => { s with reloads := s.reloads+1 })
  | bind {α β : Type} {a : Act α} {f : α → Act β} : Tallied a → (∀ x, Tallied (f x)) →
      Tallied (a >>= f)

theorem tallied_reload (next : AfterReload) : Tallied (reload next) :=
  .bind .counted fun _ => .built (.bind (.gets fun _ _ => rfl) fun _ => built_call _ _ _ _)

theorem tallied_begin (step : Step) : Tallied (begin step) := by
  cases hs : step.reloads with
  | false => exact .built (built_begin hs)
  | true =>
      cases step with
      | reload => exact tallied_reload .answer
      | setMode name remote =>
          obtain rfl : remote = true := hs
          exact .bind (.built (built_mode name)) fun m => tallied_reload (.enter m)
      | start view seed options =>
          cases seed with
          | state values => cases hs
          | bootstrap url =>
              have hseeded : Tallied (do
                  prepareViews
                  discard (write "methods" (MethodTable.single "state.load" .get url) none)
                  reload (.start url view options)) :=
                .bind (.built built_prepareViews) fun _ =>
                  .bind (.built (built_discard (built_write _ _ fun _ _ => trivial))) fun _ =>
                    tallied_reload _
              unfold begin start
              dsimp only
              split
              · exact .bind (.built (.change (.apart fun _ _ => rfl))) fun _ => hseeded
              · exact hseeded
      | _ => cases hs

/-- Every task counts its reloads, and does nothing else that is not built of the primitives. -/
theorem tallied_resume (frame : Frame) (answer : Bool) : Tallied (resume frame answer) := by
  cases frame with
  | begin step => exact tallied_begin step
  | _ => exact .built (built_resume rfl answer)

/-- What holds along the primitives, the count and the callbacks holds along an act. -/
theorem Tallied.respects {R : Session → Session → Prop} {α : Type} {a : Act α} {carry : React}
    (h : Tallied a) (hR : Respected Anything R)
    (counted : ∀ s : Session, R s { s with reloads := s.reloads+1 })
    (hc : ∀ r s x t, carry r s = some (x, t) → R s t) {s t : Session} {x : Except Fault α}
    (ha : a carry s = some (x, t)) : R s t := by
  induction h generalizing s t with
  | built h => exact h.respects hR hc ha
  | counted =>
      cases ha
      exact counted s
  | bind _ _ iha ihf =>
      obtain ⟨y, u, hu, ht⟩ | ⟨e, he, -⟩ := bind_cases ha
      · exact hR.trans (iha hu) (ihf y ht)
      · exact iha he

end Act
end ScreenBinding
