import ScreenBinding.Proofs.HooklessActs
import ScreenBinding.Proofs.SubmissionCourse

/-!
# The completion of a submission

A submission that succeeds saves its form, closes the modals if it is to, and calls its hook for a
success; one that fails calls its hook for a failure. The call of a hook is the last thing that a
submission does, and what it does last depends on its answer alone. So once nothing stands in the
way of sending, the one hook that goes with the answer is called, behind everything else, and none
if a fault comes in between.
-/
namespace ScreenBinding
open Act

/-- The call of a hook, where there is one: it is told of, and the commands are run to their end. -/
inductive Calling (e : Event) : Option (List Command) → List Note → Prop
  | call {commands : List Command} {s t : Session} {x : Except Fault Unit} (n : Nat) :
      (runAll commands).settle n s = some (x, t) →
      Calling e (some commands) [.event e, .called commands (s.retrace [])]
  | none : Calling e none []

/-- Nothing of this tells of a hook called at the end of a submission. -/
def Unconcluded (l : List Event) : Prop := ∀ e ∈ l, e.concludes = false

theorem Unconcluded.append {l k : List Event} (h : Unconcluded l) (hk : Unconcluded k) :
    Unconcluded (l ++ k) :=
  List.forall_mem_append.mpr ⟨h, hk⟩

/-- No hook is called here, and none is told of that is called at the end of a submission. -/
structure Aside (notes : List Note) : Prop where
  unconcluded : Unconcluded (Note.events notes)
  uncalled : Note.calls notes = []

namespace Aside
variable {notes more : List Note}

theorem nil : Aside [] := ⟨List.forall_mem_nil _, rfl⟩

theorem append (h : Aside notes) (k : Aside more) : Aside (notes ++ more) where
  unconcluded := Note.events_append notes more ▸ h.unconcluded.append k.unconcluded
  uncalled := by rw [Note.calls_append, h.uncalled, k.uncalled, List.append_nil]

theorem of_events {l : List Event} (h : Unconcluded l) : Aside (l.map .event) where
  unconcluded := (Note.events_map_event l).symm ▸ h
  uncalled := Note.calls_map_event l

/-- It is aside to go on behind where a task waited. -/
theorem resumed {s : Session} {answer : Bool} : Aside [.resumed s answer] :=
  ⟨List.forall_mem_nil _, rfl⟩

end Aside

/-- The answer of a task that is done. -/
def Progress.answer? : Progress → Option Answer
  | .done a => some a
  | _ => none

/-- A task that waits has no answer. -/
theorem Progress.answer?_eq_none {p : Progress} {frame : Frame} (h : p.next? = some frame) :
    p.answer? = none := by
  cases p with
  | done a => cases h
  | _ => rfl

namespace BoundForm

/-- The modals are closed, where this is asked for. -/
def closing (b : BoundForm) : List Note :=
  if b.options.modal then [.event .modalsClosed] else []

/-- What a submission does last, by its answer. -/
def Completed (b : BoundForm) : Option Answer → List Note → Prop
  | some (.submitted (.submitted v)), notes =>
      ∃ l, Calling (.succeeded v) b.options.onSuccess l ∧ notes = b.closing ++ l
  | some (.submitted (.native data)), notes =>
      ∃ l, Calling (.succeeded (.object data)) b.options.onSuccess l ∧ notes = b.closing ++ l
  | some (.submitted (.failed _)), notes => Calling .failed b.options.onFailure notes
  | _, notes => notes = []

/-- What goes with the answer comes last, and what is before is aside. -/
def Closes (b : BoundForm) (answer : Option Answer) (notes : List Note) : Prop :=
  ∃ k l, Aside k ∧ b.Completed answer l ∧ notes = k ++ l

theorem Closes.behind {b : BoundForm} {answer : Option Answer} {k notes : List Note}
    (h : b.Closes answer notes) (hk : Aside k) : b.Closes answer (k ++ notes) := by
  obtain ⟨j, l, hj, hl, rfl⟩ := h
  exact ⟨k ++ j, l, hk.append hj, hl, (List.append_assoc ..).symm⟩

/-- Where there is no answer, nothing comes last. -/
theorem Closes.of_aside {b : BoundForm} {notes : List Note} (h : Aside notes) :
    b.Closes none notes := ⟨notes, [], h, rfl, (List.append_nil _).symm⟩

theorem Closes.aside {b : BoundForm} {notes : List Note} (h : b.Closes none notes) :
    Aside notes := by
  obtain ⟨k, l, hk, rfl, rfl⟩ := h
  exact (List.append_nil k).symm ▸ hk

/-- A submission waits there for the answer to its request. -/
def Awaits (b : BoundForm) (frame : Frame) : Prop :=
  ∃ method options reply, frame = .replying ⟨method, options, .submission b⟩ reply

/-- The rest of a submission from where nothing stands in the way of sending: what goes with the
answer comes last, and the answer to the request is all that is waited for. -/
structure Concludes (b : BoundForm) (notes : List Note) (x : Except Fault Progress) : Prop where
  last : b.Closes (x.toOption.bind Progress.answer?) notes
  next : ∀ p frame, x = .ok p → p.next? = some frame → b.Awaits frame

theorem Concludes.behind {b : BoundForm} {k notes : List Note} {x : Except Fault Progress}
    (h : b.Concludes notes x) (hk : Aside k) : b.Concludes (k ++ notes) x where
  last := h.last.behind hk
  next := h.next

theorem Concludes.error {b : BoundForm} {notes : List Note} (h : Aside notes) (e : Fault) :
    b.Concludes notes (.error e) where
  last := .of_aside h
  next _ _ hp := nomatch hp

theorem Concludes.ok {b : BoundForm} {notes : List Note} {p : Progress}
    (h : b.Completed p.answer? notes) (hnext : ∀ frame, p.next? = some frame → b.Awaits frame) :
    b.Concludes notes (.ok p) where
  last := ⟨[], notes, .nil, h, rfl⟩
  next q frame hq hframe := by
    cases hq
    exact hnext frame hframe

theorem Concludes.ended {b : BoundForm} {notes : List Note} {x : Result}
    (h : b.Concludes notes (x.map .done)) : b.Closes x.toOption notes := by
  cases x <;> exact h.last

/-- A stretch behind which the submission waits. -/
theorem Concludes.waiting {b : BoundForm} {notes : List Note} {p : Progress} {frame : Frame}
    (h : b.Concludes notes (.ok p)) (hp : p.next? = some frame) : Aside notes := by
  have hlast : b.Closes p.answer? notes := h.last
  rw [Progress.answer?_eq_none hp] at hlast
  exact hlast.aside

end BoundForm

namespace Act
variable {α β : Type} {n : Nat} {b : BoundForm} {view : β → Progress}

/-- Whenever the act ends, it has done last what goes with its answer. -/
def Completes (n : Nat) (b : BoundForm) (view : β → Progress) (a : Act β) : Prop :=
  Tells n a fun notes x => b.Concludes notes (x.map view)

namespace Completes

theorem pure {x : β} (h : b.Completed (view x).answer? [])
    (hnext : ∀ frame, (view x).next? = some frame → b.Awaits frame) :
    Completes n b view (Pure.pure x) :=
  Tells.pure (.ok h hnext)

theorem throw (e : Fault) : Completes n b view (throw e : Act β) :=
  Tells.throw (.error .nil e)

/-- Before it something may be done that calls no hook. -/
theorem behind {a : Act α} {f : α → Act β} [Hookless a] (h : Built (·.concludes = false) a)
    (hf : ∀ x, Completes n b view (f x)) : Completes n b view (a >>= f) := by
  refine (Tells.of_hookless h).bind (fun k x hk => (hf x).mono fun notes y hnotes => ?_)
    fun k e hk => ?_
  · obtain ⟨l, hl, rfl⟩ := hk
    exact hnotes.behind (.of_events hl)
  · obtain ⟨l, hl, rfl⟩ := hk
    exact .error (.of_events hl) e

theorem ite (c : Prop) [Decidable c] {a a' : Act β} (h : Completes n b view a)
    (h' : Completes n b view a') : Completes n b view (if c then a else a') := by
  split
  · exact h
  · exact h'

/-- The answer of a task is that of its last act. -/
theorem done {a : Act Answer} (h : Completes n b .done a) :
    Completes n b id (do return .done (← a)) := by
  refine Tells.bind h (fun notes x hx => Tells.pure ?_) fun notes e he => he
  rw [List.append_nil]
  exact hx

theorem after {ms : Nat} {frame : Frame} {go : Act Progress} (h : Completes n b id go)
    (hframe : b.Awaits frame) : Completes n b id (after ms frame go) :=
  .ite _ h (.pure rfl fun next hnext => by
    cases hnext
    exact hframe)

end Completes

theorem tells_callHook (e : Event) (hook : Option (List Command)) :
    Tells n (callHook e hook) fun notes x => Calling e hook notes ∧ x = .ok () := by
  cases hook with
  | none => exact .pure ⟨.none, rfl⟩
  | some commands =>
      refine (Tells.emit e).bind (fun notes _ hnotes => ?_) fun notes e he => nomatch he.2
      obtain ⟨rfl, -⟩ := hnotes
      intro s x t h
      obtain ⟨y, hy, rfl⟩ := attempt_cases h
      obtain ⟨m, hm⟩ := settle_hook hy
      exact ⟨_, (Notes.hook hy).attempt, .call m hm, rfl⟩

/-- If the modals can be closed, nothing else is noted. -/
theorem tells_closing : Tells n (if b.options.modal then hideAll .modal else pure ())
    fun notes x => (∃ l, Unconcluded l ∧ notes = l.map .event) ∧
      ∀ u, x = .ok u → notes = b.closing := by
  unfold BoundForm.closing
  split
  · refine (Tells.silent built_needRenderer).bind (fun notes _ hnotes => ?_) fun notes e hnotes =>
      ⟨⟨[], List.forall_mem_nil _, hnotes⟩, nofun⟩
    subst hnotes
    intro s x t h
    cases h
    refine ⟨[.event .modalsClosed], ⟨by simp [Note.isResumed], fun mark T => rfl⟩, ?_, ?_⟩
    · exact ⟨[.modalsClosed], by simp [Unconcluded, Event.concludes], rfl⟩
    · exact fun _ _ => rfl
  · exact .pure ⟨⟨[], List.forall_mem_nil _, rfl⟩, fun _ _ => rfl⟩

theorem succeed_eq (v : Json) : succeed b v = (do
    saveForm b.form b.state
    (if b.options.modal then hideAll .modal else pure () : Act Unit)
    callHook (.succeeded v) b.options.onSuccess) := by
  unfold succeed
  cases b.options.modal <;> simp

/-- The modals are closed behind the save and before the hook is called. -/
theorem completes_succeed {v : Json} {r : β}
    (h : ∀ l, Calling (.succeeded v) b.options.onSuccess l →
      b.Completed (view r).answer? (b.closing ++ l))
    (hnext : ∀ frame, (view r).next? = some frame → b.Awaits frame) :
    Completes n b view (do
      succeed b v
      return r) := by
  have hsave : Built (·.concludes = false) (saveForm b.form b.state) :=
    built_saveForm _ _ fun _ _ => rfl
  rw [succeed_eq, bind_assoc]
  refine .behind hsave fun _ => ?_
  rw [bind_assoc]
  refine tells_closing.bind (fun notes u hclosed => ?_) fun notes e hclosed => ?_
  · obtain rfl := hclosed.2 u rfl
    refine (tells_callHook _ _).bind (fun l _ hcalled => Tells.pure ?_) fun l e hcalled =>
      nomatch hcalled.2
    rw [List.append_nil]
    exact .ok (h l hcalled.1) hnext
  · obtain ⟨⟨l, hl, rfl⟩, -⟩ := hclosed
    exact .error (.of_events hl) e

theorem completes_afterCall (o : RemoteOutcome) :
    Completes n b .done (afterCall (.submission b) o) := by
  cases o with
  | success v => exact completes_succeed (fun l hl => ⟨l, hl, rfl⟩) fun _ hnext => nomatch hnext
  | failure why =>
      refine (tells_callHook _ _).bind (fun notes _ hcalled => Tells.pure ?_) fun notes e hcalled =>
        nomatch hcalled.2
      rw [List.append_nil]
      exact .ok hcalled.1 fun _ hnext => nomatch hnext

theorem completes_finishCall (method : String) (options : RemoteOptions)
    (x : Except Fault (Except TransportFault Json)) :
    Completes n b .done (finishCall ⟨method, options, .submission b⟩ x) := by
  refine .behind (built_lock options rfl rfl) fun _ => ?_
  rcases x with why | (why | v)
  · refine .behind (built_reportFailure options) fun _ =>
      .behind (.gets fun _ _ => rfl) fun mode => .ite _ ?_ (.throw why)
    exact completes_afterCall (.failure why)
  · exact .behind (built_reportFailure options) fun _ =>
      completes_afterCall (.failure (.transport why))
  · exact .behind (built_reportSuccess options) fun _ => completes_afterCall (.success v)

theorem completes_reply (method : String) (options : RemoteOptions) (reply : Pending) :
    Completes n b id (do
      return .done (← finishCall ⟨method, options, .submission b⟩ (.ok (← receive reply)))) :=
  .behind (built_receive (fun _ => rfl) reply) fun a =>
    .done (completes_finishCall method options (.ok a))

theorem completes_call (method : String) (payload : Json) (options : RemoteOptions) :
    Completes n b id (call method payload options (.submission b)) := by
  refine .behind (built_lock options rfl rfl) fun _ =>
    .behind (.outcome (built_dispatch method)) fun x => ?_
  cases x with
  | error why => exact .done (completes_finishCall method options (.error why))
  | ok p =>
      exact .behind (built_send (fun _ _ _ _ => rfl) _ _ _ _) fun y =>
        .after (completes_reply method options y.2) ⟨method, options, y.2, rfl⟩

theorem completes_sendForm (data : Fields) : Completes n b id (sendForm b data) := by
  unfold sendForm
  split
  · exact completes_call _ _ _
  · refine completes_succeed (fun l hl => ⟨l, hl, rfl⟩) fun _ hnext => ?_
    cases hnext

/-- Behind the decision of its hook a submission calls no hook but the one that goes with its
answer. -/
theorem tells_decided (data : Fields) (accepted : Bool) :
    Tells n (decided b data accepted) fun notes x =>
      ∃ more, notes = .event (.ruled accepted)::more ∧ b.Concludes more x := by
  have hrest : Completes n b id (if accepted then sendForm b data else do
      restoreForm b
      return .done (.submitted .rejected)) :=
    .ite _ (completes_sendForm data)
      (.behind (built_restoreForm b fun _ _ => rfl) fun _ => .pure rfl fun _ hnext => nomatch hnext)
  refine (Tells.emit _).bind (fun notes _ hnotes => hrest.mono fun more x hmore => ?_)
    fun notes e he => nomatch he.2
  obtain ⟨rfl, -⟩ := hnotes
  refine ⟨more, rfl, ?_⟩
  cases x <;> exact hmore

end Act
end ScreenBinding
