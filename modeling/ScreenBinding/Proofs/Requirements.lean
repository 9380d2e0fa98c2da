import ScreenBinding.Proofs.CallStages
import ScreenBinding.Proofs.Schedule
import ScreenBinding.Proofs.SubmissionOrder
import ScreenBinding.Proofs.Wants

/-!
# What a call has done when it wants a capability

A remote call, and a submission, look for what the host has to supply where they need it, so a
capability may be found missing when something was done already. Two of these looks come so late:
that of a call in the background for the notifier that is to bring its message, and that of a
submission for the renderer that is to close the modals.

A stretch before the answer has done nothing when it ends for want of a capability, and where it
waits for the answer it has sent the request, but written nothing (`Proceeds`). The lock was shown
by then if it was to be shown. Since the host takes back nothing that it has supplied, it can be
taken away as well, and what is left is the end of the call.
-/
namespace ScreenBinding
open Act

/-- Whether an event tells of a request, of a write, or of a hook called at the end. -/
def Event.isEffect : Event → Bool
  | .sent .. | .stored .. | .succeeded _ | .failed => true
  | _ => false

/-- Whether an event tells of a write, or of a hook called at the end. -/
def Event.isLasting : Event → Bool
  | .stored .. | .succeeded _ | .failed => true
  | _ => false

/-- Nothing was sent, nothing was written, and no hook for the end was called. -/
def Idle (l : List Event) : Prop := ∀ e ∈ l, e.isEffect = false

/-- Nothing was written, and no hook for the end was called. -/
def Unsaved (l : List Event) : Prop := ∀ e ∈ l, e.isLasting = false

/-- What was done before a capability was found missing: the request, of which only the message is
missing, or all but closing the modals. -/
inductive Unfinished (o : RemoteOptions) (form : Option BoundForm) :
    Requirement → List Event → Prop
  | untold {l : List Event} : o.background = true → o.silent = false →
      (∃ a, .answered a ∈ l) → Unsaved l → Unfinished o form .notifier l
  | unclosed {l : List Event} {b : BoundForm} : form = some b → b.options.modal = true →
      Unconcluded l → Unfinished o form .renderer l

instance : AdmitsRoutine (·.isEffect = false) :=
  ⟨fun {e} h hc => by cases e <;> simp_all [Event.isStep, Event.concludes, Event.isEffect]⟩

theorem Idle.append {l k : List Event} (hl : Idle l) (hk : Idle k) : Idle (l ++ k) :=
  List.forall_mem_append.mpr ⟨hl, hk⟩

theorem Unsaved.append {l k : List Event} (hl : Unsaved l) (hk : Unsaved k) : Unsaved (l ++ k) :=
  List.forall_mem_append.mpr ⟨hl, hk⟩

theorem Idle.unsaved {l : List Event} (h : Idle l) : Unsaved l := fun e he => by
  have hidle := h e he
  cases e <;> first | rfl | cases hidle

theorem Unsaved.unconcluded {l : List Event} (h : Unsaved l) : Unconcluded l := fun e he => by
  have hunsaved := h e he
  cases e <;> first | rfl | cases hunsaved

theorem Unfinished.behind {o : RemoteOptions} {form : Option BoundForm} {c : Requirement}
    {l k : List Event} (hl : Unsaved l) (h : Unfinished o form c k) :
    Unfinished o form c (l ++ k) := by
  cases h with
  | untold hb hs ha hk =>
      obtain ⟨a, ha⟩ := ha
      exact .untold hb hs ⟨a, List.mem_append_right l ha⟩ (hl.append hk)
  | unclosed hform hmodal hk => exact .unclosed hform hmodal (hl.unconcluded.append hk)

/-- What follows a call: nothing, or the end of the submission of a form. -/
inductive Serves : Option BoundForm → AfterCall → Prop
  | answer : Serves none .answer
  | submission (b : BoundForm) : Serves (some b) (.submission b)

/-- The frames of a call with these options, or of the submission of a form that makes one. -/
inductive Requests (o : RemoteOptions) : Option BoundForm → Frame → Prop
  | call (method : String) (data : Json) : Requests o none (.begin (.call method data o))
  | submit (b : BoundForm) : b.options.remote = o → Requests o (some b) (.submit b)
  | injecting (b : BoundForm) (data : Fields) (hook : Inject Command) : b.options.remote = o →
      Requests o (some b) (.injecting b data hook)
  | deciding (b : BoundForm) (data : Fields) : b.options.remote = o →
      Requests o (some b) (.deciding b data)
  | replying {form : Option BoundForm} {next : AfterCall} (method : String) (reply : Pending) :
      Serves form next → Requests o form (.replying ⟨method, o, next⟩ reply)

/-- Reading a route wants nothing. -/
theorem MethodTable.route_ne_missing (table : MethodTable) (name : String) (c : Requirement) :
    table.route name ≠ .error (.requirementMissing c) := by
  have hverb (v : String) : Verb.named v ≠ .error (.requirementMissing c) := by
    unfold Verb.named
    dsimp only
    split
    · exact nofun
    · split <;> exact nofun
  intro h
  unfold route at h
  split at h
  · cases h
  · rename_i v url _
    cases hv : Verb.named v with
    | ok verb =>
        rw [hv] at h
        cases h
    | error why =>
        rw [hv] at h
        cases h
        exact hverb v hv
  · cases h

/-- If no request is made for want of a capability, this is the transport. -/
theorem Session.lacks_of_dispatched {s : Session} {method : String} {c : Requirement}
    (h : s.dispatched method = .error (.requirementMissing c)) : s.lacks c = true := by
  unfold dispatched at h
  cases ht : MethodTable.ofValue (Table.find? s.values "methods") with
  | error why =>
      rw [ht] at h
      cases h
      unfold MethodTable.ofValue at ht
      split at ht <;> cases ht
  | ok table =>
      rw [ht] at h
      dsimp only at h
      split at h
      · rename_i why _ hroute
        cases h
        exact (table.route_ne_missing method c hroute).elim
      · rename_i hnone
        cases h
        simp [lacks, hnone]
      · cases h

theorem Session.Beside.lacks {s t : Session} (h : s.Beside t) (c : Requirement) :
    t.lacks c = s.lacks c := by
  rw [h]
  cases c <;> rfl

/-- What is missing at the end of a call with this attempt: the notifier to tell the user, what the
request was not made for, or the renderer to close the modals. -/
inductive EndsWanting (o : RemoteOptions) (form : Option BoundForm) (attempt : Attempt) :
    Requirement → List Event → Prop
  | telling {l : List Event} : o.background = true → o.silent = false → Idle l →
      EndsWanting o form attempt .notifier l
  | refused {c : Requirement} {l : List Event} : attempt = .error (.requirementMissing c) →
      Idle l → EndsWanting o form attempt c l
  | closing {l : List Event} {b : BoundForm} {v : Json} : attempt = .ok (.ok v) → form = some b →
      b.options.modal = true → Unconcluded l → EndsWanting o form attempt .renderer l

/-- Whether the answer to a request is awaited. -/
def Frame.isReplying : Frame → Bool
  | .replying .. => true
  | _ => false

theorem Attempt.result_success {mode : DebugMode} {attempt : Attempt} {v : Json}
    (h : attempt.result mode = .ok (.success v)) : attempt = .ok (.ok v) := by
  rcases attempt with why | (why | w)
  · by_cases hm : mode = .off <;> simp [Attempt.result, hm] at h
  · cases h
  · cases h
    rfl

theorem Attempt.result_error {mode : DebugMode} {attempt : Attempt} {f : Fault}
    (h : attempt.result mode = .error f) : attempt = .error f := by
  rcases attempt with why | (why | w)
  · by_cases hm : mode = .off <;> simp [Attempt.result, hm] at h
    rw [h]
  · cases h
  · cases h

namespace Act
variable {α : Type} {carry : React} {o : RemoteOptions} {form : Option BoundForm} {hosted : Bool}
  {s t : Session}

theorem wants_needRenderer : Wants carry hosted needRenderer fun c l => c = .renderer ∧ l = [] := by
  intro s c t h
  rw [needRenderer, run_bind_ok (run_gets _)] at h
  cases hr : s.renderer with
  | true =>
      rw [hr] at h
      cases h
  | false =>
      rw [hr] at h
      cases h
      exact ⟨[], rfl, .inl ⟨by simp [Session.lacks, hr], rfl, rfl⟩⟩

theorem wants_needNotifier : Wants carry hosted needNotifier fun c l => c = .notifier ∧ l = [] := by
  intro s c t h
  cases hn : s.notifier with
  | true => cases (run_needNotifier hn).symm.trans h
  | false =>
      cases (run_needNotifier_missing hn).symm.trans h
      exact ⟨[], rfl, .inl ⟨by simp [Session.lacks, hn], rfl, rfl⟩⟩

theorem lock_missing (hb : o.background = false) (hn : s.notifier = false) (e : Event) :
    lock o e carry s = some (.error (.requirementMissing .notifier), s) := by
  unfold lock
  rw [hb]
  exact run_bind_error (run_needNotifier_missing hn)

theorem concludeCall_missing (hs : o.silent = false) (hn : s.notifier = false)
    (attempt : Attempt) : concludeCall o attempt carry s =
      some (.error (.requirementMissing .notifier), s) := by
  have hsuccess : reportSuccess o carry s =
      some (.error (.requirementMissing .notifier), s) := by
    unfold reportSuccess
    rw [hs]
    exact run_bind_error (run_needNotifier_missing hn)
  have hfailure : reportFailure o carry s =
      some (.error (.requirementMissing .notifier), s) := by
    unfold reportFailure
    rw [hs]
    exact run_bind_error (run_needNotifier_missing hn)
  rcases attempt with why | (why | v)
  · exact run_bind_error hfailure
  · exact run_bind_error hfailure
  · exact run_bind_error hsuccess

/-- Telling the user changes nothing else. -/
theorem run_tell (carry : React) (h : o.Tells s) (attempt : Attempt) : ∃ told u, Idle told ∧
    concludeCall o attempt carry s = some (attempt.result s.debugMode, u) ∧
    u.trace = told.reverse ++ s.trace ∧ s.Beside u := by
  refine ⟨o.telling (attempt.message s.settings o), _, ?_, run_concludeCall h attempt, ?_, rfl⟩
  · unfold RemoteOptions.telling
    split
    · exact List.forall_mem_nil _
    · rcases attempt with why | (why | v) <;> simp [Idle, Attempt.message, Event.isEffect]
  · unfold RemoteOptions.telling
    split <;> rfl

section
variable (hm : Mute carry) (hl : Lenient carry)
include hm hl

/-- Behind the save, the renderer may be wanted to close the modals. -/
theorem wants_succeed (b : BoundForm) (v : Json) : Wants carry true (succeed b v) fun c l =>
    c = .renderer ∧ b.options.modal = true ∧ Unconcluded l := by
  have hsave : Built (·.concludes = false) (saveForm b.form b.state) :=
    built_saveForm _ _ fun _ _ => rfl
  have hclose : Wants carry true (if b.options.modal then hideAll .modal else pure () : Act Unit)
      fun c l => c = .renderer ∧ b.options.modal = true ∧ Unconcluded l := by
    split
    · rename_i hmodal
      refine .ahead (wants_needRenderer.mono ?_) fun _ => .of_run fun _ => run_emit _
      rintro c l ⟨rfl, rfl⟩
      exact ⟨rfl, hmodal, List.forall_mem_nil _⟩
    · exact .faultless (.pure ())
  rw [succeed_eq]
  refine .bind hm hsave ((wantsNothing_saveForm hm hl _ _).mono fun _ _ h => h.elim)
    (fun _ => .ahead hclose fun _ => faultless_callHook _ _) fun c l k hquiet h => ?_
  exact ⟨h.1, h.2.1, Unconcluded.append hquiet h.2.2⟩

/-- Behind a failure nothing is wanted, and behind a success nothing else. -/
theorem wants_afterCall {next : AfterCall} (h : Serves form next) (outcome : RemoteOutcome) :
    Wants carry form.isSome (afterCall next outcome) fun c l => c = .renderer ∧
      (∃ v, outcome = .success v) ∧ (∃ b, form = some b ∧ b.options.modal = true) ∧
      Unconcluded l := by
  cases h with
  | answer => exact .faultless (.pure _)
  | submission b =>
      cases outcome with
      | failure why => exact .faultless (.bind (faultless_callHook _ _) fun _ => .pure _)
      | success v =>
          refine .ahead ((wants_succeed hm hl b v).mono ?_) fun _ => .pure _
          rintro c l ⟨hc, hmodal, hquiet⟩
          exact ⟨hc, ⟨v, rfl⟩, ⟨b, rfl, hmodal⟩, hquiet⟩

/-- Of the end of a call, the message may want a notifier, debug mode hands on why no request was
made, and the outcome may want the renderer. -/
theorem wants_endCall {method : String} {next : AfterCall} {attempt : Attempt} {c : Requirement}
    (hn : Serves form next) (hlock : o.Locks s)
    (hlack : ∀ c, attempt = .error (.requirementMissing c) → s.lacks c = true)
    (h : endCall ⟨method, o, next⟩ attempt carry s = some (.error (.requirementMissing c), t)) :
    ∃ l : List Event, t.trace = l.reverse ++ s.trace ∧
      ((t.lacks c = true ∧ EndsWanting o form attempt c l) ∨
        form.isSome = true ∧ ∃ e ∈ l, e.isEvaluation = true) := by
  unfold endCall at h
  by_cases htell : o.Tells s
  · obtain ⟨told, u, hidle, hu, htrace, hbeside⟩ := run_tell carry htell attempt
    cases hr : attempt.result s.debugMode with
    | error f =>
        rw [hr] at hu
        rw [run_bind_error hu] at h
        cases h
        have hattempt := Attempt.result_error hr
        have hc := (hbeside.lacks c).trans (hlack c hattempt)
        exact ⟨told, htrace, .inl ⟨hc, .refused hattempt hidle⟩⟩
    | ok outcome =>
        rw [hr] at hu
        rw [run_bind_ok hu] at h
        have hlast := Wants.ahead (wants_afterCall hm hl hn outcome) fun a =>
          Faultless.pure (Progress.done a)
        obtain ⟨k, hk, ⟨hc, rfl, ⟨v, rfl⟩, ⟨b, hb, hmodal⟩, hquiet⟩ | ⟨ho, e, hek, he⟩⟩ :=
          hlast u c t h
        · have hanswer := Attempt.result_success hr
          have hbefore := hidle.unsaved.unconcluded
          exact ⟨told ++ k, trace_append htrace hk,
            .inl ⟨hc, .closing hanswer hb hmodal (hbefore.append hquiet)⟩⟩
        · exact ⟨told ++ k, trace_append htrace hk,
            .inr ⟨ho, e, List.mem_append_right told hek, he⟩⟩
  · -- the lock needs a notifier as well, so the call is one in the background
    obtain ⟨hs, hnone⟩ := RemoteOptions.not_tells htell
    have hb : o.background = true := hlock.resolve_right (by simp [hnone])
    rw [run_bind_error (concludeCall_missing hs hnone attempt)] at h
    cases h
    have hc : s.lacks .notifier = true := by simp [Session.lacks, hnone]
    exact ⟨[], rfl, .inl ⟨hc, .telling hb hs (List.forall_mem_nil _)⟩⟩

/-- When the answer has arrived, the request was made: then only the message can be missing, or the
renderer to close the modals. -/
theorem wants_answerCall {method : String} {next : AfterCall} {reply : Pending} {c : Requirement}
    (hn : Serves form next) (hlock : o.Locks s) (h : answerCall ⟨method, o, next⟩ reply carry s =
      some (.error (.requirementMissing c), t)) :
    ∃ l : List Event, t.trace = l.reverse ++ s.trace ∧
      ((t.lacks c = true ∧ Unfinished o form c l) ∨
        form.isSome = true ∧ ∃ e ∈ l, e.isEvaluation = true) := by
  let heard : List Event := .answered (reply.answer s)::o.locking .lockReleased
  let u := s.retrace (o.locking .lockReleased ++ .answered (reply.answer s)::s.trace)
  have htrace : u.trace = heard.reverse ++ s.trace := by
    unfold u heard RemoteOptions.locking
    split <;> simp [Session.retrace]
  have hidle : Idle heard := by
    unfold heard RemoteOptions.locking
    split <;> simp [Idle, Event.isEffect]
  rw [answerCall, run_bind_ok (run_hearServer hlock reply)] at h
  obtain ⟨k, hk, ⟨hc, hends⟩ | ⟨ho, e, hek, he⟩⟩ :=
    wants_endCall hm hl hn (s := u) hlock (fun c hc => by cases hc) h
  · refine ⟨heard ++ k, trace_append htrace hk, .inl ⟨hc, ?_⟩⟩
    cases hends with
    | telling hb hs hquiet =>
        have hanswer : .answered (reply.answer s) ∈ heard ++ k := List.mem_cons_self ..
        exact .untold hb hs ⟨_, hanswer⟩ (hidle.unsaved.append hquiet.unsaved)
    | refused hno => cases hno
    | closing _ hb hmodal hquiet =>
        exact .unclosed hb hmodal (hidle.unsaved.unconcluded.append hquiet)
  · exact ⟨heard ++ k, trace_append htrace hk, .inr ⟨ho, e, List.mem_append_right heard hek, he⟩⟩

end

/-- If the act ends for want of a capability, nothing was done before, or as little as `Unfinished`
says; and where it waits, nothing was done but the request that it waits for. -/
structure Proceeds (carry : React) (o : RemoteOptions) (form : Option BoundForm)
    (a : Act Progress) : Prop where
  wants : Wants carry form.isSome a fun c l => Idle l ∨ Unfinished o form c l
  waits : ∀ s p later t, a carry s = some (.ok p, t) → p.next? = some later →
    ∃ l : List Event, t.trace = l.reverse ++ s.trace ∧ Requests o form later ∧ Unsaved l ∧
      (later.isReplying = true ∧ o.Locks t ∨ later.isReplying = false ∧ Idle l)

namespace Proceeds
variable {a : Act Progress}

/-- A task that is done. -/
theorem done (r : Answer) : Proceeds carry o form (pure (.done r)) where
  wants := .faultless (.pure _)
  waits s p later t h hp := by
    cases h
    cases hp

theorem rests {p : Progress} {later : Frame} (hp : p.next? = some later)
    (hr : Requests o form later) (hf : later.isReplying = false) :
    Proceeds carry o form (pure p) where
  wants := .faultless (.pure _)
  waits s q later' t h hl := by
    cases h
    cases hp.symm.trans hl
    exact ⟨[], rfl, hr, List.forall_mem_nil _, .inr ⟨hf, List.forall_mem_nil _⟩⟩

theorem ite (p : Prop) [Decidable p] {b : Act Progress} (ha : Proceeds carry o form a)
    (hb : Proceeds carry o form b) : Proceeds carry o form (if p then a else b) := by
  split
  · exact ha
  · exact hb

theorem after {ms : Nat} {frame : Frame} (h : Proceeds carry o form a)
    (hr : Requests o form frame) (hf : frame.isReplying = false) :
    Proceeds carry o form (after ms frame a) :=
  .ite _ h (.rests rfl hr hf)

/-- Before it something may be done that has no effect. -/
theorem behind {b : Act α} {f : α → Act Progress} (hm : Mute carry)
    (hb : Built (·.isEffect = false) b) (hw : Wants carry form.isSome b fun _ _ => True)
    (hf : ∀ x, Proceeds carry o form (f x)) : Proceeds carry o form (b >>= f) where
  wants := by
    refine .bind hm hb ((hw.built hm hb).mono fun c l h => .inl h.2) (fun x => (hf x).wants) ?_
    rintro c l k hidle (hquiet | hunf)
    · exact .inl (Idle.append hidle hquiet)
    · exact .inr (hunf.behind (Idle.unsaved hidle))
  waits s p later t h hp := by
    obtain ⟨y, u, hu, ht⟩ | ⟨e, -, he⟩ := bind_cases h
    · obtain ⟨l, hl, hidle⟩ := built_adds hb hm hu
      obtain ⟨k, hk, hr, hunsaved, hlast⟩ := (hf y).waits u p later t ht hp
      have hbefore : Unsaved l := Idle.unsaved hidle
      refine ⟨l ++ k, trace_append hl hk, hr, hbefore.append hunsaved, hlast.imp_right ?_⟩
      exact fun hi => ⟨hi.1, Idle.append hidle hi.2⟩
    · cases he

theorem behind_calm {b : Act α} {f : α → Act Progress} (hm : Mute carry)
    (hb : Built (·.isEffect = false) b) (hc : Faultless carry b)
    (hf : ∀ x, Proceeds carry o form (f x)) : Proceeds carry o form (b >>= f) :=
  behind hm hb (.faultless hc) hf

end Proceeds

/-- Where the lock can be shown, the request is sent if there is a way, and the lock goes if not. -/
theorem run_ask (carry : React) (h : o.Locks s) (method : String) (data : Json) : ∃ l u v,
    lock o .lockShown carry s = some (.ok (), v) ∧
    askServer method data o carry v = some (.ok (s.requested method data), u) ∧
    u.trace = l.reverse ++ s.trace ∧ Unsaved l ∧ s.Beside u ∧
    ∀ why, s.dispatched method = .error why → Idle l := by
  have hlocking (e : Event) : e.isEffect = false → Idle (o.locking e).reverse := by
    intro he
    unfold RemoteOptions.locking
    split <;> simp [Idle, he]
  let v := s.retrace (o.locking .lockShown ++ s.trace)
  obtain ⟨u, hu, ht⟩ := run_askServer carry (s := v) h method data
  have hbeside : s.Beside u := .trans (t := v) rfl (beside_askServer method data o v _ u hu)
  have hdismissed : Idle (v.dismissal method o).reverse := by
    unfold Session.dismissal
    split
    · exact List.forall_mem_nil _
    · exact hlocking _ rfl
  have hrequest : Unsaved (v.request method data).reverse := by
    unfold Session.request
    split <;> simp [Unsaved, Event.isLasting]
  refine ⟨(o.locking .lockShown).reverse ++ (v.request method data).reverse ++
    (v.dismissal method o).reverse, u, v, run_lock h _, hu, ?_, ?_, hbeside, fun why hwhy => ?_⟩
  · rw [ht]
    simp [v, Session.retrace]
  · exact ((hlocking _ rfl).unsaved.append hrequest).append hdismissed.unsaved
  · have hnone : v.request method data = [] := by
      have hv : v.dispatched method = .error why := hwhy
      rw [Session.request, hv]
    rw [hnone]
    exact ((hlocking _ rfl).append (List.forall_mem_nil _)).append hdismissed

theorem endCall_next {call : Call} {attempt : Attempt} {p : Progress}
    (h : endCall call attempt carry s = some (.ok p, t)) : p.next? = none := by
  obtain ⟨outcome, u, -, hu⟩ | ⟨e, -, he⟩ := bind_cases h
  · obtain ⟨y, -, hp⟩ := map_cases (f := Progress.done) hu
    cases y <;> cases hp
    rfl
  · cases he

theorem answerCall_next {call : Call} {reply : Pending} {p : Progress}
    (h : answerCall call reply carry s = some (.ok p, t)) : p.next? = none := by
  obtain ⟨a, u, -, hu⟩ | ⟨e, -, he⟩ := bind_cases h
  · exact endCall_next hu
  · cases he

/-- Where the lock cannot be shown, this is all. -/
theorem stagedCall_unlocked (carry : React) (call : Call) (data : Json)
    (h : ¬ call.options.Locks s) :
    s.lacks .notifier = true ∧
      stagedCall call data carry s = some (.error (.requirementMissing .notifier), s) := by
  obtain ⟨hb, hn⟩ := RemoteOptions.not_locks h
  exact ⟨by simp [Session.lacks, hn], run_bind_error (lock_missing hb hn .lockShown)⟩

/-- Where it can be shown, the call goes on from where the server was asked. -/
theorem stagedCall_asked (call : Call) {data : Json} {x : Except Fault Progress}
    (hlock : call.options.Locks s) (h : stagedCall call data carry s = some (x, t)) : ∃ l u,
      u.trace = l.reverse ++ s.trace ∧ Unsaved l ∧ s.Beside u ∧ call.options.Locks u ∧
      ((∃ why, s.dispatched call.method = .error why ∧ Idle l ∧
          endCall call (.error why) carry u = some (x, t)) ∨
        ∃ delay reply, after delay (.replying call reply) (answerCall call reply) carry u =
          some (x, t)) := by
  obtain ⟨l, u, v, hshown, hasked, hadds, hunsaved, hbeside, hidle⟩ :=
    run_ask carry hlock call.method data
  replace h := (run_bind_ok hasked).symm.trans ((run_bind_ok hshown).symm.trans h)
  refine ⟨l, u, hadds, hunsaved, hbeside, hlock.imp_right hbeside.notifier.trans, ?_⟩
  unfold Session.requested at h
  cases hd : s.dispatched call.method with
  | error why =>
      rw [hd] at h
      exact .inl ⟨why, rfl, hidle why hd, h⟩
  | ok p =>
      rw [hd] at h
      exact .inr ⟨_, _, h⟩

section
variable (hm : Mute carry) (hl : Lenient carry)
include hm hl

theorem wants_call {next : AfterCall} (hn : Serves form next) (method : String) (data : Json) :
    Wants carry form.isSome (stagedCall ⟨method, o, next⟩ data)
      fun c l => Idle l ∨ Unfinished o form c l := by
  intro s c t h
  by_cases hlock : o.Locks s
  · obtain ⟨l, u, hadds, hunsaved, hbeside, hlocks, hends⟩ :=
      stagedCall_asked ⟨method, o, next⟩ hlock h
    rcases hends with ⟨why, hd, hidle, h⟩ | ⟨delay, reply, h⟩
    · -- nobody was asked, so even the end of the call comes before any effect
      have hlack : ∀ c, Except.error why = (.error (.requirementMissing c) : Attempt) →
          u.lacks c = true := by
        rintro c hc
        cases hc
        exact (hbeside.lacks c).trans (Session.lacks_of_dispatched hd)
      obtain ⟨k, hk, ⟨hc, hwants⟩ | ⟨ho, e, hek, he⟩⟩ := wants_endCall hm hl hn hlocks hlack h
      · refine ⟨l ++ k, trace_append hadds hk, .inl ⟨hc, .inl ?_⟩⟩
        cases hwants with
        | telling _ _ hi => exact hidle.append hi
        | refused _ hi => exact hidle.append hi
        | closing hno => cases hno
      · exact ⟨l ++ k, trace_append hadds hk, .inr ⟨ho, e, List.mem_append_right l hek, he⟩⟩
    · unfold after at h
      split at h
      · obtain ⟨k, hk, ⟨hc, hunf⟩ | ⟨ho, e, hek, he⟩⟩ := wants_answerCall hm hl hn hlocks h
        · exact ⟨l ++ k, trace_append hadds hk, .inl ⟨hc, .inr (hunf.behind hunsaved)⟩⟩
        · exact ⟨l ++ k, trace_append hadds hk, .inr ⟨ho, e, List.mem_append_right l hek, he⟩⟩
      · cases h
  · obtain ⟨hlacks, hrun⟩ := stagedCall_unlocked carry ⟨method, o, next⟩ data hlock
    cases hrun.symm.trans h
    exact ⟨[], rfl, .inl ⟨hlacks, .inl (List.forall_mem_nil _)⟩⟩

/-- The only wait of a call is that for the answer to its request. -/
theorem proceeds_call {next : AfterCall} (hn : Serves form next) (method : String) (data : Json) :
    Proceeds carry o form (call method data o next) := by
  have heq : call method data o next = stagedCall ⟨method, o, next⟩ data :=
    call_eq ⟨method, o, next⟩ data
  rw [heq]
  refine ⟨wants_call hm hl hn method data, fun s p later t h hp => ?_⟩
  by_cases hlock : o.Locks s
  · obtain ⟨l, u, hadds, hunsaved, -, hlocks, ⟨why, -, -, h⟩ | ⟨delay, reply, h⟩⟩ :=
      stagedCall_asked ⟨method, o, next⟩ hlock h
    · cases (endCall_next h).symm.trans hp
    · unfold after at h
      split at h
      · cases (answerCall_next h).symm.trans hp
      · cases h
        cases hp
        exact ⟨l, hadds, .replying method reply hn, hunsaved, .inl ⟨rfl, hlocks⟩⟩
  · obtain ⟨-, hrun⟩ := stagedCall_unlocked carry ⟨method, o, next⟩ data hlock
    cases hrun.symm.trans h

omit hm hl in
/-- Behind its last act a submission waits for nothing. -/
theorem proceeds_last {r : Answer} {a : Act Unit}
    (ha : Wants carry form.isSome a fun c l => Idle l ∨ Unfinished o form c l) :
    Proceeds carry o form (do a; return .done r) where
  wants := .ahead ha fun _ => .pure _
  waits s p later t h hp := by
    obtain ⟨_, u, -, hu⟩ | ⟨e, -, he⟩ := bind_cases h
    · cases hu
      cases hp
    · cases he

variable (b : BoundForm)

theorem proceeds_sendForm (data : Fields) :
    Proceeds carry b.options.remote (some b) (sendForm b data) := by
  unfold sendForm
  split
  · exact proceeds_call hm hl (.submission b) _ _
  · refine proceeds_last ((wants_succeed hm hl b _).mono ?_)
    rintro c l ⟨rfl, hmodal, hquiet⟩
    exact .inr (.unclosed rfl hmodal hquiet)

theorem proceeds_decided (data : Fields) (accepted : Bool) :
    Proceeds carry b.options.remote (some b) (decided b data accepted) := by
  refine .behind_calm hm (.emit rfl rfl) (.of_run fun _ => run_emit _) fun _ =>
    .ite _ (proceeds_sendForm hm hl b data) ?_
  exact proceeds_last ((wantsNothing_restoreForm hm hl b).mono fun _ _ h => h.elim)

theorem proceeds_inject (data : Fields) (hook : Inject Command) :
    Proceeds carry b.options.remote (some b) (inject b data hook) := by
  refine .behind_calm hm (.attempt (.react _)) (.attempt _) fun _ => ?_
  split
  · exact proceeds_decided hm hl b data _
  · refine .behind_calm hm (.gets fun _ _ => rfl) (.gets _) fun values =>
      .behind_calm hm (.outcome (built_askConfirm _ _ _)) (.outcome _) fun x => ?_
    cases x with
    | error why => exact proceeds_decided hm hl b data false
    | ok ticket =>
        refine .behind_calm hm (.gets fun _ _ => rfl) (.gets _) fun answers => ?_
        split
        · exact .behind_calm hm (.change (.apart fun _ _ => rfl)) (.of_run fun _ => run_change _)
            fun _ => proceeds_decided hm hl b data _
        · exact .rests rfl (.deciding b data rfl) rfl

omit hl in
/-- The fields are marked before the message wants a notifier. -/
theorem wants_rejectFields (names : List String) :
    Wants carry hosted (rejectFields b names) fun c _ => c = .notifier := by
  refine .bind (P := Anything) hm ?_ (.faultless ?_) (fun _ => ?_) fun _ _ _ _ h => h
  · exact .forIn fun _ _ _ => .bind (.gets fun _ _ => rfl) fun _ =>
      .bind (.forIn fun e _ _ => .bind (built_mark false e) fun _ => .pure _) fun _ => .pure _
  · exact .forIn fun _ _ => .bind (.gets _) fun _ =>
      .bind (.forIn fun e _ => .bind (faultless_mark false e) fun _ => .pure _) fun _ => .pure _
  · exact .ahead (wants_needNotifier.mono fun _ _ h => h.1) fun _ => .of_run fun _ => run_emit _

theorem proceeds_submit : Proceeds carry b.options.remote (some b) (submit b) := by
  refine .behind_calm hm (.gets fun _ _ => rfl) (.gets _) fun data =>
    .behind_calm hm built_separators (.gets _) fun _ => .ite _ ?_ ?_
  · exact .behind hm (built_rejectFields b _)
      ((wants_rejectFields hm b _).mono fun _ _ _ => trivial) fun _ => .done _
  · refine .behind_calm hm (built_clearMarks b) faultless_clearMarks fun _ => ?_
    split
    · exact .behind_calm hm (.emit rfl rfl) (.of_run fun _ => run_emit _) fun _ =>
        .after (proceeds_inject hm hl b data _) (.injecting b data _ rfl) rfl
    · exact proceeds_sendForm hm hl b data

/-- All stretches of a call or a submission up to the answer to its request. -/
theorem proceeds_resume {frame : Frame} (h : Requests o form frame)
    (hf : frame.isReplying = false) (answer : Bool) :
    Proceeds carry o form (resume frame answer) := by
  cases h with
  | call method data => exact proceeds_call hm hl .answer method data
  | submit b hb =>
      subst hb
      exact proceeds_submit hm hl b
  | injecting b data hook hb =>
      subst hb
      exact proceeds_inject hm hl b data hook
  | deciding b data hb =>
      subst hb
      exact proceeds_decided hm hl b data answer
  | replying => cases hf

end
end Act

section
variable {o : RemoteOptions} {form : Option BoundForm} {frame later : Frame} {answer : Bool}
  {s t : Session} {n : Nat} {c : Requirement} {p : Progress}

theorem Requests.built (h : Requests o form frame) (answer : Bool) :
    Built Anything (resume frame answer) :=
  built_resume (by cases h <;> rfl) answer

/-- A stretch that ends for want of a capability has done nothing itself, or as little as
`Unfinished` says. -/
theorem Requests.own_wants (h : Requests o form frame)
    (hlock : frame.isReplying = true → o.Locks s)
    (hr : (resume frame answer).settle n s = some (.error (.requirementMissing c), t)) :
    (t.lacks c = true ∧ (frame.isReplying = false ∧ Idle ((resume frame answer).own (cascade n) s) ∨
      Unfinished o form c ((resume frame answer).own (cascade n) s))) ∨
    form.isSome = true ∧ ∃ e ∈ (resume frame answer).own (cascade n) s, e.isEvaluation = true := by
  have hm := mute_hush (cascade n)
  have hl := (lenient_cascade n).hush
  refine own_ends (G := fun l u => (u.lacks c = true ∧ (frame.isReplying = false ∧ Idle l ∨
    Unfinished o form c l)) ∨ form.isSome = true ∧ ∃ e ∈ l, e.isEvaluation = true)
    (h.built answer) hr fun u hu => ?_
  cases hf : frame.isReplying with
  | false =>
      obtain ⟨l, hadds, hends⟩ := (proceeds_resume hm hl h hf answer).wants _ c u hu
      exact ⟨l, hadds, hends.imp_left fun ⟨hc, hx⟩ => ⟨hc, hx.imp_left fun hi => ⟨rfl, hi⟩⟩⟩
  | true =>
      cases h with
      | replying method reply hnext =>
          rw [resume_replying] at hu
          obtain ⟨l, hadds, hends⟩ :=
            wants_answerCall (s := s.retrace []) hm hl hnext (hlock rfl) hu
          exact ⟨l, hadds, hends.imp_left fun ⟨hc, hx⟩ => ⟨hc, .inr hx⟩⟩
      | _ => cases hf

/-- A stretch that comes to wait has done nothing itself but send the request, whose answer it then
waits for. -/
theorem Requests.own_waits (h : Requests o form frame)
    (hr : (resume frame answer).settle n s = some (.ok p, t)) (hp : p.next? = some later) :
    frame.isReplying = false ∧ Requests o form later ∧
      Unsaved ((resume frame answer).own (cascade n) s) ∧
      (later.isReplying = true ∧ o.Locks t ∨
        later.isReplying = false ∧ Idle ((resume frame answer).own (cascade n) s)) := by
  have hm := mute_hush (cascade n)
  have hl := (lenient_cascade n).hush
  refine own_ends (G := fun l u => frame.isReplying = false ∧ Requests o form later ∧ Unsaved l ∧
    (later.isReplying = true ∧ o.Locks u ∨ later.isReplying = false ∧ Idle l))
    (h.built answer) hr fun u hu => ?_
  cases hf : frame.isReplying with
  | false =>
      obtain ⟨l, hadds, hl⟩ := (proceeds_resume hm hl h hf answer).waits _ p later u hu hp
      exact ⟨l, hadds, rfl, hl⟩
  | true =>
      cases h with
      | replying method reply hnext =>
          rw [resume_replying] at hu
          cases (answerCall_next hu).symm.trans hp
      | _ => cases hf

end

/-- A course to its end, in which the host takes back nothing that it has supplied: the events that
the task records itself, its result, and the session at its end. -/
inductive Equipped : Frame → Bool → Session → List Event → Result → Session → Prop
  | ends {frame : Frame} {answer : Bool} {s t : Session} {x : Result} (n : Nat) :
      (resume frame answer).settle n s = some (x.map .done, t) →
      Equipped frame answer s ((resume frame answer).own (cascade n) s) x t
  | waits {frame next : Frame} {answer accepted : Bool} {s t u v : Session} {p : Progress}
      {log : List Event} {r : Result} (n : Nat) :
      (resume frame answer).settle n s = some (.ok p, t) → p.next? = some next → t.Supplies u →
      Equipped next accepted u log r v →
      Equipped frame answer s ((resume frame answer).own (cascade n) s ++ log) r v

section
variable {o : RemoteOptions} {form : Option BoundForm} {frame : Frame} {answer : Bool}
  {s t : Session} {log : List Event} {r : Result} {c : Requirement}

theorem Equipped.course (h : Equipped frame answer s log r t) :
    Course frame answer s log (some r) := by
  induction h with
  | ends n hr => exact .ends n hr
  | waits n hr hp _ _ ih => exact .waits n hr hp ih

/-- Whatever other tasks do while a task waits, its course goes on. -/
theorem Equipped.meanwhile {frame next : Frame} {answer accepted : Bool} {s t u v : Session}
    {p : Progress} {more : List Stretch} (n : Nat) (task : Task)
    (hr : (resume frame answer).settle n s = some (.ok p, t)) (hp : p.next? = some next)
    (hmore : Interleaved cascade (t.record task (.ok p)).2 u more)
    (h : Equipped next accepted u log r v) :
    Equipped frame answer s ((resume frame answer).own (cascade n) s ++ log) r v :=
  .waits n hr hp ((t.record_supplies task (.ok p)).trans hmore.supplies) h

/-- Along a course that ends for want of a capability, from any of its stretches. -/
theorem Equipped.wants (h : Equipped frame answer s log r t) (hq : Requests o form frame)
    (hlock : frame.isReplying = true → o.Locks s) (hr : r = .error (.requirementMissing c)) :
    (t.lacks c = true ∧ (frame.isReplying = false ∧ Idle log ∨ Unfinished o form c log)) ∨
      form.isSome = true ∧ ∃ e ∈ log, e.isEvaluation = true := by
  induction h with
  | ends n hx =>
      subst hr
      exact hq.own_wants hlock hx
  | @waits frame next answer accepted s t u v p log r n hx hp hsupplies _ ih =>
      obtain ⟨hf, hnext, hunsaved, hlast⟩ := hq.own_waits hx hp
      have hlocks : next.isReplying = true → o.Locks u := fun hreply => by
        obtain ⟨-, hl⟩ | ⟨hno, -⟩ := hlast
        · -- what the lock needs was there, and nothing is taken back
          exact hl.imp_right hsupplies.notifier
        · cases hno.symm.trans hreply
      obtain ⟨hc, ⟨hreply, hidle⟩ | hunf⟩ | ⟨ho, e, hel, he⟩ := ih hnext hlocks hr
      · obtain ⟨hno, -⟩ | ⟨-, hbefore⟩ := hlast
        · cases hno.symm.trans hreply
        · exact .inl ⟨hc, .inl ⟨hf, hbefore.append hidle⟩⟩
      · exact .inl ⟨hc, .inr (hunf.behind hunsaved)⟩
      · exact .inr ⟨ho, e, List.mem_append_right _ hel, he⟩

/-- If a call ends for want of a capability, this is missing to the end, and nothing was sent or
written; or it is the notifier that was wanted for the message of a call in the background, which
has been answered. A submission that calls no evaluator of the host is bound likewise, or else it
is the renderer that was wanted to close the modals, before any hook for the end was called. -/
theorem effects_of_missing_requirement
    (h : Equipped frame answer s log (.error (.requirementMissing c)) t) :
    (∀ method data o, frame = .begin (.call method data o) →
      t.lacks c = true ∧ (Idle log ∨ Unfinished o none c log)) ∧
    (∀ b, frame = .submit b →
      (t.lacks c = true ∧ (Idle log ∨ Unfinished b.options.remote (some b) c log)) ∨
        ∃ e ∈ log, e.isEvaluation = true) := by
  refine ⟨?_, ?_⟩
  · rintro method data o rfl
    obtain ⟨hc, ⟨-, hidle⟩ | hunf⟩ | ⟨hno, -⟩ := h.wants (.call method data) nofun rfl
    · exact ⟨hc, .inl hidle⟩
    · exact ⟨hc, .inr hunf⟩
    · cases hno
  · rintro b rfl
    obtain ⟨hc, ⟨-, hidle⟩ | hunf⟩ | ⟨-, he⟩ := h.wants (.submit b rfl) nofun rfl
    · exact .inl ⟨hc, .inl hidle⟩
    · exact .inl ⟨hc, .inr hunf⟩
    · exact .inr he

end

/-- A call in the background without a notifier sends its request, and ends for want of the
notifier when it is answered. -/
theorem background_call_unnotified : ∃ t, Equipped
    (.begin (.call "put" .null { background := true })) true
    { ageSession "7" with notifier := false }
    [.sent true .post "people" .null, .answered (.ok .null)]
    (.error (.requirementMissing .notifier)) t := by
  have h₁ : Equipped (.replying ⟨"put", { background := true }, .answer⟩ (.settled (.ok .null)))
      true { ageSession "7" with notifier := false } _
      (.error (.requirementMissing .notifier)) _ := .ends 5 rfl
  have h : Equipped (.begin (.call "put" .null { background := true })) true
      { ageSession "7" with notifier := false } _ _ _ :=
    .waits (u := { ageSession "7" with notifier := false }) 5 rfl rfl ⟨id, id, id⟩ h₁
  exact ⟨_, h⟩

/-- The form of one field, which closes the modals and has a hook for a success. -/
def ageModal : BoundForm :=
  { ageForm with options := { method := some "put", modal := true, onSuccess := some [] } }

/-- A submission that is to close the modals without a renderer saves its form first. -/
theorem modal_submission_unrendered : ∃ text t, Equipped (.submit ageModal) true (ageSession "7")
    [.lockShown, .sent true .post "people" (.object [("age", .string "7")]), .answered (.ok .null),
      .lockReleased, .message text false, .stored "age" (.string "7") (some ageModal.form.source)]
    (.error (.requirementMissing .renderer)) t := by
  have h₁ : Equipped (.replying ⟨"put", {}, .submission ageModal⟩ (.settled (.ok .null)))
      true (ageSession "7") _ (.error (.requirementMissing .renderer)) _ := .ends 5 rfl
  have h : Equipped (.submit ageModal) true (ageSession "7") _ _ _ :=
    .waits (u := ageSession "7") 5 rfl rfl ⟨id, id, id⟩ h₁
  exact ⟨_, _, h⟩

/-- The call has sent its request, and the notifier is missing to the end. The submission has saved
its form, and the renderer is missing to the end. -/
theorem effects_of_missing_requirement_background :
    (∃ log t, Equipped (.begin (.call "put" .null { background := true })) true
      { ageSession "7" with notifier := false } log (.error (.requirementMissing .notifier)) t ∧
      t.lacks .notifier = true ∧ Unfinished { background := true } none .notifier log) ∧
    ∃ log t, Equipped (.submit ageModal) true (ageSession "7") log
      (.error (.requirementMissing .renderer)) t ∧
      t.lacks .renderer = true ∧
      Unfinished ageModal.options.remote (some ageModal) .renderer log := by
  obtain ⟨t, h⟩ := background_call_unnotified
  obtain ⟨text, u, k⟩ := modal_submission_unrendered
  constructor
  · obtain ⟨hc, hidle | hunf⟩ := (effects_of_missing_requirement h).1 _ _ _ rfl
    · cases hidle _ (.head _)
    · exact ⟨_, t, h, hc, hunf⟩
  · obtain ⟨hc, hidle | hunf⟩ | ⟨e, he, hev⟩ := (effects_of_missing_requirement k).2 ageModal rfl
    · cases hidle (.sent true .post "people" (.object [("age", .string "7")])) (by simp)
    · exact ⟨_, u, k, hc, hunf⟩
    · simp at he
      rcases he with rfl | rfl | rfl | rfl | rfl | rfl <;> cases hev

/-- A request is sent before the notifier is found missing, and a form is saved before the renderer
is. -/
theorem effects_before_missing_requirement :
    (∃ log t, Equipped (.begin (.call "put" .null { background := true })) true
      { ageSession "7" with notifier := false } log (.error (.requirementMissing .notifier)) t ∧
      .sent true .post "people" .null ∈ log) ∧
    ∃ log t, Equipped (.submit ageModal) true (ageSession "7") log
      (.error (.requirementMissing .renderer)) t ∧
      .stored "age" (.string "7") (some ageModal.form.source) ∈ log := by
  obtain ⟨t, h⟩ := background_call_unnotified
  obtain ⟨text, u, k⟩ := modal_submission_unrendered
  exact ⟨⟨_, t, h, by simp⟩, _, u, k, by simp⟩

end ScreenBinding
