import ScreenBinding.Proofs.CallActs
import ScreenBinding.Proofs.OwnEvents

/-!
# The steps of a submission

The grammar of what a submission records itself: validation, the question to the hook, the request,
its answer, and the writes under the source of the form, each with the result that goes with it.
A submission may stop to wait in three places, and each of these has a part of the grammar of its
own, which describes all that is still to come.

Every act that a submission is made of is shown to keep to its part. Nothing is assumed about the
session in which a submission goes on, so the grammar holds whatever happens while it waits.
-/
namespace ScreenBinding
open Act

/-- Nothing but writes under one source. -/
def WrittenUnder (source : Option Source) (l : List Event) : Prop :=
  ∀ e ∈ l, ∃ key v, e = .stored key v source

/-- The result is this outcome, unless it is a fault. -/
def EndsIn (o : SubmitOutcome) (x : Result) : Prop := ∀ a, x = .ok a → a = .submitted o

theorem EndsIn.ok (o : SubmitOutcome) : EndsIn o (.ok (.submitted o)) := fun _ h => by cases h; rfl

theorem EndsIn.error (o : SubmitOutcome) (f : Fault) : EndsIn o (.error f) := nofun

/-- What is to come while the answer to the request is awaited. -/
inductive Replied (b : BoundForm) : List Event → Option Result → Prop
  | waiting : Replied b [] none
  | denied (why : TransportFault) (o : Fault) {x : Result} : EndsIn (.failed o) x →
      Replied b [.answered (.error why)] (some x)
  | granted (v : Json) {l : List Event} {x : Result} : WrittenUnder (some b.form.source) l →
      EndsIn (.submitted v) x → Replied b (.answered (.ok v)::l) (some x)

/-- What is to come once nothing stands in the way of sending. -/
inductive Delivered (b : BoundForm) (data : Fields) : List Event → Option Result → Prop
  | native {l : List Event} {x : Result} : b.options.method = none →
      WrittenUnder (some b.form.source) l → EndsIn (.native data) x → Delivered b data l (some x)
  | unsent (o : Fault) {x : Result} : b.options.method.isSome → EndsIn (.failed o) x →
      Delivered b data [] (some x)
  | sent (scripted : Bool) (verb : Verb) (url : String) {l : List Event} {r : Option Result} :
      b.options.method.isSome → Replied b l r →
      Delivered b data (.sent scripted verb url (.object data)::l) r

/-- What is to come once the hook was called. -/
inductive Asked (b : BoundForm) (data : Fields) : List Event → Option Result → Prop
  | waiting : Asked b data [] none
  | refused {l : List Event} {x : Result} : WrittenUnder none l → EndsIn .rejected x →
      Asked b data (.ruled false::l) (some x)
  | allowed {l : List Event} {r : Option Result} : Delivered b data l r →
      Asked b data (.ruled true::l) r

/-- A whole submission of `data`, of which the names `bad` fail their rules. -/
inductive Conducted (b : BoundForm) (data : Fields) (bad : List String) :
    List Event → Option Result → Prop
  | invalid {x : Result} : bad ≠ [] → EndsIn (.invalid bad) x → Conducted b data bad [] (some x)
  | asked {l : List Event} {r : Option Result} : bad = [] → b.options.inject.isSome →
      Asked b data l r → Conducted b data bad (.injected data::l) r
  | unasked {l : List Event} {r : Option Result} : bad = [] → b.options.inject = none →
      Delivered b data l r → Conducted b data bad l r

/-- Where a submission waits, and what is to come then. -/
inductive Onward (b : BoundForm) (data : Fields) :
    Frame → (List Event → Option Result → Prop) → Prop
  | injecting (hook : Inject Command) : Onward b data (.injecting b data hook) (Asked b data)
  | deciding : Onward b data (.deciding b data) (Asked b data)
  | replying (method : String) (options : RemoteOptions) (reply : Pending) :
      Onward b data (.replying ⟨method, options, .submission b⟩ reply) (Replied b)

/-- The steps up to here, and what is to come if the submission waits now, make up a `G`. -/
def Comes (b : BoundForm) (data : Fields) (G : List Event → Option Result → Prop)
    (l : List Event) : Except Fault Progress → Prop
  | .error f => G l (some (.error f))
  | .ok (.done a) => G l (some (.ok a))
  | .ok (.sleep _ frame) => ∃ L, Onward b data frame L ∧ ∀ k r, L k r → G (l ++ k) r
  | .ok (.await _ frame) => ∃ L, Onward b data frame L ∧ ∀ k r, L k r → G (l ++ k) r

/-- What comes of a part, seen from before the steps that led to it. -/
theorem Comes.behind {b : BoundForm} {data : Fields} {L G : List Event → Option Result → Prop}
    {l k : List Event} {x : Except Fault Progress} (h : Comes b data L k x)
    (hG : ∀ k r, L k r → G (l ++ k) r) : Comes b data G (l ++ k) x := by
  have wait {frame : Frame} (hw : ∃ M, Onward b data frame M ∧ ∀ j r, M j r → L (k ++ j) r) :
      ∃ M, Onward b data frame M ∧ ∀ j r, M j r → G ((l ++ k) ++ j) r := by
    obtain ⟨M, ho, hM⟩ := hw
    refine ⟨M, ho, fun j r hj => ?_⟩
    rw [List.append_assoc]
    exact hG _ r (hM j r hj)
  rcases x with f | (a | ⟨ms, frame⟩ | ⟨ticket, frame⟩)
  · exact hG k _ h
  · exact hG k _ h
  · exact wait h
  · exact wait h

namespace Act
section
variable {b : BoundForm} {data : Fields} {carry : React} (hm : Mute carry)
include hm

/-- Writes under one source, and plain events. -/
def OnlyWrites (source : Option Source) (e : Event) : Prop :=
  e.isStep = true → ∃ key v, e = .stored key v source

omit hm in
instance (source : Option Source) : Admits (OnlyWrites source) :=
  ⟨fun h ht => by rw [h] at ht; cases ht⟩

omit hm in
theorem admitsWrites_only (source : Option Source) : AdmitsWrites (OnlyWrites source) source :=
  fun key v _ => ⟨key, v, rfl⟩

theorem yields_writes {α : Type} {source : Option Source} {a : Act α}
    (h : Built (OnlyWrites source) a) : Yields carry a fun l _ => WrittenUnder source l :=
  (Yields.of_built hm h).mono fun _ _ hl e he => (hl e he).1 (hl e he).2

theorem yields_succeed (v : Json) :
    Yields carry (succeed b v) fun l _ => WrittenUnder (some b.form.source) l :=
  yields_writes hm (built_succeed b v (admitsWrites_only _))

theorem yields_restore : Yields carry (restoreForm b) fun l _ => WrittenUnder none l :=
  yields_writes hm (built_restoreForm b (admitsWrites_only none))

omit hm in
theorem faultless_callHook (e : Event) (hook : Option (List Command)) :
    Faultless carry (callHook e hook) := by
  cases hook with
  | some actions => exact .bind (.of_run fun _ => run_emit e) fun _ => .attempt _
  | none => exact .pure ()

/-- A failed call ends the submission without a step. -/
theorem yields_failure (why : Fault) :
    Yields carry (afterCall (.submission b) (.failure why))
      fun l x => l = [] ∧ EndsIn (.failed why) x :=
  .after_calm hm (built_callHook (Admits.plain rfl) rfl _) (faultless_callHook _ _) fun _ =>
    .pure ⟨rfl, .ok _⟩

theorem yields_success (v : Json) :
    Yields carry (afterCall (.submission b) (.success v)) fun l x =>
      WrittenUnder (some b.form.source) l ∧ EndsIn (.submitted v) x :=
  (yields_succeed hm v).bind
    (fun l _ hl => .pure ⟨by rwa [List.append_nil], .ok _⟩) fun _ f hl => ⟨hl, .error _ f⟩

theorem yields_granted (method : String) (options : RemoteOptions) (v : Json) :
    Yields carry (finishCall ⟨method, options, .submission b⟩ (.ok (.ok v))) fun l x =>
      WrittenUnder (some b.form.source) l ∧ EndsIn (.submitted v) x :=
  have failed (f : Fault) :
      WrittenUnder (some b.form.source) [] ∧ EndsIn (.submitted v) (.error f) :=
    ⟨List.forall_mem_nil _, .error _ f⟩
  .after_plain hm (built_lock options rfl rfl) failed fun _ =>
    .after_plain hm (built_reportSuccess options) failed fun _ => yields_success hm v

theorem yields_denied (method : String) (options : RemoteOptions) (why : TransportFault) :
    Yields carry (finishCall ⟨method, options, .submission b⟩ (.ok (.error why))) fun l x =>
      l = [] ∧ EndsIn (.failed (.transport why)) x :=
  .after_plain hm (built_lock options rfl rfl) (fun f => ⟨rfl, .error _ f⟩) fun _ =>
    .after_plain hm (built_reportFailure options) (fun f => ⟨rfl, .error _ f⟩) fun _ =>
      yields_failure hm (.transport why)

/-- A request that could not be made fails, or is a fault in debug mode. -/
theorem yields_unsent (method : String) (options : RemoteOptions) (why : Fault) :
    Yields carry (finishCall ⟨method, options, .submission b⟩ (.error why)) fun l x =>
      l = [] ∧ EndsIn (.failed why) x :=
  .after_plain hm (built_lock options rfl rfl) (fun f => ⟨rfl, .error _ f⟩) fun _ =>
    .after_plain hm (built_reportFailure options) (fun f => ⟨rfl, .error _ f⟩) fun _ =>
      .looked fun mode => by
        split
        · exact yields_failure hm why
        · exact .throw ⟨rfl, .error _ why⟩

/-- An answer is heard once, before anything else happens. -/
theorem yields_receive (p : Pending) :
    Yields carry (receive p) fun l x => ∃ a, l = [.answered a] ∧ x = .ok a :=
  .after_calm hm (built_arrived p) (.of_run fun _ => run_arrived p) fun a =>
    .emit rfl (.pure ⟨a, rfl, rfl⟩)

theorem yields_reply (method : String) (options : RemoteOptions) (p : Pending) :
    Yields carry (do
      return Progress.done (← finishCall ⟨method, options, .submission b⟩ (.ok (← receive p))))
      (Comes b data (Replied b)) := by
  refine (yields_receive hm p).bind ?_ fun l f h => ?_
  · rintro l a ⟨a', rfl, h⟩
    cases h
    cases a with
    | ok v =>
        exact (yields_granted hm method options v).bind
          (fun l x hl => .pure (.granted v (by simpa using hl.1) hl.2))
          fun l f hl => .granted v hl.1 (.error _ f)
    | error why =>
        refine (yields_denied hm method options why).bind (fun l x hl => .pure ?_) fun l f hl => ?_
        · obtain ⟨rfl, hx⟩ := hl
          exact .denied why _ hx
        · obtain ⟨rfl, -⟩ := hl
          exact .denied why (.transport why) (.error _ f)
  · obtain ⟨a, -, ha⟩ := h
    cases ha

/-- A request is sent once. -/
theorem yields_send (t : Transport) (verb : Verb) (url : String) (payload : Json) :
    Yields carry (send t verb url payload) fun l x =>
      ∃ scripted y, l = [.sent scripted verb url payload] ∧ x = .ok y := by
  cases t with
  | scripted =>
      exact .emit rfl (.after_calm hm (built_takeReply url) (faultless_takeReply url) fun r =>
        .pure ⟨true, _, rfl, rfl⟩)
  | offline responses latency => exact .emit rfl (.pure ⟨false, _, rfl, rfl⟩)
  | http base => exact .emit rfl (.pure ⟨false, _, rfl, rfl⟩)

/-- A call for a submission sends at most one request, with the data it was given. -/
theorem yields_call (hb : b.options.method.isSome) (method : String) (options : RemoteOptions) :
    Yields carry (call method (.object data) options (.submission b))
      (Comes b data (Delivered b data)) := by
  refine .after_plain hm (built_lock options rfl rfl)
    (fun f => .unsent f hb (.error _ f)) fun _ =>
      .after_calm hm (.outcome (built_dispatch method)) ?_ fun x => ?_
  · exact .outcome _
  · cases x with
    | error why =>
        refine (yields_unsent hm method options why).bind (fun l x hl => .pure ?_) fun l f hl => ?_
        · obtain ⟨rfl, hx⟩ := hl
          exact .unsent why hb hx
        · obtain ⟨rfl, -⟩ := hl
          exact .unsent why hb (.error _ f)
    | ok p =>
        refine (yields_send hm p.2 p.1.verb p.1.url (.object data)).bind ?_ fun l f h => ?_
        · rintro l y ⟨scripted, _, rfl, -⟩
          have sent {k : List Event} {r : Option Result} (h : Replied b k r) :
              Delivered b data (.sent scripted p.1.verb p.1.url (.object data)::k) r :=
            .sent scripted p.1.verb p.1.url hb h
          change Yields carry (after y.1 (.replying ⟨method, options, .submission b⟩ y.2) _) _
          unfold after
          split
          · exact (yields_reply hm method options y.2).mono fun k x hk =>
              hk.behind fun j r hj => sent hj
          · exact .pure ⟨Replied b, .replying method options y.2, fun k r hk => sent hk⟩
        · obtain ⟨_, y, -, hy⟩ := h
          cases hy

theorem yields_sendForm : Yields carry (sendForm b data) (Comes b data (Delivered b data)) := by
  unfold sendForm
  split
  · rename_i method h
    exact yields_call hm (by rw [h]; rfl) method b.options.remote
  · rename_i h
    exact (yields_succeed hm (.object data)).bind
      (fun l x hl => .pure (.native h (by rwa [List.append_nil]) (.ok _)))
      fun l f hl => .native h hl (.error _ f)

theorem yields_decided (accepted : Bool) :
    Yields carry (decided b data accepted) (Comes b data (Asked b data)) := by
  refine .emit rfl ?_
  cases accepted with
  | true =>
      exact (yields_sendForm hm).mono fun l x h =>
        h.behind (l := [.ruled true]) fun k r hk => .allowed hk
  | false =>
      exact (yields_restore hm).bind
        (fun l x hl => .pure (.refused (by rwa [List.append_nil]) (.ok _)))
        fun l f hl => .refused hl (.error _ f)

theorem yields_awaitAnswer (ticket : Ticket) :
    Yields carry (awaitAnswer ticket (.deciding b data) (decided b data))
      (Comes b data (Asked b data)) := by
  refine .looked fun answers => ?_
  split
  · exact .after_calm hm (.change (.apart fun _ _ => rfl))
      (.of_run fun _ => run_change _) fun _ => yields_decided hm _
  · exact .pure ⟨_, .deciding, fun k r hk => hk⟩

theorem yields_inject (hook : Inject Command) :
    Yields carry (inject b data hook) (Comes b data (Asked b data)) := by
  refine .after_calm hm (.attempt (.react _)) (.attempt _) fun _ => ?_
  split
  · exact yields_decided hm _
  · refine .looked fun values =>
      .after_calm hm (.outcome (built_askConfirm _ _ _)) (.outcome _) fun x => ?_
    cases x with
    | ok ticket => exact yields_awaitAnswer hm ticket
    | error f => exact yields_decided hm false

omit hm in
theorem faultless_clearMarks : Faultless carry (clearMarks b) :=
  .bind (.gets _) fun _ => .bind (.gets _) fun _ => .forEach fun _ _ =>
    .of_run fun _ => run_change _

theorem yields_judged (bad : List String) :
    Yields carry (judged b data bad) (Comes b data (Conducted b data bad)) := by
  unfold judged
  split
  · rename_i h
    have hb : bad ≠ [] := by
      rintro rfl
      cases h
    exact .after_plain hm (built_rejectFields b bad) (fun f => .invalid hb (.error _ f)) fun _ =>
      .pure (.invalid hb (.ok _))
  · rename_i h
    have hb : bad = [] := by simpa using h
    refine .after_calm hm (built_clearMarks b) faultless_clearMarks fun _ => ?_
    split
    · rename_i hook hi
      have his : b.options.inject.isSome := by rw [hi]; rfl
      refine .emit rfl ?_
      unfold after
      split
      · exact (yields_inject hm hook).mono fun l x h =>
          h.behind (l := [.injected data]) fun k r hk => .asked hb his hk
      · exact .pure ⟨_, .injecting hook, fun k r hk => .asked hb his hk⟩
    · rename_i hi
      exact (yields_sendForm hm).mono fun l x h =>
        h.behind (l := []) fun k r hk => .unasked hb hi hk

/-- A submission goes on from where it waits as the grammar says. -/
theorem yields_resume {frame : Frame} {L : List Event → Option Result → Prop}
    (h : Onward b data frame L) (answer : Bool) :
    Yields carry (resume frame answer) (Comes b data L) := by
  cases h with
  | injecting hook => exact yields_inject hm hook
  | deciding => exact yields_decided hm answer
  | replying method options reply => exact yields_reply hm method options reply

end
end Act
end ScreenBinding
