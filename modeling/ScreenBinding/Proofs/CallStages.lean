import ScreenBinding.Proofs.CallActs
import ScreenBinding.Proofs.Reloads

/-!
# The stages of a call

A remote call is taken apart where others may come in between: it shows the lock; it asks the
server, or takes the lock away at once if there is nobody to ask; it hears the answer and takes the
lock away; it reports to the user and ends. What follows from its outcome is no part of it.

With a notifier installed every stage ends, and so does each one whose options ask for none. The
lemmas about them say with what, and what each puts on the trace.
-/
namespace ScreenBinding
open Act

/-- Whether it answers from prepared replies. -/
def Transport.isScripted : Transport → Bool
  | .scripted => true
  | _ => false

namespace Session

/-- The reply to the next request of a URL. -/
def nextReply (s : Session) (url : String) : Reply :=
  match Table.find? s.replies url with
  | some (r::_) => r
  | _ => { answer := .ok .null }

/-- What a transport makes of a request: how long the answer takes, and the answer. -/
def reply (s : Session) (verb : Verb) (url : String) (data : Json) : Transport → Nat × Pending
  | .scripted => ((s.nextReply url).delay, .settled (s.nextReply url).answer)
  | .offline responses latency => (latency, .canned responses url)
  | .http base => (0, .settled (.error (Url.refusal base verb url data)))

/-- The route of a method and the transport that carries it, if there are such. -/
def dispatched (s : Session) (method : String) : Except Fault (Route × Transport) :=
  match MethodTable.ofValue (Table.find? s.values "methods") with
  | .error why => .error why
  | .ok table =>
      match table.route method, s.transport with
      | .error why, _ => .error why
      | .ok _, none => .error (.requirementMissing .transport)
      | .ok r, some t => .ok (r, t)

/-- The answer that a request gets, or the reason why none is made. -/
def requested (s : Session) (method : String) (data : Json) : Except Fault (Nat × Pending) :=
  (s.dispatched method).map fun p => s.reply p.1.verb p.1.url data p.2

end Session

namespace RemoteOptions

/-- An event of the lock, unless the call keeps in the background. -/
def locking (o : RemoteOptions) (e : Event) : List Event := if o.background then [] else [e]

/-- A message, unless the call is silent. -/
def telling (o : RemoteOptions) (e : Event) : List Event := if o.silent then [] else [e]

/-- The lock can be shown and taken away, if that is asked for. -/
def Locks (o : RemoteOptions) (s : Session) : Prop := o.background = true ∨ s.notifier = true

theorem not_locks {o : RemoteOptions} {s : Session} (h : ¬ o.Locks s) :
    o.background = false ∧ s.notifier = false := by
  simpa [Locks] using h

/-- The user can be told, if that is asked for. -/
def Tells (o : RemoteOptions) (s : Session) : Prop := o.silent = true ∨ s.notifier = true

theorem not_tells {o : RemoteOptions} {s : Session} (h : ¬ o.Tells s) :
    o.silent = false ∧ s.notifier = false := by
  simpa [Tells] using h

end RemoteOptions

/-- What a call has heard: why no request was made, or how it was answered. -/
abbrev Attempt := Except Fault (Except TransportFault Json)

namespace Attempt

/-- The outcome of a call; in debug mode a request that was not made is a fault. -/
def result (mode : DebugMode) : Attempt → Except Fault RemoteOutcome
  | .ok (.ok v) => .ok (.success v)
  | .ok (.error why) => .ok (.failure (.transport why))
  | .error why => if mode = .off then .ok (.failure why) else .error why

/-- What the user is told. -/
def message (s : Settings) (o : RemoteOptions) : Attempt → Event
  | .ok (.ok _) => .message (o.success.getD s.network.success) false
  | _ => .error (o.failure.getD s.network.failure)

end Attempt

namespace Act
variable {carry : React} {s : Session}

/-- Sends the request if there is a route and a transport, and lets the lock go otherwise. -/
def askServer (method : String) (data : Json) (options : RemoteOptions) :
    Act (Except Fault (Nat × Pending)) := do
  match ← outcome (dispatch method) with
  | .error why =>
      lock options .lockReleased
      return .error why
  | .ok (r, t) => return .ok (← send t r.verb r.url data)

/-- Hears the answer and lets the lock go. -/
def hearServer (options : RemoteOptions) (reply : Pending) : Act (Except TransportFault Json) := do
  let a ← receive reply
  lock options .lockReleased
  return a

/-- Tells the user, and comes to an outcome. -/
def concludeCall (options : RemoteOptions) (attempt : Attempt) : Act RemoteOutcome := do
  match attempt with
  | .ok (.ok v) =>
      reportSuccess options
      return .success v
  | .ok (.error why) =>
      reportFailure options
      return .failure (.transport why)
  | .error why =>
      reportFailure options
      if (← gets (·.debugMode)) = .off then return .failure why else throw why

theorem finishCall_eq (c : Call) (attempt : Attempt) : finishCall c attempt = (do
    lock c.options .lockReleased
    afterCall c.next (← concludeCall c.options attempt)) := by
  unfold finishCall concludeCall
  rcases attempt with why | (why | v)
  · simp only [bind_assoc]
    refine bind_congr fun _ => bind_congr fun _ => bind_congr fun mode => ?_
    split
    · rfl
    · exact (throw_bind why _).symm
  · simp
  · simp

/-- The last stage, and what follows from the outcome. -/
def endCall (c : Call) (attempt : Attempt) : Act Progress := do
  return .done (← afterCall c.next (← concludeCall c.options attempt))

/-- The stages that are left when the answer arrives. -/
def answerCall (c : Call) (reply : Pending) : Act Progress := do
  endCall c (.ok (← hearServer c.options reply))

/-- All stages of a call. -/
def stagedCall (c : Call) (data : Json) : Act Progress := do
  lock c.options .lockShown
  match ← askServer c.method data c.options with
  | .error why => endCall c (.error why)
  | .ok (delay, reply) => after delay (.replying c reply) (answerCall c reply)

/-- A call goes through its stages, and then on with its outcome. -/
theorem call_eq (c : Call) (data : Json) :
    call c.method data c.options c.next = stagedCall c data := by
  unfold call stagedCall answerCall endCall askServer hearServer
  simp only [bind_assoc, finishCall_eq]
  refine bind_congr fun _ => bind_congr fun x => ?_
  cases x with
  | error why => simp
  | ok p => simp

/-- A task that waits for an answer goes on with the stages that are left. -/
theorem resume_replying (c : Call) (reply : Pending) (b : Bool) :
    resume (.replying c reply) b = answerCall c reply := by
  simp only [resume, answerCall, endCall, hearServer, finishCall_eq, bind_assoc, pure_bind]

theorem run_lock {o : RemoteOptions} (h : o.Locks s) (e : Event) :
    lock o e carry s = some (.ok (), s.retrace (o.locking e ++ s.trace)) := by
  unfold lock RemoteOptions.locking
  unfold RemoteOptions.Locks at h
  cases hb : o.background with
  | true => rfl
  | false =>
      rw [hb] at h
      exact (run_bind_ok (run_needNotifier (h.resolve_left nofun))).trans (run_emit e)

theorem run_dispatch (method : String) :
    dispatch method carry s = some (s.dispatched method, s) := by
  have ht (r : Route) : (do return (r, ← needTransport) : Act _) carry s =
      some (s.transport.elim (.error (.requirementMissing .transport)) fun t => .ok (r, t), s) := by
    rw [needTransport, run_bind, run_bind_ok (run_gets _)]
    cases s.transport <;> rfl
  unfold dispatch route Session.dispatched
  rw [run_bind, run_bind_ok (run_gets _), run_bind, run_ofExcept]
  cases MethodTable.ofValue (Table.find? s.values "methods") with
  | error why => rfl
  | ok table =>
      dsimp only
      rw [run_ofExcept]
      cases table.route method with
      | error why => rfl
      | ok r =>
          dsimp only
          rw [ht r]
          cases s.transport <;> rfl

theorem run_takeReply (carry : React) (url : String) : ∃ t, takeReply url carry s =
    some (.ok (s.nextReply url), t) ∧ t.trace = s.trace := by
  unfold takeReply Session.nextReply
  rw [run_bind_ok (run_gets _)]
  cases Table.find? s.replies url with
  | none => exact ⟨s, rfl, rfl⟩
  | some rs =>
      rcases rs with _ | ⟨r, _ | ⟨q, rs⟩⟩
      · exact ⟨s, rfl, rfl⟩
      · exact ⟨s, rfl, rfl⟩
      · exact ⟨_, rfl, rfl⟩

/-- One request goes out, as it was put. -/
theorem run_send (carry : React) (t : Transport) (verb : Verb) (url : String) (data : Json) :
    ∃ u, send t verb url data carry s = some (.ok (s.reply verb url data t), u) ∧
      u.trace = .sent t.isScripted verb url data::s.trace := by
  cases t with
  | scripted =>
      let v : Session := { s with trace := .sent true verb url data::s.trace }
      obtain ⟨u, hu, ht⟩ := run_takeReply carry (s := v) url
      exact ⟨u, (run_bind_ok (run_emit _)).trans (run_bind_ok hu), ht⟩
  | offline responses latency => exact ⟨_, rfl, rfl⟩
  | http base => exact ⟨_, rfl, rfl⟩

end Act

/-- The request that a call makes when it asks in this session. -/
def Session.request (s : Session) (method : String) (data : Json) : List Event :=
  match s.dispatched method with
  | .ok (r, t) => [.sent t.isScripted r.verb r.url data]
  | .error _ => []

/-- The lock goes at once when there is nobody to ask. -/
def Session.dismissal (s : Session) (method : String) (o : RemoteOptions) : List Event :=
  match s.dispatched method with
  | .ok _ => []
  | .error _ => o.locking .lockReleased

namespace Act
variable {carry : React} {s : Session}

theorem beside_askServer (method : String) (data : Json) (o : RemoteOptions) :
    StaysBeside carry (askServer method data o) := by
  refine .bind (beside_dispatch method).outcome fun x => ?_
  split
  · exact .bind (beside_lock o _) fun _ => .pure _
  · exact .bind (beside_send _ _ _ _) fun _ => .pure _

theorem run_askServer (carry : React) {o : RemoteOptions} (h : o.Locks s) (method : String)
    (data : Json) :
    ∃ t, askServer method data o carry s = some (.ok (s.requested method data), t) ∧
      t.trace = s.dismissal method o ++ s.request method data ++ s.trace := by
  have hd : outcome (dispatch method) carry s = some (.ok (s.dispatched method), s) := by
    rw [run_outcome, run_dispatch]
    rfl
  unfold askServer Session.requested Session.dismissal Session.request
  rw [run_bind_ok hd]
  cases s.dispatched method with
  | error why => exact ⟨_, run_bind_ok (run_lock h .lockReleased), by simp [Session.retrace]⟩
  | ok p =>
      obtain ⟨r, t⟩ := p
      obtain ⟨u, hu, ht⟩ := run_send carry (s := s) t r.verb r.url data
      exact ⟨u, run_bind_ok hu, ht⟩

theorem run_hearServer {o : RemoteOptions} (h : o.Locks s) (reply : Pending) :
    hearServer o reply carry s = some (.ok (reply.answer s),
      s.retrace (o.locking .lockReleased ++ .answered (reply.answer s)::s.trace)) := by
  have hn : o.Locks (s.retrace (.answered (reply.answer s)::s.trace)) := h
  rw [hearServer, run_bind_ok (run_receive reply), run_bind_ok (run_lock hn .lockReleased)]
  rfl

/-- A report tells the user, unless it is silent. -/
theorem run_report {o : RemoteOptions} (h : o.Tells s) (text : Session → String)
    (event : String → Event) :
    (do if !o.silent then needNotifier; emit (event (← gets text)) : Act Unit) carry s =
      some (.ok (), s.retrace (o.telling (event (text s)) ++ s.trace)) := by
  unfold RemoteOptions.telling
  unfold RemoteOptions.Tells at h
  cases hs : o.silent with
  | true => rfl
  | false =>
      rw [hs] at h
      exact (run_bind_ok (run_needNotifier (h.resolve_left nofun))).trans (run_bind_ok (run_gets _))

theorem run_reportSuccess {o : RemoteOptions} (h : o.Tells s) :
    reportSuccess o carry s = some (.ok (), s.retrace
      (o.telling (.message (o.success.getD s.settings.network.success) false) ++ s.trace)) :=
  run_report h (·.settings.network.success) fun text => .message (o.success.getD text) false

theorem run_reportFailure {o : RemoteOptions} (h : o.Tells s) :
    reportFailure o carry s = some (.ok (), s.retrace
      (o.telling (.error (o.failure.getD s.settings.network.failure)) ++ s.trace)) :=
  run_report h (·.settings.network.failure) fun text => .error (o.failure.getD text)

theorem run_concludeCall {o : RemoteOptions} (h : o.Tells s) (attempt : Attempt) :
    concludeCall o attempt carry s = some (attempt.result s.debugMode,
      s.retrace (o.telling (attempt.message s.settings o) ++ s.trace)) := by
  unfold concludeCall
  rcases attempt with why | (why | v)
  · dsimp only
    rw [run_bind_ok (run_reportFailure h), run_bind_ok (run_gets _)]
    by_cases hm : s.debugMode = .off
    · rw [if_pos (by exact hm), Attempt.result, if_pos hm]
      rfl
    · rw [if_neg (by exact hm), Attempt.result, if_neg hm]
      rfl
  · exact run_bind_ok (run_reportFailure h)
  · exact run_bind_ok (run_reportSuccess h)

end Act
end ScreenBinding
