import ScreenBinding.Proofs.CommandActs

/-!
# Overlapping reloads

A reload is taken apart into its launch, which draws an issue number and sends the request, and the
receipt of its answer. Between the two other reloads may be launched and received in any order, and
anything may happen to the session that is no reload. Of all reloads in flight only the one issued
last can still be written.

A receipt writes through listeners, which may fail to end; so what is shown of a receipt that
writes is that it ends exactly when its writes do. All others end. What a caller does with an
outcome, such as entering a mode, belongs to the rest of the session here.
-/
namespace ScreenBinding
open Session (Wrote)

/-- A reload that was issued, with its answer on the way or with the reason why no request could
be made. -/
structure Flight where
  issue : Nat
  reply : Except Fault Pending

/-- The call behind a reload. -/
def reloadCall (issue : Nat) (next : AfterReload) : Call :=
  ⟨"state.load", { silent := true }, .reload issue next⟩

namespace Act

/-- Sends a request for the state, if there is a route and a transport. -/
def tryRequest : Act (Except Fault (Nat × Pending)) := do
  match ← outcome (dispatch "state.load") with
  | .error why => return .error why
  | .ok (r, t) => return .ok (← send t r.verb r.url (.object []))

/-- Shows the lock and sends the request. -/
def request : Act (Except Fault (Nat × Pending)) := do
  needNotifier
  emit .lockShown
  tryRequest

/-- Draws an issue number and sends the request. -/
def launch : Act (Nat × Except Fault (Nat × Pending)) := do
  change fun s => { s with reloads := s.reloads+1 }
  return (← gets (·.reloads), ← request)

/-- Takes the lock away and writes what is to be written. -/
def settleReload (issue : Nat) (answer : Except Fault (Except TransportFault Json)) :
    Act ReloadOutcome := do
  needNotifier
  emit .lockReleased
  match answer with
  | .ok (.ok v) => concludeReload issue (.success v)
  | .ok (.error why) => concludeReload issue (.failure (.transport why))
  | .error why =>
      if (← gets (·.debugMode)) = .off then concludeReload issue (.failure why) else throw why

/-- What happens when the answer of a flight arrives. -/
def receipt (f : Flight) : Act ReloadOutcome := do
  match f.reply with
  | .ok reply => settleReload f.issue (.ok (← receive reply))
  | .error why => settleReload f.issue (.error why)

theorem finishCall_reload (issue : Nat) (next : AfterReload)
    (answer : Except Fault (Except TransportFault Json)) :
    finishCall (reloadCall issue next) answer = (do
      afterReload next (← settleReload issue answer)) := by
  unfold finishCall settleReload reloadCall
  rcases answer with why | (why | v)
  · simp only [lock, reportFailure, afterCall, Bool.not_true, Bool.not_false, ite_true, bind_assoc,
      pure_bind, Bool.false_eq_true, ite_false]
    refine bind_congr fun _ => bind_congr fun _ => bind_congr fun mode => ?_
    split
    · rfl
    · exact (throw_bind why _).symm
  · simp [lock, reportFailure, afterCall]
  · simp [lock, reportSuccess, afterCall]

/-- A reload is a launch and, once its answer is there, a receipt. -/
theorem reload_eq (next : AfterReload) : reload next = (do
    let (issue, x) ← launch
    match x with
    | .error why => return .done (← afterReload next (← receipt ⟨issue, .error why⟩))
    | .ok (delay, reply) =>
        after delay (.replying (reloadCall issue next) reply) do
          return .done (← afterReload next (← receipt ⟨issue, .ok reply⟩))) := by
  have hc (issue : Nat) : (⟨"state.load", { silent := true }, .reload issue next⟩ : Call) =
    reloadCall issue next := rfl
  unfold reload launch request tryRequest call lock
  simp only [bind_assoc]
  refine bind_congr fun _ => bind_congr fun issue => ?_
  simp only [Bool.not_false, ite_true, bind_assoc]
  refine bind_congr fun _ => bind_congr fun _ => bind_congr fun x => ?_
  cases x with
  | error why => simp [hc, finishCall_reload, receipt]
  | ok p => simp [hc, finishCall_reload, receipt]

theorem resume_reload (issue : Nat) (next : AfterReload) (reply : Pending) (b : Bool) :
    resume (.replying (reloadCall issue next) reply) b = (do
      return .done (← afterReload next (← receipt ⟨issue, .ok reply⟩))) := by
  simp only [resume, finishCall_reload, receipt, bind_assoc]

theorem built_request : Built Anything request := by
  refine .bind built_needNotifier fun _ => .bind (.routine rfl rfl) fun _ =>
    .bind (.outcome (built_dispatch _)) fun x => ?_
  split
  · exact .pure _
  · exact .bind (built_send (fun _ _ _ _ => trivial) _ _ _ _) fun _ => .pure _

theorem respected_reloads : Respected Anything fun s t => t.reloads = s.reloads where
  refl _ := rfl
  trans h k := k.trans h
  unseen hf s := hf.reloads s
  emitted _ _ _ := rfl
  stored _ _ := rfl

/-- The issue number of a launch is the new number of reloads. -/
theorem launch_issue {n : Nat} {s t : Session} {issue : Nat} {x : Except Fault (Nat × Pending)}
    (h : launch.settle n s = some (.ok (issue, x), t)) :
    issue = s.reloads+1 ∧ t.reloads = s.reloads+1 := by
  simp only [settle, launch] at h
  rw [run_bind_ok (run_change _), run_bind_ok (run_gets _)] at h
  obtain ⟨y, u, hy, hu⟩ | ⟨e, -, he⟩ := bind_cases h
  · cases hu
    exact ⟨rfl, settle_respects respected_reloads built_request hy⟩
  · cases he

theorem built_receipt (f : Flight) : Built Anything (receipt f) := by
  have settled (answer : Except Fault (Except TransportFault Json)) :
      Built Anything (settleReload f.issue answer) := by
    refine .bind built_needNotifier fun _ => .bind (.routine rfl rfl) fun _ => ?_
    split
    · exact built_concludeReload _ _ fun _ _ => trivial
    · exact built_concludeReload _ _ fun _ _ => trivial
    · refine .bind (.gets fun _ _ => rfl) fun _ => ?_
      split
      · exact built_concludeReload _ _ fun _ _ => trivial
      · exact .throw _
  unfold receipt
  split
  · exact .bind (built_receive (fun _ => trivial) _) fun _ => settled _
  · exact settled _

/-- A receipt draws no issue number. -/
theorem receipt_reloads {n : Nat} {f : Flight} {s t : Session} {x : Except Fault ReloadOutcome}
    (h : (receipt f).settle n s = some (x, t)) : t.reloads = s.reloads :=
  settle_respects respected_reloads (built_receipt f) h

/-- The faults of listeners go nowhere. -/
theorem faultless_hear (carry : React) (l : Listener) (key : String) (v : Json)
    (writer : Option Source) : Faultless carry (hear l key v writer) := by
  cases l with
  | load directive field source =>
      change Faultless _ (if _ then _ else _)
      split
      · exact .pure ()
      · exact .attempt _
  | journal => exact .of_run fun _ => run_emit _
  | report label actions => exact .bind (.of_run fun _ => run_emit _) fun _ => .attempt _
  | silent => exact .pure ()

theorem faultless_listener (n : Nat) (l : Listener) (key : String) (v : Json)
    (writer : Option Source) : Faultless (cascade n) (react (.listener l key v writer)) := by
  cases n with
  | zero => exact fun s x t h => nomatch h
  | succ n => exact faultless_hear (cascade n) l key v writer

/-- Nor does a write fail, where its listeners do not. -/
theorem faultless_write {carry : React} {key : String} {v : Json} {source : Option Source}
    (hl : ∀ l, Faultless carry (react (.listener l key v source))) :
    Faultless carry (write key v source) :=
  .bind (.gets _) fun _ => .bind (.of_run fun _ => run_store key v source) fun _ =>
    .bind (.bind (.gets _) fun _ => .forEach fun l _ => hl l) fun _ => .pure _

theorem faultless_applyState (n : Nat) (v : Json) : Faultless (cascade n) (applyState v) := by
  cases v with
  | object values =>
      change Faultless _ (writeAll values none)
      induction values with
      | nil => exact .pure ()
      | cons entry values ih =>
          rw [writeAll_cons]
          have hwrite : Faultless (cascade n) (write entry.1 entry.2 none) :=
            faultless_write fun l => faultless_listener n l _ _ none
          exact .bind (.bind hwrite fun _ => .pure ()) fun _ => ih
  | _ => exact .pure ()

end Act

/-- The host has supplied what a reload needs, and debug mode is off. -/
structure Session.Online (s : Session) : Prop where
  notifier : s.notifier = true
  transport : s.transport.isSome
  debugMode : s.debugMode = .off

namespace Flight

/-- What a flight brings if it is received in this session. -/
def response (f : Flight) (s : Session) : Except Fault Json :=
  match f.reply with
  | .ok reply =>
      match reply.answer s with
      | .ok v => .ok v
      | .error why => .error (.transport why)
  | .error why => .error why

/-- The session once the answer was heard and the lock is gone. -/
def heard (f : Flight) (s : Session) : Session :=
  match f.reply with
  | .ok reply => s.retrace (.lockReleased::.answered (reply.answer s)::s.trace)
  | .error _ => s.retrace (.lockReleased::s.trace)

/-- Hearing an answer writes nothing. -/
theorem wrote_heard (f : Flight) (s : Session) : Wrote [] s (f.heard s) := by
  obtain ⟨issue, _ | reply⟩ := f
  · exact .emit s rfl
  · exact (Wrote.emit s rfl).trans (.emit _ rfl)

end Flight

namespace Act
variable {carry : React} {s : Session}

theorem run_receive (p : Pending) : receive p carry s =
    some (.ok (p.answer s), s.retrace (.answered (p.answer s)::s.trace)) := by
  rw [receive, run_bind_ok (run_arrived p), run_bind_ok (run_emit _), run_pure]
  rfl

theorem run_needNotifier (h : s.notifier = true) : needNotifier carry s = some (.ok (), s) := by
  rw [needNotifier, run_bind_ok (run_gets _), h]
  rfl

theorem run_needNotifier_missing (h : s.notifier = false) :
    needNotifier carry s = some (.error (.requirementMissing .notifier), s) := by
  rw [needNotifier, run_bind_ok (run_gets _), h]
  rfl

theorem run_unlock {α : Type} (h : s.notifier = true) (a : Act α) :
    (do needNotifier; emit .lockReleased; a) carry s =
      a carry (s.retrace (.lockReleased::s.trace)) := by
  rw [run_bind_ok (run_needNotifier h), run_bind_ok (run_emit _)]
  rfl

/-- A failed flight is reported as failed; the response of another goes where its issue number
decides. -/
theorem run_receipt (hs : s.Online) (f : Flight) : receipt f carry s =
    match f.response s with
    | .ok v => concludeReload f.issue (.success v) carry (f.heard s)
    | .error _ => some (.ok .failed, f.heard s) := by
  obtain ⟨issue, why | reply⟩ := f
  · refine (run_unlock hs.notifier _).trans ?_
    dsimp only
    rw [run_bind_ok (run_gets _), if_pos (by exact hs.debugMode)]
    rfl
  · have hn : (s.retrace (.answered (reply.answer s)::s.trace)).notifier = true := hs.notifier
    refine (run_bind_ok (run_receive reply)).trans ((run_unlock hn _).trans ?_)
    cases h : reply.answer s with
    | ok v => simp [Flight.response, Flight.heard, h, Session.retrace]
    | error why =>
        simp [Flight.response, Flight.heard, h, Session.retrace, concludeReload, run_pure]

end Act
end ScreenBinding
