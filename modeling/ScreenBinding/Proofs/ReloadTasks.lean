import ScreenBinding.Proofs.CallActs
import ScreenBinding.Proofs.ReloadTraffic
import ScreenBinding.Proofs.TaskActs

/-!
# Reloads among the tasks

The tasks of a session bring about the traffic of reloads: a task that begins a reload launches one
and receives its answer at once or later, a task that waits for the answer to a reload receives it,
and any other task leaves the issue numbers alone.
-/
namespace ScreenBinding
open Act

namespace Session
variable {n : Nat} {s t : Session} {task : Task} {answer : Bool} {r : Option Result}

/-- Where a task is put draws no issue number. -/
theorem record_reloads (s : Session) (task : Task) (x : Except Fault Progress) :
    (s.record task x).2.reloads = s.reloads := by rw [s.record_eq task x]

theorem advance_record_reloads {x : Except Fault Progress} {u : Session}
    (h : u.record task x = (r, t)) : t.reloads = u.reloads := by
  rw [← u.record_reloads task x, h]

/-- Only a task that begins a reload draws an issue number. -/
theorem advance_reloads (hf : task.frame.reloads = false)
    (h : s.advance n task answer = some (r, t)) : t.reloads = s.reloads := by
  obtain ⟨x, u, hx, hr⟩ := advance_cases h
  have hu : u.reloads = s.reloads := settle_respects respected_reloads (built_resume hf answer) hx
  exact (advance_record_reloads hr).trans hu

end Session

/-- A receipt comes to an outcome. -/
theorem receipt_outcome {n : Nat} {s t : Session} {f : Flight} {x : Except Fault ReloadOutcome}
    (hs : s.Online) (h : (receipt f).settle n s = some (x, t)) : ∃ o, x = .ok o := by
  cases hv : f.response s with
  | error why =>
      cases (receipt_failed hs hv).symm.trans h
      exact ⟨_, rfl⟩
  | ok v =>
      by_cases hi : f.issue = s.reloads
      · obtain ⟨rfl, -⟩ := (receipt_current hs hv hi x).mp h
        exact ⟨_, rfl⟩
      · cases (receipt_superseded hs hv hi).symm.trans h
        exact ⟨_, rfl⟩

theorem Session.Online.beside {s t : Session} (h : s.Online) (k : s.Beside t) : t.Online := by
  rw [k]
  exact ⟨h.notifier, h.transport, h.debugMode⟩

theorem beside_request {carry : React} : StaysBeside carry request := by
  refine .bind beside_needNotifier fun _ => .bind (.emit _) fun _ =>
    .bind (beside_dispatch _).outcome fun x => ?_
  split
  · exact .pure _
  · exact .bind (beside_send _ _ _ _) fun _ => .pure _

/-- Whether a request is sent or not, this is no fault. -/
theorem faultless_tryRequest {carry : React} : Faultless carry tryRequest := by
  refine .bind (.outcome _) fun x => ?_
  split
  · exact .pure _
  · exact .bind (faultless_send _ _ _ _) fun _ => .pure _

/-- A launch comes to an issue number, and the host stays online. -/
theorem launch_online {n : Nat} {s t : Session}
    {x : Except Fault (Nat × Except Fault (Nat × Pending))} (hs : s.Online)
    (h : launch.settle n s = some (x, t)) : (∃ y, x = .ok y) ∧ t.Online := by
  have hon : Session.Online { s with reloads := s.reloads+1 } :=
    ⟨hs.notifier, hs.transport, hs.debugMode⟩
  rw [settle, launch, run_bind_ok (run_change _), run_bind_ok (run_gets _)] at h
  obtain ⟨y, u, hu, ht⟩ | ⟨e, he, -⟩ := bind_cases h
  · cases ht
    exact ⟨⟨_, rfl⟩, hon.beside (beside_request _ _ _ hu)⟩
  · rw [request, run_bind_ok (run_needNotifier hon.notifier), run_bind_ok (run_emit _)] at he
    obtain ⟨y, hy⟩ := faultless_tryRequest _ _ _ he
    cases hy

namespace Traffic
variable {n : Nat} {s t : Session} {fl l r : List Flight} {ms : List Mark} {task : Task}
  {answer : Bool} {result : Option Result}

/-- Other tasks are no traffic. -/
theorem advanced (h : Traffic s fl ms) (hf : task.frame.reloads = false)
    (hr : s.advance n task answer = some (result, t)) : Traffic t fl ms :=
  h.other (Session.advance_reloads hf hr)

/-- The receipt of a flight, with what its caller does about the outcome. -/
theorem settled {f : Flight} {next : AfterReload} {x : Except Fault Progress}
    (h : Traffic s (l ++ f::r) ms) (hs : s.Online)
    (hr : (do return Progress.done (← afterReload next (← receipt f))).settle n s =
      some (x, t)) : ∃ o, Traffic t (l ++ r) (ms ++ [.ended f.issue o]) := by
  obtain ⟨o, u, hu, ht⟩ | ⟨e, he, -⟩ := bind_cases hr
  · have hafter : Built Anything (do return Progress.done (← afterReload next o)) :=
      .bind (built_afterReload next o) fun _ => .pure _
    exact ⟨o, (h.received n hu).other (settle_respects respected_reloads hafter ht)⟩
  · obtain ⟨o, ho⟩ := receipt_outcome hs he
    cases ho

/-- A task that waits for the answer to a reload receives it. -/
theorem replied {issue : Nat} {next : AfterReload} {reply : Pending}
    (h : Traffic s (l ++ ⟨issue, .ok reply⟩::r) ms) (hs : s.Online)
    (hf : task.frame = .replying (reloadCall issue next) reply)
    (hr : s.advance n task answer = some (result, t)) :
    ∃ o, Traffic t (l ++ r) (ms ++ [.ended issue o]) := by
  obtain ⟨x, u, hx, ht⟩ := Session.advance_cases hr
  rw [hf, resume_reload] at hx
  obtain ⟨o, ho⟩ := h.settled hs hx
  exact ⟨o, ho.other (Session.advance_record_reloads ht)⟩

/-- A task that begins a reload launches it, and may receive its answer at once. -/
theorem begun (h : Traffic s fl ms) (hs : s.Online) (hf : task.frame = .begin .reload)
    (hr : s.advance n task answer = some (result, t)) :
    (∃ f : Flight, Traffic t (f::fl) (ms ++ [.issued f.issue])) ∨
      ∃ issue o, Traffic t fl (ms ++ [.issued issue] ++ [.ended issue o]) := by
  obtain ⟨x, u, hx, ht⟩ := Session.advance_cases hr
  have hkeep : t.reloads = u.reloads := Session.advance_record_reloads ht
  rw [hf] at hx
  change (reload .answer).settle n s = some (x, u) at hx
  rw [reload_eq] at hx
  obtain ⟨⟨issue, y⟩, v, hv, hu⟩ | ⟨e, he, -⟩ := bind_cases hx
  · have hlaunched := h.launched n hv
    have hon := (launch_online hs hv).2
    cases y with
    | error why =>
        obtain ⟨o, ho⟩ := hlaunched.settled (l := []) hon hu
        exact .inr ⟨issue, o, ho.other hkeep⟩
    | ok p =>
        obtain ⟨delay, reply⟩ := p
        dsimp only [after] at hu
        split at hu
        · obtain ⟨o, ho⟩ := hlaunched.settled (l := []) hon hu
          exact .inr ⟨issue, o, ho.other hkeep⟩
        · cases hu
          exact .inl ⟨_, hlaunched.other hkeep⟩
  · obtain ⟨⟨y, hy⟩, -⟩ := launch_online hs he
    cases hy

end Traffic
end ScreenBinding
