import ScreenBinding.Proofs.StageTasks

/-!
# Runs of many tasks

A task runs in stretches, from where it is resumed to where it waits or ends. No other task goes on
during a stretch, and between two of them the scheduler only lets time pass and chooses who is next.
So a run of many tasks is the list of its stretches. Any task may go on at any time here, whether or
not the scheduler would choose it, so that all orders of replies and wake-ups are covered; what the
engine plays is one of these runs.
-/
namespace ScreenBinding
open Act

/-- A stretch of a task, from the session in which it is resumed to the one in which it stops. -/
structure Stretch where
  task : Task
  answer : Bool
  before : Session
  result : Except Fault Progress
  stopped : Session

namespace Stretch

/-- The session once the task is put where it has come to. -/
def after (x : Stretch) : Session := (x.stopped.record x.task x.result).2

/-- The stretch is what the task does with these callbacks. -/
def Runs (carry : React) (x : Stretch) : Prop :=
  resume x.task.frame x.answer carry x.before = some (x.result, x.stopped)

theorem Runs.staged {raw : Bool} {carry : React} {x : Stretch} (hx : x.Runs carry)
    (hc : OnStage raw carry) (hb : x.task.frame.bridges = true → raw = true) :
    Staged raw x.before x.stopped :=
  (stages_resume hb x.answer).staged hc _ _ _ hx

end Stretch

/-- Where a task is put shows nothing and writes nothing. -/
theorem Session.record_trace (s : Session) (task : Task) (x : Except Fault Progress) :
    ∃ new : List Event, (s.record task x).2.trace = new ++ s.trace ∧
      ∀ e ∈ new, e.arranges = false ∧ e.write? = none := by
  have hfinish (r : Result) : ∃ new : List Event, (s.finish task.role r).trace = new ++ s.trace ∧
      ∀ e ∈ new, e.arranges = false ∧ e.write? = none := by
    unfold finish
    split
    · exact ⟨[_], rfl, by simp [Event.arranges, Event.write?]⟩
    · exact ⟨[_], rfl, by simp [Event.arranges, Event.write?]⟩
    · exact ⟨[], rfl, List.forall_mem_nil _⟩
    · exact ⟨[], rfl, List.forall_mem_nil _⟩
  have hsuspend (u : Session) (hu : u.trace = s.trace) :
      ∃ new : List Event, (s.suspend task u).trace = new ++ s.trace ∧
        ∀ e ∈ new, e.arranges = false ∧ e.write? = none := by
    unfold suspend
    split
    · exact ⟨[], rfl, List.forall_mem_nil _⟩
    · exact ⟨[], hu, List.forall_mem_nil _⟩
  rcases x with f | (a | ⟨ms, next⟩ | ⟨ticket, next⟩)
  · exact hfinish (.error f)
  · exact hfinish (.ok a)
  · exact hsuspend _ rfl
  · exact hsuspend _ rfl

/-- What the scheduler does between two stretches. -/
def Session.Idles (s t : Session) : Prop :=
  t = { s with now := t.now, ready := t.ready, sleeping := t.sleeping, nextTask := t.nextTask }

/-- The runs from a session, with their stretches in order. The callbacks may be carried out to any
depth. -/
inductive Interleaved (carry : Nat → React) (s₀ : Session) : Session → List Stretch → Prop
  | start : Interleaved carry s₀ s₀ []
  | ran {x : Stretch} {log : List Stretch} (n : Nat) : Interleaved carry s₀ x.before log →
      x.Runs (carry n) → Interleaved carry s₀ x.after (log ++ [x])
  | idle {s t : Session} {log : List Stretch} : Interleaved carry s₀ s log → s.Idles t →
      Interleaved carry s₀ t log

namespace Interleaved
variable {carry : Nat → React} {s₀ s t : Session} {log : List Stretch}

/-- What holds at the start and is kept by every stretch holds after every run. -/
theorem inv {I : Session → Prop} (h : Interleaved carry s₀ s log) (start : I s₀)
    (ran : ∀ (x : Stretch) (n : Nat), x ∈ log → I x.before → x.Runs (carry n) → I x.after)
    (idle : ∀ s t : Session, I s → s.Idles t → I t) : I s := by
  induction h with
  | start => exact start
  | @ran x log n _ hx ih =>
      refine ran x n (List.mem_append_right _ (List.mem_singleton_self x)) (ih fun y m hy => ?_) hx
      exact ran y m (List.mem_append_left _ hy)
  | idle _ ht ih => exact idle _ _ (ih ran) ht

/-- A run goes on with any task. -/
theorem resumed (h : Interleaved carry s₀ s log) (n : Nat) (task : Task) (answer : Bool)
    {r : Except Fault Progress} (hr : resume task.frame answer (carry n) s = some (r, t)) :
    Interleaved carry s₀ (t.record task r).2 (log ++ [⟨task, answer, s, r, t⟩]) :=
  h.ran (x := ⟨task, answer, s, r, t⟩) n hr

/-- Every stretch of a run is run with the callbacks, from a session that the run reached. -/
theorem runs (h : Interleaved carry s₀ s log) {x : Stretch} (hx : x ∈ log) :
    ∃ n, x.Runs (carry n) := by
  induction h with
  | start => cases hx
  | ran n _ hy ih =>
      rcases List.mem_append.mp hx with hx | hx
      · exact ih hx
      · obtain rfl := List.mem_singleton.mp hx
        exact ⟨n, hy⟩
  | idle _ _ ih => exact ih hx

end Interleaved

end ScreenBinding
