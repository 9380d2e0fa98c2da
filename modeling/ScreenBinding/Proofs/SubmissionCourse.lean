import ScreenBinding.Proofs.SubmissionSteps
import ScreenBinding.Proofs.TaskActs

/-!
# The course of a submission

A task runs in stretches, from where it is resumed to where it waits or ends. Between two stretches
the session may be replaced by any other, which stands for whatever users, other tasks and their
callbacks do meanwhile; a stretch may also be the last one because nobody resumes it. Along each
such course a submission keeps to the grammar of its steps, for the data that the form holds when
it begins.
-/
namespace ScreenBinding
open Act

/-- Where a task goes on later. -/
def Progress.next? : Progress → Option Frame
  | .done _ => none
  | .sleep _ frame => some frame
  | .await _ frame => some frame

/-- A course of a task that is resumed in a session with an answer: the events that it records
itself, and its result if it comes to one. -/
inductive Course : Frame → Bool → Session → List Event → Option Result → Prop
  | ends {frame : Frame} {answer : Bool} {s t : Session} {x : Result} (n : Nat) :
      (resume frame answer).settle n s = some (x.map .done, t) →
      Course frame answer s ((resume frame answer).own (cascade n) s) (some x)
  | stops {frame next : Frame} {answer : Bool} {s t : Session} {p : Progress} (n : Nat) :
      (resume frame answer).settle n s = some (.ok p, t) → p.next? = some next →
      Course frame answer s ((resume frame answer).own (cascade n) s) none
  | waits {frame next : Frame} {answer accepted : Bool} {s t u : Session} {p : Progress}
      {log : List Event} {r : Option Result} (n : Nat) :
      (resume frame answer).settle n s = some (.ok p, t) → p.next? = some next →
      Course next accepted u log r →
      Course frame answer s ((resume frame answer).own (cascade n) s ++ log) r

section
variable {n : Nat} {s t : Session} {task : Task} {answer : Bool} {r : Option Result}

/-- Whenever a task is advanced it runs a stretch, which is a course of its own. -/
theorem Course.of_advance (h : s.advance n task answer = some (r, t)) :
    Course task.frame answer s ((resume task.frame answer).own (cascade n) s) r := by
  obtain ⟨x, u, hx, hr⟩ := Session.advance_cases h
  rcases x with f | (a | ⟨ms, next⟩ | ⟨ticket, next⟩)
  · cases hr
    exact .ends (x := .error f) n hx
  · cases hr
    exact .ends (x := .ok a) n hx
  · cases hr
    exact .stops n hx rfl
  · cases hr
    exact .stops n hx rfl

/-- What becomes of a task that waits goes on with the course. -/
theorem Course.go_on (h : s.advance n task answer = some (none, t)) :
    ∃ next, ∀ accepted u log r, Course next accepted u log r →
      Course task.frame answer s ((resume task.frame answer).own (cascade n) s ++ log) r := by
  obtain ⟨x, u, hx, hr⟩ := Session.advance_cases h
  rcases x with f | (a | ⟨ms, next⟩ | ⟨ticket, next⟩)
  · cases hr
  · cases hr
  · exact ⟨next, fun _ _ _ _ hc => .waits n hx rfl hc⟩
  · exact ⟨next, fun _ _ _ _ hc => .waits n hx rfl hc⟩

end

section
variable {b : BoundForm} {data : Fields} {G L : List Event → Option Result → Prop}
  {l : List Event} {frame : Frame}

theorem Onward.waiting (h : Onward b data frame L) : L [] none := by
  cases h with
  | injecting hook => exact .waiting
  | deciding => exact .waiting
  | replying method options reply => exact .waiting

theorem Onward.reloads (h : Onward b data frame L) : frame.reloads = false := by
  cases h <;> rfl

theorem Comes.ends {x : Result} (h : Comes b data G l (x.map .done)) : G l (some x) := by
  cases x with
  | ok a => exact h
  | error f => exact h

theorem Comes.next {p : Progress} (h : Comes b data G l (.ok p)) (hp : p.next? = some frame) :
    ∃ L, Onward b data frame L ∧ ∀ k r, L k r → G (l ++ k) r := by
  cases p with
  | done a => cases hp
  | sleep ms next => cases hp; exact h
  | await ticket next => cases hp; exact h

theorem Comes.stops {p : Progress} (h : Comes b data G l (.ok p)) (hp : p.next? = some frame) :
    G l none := by
  obtain ⟨L, ho, hL⟩ := h.next hp
  simpa using hL [] none ho.waiting

end

/-- What an act yields with hushed callbacks are the steps that it records itself. -/
theorem Act.own_steps {α : Type} {a : Act α} {n : Nat} {s t : Session} {x : Except Fault α}
    {G : List Event → Except Fault α → Prop} (hb : Built Anything a)
    (ha : a.settle n s = some (x, t))
    (hy : ∀ u, a (hush (cascade n)) (s.retrace []) = some (x, u) → ∃ l : List Event,
      u.trace = l.reverse ++ (s.retrace []).trace ∧ G (l.filter Event.isStep) x) :
    G ((a.own (cascade n) s).filter Event.isStep) x :=
  own_records (G := fun l x => G (l.filter Event.isStep) x) hb ha hy

/-- From where a submission waits, it goes on as the grammar says. -/
theorem Course.onward {b : BoundForm} {data : Fields} {frame : Frame} {answer : Bool} {s : Session}
    {log : List Event} {r : Option Result} (h : Course frame answer s log r)
    {L : List Event → Option Result → Prop} (ho : Onward b data frame L) :
    L (log.filter Event.isStep) r := by
  induction h generalizing L with
  | ends n hr =>
      exact (own_steps (built_resume ho.reloads _) hr
        (yields_resume (mute_hush _) ho _ _ _)).ends
  | stops n hr hp =>
      exact (own_steps (built_resume ho.reloads _) hr
        (yields_resume (mute_hush _) ho _ _ _)).stops hp
  | waits n hr hp _ ih =>
      obtain ⟨M, hM, hL⟩ := (own_steps (built_resume ho.reloads _) hr
        (yields_resume (mute_hush _) ho _ _ _)).next hp
      rw [List.filter_append]
      exact hL _ _ (ih hM)

/-- The names that fail their rules if the form is submitted now. -/
def BoundForm.invalid (b : BoundForm) (s : Session) : List String :=
  invalidNames s.settings.separators (b.form.data s) b.rules

/-- The first stretch submits the data that the form holds when it begins. -/
theorem Act.yields_submit {b : BoundForm} {carry : React} (hm : Mute carry) (s : Session)
    (x : Except Fault Progress) (t : Session) (h : submit b carry s = some (x, t)) :
    ∃ l : List Event, t.trace = l.reverse ++ s.trace ∧
      Comes b (b.form.data s) (Conducted b (b.form.data s) (b.invalid s))
        (l.filter Event.isStep) x := by
  rw [submit, run_bind_ok (run_gets _), separators, run_bind_ok (run_gets _)] at h
  exact yields_judged hm (b.invalid s) s x t h

theorem Course.conducted {b : BoundForm} {answer : Bool} {s : Session} {log : List Event}
    {r : Option Result} (h : Course (.submit b) answer s log r) :
    Conducted b (b.form.data s) (b.invalid s) (log.filter Event.isStep) r := by
  cases h with
  | ends n hr =>
      exact (own_steps (built_submit b) hr (yields_submit (mute_hush _) _ _)).ends
  | stops n hr hp =>
      exact (own_steps (built_submit b) hr (yields_submit (mute_hush _) _ _)).stops hp
  | waits n hr hp hc =>
      obtain ⟨M, hM, hL⟩ :=
        (own_steps (built_submit b) hr (yields_submit (mute_hush _) _ _)).next hp
      rw [List.filter_append]
      exact hL _ _ (hc.onward hM)

end ScreenBinding
