import ScreenBinding.Proofs.Reloads

/-!
# The chronicle of a run

A listener may write in its turn, so that while one write is being told to its listeners another may
begin. The chronicle of a run sets down what happens to the store in the order in which it happens:
a value is stored, then its listeners are called one after the other, each followed by everything
that it brings about. Listeners are named by their places in the order of registration, since two of
them may do the same.

`Recorded` follows how an act is built; the writes and calls of a callback are what the callback
recorded. Every run that ends has a chronicle, and only such runs have one.
-/
namespace ScreenBinding
open Act

inductive Entry where
  | stored (key : String) (value : Json) (source : Option Source)
  | called (place : Nat) (key : String) (value : Json) (source : Option Source)

namespace Session

/-- The listeners of a key, each with its place. -/
def placed (s : Session) (key : String) : List (Nat × Listener) :=
  (s.listeners.zipIdx.filter (·.1.1 = key)).map fun p => (p.2, p.1.2)

/-- Whom a write of `key` notifies, with their places. -/
def callees (s : Session) (key : String) : List (Nat × Listener) :=
  s.placed key ++ s.placed wildcard

/-- The session once a value is stored. -/
def storing (s : Session) (key : String) (v : Json) (source : Option Source) : Session :=
  { s with values := Table.put s.values key v, trace := .stored key v source::s.trace }

theorem placed_listeners (s : Session) (key : String) :
    (s.placed key).map Prod.snd = s.listenersOf key := by
  have h (l : List (String × Listener)) (n : Nat) :
      ((l.zipIdx n).filter (·.1.1 = key)).map (fun p => p.1.2) =
        (l.filter (·.1 = key)).map Prod.snd := by
    induction l generalizing n with
    | nil => rfl
    | cons p l ih =>
        by_cases hp : p.1 = key <;> simp [List.zipIdx_cons, hp, ih]
  rw [placed, List.map_map]
  exact h s.listeners 0

theorem callees_audience (s : Session) (key : String) :
    (s.callees key).map Prod.snd = s.audience key := by
  rw [callees, List.map_append, placed_listeners, placed_listeners, audience]

end Session

/-- The chronicles of callbacks. -/
abbrev Recorder := Reaction → Session → List Entry → Except Fault Unit → Session → Prop

/-- The chronicle of some listeners that are told of a write in turn. -/
inductive Called (R : Recorder) (key : String) (v : Json) (source : Option Source) :
    List (Nat × Listener) → Session → List Entry → Session → Prop
  | nil (s : Session) : Called R key v source [] s [] s
  | cons {i : Nat} {l : Listener} {rest : List (Nat × Listener)} {s t u : Session}
      {log more : List Entry} : R (.listener l key v source) s log (.ok ()) t →
      Called R key v source rest t more u →
      Called R key v source ((i, l)::rest) s (.called i key v source::log ++ more) u

/-- The chronicle of an act. -/
inductive Recorded (R : Recorder) : {α : Type} → Act α → Session → List Entry → Except Fault α →
    Session → Prop
  | pure {α : Type} (y : α) (s : Session) : Recorded R (Pure.pure y) s [] (.ok y) s
  | throw {α : Type} (f : Fault) (s : Session) : Recorded R (throw f : Act α) s [] (.error f) s
  | gets {α : Type} (f : Session → α) (s : Session) : Recorded R (gets f) s [] (.ok (f s)) s
  | change {f : Session → Session} (h : Unseen f) (s : Session) :
      Recorded R (change f) s [] (.ok ()) (f s)
  | emit {e : Event} (h : e.write? = none) (s : Session) :
      Recorded R (emit e) s [] (.ok ()) { s with trace := e::s.trace }
  | write {key : String} {v : Json} {source : Option Source} {s t : Session} {log : List Entry} :
      Called R key v source (s.callees key) (s.storing key v source) log t →
      Recorded R (write key v source) s (.stored key v source::log)
        (.ok (Table.find? s.values key)) t
  | react {r : Reaction} {s t : Session} {log : List Entry} {x : Except Fault Unit} :
      R r s log x t → Recorded R (react r) s log x t
  | bind {α β : Type} {a : Act α} {f : α → Act β} {y : α} {s t u : Session}
      {log more : List Entry} {x : Except Fault β} : Recorded R a s log (.ok y) t →
      Recorded R (f y) t more x u → Recorded R (a >>= f) s (log ++ more) x u
  | stop {α β : Type} {a : Act α} {f : α → Act β} {e : Fault} {s t : Session} {log : List Entry} :
      Recorded R a s log (.error e) t → Recorded R (a >>= f) s log (.error e) t
  | attempt {a : Act Unit} {s t : Session} {log : List Entry} {x : Except Fault Unit} :
      Recorded R a s log x t → Recorded R (attempt a) s log (.ok ()) t
  | outcome {α : Type} {a : Act α} {s t : Session} {log : List Entry} {x : Except Fault α} :
      Recorded R a s log x t → Recorded R (outcome a) s log (.ok x) t
  | ending {α : Type} {a : Act α} {f : Session → Session} {s t : Session} {log : List Entry}
      {x : Except Fault α} : Recorded R a s log x t → Unseen f →
      Recorded R (a.ending f) s log x (f t)

/-- The chronicles of reactions nested at most `n` deep. -/
def recorder : Nat → Recorder
  | 0 => fun _ _ _ _ _ => False
  | n+1 => fun r => Recorded (recorder n) (reaction r)

section
variable {R : Recorder} {carry : React}

theorem Called.of_run (hR : ∀ r s x t, carry r s = some (x, t) → ∃ log, R r s log x t)
    {key : String} {v : Json} {source : Option Source}
    (hf : ∀ l, Faultless carry (react (.listener l key v source))) {l : List (Nat × Listener)}
    {s t : Session} {x : Except Fault Unit}
    (ha : (do for y in l.map Prod.snd do react (.listener y key v source)) carry s =
      some (x, t)) : x = .ok () ∧ ∃ log, Called R key v source l s log t := by
  induction l generalizing s with
  | nil =>
      rw [List.map_nil, forEach_nil] at ha
      cases ha
      exact ⟨rfl, [], .nil _⟩
  | cons p l ih =>
      obtain ⟨i, y⟩ := p
      rw [List.map_cons, forEach_cons] at ha
      obtain ⟨z, u, hu, ht⟩ | ⟨e, he, -⟩ := bind_cases ha
      · obtain ⟨log, hlog⟩ := hR _ s _ u hu
        obtain ⟨hx, more, hmore⟩ := ih ht
        exact ⟨hx, _, .cons hlog hmore⟩
      · obtain ⟨z, hz⟩ := hf y s _ t he
        cases hz

theorem Recorded.of_write (hR : ∀ r s x t, carry r s = some (x, t) → ∃ log, R r s log x t)
    {key : String} {v : Json} {source : Option Source}
    (hf : ∀ l, Faultless carry (Act.react (.listener l key v source))) {s t : Session}
    {x : Except Fault (Option Json)} (ha : Act.write key v source carry s = some (x, t)) :
    ∃ log, Recorded R (Act.write key v source) s log x t := by
  have hcalls {z : Except Fault Unit} {u : Session}
      (h : notify key v source carry (s.storing key v source) = some (z, u)) :
      z = .ok () ∧ ∃ log, Called R key v source (s.callees key) (s.storing key v source) log u := by
    have hl : (s.storing key v source).audience key = (s.callees key).map Prod.snd :=
      (s.callees_audience key).symm
    rw [notify, run_bind_ok (run_gets _), hl] at h
    exact Called.of_run hR hf h
  rw [Act.write, run_bind_ok (run_gets _), run_bind_ok (run_store key v source)] at ha
  obtain ⟨_, u, hu, ht⟩ | ⟨e, he, -⟩ := bind_cases ha
  · cases ht
    obtain ⟨-, log, hlog⟩ := hcalls hu
    exact ⟨_, .write hlog⟩
  · cases (hcalls he).1

theorem Built.recorded {P : Event → Prop} {α : Type} {a : Act α} (h : Built P a)
    (hR : ∀ r s x t, carry r s = some (x, t) → ∃ log, R r s log x t)
    (hf : ∀ l key v source, Faultless carry (Act.react (.listener l key v source)))
    {s t : Session} {x : Except Fault α} (ha : a carry s = some (x, t)) :
    ∃ log, Recorded R a s log x t := by
  induction h generalizing s t with
  | pure y => cases ha; exact ⟨_, .pure y _⟩
  | throw f => cases ha; exact ⟨_, .throw f _⟩
  | gets _ => cases ha; exact ⟨_, .gets _ _⟩
  | change h => cases ha; exact ⟨_, .change h _⟩
  | emit _ h => cases ha; exact ⟨_, .emit h _⟩
  | write _ => exact Recorded.of_write hR (fun l => hf l _ _ _) ha
  | react r =>
      obtain ⟨log, hlog⟩ := hR r s x t ha
      exact ⟨log, .react hlog⟩
  | bind _ _ iha ihf =>
      obtain ⟨y, u, hu, ht⟩ | ⟨e, he, rfl⟩ := bind_cases ha
      · obtain ⟨log, hlog⟩ := iha hu
        obtain ⟨more, hmore⟩ := ihf y ht
        exact ⟨_, .bind hlog hmore⟩
      · obtain ⟨log, hlog⟩ := iha he
        exact ⟨_, .stop hlog⟩
  | attempt _ ih =>
      obtain ⟨y, hy, rfl⟩ := attempt_cases ha
      obtain ⟨log, hlog⟩ := ih hy
      exact ⟨_, .attempt hlog⟩
  | outcome _ ih =>
      obtain ⟨y, hy, rfl⟩ := outcome_cases ha
      obtain ⟨log, hlog⟩ := ih hy
      exact ⟨_, .outcome hlog⟩
  | ending _ hk ih =>
      obtain ⟨u, hu, rfl⟩ := ending_cases ha
      obtain ⟨log, hlog⟩ := ih hu
      exact ⟨_, .ending hlog hk⟩

theorem Called.runs (hR : ∀ r s log x t, R r s log x t → carry r s = some (x, t)) {key : String}
    {v : Json} {source : Option Source} {l : List (Nat × Listener)} {s t : Session}
    {log : List Entry} (h : Called R key v source l s log t) :
    (do for y in l.map Prod.snd do react (.listener y key v source)) carry s =
      some (.ok (), t) := by
  induction h with
  | nil s =>
      rw [List.map_nil, forEach_nil]
      exact run_pure ()
  | cons hl _ ih =>
      rw [List.map_cons, forEach_cons]
      exact (run_bind_ok (hR _ _ _ _ _ hl)).trans ih

theorem Recorded.runs (hR : ∀ r s log x t, R r s log x t → carry r s = some (x, t)) {α : Type}
    {a : Act α} {s t : Session} {log : List Entry} {x : Except Fault α}
    (h : Recorded R a s log x t) : a carry s = some (x, t) := by
  induction h with
  | pure y s => exact run_pure y
  | throw f s => rfl
  | gets f s => exact run_gets f
  | change hf s => exact run_change _
  | emit he s => exact run_emit _
  | @write key v source s t log hc =>
      have hn : notify key v source carry (s.storing key v source) = some (.ok (), t) := by
        have hl : (s.storing key v source).audience key = (s.callees key).map Prod.snd :=
          (s.callees_audience key).symm
        rw [notify, run_bind_ok (run_gets _), hl]
        exact hc.runs hR
      rw [Act.write, run_bind_ok (run_gets _), run_bind_ok (run_store key v source)]
      exact run_bind_ok hn
  | react hr => exact hR _ _ _ _ _ hr
  | bind _ _ iha ihf => exact (run_bind_ok iha).trans ihf
  | stop _ ih => exact run_bind_error ih
  | attempt _ ih => rw [run_attempt, ih]; rfl
  | outcome _ ih => rw [run_outcome, ih]; rfl
  | ending _ _ ih => rw [run_ending, ih]; rfl

end

theorem recorder_runs (n : Nat) (r : Reaction) (s : Session) (log : List Entry)
    (x : Except Fault Unit) (t : Session) (h : recorder n r s log x t) :
    cascade n r s = some (x, t) := by
  induction n generalizing r s log x t with
  | zero => exact h.elim
  | succ n ih => exact Recorded.runs ih h

theorem cascade_recorded (n : Nat) (r : Reaction) (s : Session) (x : Except Fault Unit)
    (t : Session) (h : cascade n r s = some (x, t)) : ∃ log, recorder n r s log x t := by
  induction n generalizing r s x t with
  | zero => cases h
  | succ n ih =>
      exact (built_reaction (P := Anything) (fun _ _ _ => trivial) r).recorded ih
        (faultless_listener n) h

/-- An act runs from one session to another exactly if it has a chronicle between the two. -/
theorem settle_iff_recorded {α : Type} {a : Act α} (h : Built Anything a) {n : Nat}
    {s t : Session} {x : Except Fault α} :
    a.settle n s = some (x, t) ↔ ∃ log, Recorded (recorder n) a s log x t :=
  ⟨h.recorded (cascade_recorded n) (faultless_listener n),
    fun ⟨_, hlog⟩ => hlog.runs (recorder_runs n)⟩

end ScreenBinding
