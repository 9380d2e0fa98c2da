import ScreenBinding.Engine.Task

/-!
# Running acts

What an act does to a session, primitive by primitive and along a sequence. `Act` is a stack of
transformers, and nothing outside this module opens it: a run is taken apart with the equations
below, each of which names the result and the session it leaves. The callbacks are arbitrary here.
-/
namespace ScreenBinding

/-- The answer that arrives in a session: canned ones are looked up there. -/
def Pending.answer (s : Session) : Pending → Except TransportFault Json
  | .settled a => a
  | .canned responses url => .ok (s.canned responses url)

namespace Act
variable {α β : Type} {carry : React} {s t : Session}

theorem run_pure (x : α) : (pure x : Act α) carry s = some (.ok x, s) := rfl

theorem run_bind (a : Act α) (f : α → Act β) : (a >>= f) carry s =
    match a carry s with
    | none => none
    | some (.ok x, t) => f x carry t
    | some (.error e, t) => some (.error e, t) := by
  change ((a carry s).bind _) = _
  cases a carry s with
  | none => rfl
  | some p => rcases p with ⟨_ | _, t⟩ <;> rfl

theorem run_gets (f : Session → α) : gets f carry s = some (.ok (f s), s) := rfl

theorem run_change (f : Session → Session) : change f carry s = some (.ok (), f s) := rfl

theorem run_emit (e : Event) :
    emit e carry s = some (.ok (), { s with trace := e::s.trace }) := rfl

theorem run_store (key : String) (v : Json) (source : Option Source) :
    store key v source carry s = some (.ok (),
      { s with values := Table.put s.values key v, trace := .stored key v source::s.trace }) := rfl

theorem run_ofExcept (x : Except Fault α) : ofExcept x carry s = some (x, s) := by
  cases x <;> rfl

theorem run_attempt (a : Act Unit) :
    attempt a carry s = (a carry s).map fun p => (.ok (), p.2) := rfl

theorem run_outcome (a : Act α) :
    outcome a carry s = (a carry s).map fun p => (.ok p.1, p.2) := rfl

theorem run_ending (a : Act α) (f : Session → Session) :
    a.ending f carry s = (a carry s).map fun p => (p.1, f p.2) := rfl

/-- A sequence ends where its first part fails, or where its second part ends. -/
theorem bind_cases {a : Act α} {f : α → Act β} {r : Except Fault β} {u : Session}
    (h : (a >>= f) carry s = some (r, u)) :
    (∃ x t, a carry s = some (.ok x, t) ∧ f x carry t = some (r, u)) ∨
      ∃ e, a carry s = some (.error e, u) ∧ r = .error e := by
  rw [run_bind] at h
  split at h
  · cases h
  · rename_i x t ha
    exact .inl ⟨x, t, ha, h⟩
  · rename_i e t ha
    cases h
    exact .inr ⟨e, ha, rfl⟩

theorem attempt_cases {a : Act Unit} {r : Except Fault Unit}
    (h : attempt a carry s = some (r, t)) : ∃ x, a carry s = some (x, t) ∧ r = .ok () := by
  rw [run_attempt, Option.map_eq_some_iff] at h
  obtain ⟨⟨x, u⟩, hu, he⟩ := h
  cases he
  exact ⟨x, hu, rfl⟩

theorem outcome_cases {a : Act α} {r : Except Fault (Except Fault α)}
    (h : outcome a carry s = some (r, t)) : ∃ x, a carry s = some (x, t) ∧ r = .ok x := by
  rw [run_outcome, Option.map_eq_some_iff] at h
  obtain ⟨⟨x, u⟩, hu, he⟩ := h
  cases he
  exact ⟨x, hu, rfl⟩

theorem ending_cases {a : Act α} {f : Session → Session} {r : Except Fault α}
    (h : a.ending f carry s = some (r, t)) : ∃ u, a carry s = some (r, u) ∧ t = f u := by
  rw [run_ending, Option.map_eq_some_iff] at h
  obtain ⟨⟨x, u⟩, hu, he⟩ := h
  cases he
  exact ⟨u, hu, rfl⟩

theorem map_cases {a : Act α} {f : α → β} {r : Except Fault β}
    (h : (do return f (← a)) carry s = some (r, t)) :
    ∃ x, a carry s = some (x, t) ∧ r = x.map f := by
  obtain ⟨x, u, hx, hr⟩ | ⟨e, he, rfl⟩ := bind_cases h
  · cases hr
    exact ⟨.ok x, hx, rfl⟩
  · exact ⟨.error e, he, rfl⟩

theorem run_bind_ok {a : Act α} {f : α → Act β} {x : α} (h : a carry s = some (.ok x, t)) :
    (a >>= f) carry s = f x carry t := by
  rw [run_bind, h]

theorem run_bind_error {a : Act α} {f : α → Act β} {e : Fault}
    (h : a carry s = some (.error e, t)) : (a >>= f) carry s = some (.error e, t) := by
  rw [run_bind, h]

theorem throw_bind (e : Fault) (f : α → Act β) : (throw e >>= f : Act β) = throw e := rfl

theorem run_discard (a : Act α) : discard a carry s =
    match a carry s with
    | none => none
    | some (.ok _, t) => some (.ok (), t)
    | some (.error e, t) => some (.error e, t) := by
  change (a >>= fun _ => pure ()) carry s = _
  rw [run_bind]
  rfl

theorem discard_bind (a : Act α) (f : Unit → Act β) :
    (discard a >>= f) = (a >>= fun _ => f ()) := by
  change ((a >>= fun _ => pure ()) >>= f) = _
  simp

section
variable {f : β → Act Unit}

theorem forEach_nil : (do for x in ([] : List β) do f x) = pure () := by simp

theorem forEach_cons (x : β) (l : List β) :
    (do for y in x::l do f y) = (do f x; for y in l do f y) := by simp

theorem forEach_append (l l' : List β) :
    (do for y in l ++ l' do f y) = (do (do for y in l do f y); for y in l' do f y) := by simp

end

theorem runAll_cons (c : Command) (cs : List Command) :
    runAll (c::cs) = (do discard (run c); runAll cs) := by
  simp [runAll]

theorem writeAll_cons (key : String) (v : Json) (values : Fields) (source : Option Source) :
    writeAll ((key, v)::values) source = (do
      discard (write key v source)
      writeAll values source) := by
  simp [writeAll]

theorem evaluateAll_cons (t : Trigger) (x : Evaluation) (o : Operator) (os : List Operator) :
    evaluateAll t x (o::os) = (do
      evaluate? x (← gets (·.evaluator? t o))
      evaluateAll t x os) := by
  simp [evaluateAll]

theorem eachField_cons (f : Form) (key : String) (ds : List String)
    (spec : Table (List String)) (act : List String → ElementRef → Act Unit) :
    eachField f ((key, ds)::spec) act = (do
      let e ← gets (f.findField · key)
      (match e with
        | some e => act ds e
        | none => pure ())
      eachField f spec act) := by
  simp only [eachField, List.forIn_cons, bind_assoc]
  congr 1
  funext e
  cases e <;> simp

theorem eachField_append (f : Form) (before spec : Table (List String))
    (act : List String → ElementRef → Act Unit) :
    eachField f (before ++ spec) act = (do eachField f before act; eachField f spec act) := by
  induction before with
  | nil => rfl
  | cons entry before ih =>
      obtain ⟨key, ds⟩ := entry
      rw [List.cons_append, eachField_cons, eachField_cons, ih]
      simp only [bind_assoc]

/-- If it ends, it ends without a fault. -/
def Faultless (carry : React) (a : Act α) : Prop :=
  ∀ s x t, a carry s = some (x, t) → ∃ y, x = .ok y

theorem Faultless.of_run {a : Act α} {y : Session → α} {f : Session → Session}
    (h : ∀ s, a carry s = some (.ok (y s), f s)) : Faultless carry a := by
  intro s x t ha
  cases (h s).symm.trans ha
  exact ⟨y s, rfl⟩

theorem Faultless.pure (y : α) : Faultless carry (Pure.pure y) := .of_run fun _ => run_pure y

theorem Faultless.gets (f : Session → α) : Faultless carry (Act.gets f) :=
  .of_run fun _ => run_gets f

theorem Faultless.bind {a : Act α} {f : α → Act β} (ha : Faultless carry a)
    (hf : ∀ y, Faultless carry (f y)) : Faultless carry (a >>= f) := by
  intro s x t h
  obtain ⟨y, u, -, hu⟩ | ⟨e, he, -⟩ := bind_cases h
  · exact hf y u x t hu
  · obtain ⟨y, hy⟩ := ha s _ t he
    cases hy

/-- Behind a part that cannot fail, the sequence goes on. -/
theorem Faultless.goes_on {a : Act α} {f : α → Act β} {r : Except Fault β} (ha : Faultless carry a)
    (h : (a >>= f) carry s = some (r, t)) :
    ∃ x u, a carry s = some (.ok x, u) ∧ f x carry u = some (r, t) := by
  obtain hok | ⟨e, he, -⟩ := bind_cases h
  · exact hok
  · obtain ⟨y, hy⟩ := ha s _ t he
    cases hy

theorem Faultless.forIn {f : β → PUnit → Act (ForInStep PUnit)} {l : List β}
    (h : ∀ x ∈ l, Faultless carry (f x .unit)) : Faultless carry (ForIn.forIn l PUnit.unit f) := by
  induction l with
  | nil => exact .pure _
  | cons x l ih =>
      rw [List.forIn_cons]
      refine .bind (h x (List.mem_cons_self ..)) fun step => ?_
      cases step with
      | done u => exact .pure _
      | yield u => exact ih fun y hy => h y (List.mem_cons_of_mem x hy)

theorem Faultless.forEach {f : β → Act Unit} {l : List β} (h : ∀ x ∈ l, Faultless carry (f x)) :
    Faultless carry (do for x in l do f x) :=
  .bind (.forIn fun x hx => .bind (h x hx) fun _ => .pure _) fun _ => .pure _

theorem Faultless.attempt (a : Act Unit) : Faultless carry (Act.attempt a) := by
  intro s x t h
  obtain ⟨_, -, hx⟩ := attempt_cases h
  exact ⟨(), hx⟩

theorem Faultless.outcome (a : Act α) : Faultless carry (Act.outcome a) := by
  intro s x t h
  obtain ⟨y, -, hx⟩ := outcome_cases h
  exact ⟨y, hx⟩

theorem run_arrived (p : Pending) : arrived p carry s = some (.ok (p.answer s), s) := by
  cases p <;> rfl

end Act

/-- A task is resumed, and then put where it has come to. -/
theorem Session.advance_cases {n : Nat} {s t : Session} {task : Task} {answer : Bool}
    {r : Option Result} (h : s.advance n task answer = some (r, t)) :
    ∃ x u, (Act.resume task.frame answer).settle n s = some (x, u) ∧
      u.record task x = (r, t) := by
  simp only [advance, bind, Option.bind_eq_some_iff] at h
  obtain ⟨⟨x, u⟩, hx, hr⟩ := h
  exact ⟨x, u, hx, Option.some.inj hr⟩

/-- Where a task is put changes who waits and the trace, and nothing else. -/
theorem Session.record_eq (s : Session) (task : Task) (x : Except Fault Progress) :
    (s.record task x).2 = { s with
      sleeping := (s.record task x).2.sleeping, awaiting := (s.record task x).2.awaiting,
      trace := (s.record task x).2.trace } := by
  obtain ⟨id, role, frame⟩ := task
  rcases x with f | (a | ⟨ms, next⟩ | ⟨ticket, next⟩)
  · cases role <;> rfl
  · cases role <;> rfl
  · simp only [record, suspend]
    split <;> rfl
  · simp only [record, suspend]
    split <;> rfl

end ScreenBinding
