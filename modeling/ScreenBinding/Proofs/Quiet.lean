import ScreenBinding.Proofs.Writes

/-!
# Callbacks that do not write

A script is quiet if it always ends and makes no write, whatever its own callbacks would do; a
listener or a change handler is quiet if the only scripts it runs are. Load bindings count as quiet
listeners and save bindings as quiet handlers: that the former never write, and when the latter do,
is shown here and in the next module.

Acts are judged at a loading depth, because a save binding does nothing while a load is running.
`Calm` acts end, perhaps with a fault, and write nothing; an act that `Makes` some targets ends
without a fault and makes one write to each of them, in order. Values are left open here, since
what a later save writes may depend on what an earlier one has shown.
-/
namespace ScreenBinding
open Session (Wrote)
open Act

/-- Always ends, and makes no write. -/
def QuietScript (actions : List Command) : Prop :=
  ∀ (carry : React) (s : Session), ∃ r t, runAll actions carry s = some (r, t) ∧ Wrote [] s t

/-- Notes are quiet. -/
theorem quietScript_notes (texts : List String) :
    QuietScript (texts.map fun text => .host (.note text)) := by
  intro carry s
  induction texts generalizing s with
  | nil => exact ⟨_, s, rfl, .refl s⟩
  | cons text texts ih =>
      obtain ⟨r, t, hr, ht⟩ := ih { s with trace := .noted text::s.trace }
      refine ⟨r, t, ?_, (Wrote.emit s rfl).trans ht⟩
      rw [List.map_cons, runAll_cons, run_bind_ok (t := { s with trace := .noted text::s.trace })
        (x := ()) rfl]
      exact hr

def Listener.Quiet : Listener → Prop
  | .report _ actions => QuietScript actions
  | _ => True

/-- As a handler of changes. -/
def Handler.Quiet : Handler → Prop
  | .save _ _ => True
  | .watch _ actions => QuietScript actions
  | _ => False

/-- One directive wired to one element. -/
structure Connection where
  trigger : Trigger
  directive : String
  element : ElementRef
  source : Option Source

/-- The save connection behind a registration. -/
def Registration.save? (r : Registration) : Option Connection :=
  match r.event, r.handler with
  | .change, .save directive source => some ⟨.save, directive, r.element, source⟩
  | _, _ => none

/-- A session with the standard evaluators and connectors, with these save connections, and with
no callback that writes but they; `depth` loads are running. -/
structure Linked (saves : List Connection) (depth : Nat) (s : Session) : Prop where
  evaluators : s.evaluators = []
  connectors : s.connectors = []
  listeners : ∀ p ∈ s.listeners, p.2.Quiet
  handlers : ∀ r ∈ s.handlers, r.event = .change → r.handler.Quiet
  saves : s.handlers.filterMap Registration.save? = saves
  loading : s.loading = depth

theorem Linked.wrote {saves : List Connection} {depth : Nat} {ws : List Write} {s t : Session}
    (h : Linked saves depth s) (k : Wrote ws s t) : Linked saves depth t where
  evaluators := k.evaluators.trans h.evaluators
  connectors := k.connectors.trans h.connectors
  listeners := by rw [k.listeners]; exact h.listeners
  handlers := by rw [k.handlers]; exact h.handlers
  saves := by rw [k.handlers]; exact h.saves
  loading := k.loading.trans h.loading

theorem Session.evaluator?_standard {s : Session} (h : s.evaluators = []) (t : Trigger)
    (o : Operator) : s.evaluator? t o = Evaluator.standard t o := by
  rw [evaluator?, h]
  rfl

theorem Linked.evaluator? {saves : List Connection} {depth : Nat} {s : Session}
    (h : Linked saves depth s) (t : Trigger) (o : Operator) :
    s.evaluator? t o = Evaluator.standard t o :=
  Session.evaluator?_standard h.evaluators t o

theorem Session.mem_audience {s : Session} {key : String} {l : Listener}
    (hl : l ∈ s.audience key) : ∃ k, (k, l) ∈ s.listeners := by
  simp only [audience, listenersOf, List.mem_append, List.mem_map, List.mem_filter] at hl
  rcases hl with ⟨p, ⟨hp, -⟩, rfl⟩ | ⟨p, ⟨hp, -⟩, rfl⟩
  · exact ⟨p.1, hp⟩
  · exact ⟨p.1, hp⟩

theorem Session.mem_handlersOf {s : Session} {e : ElementRef} {event : EventKind} {x : Handler} :
    x ∈ s.handlersOf e event ↔ ⟨e, event, x⟩ ∈ s.handlers := by
  simp only [handlersOf, List.mem_map, List.mem_filter, Bool.and_eq_true, decide_eq_true_eq]
  constructor
  · rintro ⟨r, ⟨hr, rfl, rfl⟩, rfl⟩
    exact hr
  · intro h
    exact ⟨_, ⟨h, rfl, rfl⟩, rfl⟩

theorem Linked.audience {saves : List Connection} {depth : Nat} {s : Session}
    (h : Linked saves depth s) {key : String} {l : Listener} (hl : l ∈ s.audience key) :
    l.Quiet := by
  obtain ⟨k, hmem⟩ := Session.mem_audience hl
  exact h.listeners _ hmem

theorem Linked.handlersOf {saves : List Connection} {depth : Nat} {s : Session}
    (h : Linked saves depth s) {e : ElementRef} {x : Handler} (hx : x ∈ s.handlersOf e .change) :
    x.Quiet :=
  h.handlers _ (Session.mem_handlersOf.mp hx) rfl

namespace Act
section
variable {α β : Type} {saves : List Connection} {depth : Nat} {carry : React}

/-- Ends, perhaps with a fault, and writes nothing. -/
def Calm (saves : List Connection) (depth : Nat) (carry : React) (a : Act α) : Prop :=
  ∀ s, Linked saves depth s → ∃ r t, a carry s = some (r, t) ∧ Wrote [] s t

/-- Ends without a fault and makes one write to each target. -/
def Makes (saves : List Connection) (depth : Nat) (carry : React) (a : Act α)
    (targets : List (String × Option Source)) : Prop :=
  ∀ s, Linked saves depth s → ∃ x t ws, a carry s = some (.ok x, t) ∧ Wrote ws s t ∧
    ws.map Write.target = targets

theorem Calm.pure (x : α) : Calm saves depth carry (Pure.pure x) :=
  fun s _ => ⟨_, _, run_pure x, .refl s⟩

theorem Calm.gets (f : Session → α) : Calm saves depth carry (Act.gets f) :=
  fun s _ => ⟨_, _, run_gets f, .refl s⟩

theorem Calm.ofExcept (x : Except Fault α) : Calm saves depth carry (Act.ofExcept x) :=
  fun s _ => ⟨_, _, run_ofExcept x, .refl s⟩

theorem Calm.bind {a : Act α} {f : α → Act β} (ha : Calm saves depth carry a)
    (hf : ∀ x, Calm saves depth carry (f x)) : Calm saves depth carry (a >>= f) := by
  intro s hs
  obtain ⟨r, t, hr, ht⟩ := ha s hs
  cases r with
  | error e => exact ⟨_, t, run_bind_error hr, ht⟩
  | ok x =>
      obtain ⟨r, u, hu, hw⟩ := hf x t (hs.wrote ht)
      exact ⟨r, u, (run_bind_ok hr).trans hu, ht.trans hw⟩

/-- What is looked up may be used to go on. -/
theorem Calm.looked {f : Session → α} {g : α → Act β}
    (h : ∀ s, Linked saves depth s → Calm saves depth carry (g (f s))) :
    Calm saves depth carry (Act.gets f >>= g) := fun s hs => by
  rw [run_bind_ok (run_gets f)]
  exact h s hs s hs

theorem Makes.pure (x : α) : Makes saves depth carry (Pure.pure x) [] :=
  fun s _ => ⟨_, _, _, run_pure x, .refl s, rfl⟩

theorem Makes.bind {a : Act α} {f : α → Act β} {ts us : List (String × Option Source)}
    (ha : Makes saves depth carry a ts) (hf : ∀ x, Makes saves depth carry (f x) us) :
    Makes saves depth carry (a >>= f) (ts ++ us) := by
  intro s hs
  obtain ⟨x, t, ws, hr, ht, rfl⟩ := ha s hs
  obtain ⟨y, u, vs, hu, hw, rfl⟩ := hf x t (hs.wrote ht)
  exact ⟨y, u, ws ++ vs, (run_bind_ok hr).trans hu, ht.trans hw, List.map_append ..⟩

theorem Makes.looked {f : Session → α} {g : α → Act β} {ts : List (String × Option Source)}
    (h : ∀ s, Linked saves depth s → Makes saves depth carry (g (f s)) ts) :
    Makes saves depth carry (Act.gets f >>= g) ts := fun s hs => by
  rw [run_bind_ok (run_gets f)]
  exact h s hs s hs

theorem Makes.forEach {f : β → Act Unit} {g : β → List (String × Option Source)} {l : List β}
    (h : ∀ x ∈ l, Makes saves depth carry (f x) (g x)) :
    Makes saves depth carry (do for x in l do f x) (l.flatMap g) := by
  induction l with
  | nil => rw [forEach_nil]; exact .pure ()
  | cons x l ih =>
      rw [forEach_cons, List.flatMap_cons]
      exact .bind (h x (List.mem_cons_self ..)) fun _ =>
        ih fun y hy => h y (List.mem_cons_of_mem x hy)

/-- A loop none of whose rounds writes. -/
theorem Makes.forEach_nil {f : β → Act Unit} {l : List β}
    (h : ∀ x ∈ l, Makes saves depth carry (f x) []) :
    Makes saves depth carry (do for x in l do f x) [] := by
  have := Makes.forEach (g := fun _ => []) h
  rwa [List.flatMap_eq_nil_iff.mpr fun _ _ => rfl] at this

theorem Makes.calm {a : Act α} (h : Makes saves depth carry a []) : Calm saves depth carry a := by
  intro s hs
  obtain ⟨x, t, ws, hr, ht, hw⟩ := h s hs
  obtain rfl : ws = [] := by simpa using hw
  exact ⟨_, t, hr, ht⟩

/-- Dropping the fault of a calm act leaves nothing to report. -/
theorem Calm.attempt {a : Act Unit} (h : Calm saves depth carry a) :
    Makes saves depth carry (Act.attempt a) [] := by
  intro s hs
  obtain ⟨r, t, hr, ht⟩ := h s hs
  exact ⟨(), t, [], by rw [run_attempt, hr]; rfl, ht, rfl⟩

theorem Makes.attempt {a : Act Unit} {ts : List (String × Option Source)}
    (h : Makes saves depth carry a ts) : Makes saves depth carry (Act.attempt a) ts := by
  intro s hs
  obtain ⟨x, t, ws, hr, ht, hw⟩ := h s hs
  exact ⟨(), t, ws, by rw [run_attempt, hr]; rfl, ht, hw⟩

theorem Makes.discard {a : Act α} {ts : List (String × Option Source)}
    (h : Makes saves depth carry a ts) : Makes saves depth carry (Functor.discard a) ts := by
  intro s hs
  obtain ⟨x, t, ws, hr, ht, hw⟩ := h s hs
  exact ⟨(), t, ws, by rw [run_discard, hr], ht, hw⟩

theorem Makes.emit {e : Event} (h : e.write? = none) :
    Makes saves depth carry (Act.emit e) [] :=
  fun s _ => ⟨(), _, [], run_emit e, .emit s h, rfl⟩

theorem Makes.modify (e : ElementRef) (f : Element → Element) :
    Makes saves depth carry (Act.modify e f) [] :=
  fun s _ => ⟨(), _, [], run_change _, .elements s _, rfl⟩

end
end Act
end ScreenBinding
