import ScreenBinding.Proofs.CommandActs

/-!
# What an act records itself

Callbacks may do anything to a session, and what they record stands in the same trace as what the
act records that called them. To tell the two apart an act is run once more with hushed callbacks:
they do what they did, but their events are dropped. Since nothing looks at the trace, the second
run goes the same way, and its trace holds the act's own events.

`Records G` says of an act what it records, together with its result, and `Yields G` says this of
its steps alone. Both compose along sequences, so that the record of a long act is put together from
those of its parts.
-/
namespace ScreenBinding.Act
variable {α β : Type}

/-- The same callbacks, but what they record is dropped. -/
def hush (carry : React) : React := fun r s =>
  (carry r s).map fun p => (p.1, p.2.retrace s.trace)

/-- The events that an act records itself, the earliest first. -/
def own (a : Act α) (carry : React) (s : Session) : List Event :=
  match a (hush carry) (s.retrace []) with
  | some (_, t) => t.trace.reverse
  | none => []

/-- Callbacks that record nothing. -/
def Mute (carry : React) : Prop := ∀ r s x t, carry r s = some (x, t) → t.trace = s.trace

theorem mute_hush (carry : React) : Mute (hush carry) := by
  intro r s x t h
  obtain ⟨p, -, hp⟩ := Option.map_eq_some_iff.mp h
  cases hp
  rfl

theorem hush_mirrors {P : Event → Prop} {carry : React}
    (h : ∀ r, Mirrors Anything (carry r) (carry r)) (r : Reaction) :
    Mirrors P (carry r) (hush carry r) := by
  intro s x t ht
  obtain ⟨new, -, hn⟩ := h r s x t ht
  refine ⟨[], List.forall_mem_nil _, fun T => ?_⟩
  rw [hush, hn]
  rfl

/-- The run with hushed callbacks ends in the same session, but for the trace. -/
theorem run_hush {a : Act α} (h : Built Anything a) {n : Nat}
    {s t : Session} {x : Except Fault α} (ha : a.settle n s = some (x, t)) :
    a (hush (cascade n)) (s.retrace []) =
      some (x, t.retrace (a.own (cascade n) s).reverse) := by
  obtain ⟨new, -, hn⟩ := h.mirrors (hush_mirrors (cascade_mirrors n)) s x t ha
  have hr := hn []
  rw [List.append_nil] at hr
  rw [own, hr]
  exact congrArg (fun T => some (x, t.retrace T)) (List.reverse_reverse new).symm

/-- Events that are recorded one after the other. -/
theorem trace_append {s t u : Session} {l k : List Event} (hl : t.trace = l.reverse ++ s.trace)
    (hk : u.trace = k.reverse ++ t.trace) : u.trace = (l ++ k).reverse ++ s.trace := by
  rw [hk, hl, List.reverse_append, List.append_assoc]

/-- Adding certain events to the trace. -/
theorem respected_adds (P : Event → Prop) : Respected P fun s t =>
    ∃ l : List Event, t.trace = l.reverse ++ s.trace ∧ ∀ e ∈ l, P e where
  refl s := ⟨[], rfl, List.forall_mem_nil _⟩
  trans := by
    rintro s t u ⟨l, hl, hp⟩ ⟨k, hk, hq⟩
    refine ⟨l ++ k, trace_append hl hk, fun e he => ?_⟩
    exact (List.mem_append.mp he).elim (hp e) (hq e)
  unseen hf s := ⟨[], hf.trace_eq s, List.forall_mem_nil _⟩
  emitted {e} he _ s := ⟨[e], rfl, by simpa using he⟩
  stored {key v source} he s := ⟨[.stored key v source], rfl, by simpa using he⟩

theorem Mute.adds {carry : React} (hm : Mute carry) (P : Event → Prop) (r : Reaction) (s : Session)
    (x : Except Fault Unit) (t : Session) (h : carry r s = some (x, t)) :
    ∃ l : List Event, t.trace = l.reverse ++ s.trace ∧ ∀ e ∈ l, P e :=
  ⟨[], hm r s x t h, List.forall_mem_nil _⟩

/-- What an act built of primitives adds to the trace, when its callbacks add nothing. -/
theorem built_adds {P : Event → Prop} {a : Act α} (h : Built P a) {carry : React} (hm : Mute carry)
    {s t : Session} {x : Except Fault α} (ha : a carry s = some (x, t)) :
    ∃ l : List Event, t.trace = l.reverse ++ s.trace ∧ ∀ e ∈ l, P e :=
  h.respects (respected_adds P) (hm.adds P) ha

section
variable {carry : React}

/-- Whenever the act ends, `G` holds of what it records, in order, and of its result. -/
def Records (carry : React) (a : Act α) (G : List Event → Except Fault α → Prop) : Prop :=
  ∀ s x t, a carry s = some (x, t) →
    ∃ l : List Event, t.trace = l.reverse ++ s.trace ∧ G l x

theorem Records.mono {a : Act α} {G H : List Event → Except Fault α → Prop}
    (h : Records carry a G) (hi : ∀ l x, G l x → H l x) : Records carry a H := by
  intro s x t ha
  obtain ⟨l, hl, hg⟩ := h s x t ha
  exact ⟨l, hl, hi _ x hg⟩

theorem Records.pure {x : α} {G : List Event → Except Fault α → Prop} (h : G [] (.ok x)) :
    Records carry (Pure.pure x) G := by
  intro s y t ha
  cases ha
  exact ⟨[], rfl, h⟩

theorem Records.throw {e : Fault} {G : List Event → Except Fault α → Prop} (h : G [] (.error e)) :
    Records carry (throw e : Act α) G := by
  intro s y t ha
  cases ha
  exact ⟨[], rfl, h⟩

theorem Records.bind {a : Act α} {f : α → Act β} {G : List Event → Except Fault α → Prop}
    {H : List Event → Except Fault β → Prop} (ha : Records carry a G)
    (hf : ∀ l x, G l (.ok x) → Records carry (f x) fun k y => H (l ++ k) y)
    (he : ∀ l e, G l (.error e) → H l (.error e)) : Records carry (a >>= f) H := by
  intro s y u h
  obtain ⟨x, t, hx, hu⟩ | ⟨e, hx, rfl⟩ := bind_cases h
  · obtain ⟨l, hl, hg⟩ := ha s _ t hx
    obtain ⟨k, hk, hh⟩ := hf _ x hg t y u hu
    exact ⟨l ++ k, trace_append hl hk, hh⟩
  · obtain ⟨l, hl, hg⟩ := ha s _ u hx
    exact ⟨l, hl, he _ e hg⟩

/-- What an act records with hushed callbacks is what it records itself. -/
theorem own_ends {a : Act α} {n : Nat} {s t : Session} {x : Except Fault α}
    {G : List Event → Session → Prop} (hb : Built Anything a) (ha : a.settle n s = some (x, t))
    (hy : ∀ u, a (hush (cascade n)) (s.retrace []) = some (x, u) → ∃ l : List Event,
      u.trace = l.reverse ++ (s.retrace []).trace ∧ G l u) :
    G (a.own (cascade n) s) (t.retrace (a.own (cascade n) s).reverse) := by
  obtain ⟨l, hl, hg⟩ := hy _ (run_hush hb ha)
  have hr : (a.own (cascade n) s).reverse = l.reverse ++ [] := hl
  rw [List.append_nil] at hr
  obtain rfl := List.reverse_inj.mp hr
  exact hg

theorem own_records {a : Act α} {n : Nat} {s t : Session} {x : Except Fault α}
    {G : List Event → Except Fault α → Prop} (hb : Built Anything a)
    (ha : a.settle n s = some (x, t))
    (hy : ∀ u, a (hush (cascade n)) (s.retrace []) = some (x, u) → ∃ l : List Event,
      u.trace = l.reverse ++ (s.retrace []).trace ∧ G l x) : G (a.own (cascade n) s) x :=
  own_ends (G := fun l _ => G l x) hb ha hy

end

section
variable {carry : React}

/-- Whenever the act ends, `G` holds of its own steps, in order, and of its result. -/
def Yields (carry : React) (a : Act α) (G : List Event → Except Fault α → Prop) : Prop :=
  ∀ s x t, a carry s = some (x, t) →
    ∃ l : List Event, t.trace = l.reverse ++ s.trace ∧ G (l.filter Event.isStep) x

theorem Yields.mono {a : Act α} {G H : List Event → Except Fault α → Prop}
    (h : Yields carry a G) (hi : ∀ l x, G l x → H l x) : Yields carry a H :=
  Records.mono h fun l x => hi (l.filter Event.isStep) x

theorem Yields.pure {x : α} {G : List Event → Except Fault α → Prop} (h : G [] (.ok x)) :
    Yields carry (Pure.pure x) G := Records.pure h

theorem Yields.throw {e : Fault} {G : List Event → Except Fault α → Prop} (h : G [] (.error e)) :
    Yields carry (throw e : Act α) G := Records.throw h

theorem Yields.bind {a : Act α} {f : α → Act β} {G : List Event → Except Fault α → Prop}
    {H : List Event → Except Fault β → Prop} (ha : Yields carry a G)
    (hf : ∀ l x, G l (.ok x) → Yields carry (f x) fun k y => H (l ++ k) y)
    (he : ∀ l e, G l (.error e) → H l (.error e)) : Yields carry (a >>= f) H := by
  refine Records.bind ha (fun l x hl => Records.mono (hf _ x hl) fun k y hk => ?_)
    fun l e hl => he (l.filter Event.isStep) e hl
  rw [List.filter_append]
  exact hk

theorem Yields.faultless {a : Act α} {G : List Event → Except Fault α → Prop}
    (h : Yields carry a G) (hf : Faultless carry a) :
    Yields carry a fun l x => G l x ∧ ∃ y, x = .ok y := by
  intro s x t ha
  obtain ⟨l, hl, hg⟩ := h s x t ha
  exact ⟨l, hl, hg, hf s x t ha⟩

/-- A look takes no step. -/
theorem Yields.looked {f : Session → α} {g : α → Act β} {G : List Event → Except Fault β → Prop}
    (h : ∀ x, Yields carry (g x) G) : Yields carry (gets f >>= g) G := fun s y t ha => by
  rw [run_bind_ok (run_gets f)] at ha
  exact h (f s) s y t ha

theorem Yields.emit {e : Event} (h : e.isStep = true) {f : Unit → Act β}
    {G : List Event → Except Fault β → Prop} (hf : Yields carry (f ()) fun l y => G (e::l) y) :
    Yields carry (Act.emit e >>= f) G := by
  intro s y t ha
  rw [run_bind_ok (run_emit e)] at ha
  obtain ⟨l, hl, hg⟩ := hf _ y t ha
  refine ⟨e::l, by rw [hl, List.reverse_cons, List.append_assoc]; rfl, ?_⟩
  rw [List.filter_cons_of_pos h]
  exact hg

variable (hm : Mute carry)
include hm

theorem Yields.of_built {P : Event → Prop} {a : Act α} (h : Built P a) :
    Yields carry a fun l _ => ∀ e ∈ l, P e ∧ e.isStep = true := by
  intro s x t ha
  obtain ⟨l, hl, hp⟩ := built_adds h hm ha
  refine ⟨l, hl, fun e he => ?_⟩
  obtain ⟨he, hs⟩ := List.mem_filter.mp he
  exact ⟨hp e he, hs⟩

/-- An act that records nothing but plain events takes no step. -/
theorem Yields.plain {a : Act α} (h : Built (·.isStep = false) a) :
    Yields carry a fun l _ => l = [] :=
  (of_built hm h).mono fun l _ hl => List.eq_nil_iff_forall_not_mem.mpr fun e he => by
    obtain ⟨hf, ht⟩ := hl e he
    rw [hf] at ht
    cases ht

/-- Before a part without steps that may fail. -/
theorem Yields.after_plain {a : Act α} {f : α → Act β} {G : List Event → Except Fault β → Prop}
    (h : Built (·.isStep = false) a) (he : ∀ e, G [] (.error e))
    (hf : ∀ x, Yields carry (f x) G) : Yields carry (a >>= f) G := by
  refine (plain hm h).bind (fun l x hl => ?_) fun l e hl => ?_
  · subst hl
    exact hf x
  · subst hl
    exact he e

/-- Before a part without steps that cannot fail. -/
theorem Yields.after_calm {a : Act α} {f : α → Act β} {G : List Event → Except Fault β → Prop}
    (h : Built (·.isStep = false) a) (hc : Faultless carry a)
    (hf : ∀ x, Yields carry (f x) G) : Yields carry (a >>= f) G := by
  refine ((plain hm h).faultless hc).bind (fun l x hl => ?_) fun l e hl => ?_
  · obtain ⟨rfl, -⟩ := hl
    exact hf x
  · obtain ⟨-, y, hy⟩ := hl
    cases hy

end
end ScreenBinding.Act
