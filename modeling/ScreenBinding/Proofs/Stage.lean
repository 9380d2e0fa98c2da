import ScreenBinding.Proofs.Questions
import Mathlib.Logic.Relation

/-!
# What is on stage

What a user sees of surfaces and questions: which surfaces are shown, which question waits in front
of a modal, and who waits for its answer. Few things that acts do are seen here: the surfaces of a
kind are hidden, one of them is shown right after that, a question is put in front of a modal or
taken away. Everything else goes on offstage.

`Staged` relates two sessions if such steps lead from the first to the second, and an act `Stages`
if each of its runs does, however its callbacks are carried out, as long as these do. An invariant
of what is on stage then has to be shown for the steps only. A host may also speak to the renderer
itself, which opens a modal without hiding the others; `raw` tells whether such steps are counted.
-/
namespace ScreenBinding
open Act

namespace Event

/-- Whether an event shows a surface or hides surfaces. -/
def arranges : Event → Bool
  | .modalOpened .. | .modalsClosed | .interfaceShown .. | .interfacesHidden => true
  | _ => false

/-- All surfaces of a kind are hidden. -/
def hidden : SurfaceKind → Event
  | .modal => .modalsClosed
  | .interface => .interfacesHidden

/-- One surface is shown. -/
def shown : SurfaceKind → ElementRef → String → Event
  | .modal => .modalOpened
  | .interface => .interfaceShown

end Event

namespace Session

/-- The modals with their questions stay, nothing is shown or hidden, and nobody begins to wait. -/
structure Offstage (s t : Session) : Prop where
  trace : ∃ new : List Event, t.trace = new ++ s.trace ∧ ∀ e ∈ new, e.arranges = false
  modals : t.modals = s.modals
  nextTicket : t.nextTicket = s.nextTicket
  awaiting : t.awaiting.Sublist s.awaiting

/-- A modal has no question any more, and whoever waited for the answer does not wait. The modal
itself may be another one. -/
structure Vacated (name : String) (s t : Session) : Prop where
  trace : t.trace = s.trace
  others : ∀ other, other ≠ name → Table.find? t.modals other = Table.find? s.modals other
  empty : t.pendingOn name = none
  dropped : ∀ k, s.pendingOn name = some k → ∀ p ∈ t.awaiting, p.1 ≠ k
  nextTicket : t.nextTicket = s.nextTicket
  awaiting : t.awaiting.Sublist s.awaiting

end Session

/-- One thing that is seen on stage. -/
inductive StageStep (raw : Bool) (s : Session) : Session → Prop
  | offstage {t : Session} : s.Offstage t → StageStep raw s t
  | hid (kind : SurfaceKind) : StageStep raw s { s with trace := .hidden kind::s.trace }
  | showed (kind : SurfaceKind) (e : ElementRef) (label : String) :
      StageStep raw s { s with trace := .shown kind e label::.hidden kind::s.trace }
  | opened (e : ElementRef) (label : String) : raw = true →
      StageStep raw s { s with trace := .modalOpened e label::s.trace }
  | drew : StageStep raw s s.freshTicket
  | put (name : String) : StageStep raw s (s.freshTicket.ask .modal name (some s.nextTicket))
  | vacated {name : String} {t : Session} : Session.Vacated name s t → StageStep raw s t

/-- Such steps lead from one session to the other. -/
abbrev Staged (raw : Bool) : Session → Session → Prop := Relation.ReflTransGen (StageStep raw)

/-- Callbacks that are carried out on stage. -/
def OnStage (raw : Bool) (carry : React) : Prop :=
  ∀ r s x t, carry r s = some (x, t) → Staged raw s t

/-- The runs of an act are staged if its callbacks are. -/
class Stages (raw : Bool) {α : Type} (a : Act α) : Prop where
  staged : ∀ {carry : React}, OnStage raw carry → ∀ s x t, a carry s = some (x, t) → Staged raw s t

namespace Session
variable {s t u : Session} {name : String}

theorem resolve_awaiting (s : Session) (k : Ticket) (b : Bool) :
    (s.resolve k b).awaiting.Sublist s.awaiting := by
  unfold resolve
  split
  · exact List.filter_sublist
  · exact List.Sublist.refl _

@[simp] theorem resolve_trace (s : Session) (k : Ticket) (b : Bool) :
    (s.resolve k b).trace = s.trace := by
  unfold resolve
  split <;> rfl

/-- Nobody waits for a question that is resolved. -/
theorem resolve_dropped (s : Session) (k : Ticket) (b : Bool) :
    ∀ p ∈ (s.resolve k b).awaiting, p.1 ≠ k := by
  intro p hp
  unfold resolve at hp
  split at hp
  · simpa using (List.mem_filter.mp hp).2
  · rename_i hnone
    have hk := List.find?_eq_none.mp hnone p hp
    simpa using hk

theorem Offstage.refl (s : Session) : s.Offstage s :=
  ⟨⟨[], rfl, List.forall_mem_nil _⟩, rfl, rfl, List.Sublist.refl _⟩

theorem Offstage.trans (h : s.Offstage t) (k : t.Offstage u) : s.Offstage u where
  trace := by
    obtain ⟨l, hl, hq⟩ := h.trace
    obtain ⟨m, hm, hp⟩ := k.trace
    refine ⟨m ++ l, by rw [hm, hl, List.append_assoc], fun e he => ?_⟩
    exact (List.mem_append.mp he).elim (hp e) (hq e)
  modals := k.modals.trans h.modals
  nextTicket := k.nextTicket.trans h.nextTicket
  awaiting := k.awaiting.trans h.awaiting

/-- A change of other parts of the session. -/
theorem Offstage.apart (h : t = { t with
    trace := s.trace, modals := s.modals, nextTicket := s.nextTicket, awaiting := s.awaiting }) :
    s.Offstage t := by
  rw [h]
  exact ⟨⟨[], rfl, List.forall_mem_nil _⟩, rfl, rfl, List.Sublist.refl _⟩

@[simp] theorem retrace_retrace (s : Session) (T U : List Event) :
    (s.retrace T).retrace U = s.retrace U := rfl

@[simp] theorem trace_retrace (s : Session) (T : List Event) : (s.retrace T).trace = T := rfl

theorem Offstage.added (new : List Event) (h : ∀ e ∈ new, e.arranges = false) :
    s.Offstage (s.retrace (new ++ s.trace)) :=
  ⟨⟨new, rfl, h⟩, rfl, rfl, List.Sublist.refl _⟩

theorem Offstage.emitted {e : Event} (h : e.arranges = false) :
    s.Offstage { s with trace := e::s.trace } :=
  ⟨⟨[e], rfl, by simpa using h⟩, rfl, rfl, List.Sublist.refl _⟩

theorem Offstage.resolved (s : Session) (k : Ticket) (b : Bool) : s.Offstage (s.resolve k b) :=
  ⟨⟨[], s.resolve_trace k b, List.forall_mem_nil _⟩, s.resolve_modals k b,
    s.resolve_nextTicket k b, s.resolve_awaiting k b⟩

theorem Offstage.dropped (s : Session) (ticket : Option Ticket) : s.Offstage (s.drop ticket) := by
  cases ticket with
  | none => exact .refl s
  | some k => exact .resolved s k false

theorem Offstage.aborted (s : Session) (id : Nat) : s.Offstage (s.abort id) :=
  ⟨⟨[], rfl, List.forall_mem_nil _⟩, rfl, rfl, List.filter_sublist⟩

theorem Offstage.staged {raw : Bool} (h : s.Offstage t) : Staged raw s t := .single (.offstage h)

/-- A modal whose question is taken out of the table and resolved. -/
theorem Vacated.of_replaced {table : Table Surface}
    (others : ∀ other, other ≠ name → Table.find? table other = Table.find? s.modals other)
    (empty : (Table.find? table name).bind (·.pending) = none) {k : Ticket}
    (hk : s.pendingOn name = some k) (b : Bool) :
    Vacated name s (({ s with modals := table } : Session).resolve k b) where
  trace := resolve_trace _ k b
  others other ho := by
    rw [resolve_modals]
    exact others other ho
  empty := by
    rw [pendingOn, resolve_modals]
    exact empty
  dropped j hj := by
    cases hk.symm.trans hj
    exact resolve_dropped _ k b
  nextTicket := resolve_nextTicket _ k b
  awaiting := resolve_awaiting _ k b

/-- The same where nobody may have asked. -/
theorem Vacated.of_dropped {table : Table Surface}
    (others : ∀ other, other ≠ name → Table.find? table other = Table.find? s.modals other)
    (empty : (Table.find? table name).bind (·.pending) = none) :
    Vacated name s (({ s with modals := table } : Session).drop (s.pendingOn name)) := by
  cases hk : s.pendingOn name with
  | some k => exact .of_replaced others empty hk false
  | none =>
      refine ⟨rfl, others, empty, fun k h => ?_, rfl, List.Sublist.refl _⟩
      rw [hk] at h
      cases h

end Session

section
variable {raw : Bool} {s t : Session}

theorem StageStep.trace (h : StageStep raw s t) : ∃ new, t.trace = new ++ s.trace := by
  cases h with
  | offstage h =>
      obtain ⟨new, hnew, -⟩ := h.trace
      exact ⟨new, hnew⟩
  | hid kind => exact ⟨[_], rfl⟩
  | showed kind e label => exact ⟨[_, _], rfl⟩
  | opened e label _ => exact ⟨[_], rfl⟩
  | drew => exact ⟨[], rfl⟩
  | put name => exact ⟨[], (Session.unseen_ask .modal name _).trace_eq _⟩
  | vacated h => exact ⟨[], h.trace⟩

/-- The trace only grows. -/
theorem Staged.trace (h : Staged raw s t) : ∃ new, t.trace = new ++ s.trace := by
  induction h with
  | refl => exact ⟨[], rfl⟩
  | tail _ hstep ih =>
      obtain ⟨new, hnew⟩ := ih
      obtain ⟨more, hmore⟩ := hstep.trace
      exact ⟨more ++ new, by rw [hmore, hnew, List.append_assoc]⟩

end

namespace Stages
variable {α β : Type} {raw : Bool}

instance pure (x : α) : Stages raw (Pure.pure x : Act α) where
  staged _ s y t h := by
    cases h
    exact .refl

instance throw (e : Fault) : Stages raw (throw e : Act α) where
  staged _ s y t h := by
    cases h
    exact .refl

instance gets (f : Session → α) : Stages raw (gets f) where
  staged _ s y t h := by
    cases h
    exact .refl

instance react (r : Reaction) : Stages raw (react r) where
  staged hc s x t h := hc r s x t h

theorem seq {a : Act α} {f : α → Act β} (ha : Stages raw a) (hf : ∀ x, Stages raw (f x)) :
    Stages raw (a >>= f) where
  staged hc s y t h := by
    obtain ⟨x, u, hu, ht⟩ | ⟨e, he, -⟩ := bind_cases h
    · exact (ha.staged hc s _ u hu).trans ((hf x).staged hc u y t ht)
    · exact ha.staged hc s _ t he

instance bind (a : Act α) (f : α → Act β) [Stages raw a] [hf : ∀ x, Stages raw (f x)] :
    Stages raw (a >>= f) := seq inferInstance hf

instance attempt (a : Act Unit) [ha : Stages raw a] : Stages raw (attempt a) where
  staged hc s y t h := by
    obtain ⟨x, hx, -⟩ := attempt_cases h
    exact ha.staged hc s x t hx

instance outcome (a : Act α) [ha : Stages raw a] : Stages raw (outcome a) where
  staged hc s y t h := by
    obtain ⟨x, hx, -⟩ := outcome_cases h
    exact ha.staged hc s x t hx

instance discard (a : Act α) [Stages raw a] : Stages raw (discard a) :=
  inferInstanceAs (Stages raw (a >>= fun _ => Pure.pure ()))

instance ite (c : Prop) [Decidable c] (a b : Act α) [ha : Stages raw a] [hb : Stages raw b] :
    Stages raw (if c then a else b) := by
  split
  · exact ha
  · exact hb

instance forIn (l : List β) (u : α) (f : β → α → Act (ForInStep α))
    [hf : ∀ x u, Stages raw (f x u)] : Stages raw (ForIn.forIn l u f) := by
  induction l generalizing u with
  | nil => exact pure u
  | cons x l ih =>
      rw [List.forIn_cons]
      have hrest (step : ForInStep α) : Stages raw (match step with
          | .done v => Pure.pure v
          | .yield v => ForIn.forIn l v f) := by
        cases step with
        | done v => exact pure v
        | yield v => exact ih v
      exact bind _ _

/-- A change that goes on offstage. -/
theorem change {f : Session → Session} (h : ∀ s : Session, s.Offstage (f s)) :
    Stages raw (change f) where
  staged _ s y t hf := by
    cases hf
    exact (h s).staged

/-- A change that is one step on stage. -/
theorem step {f : Session → Session} (h : ∀ s : Session, StageStep raw s (f s)) :
    Stages raw (Act.change f) where
  staged _ s y t hf := by
    cases hf
    exact .single (h s)

theorem ending {a : Act α} {f : Session → Session} [ha : Stages raw a]
    (h : ∀ s : Session, s.Offstage (f s)) : Stages raw (a.ending f) where
  staged hc s x t hr := by
    obtain ⟨u, hu, rfl⟩ := ending_cases hr
    exact (ha.staged hc s x u hu).tail (.offstage (h u))

theorem emit {e : Event} (h : e.arranges = false) : Stages raw (emit e) :=
  change fun _ => .emitted h

end Stages
end ScreenBinding
