import ScreenBinding.Proofs.Writes

/-!
# What acts are built of

Every act of the engine looks at the session, changes it, records an event, writes a value, calls a
callback, or is a sequence of such acts. `Built P` is the closed family of these acts, with `P`
bounding the events that an act records itself, so without those of its callbacks.

A property that the few primitives have, all acts built of them have. Two are used throughout: a
preorder on sessions that every primitive respects holds between the session before and after an
act; and an act neither looks at the trace nor takes anything off it, so that its own events can be
told from those of its callbacks.
-/
namespace ScreenBinding
open Act

/-- The session with another trace. -/
def Session.retrace (s : Session) (trace : List Event) : Session := { s with trace }

/-- A change that is no write, no reload and no event, by which no listener is lost, and which
leaves the settings. -/
structure Unseen (f : Session → Session) : Prop where
  trace : ∀ s T, f (s.retrace T) = (f s).retrace T
  settings : ∀ s, (f s).settings = s.settings
  values : ∀ s, (f s).values = s.values
  reloads : ∀ s, (f s).reloads = s.reloads
  listeners : ∀ s, s.listeners <+: (f s).listeners

/-- A change of other parts of the session. -/
theorem Unseen.apart {f : Session → Session} (h : ∀ s T, f (s.retrace T) =
    { f s with trace := T, settings := s.settings, values := s.values, reloads := s.reloads,
               listeners := s.listeners }) : Unseen f := by
  have hs (s : Session) : f s = { f s with
      trace := s.trace, settings := s.settings, values := s.values, reloads := s.reloads,
      listeners := s.listeners } :=
    h s s.trace
  refine ⟨fun s T => ?_, fun s => ?_, fun s => ?_, fun s => ?_, fun s => ?_⟩
  · rw [h s T, hs s]
    rfl
  · rw [hs s]
  · rw [hs s]
  · rw [hs s]
  · have hl : (f s).listeners = s.listeners := by rw [hs s]
    exact hl ▸ List.prefix_rfl

/-- An unseen change adds nothing to the trace. -/
theorem Unseen.trace_eq {f : Session → Session} (h : Unseen f) (s : Session) :
    (f s).trace = s.trace := by
  have hs : f s = (f s).retrace s.trace := h.trace s s.trace
  rw [hs]
  rfl

theorem Unseen.writes_eq {f : Session → Session} (h : Unseen f) (s : Session) :
    (f s).writes = s.writes :=
  congrArg (·.reverse.filterMap Event.write?) (h.trace_eq s)

theorem Unseen.comp {f g : Session → Session} (hf : Unseen f) (hg : Unseen g) :
    Unseen fun s => g (f s) where
  trace s T := by rw [hf.trace, hg.trace]
  settings s := (hg.settings _).trans (hf.settings s)
  values s := (hg.values _).trans (hf.values s)
  reloads s := (hg.reloads _).trans (hf.reloads s)
  listeners s := (hf.listeners s).trans (hg.listeners _)

/-- Acts built of the primitives; the events that they record themselves satisfy `P`. -/
inductive Built (P : Event → Prop) : {α : Type} → Act α → Prop
  | pure {α : Type} (x : α) : Built P (Pure.pure x : Act α)
  | throw {α : Type} (f : Fault) : Built P (throw f : Act α)
  | gets {α : Type} {f : Session → α} : (∀ s T, f (s.retrace T) = f s) → Built P (Act.gets f)
  | change {f : Session → Session} : Unseen f → Built P (Act.change f)
  | emit {e : Event} : P e → e.write? = none → Built P (Act.emit e)
  | write {key : String} {v : Json} {source : Option Source} : P (.stored key v source) →
      Built P (Act.write key v source)
  | react (r : Reaction) : Built P (Act.react r)
  | bind {α β : Type} {a : Act α} {f : α → Act β} : Built P a → (∀ x, Built P (f x)) →
      Built P (a >>= f)
  | attempt {a : Act Unit} : Built P a → Built P (Act.attempt a)
  | outcome {α : Type} {a : Act α} : Built P a → Built P (Act.outcome a)
  | ending {α : Type} {a : Act α} {f : Session → Session} : Built P a → Unseen f →
      Built P (a.ending f)

/-- A preorder that holds along every primitive. -/
structure Respected (P : Event → Prop) (R : Session → Session → Prop) : Prop where
  refl : ∀ s, R s s
  trans : ∀ {s t u}, R s t → R t u → R s u
  unseen : ∀ {f}, Unseen f → ∀ s, R s (f s)
  emitted : ∀ {e}, P e → e.write? = none → ∀ s, R s { s with trace := e::s.trace }
  stored : ∀ {key v source}, P (.stored key v source) → ∀ s,
    R s { s with values := Table.put s.values key v, trace := .stored key v source::s.trace }

section
variable {P : Event → Prop} {R : Session → Session → Prop} {carry : React} {s t : Session}

theorem Respected.calls (hR : Respected P R)
    (hc : ∀ r s x t, carry r s = some (x, t) → R s t) {l : List Listener} {key : String} {v : Json}
    {source : Option Source} {x : Except Fault Unit}
    (ha : (do for y in l do react (.listener y key v source)) carry s = some (x, t)) : R s t := by
  induction l generalizing s with
  | nil =>
      rw [forEach_nil] at ha
      cases ha
      exact hR.refl _
  | cons y l ih =>
      rw [forEach_cons] at ha
      obtain ⟨_, u, hu, ht⟩ | ⟨e, he, -⟩ := bind_cases ha
      · exact hR.trans (hc _ s _ u hu) (ih ht)
      · exact hc _ s _ t he

/-- A write stores and then calls, however far it gets. -/
theorem Respected.write (hR : Respected P R)
    (hc : ∀ r s x t, carry r s = some (x, t) → R s t) {key : String} {v : Json}
    {source : Option Source} (he : P (.stored key v source)) {x : Except Fault (Option Json)}
    (ha : Act.write key v source carry s = some (x, t)) : R s t := by
  rw [Act.write, run_bind_ok (run_gets _), run_bind_ok (run_store key v source)] at ha
  refine hR.trans (hR.stored he s) ?_
  obtain ⟨_, u, hu, ht⟩ | ⟨e, he, -⟩ := bind_cases ha
  · cases ht
    rw [notify, run_bind_ok (run_gets _)] at hu
    exact hR.calls hc hu
  · rw [notify, run_bind_ok (run_gets _)] at he
    exact hR.calls hc he

end

/-- What holds along the primitives and along the callbacks holds along an act. -/
theorem Built.respects {P : Event → Prop} {R : Session → Session → Prop} {α : Type} {a : Act α}
    {carry : React} (h : Built P a) (hR : Respected P R)
    (hc : ∀ r s x t, carry r s = some (x, t) → R s t) {s t : Session} {x : Except Fault α}
    (ha : a carry s = some (x, t)) : R s t := by
  induction h generalizing s t with
  | pure x => cases ha; exact hR.refl s
  | throw f => cases ha; exact hR.refl s
  | gets _ => cases ha; exact hR.refl s
  | change hf => cases ha; exact hR.unseen hf s
  | emit he hw => cases ha; exact hR.emitted he hw s
  | write he => exact hR.write hc he ha
  | react r => exact hc r s x t ha
  | bind _ _ iha ihf =>
      obtain ⟨y, u, hu, ht⟩ | ⟨e, he, -⟩ := bind_cases ha
      · exact hR.trans (iha hu) (ihf y ht)
      · exact iha he
  | attempt _ ih =>
      obtain ⟨y, hy, -⟩ := attempt_cases ha
      exact ih hy
  | outcome _ ih =>
      obtain ⟨y, hy, -⟩ := outcome_cases ha
      exact ih hy
  | ending _ hf ih =>
      obtain ⟨u, hu, rfl⟩ := ending_cases ha
      exact hR.trans (ih hu) (hR.unseen hf u)

/-- Whenever the first run ends, the second ends likewise from the same session with any other
trace; the second then adds only events in `P`. -/
def Mirrors {α : Type} (P : Event → Prop) (a b : Session → Option (Except Fault α × Session)) :
    Prop :=
  ∀ s x t, a s = some (x, t) → ∃ new : List Event, (∀ e ∈ new, P e) ∧
    ∀ T, b (s.retrace T) = some (x, t.retrace (new ++ T))

section
variable {α β : Type} {P : Event → Prop} {carry carry' : React}

theorem Mirrors.pure (x : α) :
    Mirrors P ((Pure.pure x : Act α) carry) ((Pure.pure x : Act α) carry') := by
  intro s y t ha
  cases ha
  exact ⟨[], List.forall_mem_nil _, fun T => rfl⟩

theorem Mirrors.gets {f : Session → α} (hf : ∀ s T, f (s.retrace T) = f s) :
    Mirrors P (Act.gets f carry) (Act.gets f carry') := by
  intro s y t ha
  cases ha
  exact ⟨[], List.forall_mem_nil _, fun T => by rw [run_gets, hf]; rfl⟩

theorem Mirrors.bind {a : Act α} {f : α → Act β} (ha : Mirrors P (a carry) (a carry'))
    (hf : ∀ x, Mirrors P (f x carry) (f x carry')) :
    Mirrors P ((a >>= f) carry) ((a >>= f) carry') := by
  intro s y t h
  obtain ⟨z, u, hu, ht⟩ | ⟨e, he, rfl⟩ := bind_cases h
  · obtain ⟨new, hn, hnew⟩ := ha s _ u hu
    obtain ⟨more, hm, hmore⟩ := hf z u y t ht
    refine ⟨more ++ new, ?_, fun T => ?_⟩
    · intro e he
      exact (List.mem_append.mp he).elim (hm e) (hn e)
    · rw [run_bind_ok (hnew T), hmore, List.append_assoc]
  · obtain ⟨new, hn, hnew⟩ := ha s _ t he
    exact ⟨new, hn, fun T => run_bind_error (hnew T)⟩

theorem Mirrors.calls (hc : ∀ r, Mirrors P (carry r) (carry' r)) (l : List Listener) (key : String)
    (v : Json) (source : Option Source) :
    Mirrors P ((do for y in l do react (.listener y key v source)) carry)
      ((do for y in l do react (.listener y key v source)) carry') := by
  induction l with
  | nil =>
      rw [forEach_nil]
      exact .pure _
  | cons y l ih =>
      rw [forEach_cons]
      exact .bind (hc _) fun _ => ih

theorem Mirrors.store {key : String} {v : Json} {source : Option Source}
    (he : P (.stored key v source)) :
    Mirrors P (Act.store key v source carry) (Act.store key v source carry') := by
  intro s y t ha
  cases ha
  exact ⟨[.stored key v source], by simpa using he, fun T => rfl⟩

end

/-- An act takes no notice of the trace. -/
theorem Built.mirrors {P : Event → Prop} {α : Type} {a : Act α} {carry carry' : React}
    (h : Built P a) (hc : ∀ r, Mirrors P (carry r) (carry' r)) :
    Mirrors P (a carry) (a carry') := by
  induction h with
  | pure x => exact .pure x
  | throw f => intro s y t ha; cases ha; exact ⟨[], List.forall_mem_nil _, fun T => rfl⟩
  | gets hf => exact .gets hf
  | change hf =>
      intro s y t ha
      cases ha
      exact ⟨[], List.forall_mem_nil _, fun T => by rw [run_change, hf.trace]; rfl⟩
  | @emit e he hw =>
      intro s y t ha
      cases ha
      exact ⟨[e], by simpa using he, fun T => rfl⟩
  | write he =>
      exact .bind (.gets fun _ _ => rfl) fun _ => .bind (.store he) fun _ =>
        .bind (.bind (.gets fun _ _ => rfl) fun l => .calls hc l _ _ _) fun _ => .pure _
  | react r => exact hc r
  | bind _ _ iha ihf => exact .bind iha ihf
  | attempt _ ih =>
      intro s y t ha
      obtain ⟨z, hz, rfl⟩ := attempt_cases ha
      obtain ⟨new, hn, hnew⟩ := ih s z t hz
      exact ⟨new, hn, fun T => by rw [run_attempt, hnew]; rfl⟩
  | outcome _ ih =>
      intro s y t ha
      obtain ⟨z, hz, rfl⟩ := outcome_cases ha
      obtain ⟨new, hn, hnew⟩ := ih s z t hz
      exact ⟨new, hn, fun T => by rw [run_outcome, hnew]; rfl⟩
  | ending _ hf ih =>
      intro s y t ha
      obtain ⟨u, hu, rfl⟩ := ending_cases ha
      obtain ⟨new, hn, hnew⟩ := ih s y u hu
      exact ⟨new, hn, fun T => by rw [run_ending, hnew, Option.map_some, hf.trace]⟩

end ScreenBinding
