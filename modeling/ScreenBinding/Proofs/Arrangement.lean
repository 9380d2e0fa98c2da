import ScreenBinding.Proofs.OwnEvents
import ScreenBinding.Proofs.Withholding

/-!
# Surfaces stand alone

A surface is shown only right after all surfaces of its kind were hidden, so that at most one modal
and at most one interface are visible at any moment, whatever refresh hooks do in the middle of a
show, and however shows are nested in views and cut off by faults. The host can break this by
speaking to the renderer in words of its own; runs are therefore taken without such commands. They
are given up at the first one, be it in a script or the step of a task.

What is visible is replayed from the trace, whose latest event comes first.
-/
namespace ScreenBinding
open Act

namespace Act

/-- Commands in order, up to the first fault, or to the first that the host speaks to the
renderer. -/
def sparingly : List Command → Act Unit
  | [] => return ()
  | c::cs =>
      if c.bridges then giveUp
      else do
        discard (run c)
        sparingly cs

/-- Carries out reactions nested at most `n` deep, without such commands. -/
def sparing : Nat → React
  | 0, _ => fun _ => none
  | n+1, .script commands => sparingly commands (sparing n)
  | n+1, .hook commands => sparingly commands (sparing n)
  | n+1, r => reaction r (sparing n)

theorem stages_sparingly (commands : List Command) : Stages false (sparingly commands) := by
  induction commands with
  | nil => exact .pure ()
  | cons c cs ih =>
      cases hb : c.bridges with
      | true =>
          rw [sparingly, if_pos hb]
          exact ⟨fun _ s x t h => nomatch h⟩
      | false =>
          have hc : Stages false (run c) := stages_run (hb ▸ id)
          rw [sparingly, hb]
          exact inferInstanceAs (Stages false (do discard (run c); sparingly cs))

theorem onStage_sparing (n : Nat) : OnStage false (sparing n) := by
  induction n with
  | zero => exact fun r s x t h => nomatch h
  | succ n ih =>
      intro r s x t h
      cases r with
      | listener l key v source =>
          exact Stages.staged (a := hear l key v source) ih s x t h
      | handler y e => exact Stages.staged (a := handle y e) ih s x t h
      | script commands | hook commands => exact (stages_sparingly commands).staged ih s x t h

/-- The words of the host are withheld. -/
theorem sparing_eq : sparing = withholding Command.bridges := by
  have hscript (commands : List Command) :
      sparingly commands = runUnless Command.bridges commands := by
    induction commands with
    | nil => rfl
    | cons c cs ih => rw [sparingly, runUnless, ih]
  funext n
  induction n with
  | zero => rfl
  | succ n ih =>
      funext r
      cases r with
      | script commands | hook commands =>
          change sparingly commands (sparing n) = runUnless Command.bridges commands (withholding _ n)
          rw [hscript, ih]
      | listener l key v source => exact congrArg (hear l key v source) ih
      | handler h e => exact congrArg (handle h e) ih

end Act

theorem Interleaved.of_sparing {s₀ s : Session} {log : List Stretch}
    (h : Interleaved sparing s₀ s log) : Interleaved cascade s₀ s log :=
  (sparing_eq ▸ h).of_withholding

/-- Every surface was shown right after all surfaces of its kind were hidden. -/
def Arranged : List Event → Prop
  | [] => True
  | e::past => (∀ kind x label, e = .shown kind x label → ∃ older, past = .hidden kind::older) ∧
      Arranged past

/-- What an event does to the surfaces that are visible. -/
def Event.replay (kind : SurfaceKind) (e : Event) (visible : List ElementRef) : List ElementRef :=
  match kind, e with
  | .modal, .modalOpened x _ => x::visible
  | .interface, .interfaceShown x _ => x::visible
  | .modal, .modalsClosed => []
  | .interface, .interfacesHidden => []
  | _, _ => visible

/-- The surfaces of a kind that are visible after some events. -/
def visible (kind : SurfaceKind) (past : List Event) : List ElementRef :=
  past.foldr (Event.replay kind) []

section
variable {past : List Event} {kind : SurfaceKind} {e : Event}

theorem Event.replay_plain (h : e.arranges = false) (l : List ElementRef) :
    e.replay kind l = l := by
  cases kind <;> cases e <;> first | rfl | cases h

theorem visible_plain {new : List Event} (h : ∀ e ∈ new, e.arranges = false) :
    visible kind (new ++ past) = visible kind past := by
  induction new with
  | nil => rfl
  | cons e new ih =>
      obtain ⟨he, hnew⟩ := List.forall_mem_cons.mp h
      exact (Event.replay_plain he _).trans (ih hnew)

theorem Event.arranges_shown (kind : SurfaceKind) (x : ElementRef) (label : String) :
    (Event.shown kind x label).arranges = true := by
  cases kind <;> rfl

theorem Arranged.plain {new : List Event} (h : Arranged past)
    (hnew : ∀ e ∈ new, e.arranges = false) : Arranged (new ++ past) := by
  induction new with
  | nil => exact h
  | cons e new ih =>
      obtain ⟨he, hrest⟩ := List.forall_mem_cons.mp hnew
      refine ⟨fun kind x label hs => ?_, ih hrest⟩
      rw [hs, Event.arranges_shown] at he
      cases he

theorem Arranged.hid (h : Arranged past) (kind : SurfaceKind) : Arranged (.hidden kind::past) := by
  refine ⟨fun other x label hs => ?_, h⟩
  cases kind <;> cases other <;> cases hs

theorem Arranged.showed (h : Arranged past) (kind : SurfaceKind) (x : ElementRef)
    (label : String) : Arranged (.shown kind x label::.hidden kind::past) := by
  refine ⟨fun other y text hs => ⟨past, ?_⟩, h.hid kind⟩
  cases kind <;> cases other <;> cases hs <;> rfl

theorem Arranged.of_suffix {earlier : List Event} (h : Arranged past) (hs : earlier <:+ past) :
    Arranged earlier := by
  obtain ⟨new, rfl⟩ := hs
  induction new with
  | nil => exact h
  | cons e new ih => exact ih h.2

/-- At most one surface of a kind is visible. -/
theorem Arranged.visible_le (h : Arranged past) (kind : SurfaceKind) :
    (visible kind past).length ≤ 1 := by
  induction past with
  | nil => exact Nat.zero_le 1
  | cons e past ih =>
      have hpast := ih h.2
      cases e with
      | modalOpened x label =>
          obtain ⟨older, rfl⟩ := h.1 .modal x label rfl
          cases kind with
          | modal => exact Nat.le_refl 1
          | interface => exact hpast
      | interfaceShown x label =>
          obtain ⟨older, rfl⟩ := h.1 .interface x label rfl
          cases kind with
          | modal => exact hpast
          | interface => exact Nat.le_refl 1
      | modalsClosed => cases kind <;> first | exact Nat.zero_le 1 | exact hpast
      | interfacesHidden => cases kind <;> first | exact Nat.zero_le 1 | exact hpast
      | _ => cases kind <;> exact hpast

end

theorem StageStep.arranged {s t : Session} (h : StageStep false s t) (hs : Arranged s.trace) :
    Arranged t.trace := by
  cases h with
  | offstage h =>
      obtain ⟨new, hn, hp⟩ := h.trace
      rw [hn]
      exact hs.plain hp
  | hid kind => exact hs.hid kind
  | showed kind e label => exact hs.showed kind e label
  | opened e label hraw => cases hraw
  | drew => exact hs
  | put name =>
      rw [(Session.unseen_ask .modal name _).trace_eq]
      exact hs
  | vacated h =>
      rw [h.trace]
      exact hs

theorem Staged.arranged {s t : Session} (h : Staged false s t) (hs : Arranged s.trace) :
    Arranged t.trace := by
  induction h with
  | refl => exact hs
  | tail _ hstep ih => exact hstep.arranged ih

/-- A stretch keeps the order of hiding and showing. -/
theorem Stretch.arranged {x : Stretch} {n : Nat} (hx : x.Runs (sparing n))
    (hb : x.task.frame.bridges = false) (hs : Arranged x.before.trace) :
    Arranged x.after.trace := by
  have hrun : Staged false x.before x.stopped := hx.staged (onStage_sparing n) (hb ▸ id)
  obtain ⟨new, hnew, hplain⟩ := x.stopped.record_trace x.task x.result
  change Arranged (x.stopped.record x.task x.result).2.trace
  rw [hnew]
  exact (Staged.arranged hrun hs).plain fun e he => (hplain e he).1

theorem Interleaved.arranged {s₀ s : Session} {log : List Stretch}
    (h : Interleaved sparing s₀ s log) (hb : ∀ x ∈ log, x.task.frame.bridges = false)
    (h₀ : Arranged s₀.trace) : Arranged s.trace :=
  h.inv (I := fun s => Arranged s.trace) h₀ (fun x _ hx hs hr => x.arranged hr (hb x hx) hs)
    fun s t hs ht => by rw [ht]; exact hs

instance : AdmitsRefresh (·.arranges = false) :=
  ⟨fun {e} h => by cases e <;> first | rfl | cases h⟩

section
variable {carry : React} {s t : Session} {kind : SurfaceKind} {name : String} {args : Fields}
  {ticket : Option Ticket} {b : Except Fault Bool}

/-- A show that does not succeed goes as far as its refresh, and what is done after that leaves the
session alone. -/
theorem Act.show_stops (h : showSurface kind name args ticket carry s = some (b, t))
    (hb : b ≠ .ok true) : t = s ∨ ∃ x y, Table.find? (s.surfaces kind) name = some x ∧
      refresh kind name x args ticket carry s = some (y, t) := by
  rw [showSurface_eq] at h
  obtain ⟨x, u, hu, ht⟩ | ⟨f, hf, -⟩ := bind_cases h
  · obtain ⟨rfl, ⟨y, hy, hx⟩ | ⟨_, hf⟩⟩ := surface_cases hu
    · cases hy
      obtain ⟨shown, v, hv, hr⟩ | ⟨f, hf, -⟩ := bind_cases ht
      · have hv' : t = v := by
          cases shown with
          | false => cases hr; rfl
          | true =>
              rw [if_pos rfl] at hr
              obtain ⟨rfl, -, -⟩ | ⟨f, -, rfl⟩ := reveal_cases hr
              · exact (hb rfl).elim
              · rfl
        exact .inr ⟨x, _, hx, hv' ▸ hv⟩
      · exact .inr ⟨x, _, hx, hf⟩
    · cases hf
  · exact .inl (surface_cases hf).1

/-- What holds along the events of a refresh holds along a show that does not succeed. -/
theorem Act.show_respects {R : Session → Session → Prop}
    (hR : Respected (·.arranges = false) R) (hc : ∀ r s x t, carry r s = some (x, t) → R s t)
    (h : showSurface kind name args ticket carry s = some (b, t)) (hb : b ≠ .ok true) : R s t := by
  obtain rfl | ⟨x, y, -, hy⟩ := show_stops h hb
  · exact hR.refl t
  · exact (built_refresh kind name x args ticket).respects hR hc hy

/-- A refresh leaves what is visible as it is, or as its hook leaves it. -/
theorem Act.refresh_untouched {x : Surface} {y : Except Fault Bool}
    (h : refresh kind name x args ticket carry s = some (y, t)) :
    (∀ k, visible k t.trace = visible k s.trace) ∨
    ∃ prepare actions needs z, x.behavior = .hooks prepare (some actions) needs ∧
      carry (.script actions) (s.retrace (.refreshed name args::s.trace)) = some (z, t) := by
  have hputs (hp : Puts kind name ticket s y t) : ∀ k, visible k t.trace = visible k s.trace := by
    intro k
    obtain ⟨-, T, hT, rfl⟩ | ⟨-, hs⟩ := hp
    · obtain ⟨new, hnew, hplain⟩ := hT.trace
      rw [Session.trace_asked, show T = new ++ s.trace from hnew, visible_plain hplain]
    · obtain ⟨new, hnew, hplain⟩ := hs.trace
      rw [hnew, visible_plain hplain]
  cases hb : x.behavior with
  | confirm => exact .inl (hputs (puts_refresh (.inl hb) h))
  | alert => exact .inl (hputs (puts_refresh (.inr hb) h))
  | hooks prepare actions needs =>
      unfold refresh at h
      rw [hb] at h
      cases actions with
      | none =>
          cases h
          exact .inl fun _ => rfl
      | some actions =>
          dsimp only at h
          rw [run_bind_ok (run_emit _)] at h
          obtain ⟨_, u, hu, ht⟩ | ⟨f, hf, -⟩ := bind_cases h
          · cases ht
            exact .inr ⟨prepare, actions, needs, _, rfl, hu⟩
          · exact .inr ⟨prepare, actions, needs, _, rfl, hf⟩

/-- So does a show that does not succeed. -/
theorem Act.show_untouched (h : showSurface kind name args ticket carry s = some (b, t))
    (hb : b ≠ .ok true) : (∀ k, visible k t.trace = visible k s.trace) ∨
    ∃ x prepare actions needs z, Table.find? (s.surfaces kind) name = some x ∧
      x.behavior = .hooks prepare (some actions) needs ∧
      carry (.script actions) (s.retrace (.refreshed name args::s.trace)) = some (z, t) := by
  obtain rfl | ⟨x, y, hx, hy⟩ := show_stops h hb
  · exact .inl fun _ => rfl
  · obtain hv | ⟨prepare, actions, needs, z, hh, hz⟩ := refresh_untouched hy
    · exact .inl hv
    · exact .inr ⟨x, prepare, actions, needs, z, hx, hh, hz⟩

/-- Of the events that hide and show, a show that does not succeed records none itself. -/
theorem Act.show_own_plain {n : Nat}
    (h : (showSurface kind name args ticket).settle n s = some (b, t)) (hb : b ≠ .ok true) :
    ∀ e ∈ (showSurface kind name args ticket).own (cascade n) s, e.arranges = false := by
  have hrun := run_hush (built_showSurface kind name args ticket) h
  have hmute := (mute_hush (cascade n)).adds (·.arranges = false)
  obtain ⟨l, hl, hplain⟩ := show_respects (respected_adds _) hmute hrun hb
  have hown : (showSurface kind name args ticket).own (cascade n) s = l := by
    have hr : ((showSurface kind name args ticket).own (cascade n) s).reverse = l.reverse ++ [] :=
      hl
    rw [List.append_nil] at hr
    exact List.reverse_inj.mp hr
  rw [hown]
  exact hplain

end

/-- In every run without the host's own words every surface is shown right after its kind was
hidden, so that at every moment at most one modal and at most one interface are visible. A show that
does not succeed hides and shows nothing itself: what is visible stays, or is what the refresh hook
of the surface has left. -/
theorem surfaces_stand_alone {s₀ s : Session} {log : List Stretch}
    (h : Interleaved sparing s₀ s log) (hb : ∀ x ∈ log, x.task.frame.bridges = false)
    (h₀ : Arranged s₀.trace) :
    Arranged s.trace ∧
    (∀ past, past <:+ s.trace → ∀ kind, (visible kind past).length ≤ 1) ∧
    ∀ n kind name args ticket (u t : Session) b,
      (showSurface kind name args ticket).settle n u = some (b, t) → b ≠ .ok true →
      (∀ e ∈ (showSurface kind name args ticket).own (cascade n) u, e.arranges = false) ∧
      ((∀ k, visible k t.trace = visible k u.trace) ∨
        ∃ x prepare actions needs y, Table.find? (u.surfaces kind) name = some x ∧
          x.behavior = .hooks prepare (some actions) needs ∧
          cascade n (.script actions) (u.retrace (.refreshed name args::u.trace)) =
            some (y, t)) := by
  have hs := h.arranged hb h₀
  refine ⟨hs, fun past hp kind => (hs.of_suffix hp).visible_le kind, ?_⟩
  intro n kind name args ticket u t b hr hne
  exact ⟨show_own_plain hr hne, show_untouched hr hne⟩

/-- A hook shows another modal in the middle of a show, which then goes on. -/
theorem surfaces_stand_alone_nested : ∃ s₀ s log, Interleaved sparing s₀ s log ∧
    s.trace.length = 6 ∧ visible .modal s.trace = [1] ∧ Arranged s.trace := by
  let other : Surface := { element := 2, behavior := .hooks none none none }
  let hooked : Surface :=
    { element := 1, behavior := .hooks none (some [.surface (.show .modal "b" [])]) none }
  let s₀ : Session := { renderer := true, modals := [("a", hooked), ("b", other)] }
  let task : Task := ⟨0, .spawned "s", .begin (.now (.surface (.show .modal "a" [])))⟩
  let s₁ := s₀.retrace [.modalOpened 1 (s₀.element 1).label, .modalsClosed,
    .modalOpened 2 (s₀.element 2).label, .modalsClosed, .refreshed "a" []]
  let x : Stretch := ⟨task, true, s₀, .ok (.done (.value (.bool true))), s₁⟩
  have hshown : x.Runs (sparing 2) := rfl
  have hrun : Interleaved sparing s₀ x.after [x] := Interleaved.start.ran 2 hshown
  refine ⟨s₀, x.after, [x], hrun, rfl, rfl, (surfaces_stand_alone hrun (fun y hy => ?_) trivial).1⟩
  obtain rfl := List.mem_singleton.mp hy
  rfl

end ScreenBinding
