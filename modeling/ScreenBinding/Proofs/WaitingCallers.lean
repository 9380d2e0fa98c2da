import ScreenBinding.Proofs.Arrangement
import Mathlib.Data.List.Nodup

/-!
# Callers who wait for an answer

Whoever confirms or alerts waits with a ticket. In every run the ticket stands in front of a modal
as long as its caller waits, and that modal had opened alone when the caller began to wait. Tickets
are drawn from a counter, so that none in use is drawn again.

That the modal stays open is not kept up. A later question to the same modal drops the earlier one,
whose caller then gets no for an answer; but hiding the modals, showing another one or responding to
another one leaves the question where it stands, and its caller waits behind a closed modal. So the
modal is open as long as no modals were closed since.
-/
namespace ScreenBinding
open Act

namespace Session

/-- A question stands in front of a modal that shows an element. -/
def Stands (s : Session) (name : String) (e : ElementRef) (k : Ticket) : Prop :=
  ∃ x, Table.find? s.modals name = some x ∧ x.pending = some k ∧ x.element = e

/-- The tickets in use are behind the counter. -/
structure Drawn (s : Session) : Prop where
  awaiting : ∀ p ∈ s.awaiting, p.1 < s.nextTicket
  pending : ∀ name k, s.pendingOn name = some k → k < s.nextTicket

/-- Tickets come from the counter, and nobody begins to wait. -/
structure Draws (s t : Session) : Prop where
  nextTicket : s.nextTicket ≤ t.nextTicket
  awaiting : t.awaiting.Sublist s.awaiting
  pending : ∀ name k, t.pendingOn name = some k →
    s.pendingOn name = some k ∨ s.nextTicket ≤ k ∧ k < t.nextTicket

variable {s t u : Session} {name : String} {e : ElementRef} {k : Ticket}

theorem Stands.pendingOn (h : s.Stands name e k) : s.pendingOn name = some k := by
  obtain ⟨x, hx, hk, -⟩ := h
  rw [Session.pendingOn, hx]
  exact hk

theorem Stands.of_find (h : s.Stands name e k)
    (ht : Table.find? t.modals name = Table.find? s.modals name) : t.Stands name e k := by
  obtain ⟨x, hx, hk, he⟩ := h
  exact ⟨x, ht.trans hx, hk, he⟩

theorem Draws.refl (s : Session) : s.Draws s :=
  ⟨Nat.le_refl _, List.Sublist.refl _, fun _ _ h => .inl h⟩

theorem Draws.trans (h : s.Draws t) (k : t.Draws u) : s.Draws u where
  nextTicket := Nat.le_trans h.nextTicket k.nextTicket
  awaiting := k.awaiting.trans h.awaiting
  pending name j hj := by
    rcases k.pending name j hj with ht | ⟨hge, hlt⟩
    · rcases h.pending name j ht with hs | ⟨hge, hlt⟩
      · exact .inl hs
      · exact .inr ⟨hge, Nat.lt_of_lt_of_le hlt k.nextTicket⟩
    · exact .inr ⟨Nat.le_trans h.nextTicket hge, hlt⟩

theorem Drawn.draws (h : s.Drawn) (hd : s.Draws t) : t.Drawn where
  awaiting p hp := Nat.lt_of_lt_of_le (h.awaiting p (hd.awaiting.subset hp)) hd.nextTicket
  pending name j hj := by
    rcases hd.pending name j hj with hs | ⟨-, hlt⟩
    · exact Nat.lt_of_lt_of_le (h.pending name j hs) hd.nextTicket
    · exact hlt

@[simp] theorem drop_modals (s : Session) (old : Option Ticket) :
    (s.drop old).modals = s.modals := (Offstage.dropped s old).modals

@[simp] theorem drop_nextTicket (s : Session) (old : Option Ticket) :
    (s.drop old).nextTicket = s.nextTicket := (Offstage.dropped s old).nextTicket

theorem drop_awaiting (s : Session) (old : Option Ticket) :
    (s.drop old).awaiting.Sublist s.awaiting := (Offstage.dropped s old).awaiting

theorem find?_ask {x : Surface} (h : Table.find? s.modals name = some x)
    (ticket : Option Ticket) : Table.find? (s.ask .modal name ticket).modals name =
      some { x with pending := ticket } := by
  rw [ask_eq, drop_modals]
  exact find?_place h ticket

/-- The next ticket is drawn and put in front of a modal. -/
def putNext (s : Session) (name : String) : Session :=
  s.freshTicket.ask .modal name (some s.nextTicket)

theorem find?_putNext (s : Session) {name other : String} (h : other ≠ name) :
    Table.find? (s.putNext name).modals other = Table.find? s.modals other := by
  rw [putNext, ask_eq, drop_modals]
  exact Table.find?_adjust_of_ne _ _ h

theorem putNext_dropped (h : s.pendingOn name = some k) :
    ∀ p ∈ (s.putNext name).awaiting, p.1 ≠ k := by
  have hp : s.freshTicket.pendingOn name = some k := h
  rw [putNext, ask_eq, hp]
  exact resolve_dropped _ k false

theorem draws_putNext (s : Session) (name : String) : s.Draws (s.putNext name) := by
  have hnext : (s.putNext name).nextTicket = s.nextTicket+1 := by
    rw [putNext, ask_eq, drop_nextTicket]
    rfl
  refine ⟨hnext ▸ Nat.le_succ _, ?_, fun other j hj => ?_⟩
  · rw [putNext, ask_eq]
    exact drop_awaiting _ _
  · by_cases ho : other = name
    · subst ho
      right
      rw [putNext, ask_eq, pendingOn_drop, Session.pendingOn] at hj
      obtain ⟨x, hx, hk⟩ := Option.bind_eq_some_iff.mp hj
      have hadjust := (Table.find?_adjust (fun x : Surface => { x with pending := s.nextTicket })
        s.modals other).symm.trans hx
      obtain ⟨y, -, rfl⟩ := Option.map_eq_some_iff.mp hadjust
      cases hk
      exact ⟨Nat.le_refl _, hnext ▸ Nat.lt_succ_self _⟩
    · left
      rw [Session.pendingOn, find?_putNext s ho] at hj
      exact hj

end Session

section
variable {raw : Bool} {s t : Session} {name : String} {e : ElementRef} {k : Ticket}
open Session (Draws Drawn Stands)

theorem StageStep.draws (h : StageStep raw s t) : s.Draws t := by
  cases h with
  | offstage h =>
      refine ⟨Nat.le_of_eq h.nextTicket.symm, h.awaiting, fun name k hk => .inl ?_⟩
      rw [Session.pendingOn, h.modals] at hk
      exact hk
  | hid kind => exact ⟨Nat.le_refl _, List.Sublist.refl _, fun _ _ hk => .inl hk⟩
  | showed kind e label => exact ⟨Nat.le_refl _, List.Sublist.refl _, fun _ _ hk => .inl hk⟩
  | opened e label _ => exact ⟨Nat.le_refl _, List.Sublist.refl _, fun _ _ hk => .inl hk⟩
  | drew => exact ⟨Nat.le_succ _, List.Sublist.refl _, fun _ _ hk => .inl hk⟩
  | put name => exact s.draws_putNext name
  | @vacated name _ h =>
      refine ⟨Nat.le_of_eq h.nextTicket.symm, h.awaiting, fun other k hk => .inl ?_⟩
      by_cases ho : other = name
      · rw [ho, h.empty] at hk
        cases hk
      · rw [Session.pendingOn, h.others other ho] at hk
        exact hk

theorem Staged.draws (h : Staged raw s t) : s.Draws t := by
  induction h with
  | refl => exact .refl s
  | tail _ hstep ih => exact ih.trans hstep.draws

/-- As long as somebody waits for its answer, a question stands where it stood. -/
theorem StageStep.stands (h : StageStep raw s t) (hs : s.Stands name e k)
    (hk : k ∈ t.awaiting.map Prod.fst) : t.Stands name e k := by
  obtain ⟨p, hp, rfl⟩ := List.mem_map.mp hk
  cases h with
  | offstage h => exact hs.of_find (by rw [h.modals])
  | hid kind => exact hs
  | showed kind e label => exact hs
  | opened e label _ => exact hs
  | drew => exact hs
  | put other =>
      by_cases ho : name = other
      · subst ho
        exact (Session.putNext_dropped hs.pendingOn p hp rfl).elim
      · exact hs.of_find (s.find?_putNext ho)
  | @vacated other _ h =>
      by_cases ho : name = other
      · subst ho
        exact (h.dropped _ hs.pendingOn p hp rfl).elim
      · exact hs.of_find (h.others name ho)

theorem Staged.stands (h : Staged raw s t) (hs : s.Stands name e k)
    (hk : k ∈ t.awaiting.map Prod.fst) : t.Stands name e k := by
  induction h with
  | refl => exact hs
  | tail _ hstep ih =>
      have hbefore := (hstep.draws.awaiting.map Prod.fst).subset hk
      exact hstep.stands (ih hbefore) hk

end

namespace Session

/-- A question stands in front of a modal that has just opened alone. -/
def Facing (s : Session) (k : Ticket) : Prop := ∃ name e label older, s.Stands name e k ∧
  s.trace = .modalOpened e label::.modalsClosed::older

theorem resolve_answers {s : Session} {k : Ticket} (h : ∀ p ∈ s.awaiting, p.1 ≠ k) (b : Bool) :
    (s.resolve k b).answers.any (·.1 = k) = true := by
  have hnone : s.awaiting.find? (·.1 = k) = none :=
    List.find?_eq_none.mpr fun p hp => by simpa using h p hp
  rw [resolve, hnone]
  simp

end Session

namespace Act
variable {carry : React} {s t : Session} {name : String} {args : Fields} {k : Ticket}
open Session (Drawn Facing)

/-- A question that is not answered at once stands in front of its modal, which has just opened. -/
theorem question_facing (hc : OnStage true carry) (hd : s.Drawn)
    (h : question name args carry s = some (.ok k, t)) (hw : t.answers.any (·.1 = k) = false) :
    k = s.nextTicket ∧ t.Facing k := by
  obtain ⟨b, u, hu, hr, ht⟩ := question_cases h
  obtain ⟨f, rfl⟩ | ⟨y, rfl⟩ : (∃ f, b = .error f) ∨ ∃ y, b = .ok y := by
    cases b <;> simp
  · cases hr
  cases hr
  refine ⟨rfl, ?_⟩
  have hshow := show_question_cases hc hu
  have hsu : Staged true s u := by
    rcases hshow with hasks | hs
    · exact hasks.staged
    · exact .head .drew hs
  -- nobody waits for a fresh ticket, so resolving it would have answered it
  have hfresh : ∀ p ∈ u.awaiting, p.1 ≠ s.nextTicket := fun p hp =>
    Nat.ne_of_lt (hd.awaiting p (hsu.draws.awaiting.subset hp))
  obtain ⟨rfl, hstands⟩ | rfl := ht
  · rcases hshow with hasks | hs
    · obtain ⟨x, T, hx, -, ⟨⟨f, hf⟩, -⟩ | ⟨-, label, rfl⟩⟩ := hasks.put
      · cases hf
      · have hx' : Table.find? (s.freshTicket.retrace T).modals name = some x := hx
        have hfind := Session.find?_ask hx' (some s.nextTicket)
        exact ⟨name, x.element, label, T, ⟨_, hfind, rfl, rfl⟩, rfl⟩
    · rcases hstands ⟨y, rfl⟩ with hp | ha
      · rcases hs.draws.pending name _ hp with hbefore | ⟨hge, -⟩
        · exact (Nat.lt_irrefl _ (hd.pending name _ hbefore)).elim
        · exact (Nat.not_succ_le_self _ hge).elim
      · rw [ha] at hw
        cases hw
  · rw [Session.resolve_answers hfresh] at hw
    cases hw

theorem awaitAnswer_cases {frame next : Frame} {go : Bool → Act Progress} {j : Ticket}
    (h : awaitAnswer k frame go carry s = some (.ok (.await j next), t)) :
    (j = k ∧ t = s ∧ s.answers.any (·.1 = k) = false) ∨ ∃ b,
      go b carry { s with answers := s.answers.filter (·.1 ≠ k) } =
        some (.ok (.await j next), t) := by
  rw [awaitAnswer, run_bind_ok (run_gets _)] at h
  cases hf : s.answers.find? (·.1 = k) with
  | none =>
      rw [hf] at h
      cases h
      have hnone := List.find?_eq_none.mp hf
      exact .inl ⟨rfl, rfl, List.any_eq_false.mpr hnone⟩
  | some p =>
      obtain ⟨_, b⟩ := p
      rw [hf] at h
      exact .inr ⟨b, h⟩

/-- An act begins to wait for an answer only with its question in front of a modal that it has just
opened, and with a fresh ticket. -/
class Faces (a : Act Progress) : Prop where
  faces : ∀ {carry : React}, OnStage true carry → ∀ s k next t, s.Drawn →
    a carry s = some (.ok (.await k next), t) → s.nextTicket ≤ k ∧ t.Facing k

namespace Faces
variable {α : Type}

instance done (a : Answer) : Faces (pure (.done a)) := ⟨fun _ _ _ _ _ _ h => nomatch h⟩

instance sleep (ms : Nat) (frame : Frame) : Faces (pure (.sleep ms frame)) :=
  ⟨fun _ _ _ _ _ _ h => nomatch h⟩

theorem seq {a : Act α} {f : α → Act Progress} (ha : Stages true a) (hf : ∀ x, Faces (f x)) :
    Faces (a >>= f) where
  faces hc s k next t hd h := by
    obtain ⟨x, u, hu, ht⟩ | ⟨e, -, he⟩ := bind_cases h
    · have hdraws := (ha.staged hc s _ u hu).draws
      obtain ⟨hk, hface⟩ := (hf x).faces hc u k next t (hd.draws hdraws) ht
      exact ⟨Nat.le_trans hdraws.nextTicket hk, hface⟩
    · cases he

instance bind (a : Act α) (f : α → Act Progress) [Stages true a] [hf : ∀ x, Faces (f x)] :
    Faces (a >>= f) := seq inferInstance hf

instance ite (c : Prop) [Decidable c] (a b : Act Progress) [ha : Faces a] [hb : Faces b] :
    Faces (if c then a else b) := by
  split
  · exact ha
  · exact hb

instance after (ms : Nat) (frame : Frame) (go : Act Progress) [Faces go] :
    Faces (after ms frame go) := by unfold Act.after; infer_instance

/-- Who has asked waits, or goes on with the answer that is already there. -/
theorem asked {ask : Act Ticket} (hask : ask = question name args) (frame : Frame)
    (go : Bool → Act Progress) [hgo : ∀ b, Faces (go b)] {carry : React} (hc : OnStage true carry)
    {next : Frame} (hd : s.Drawn) {u : Session} {j : Ticket}
    (hu : ask carry s = some (.ok j, u))
    (h : awaitAnswer j frame go carry u = some (.ok (.await k next), t)) :
    s.nextTicket ≤ k ∧ t.Facing k := by
  subst hask
  obtain ⟨rfl, rfl, hw⟩ | ⟨b, hb⟩ := awaitAnswer_cases h
  · obtain ⟨rfl, hface⟩ := question_facing hc hd hu hw
    exact ⟨Nat.le_refl _, hface⟩
  · have hdraws := (Stages.staged (a := question name args) hc s _ u hu).draws
    have hu' := hd.draws hdraws
    have htaken : Drawn { u with answers := u.answers.filter (·.1 ≠ j) } :=
      ⟨hu'.awaiting, hu'.pending⟩
    obtain ⟨hk, hface⟩ := (hgo b).faces hc _ k next t htaken hb
    exact ⟨Nat.le_trans hdraws.nextTicket hk, hface⟩

end Faces

instance (c : Call) (reply : Pending) : Faces (do
    return .done (← finishCall c (.ok (← receive reply)))) := inferInstance

instance (method : String) (data : Json) (options : RemoteOptions) (next : AfterCall) :
    Faces (call method data options next) := by
  refine .seq (stages_lock options rfl) fun _ => .seq inferInstance fun x => ?_
  split <;> infer_instance

instance (next : AfterReload) : Faces (reload next) :=
  .seq (.change fun _ => .apart rfl) fun _ => inferInstance

instance (name : String) (remote : Bool) : Faces (setMode name remote) := by
  unfold setMode; infer_instance

instance (view : String) (seed : Seed) (options : StartOptions) :
    Faces (start view seed options) := by
  have hwarn : Stages true (change fun s => { s with warns := true }) :=
    .change fun _ => .apart rfl
  unfold start
  cases seed <;> dsimp only <;> infer_instance

instance (b : BoundForm) (data : Fields) : Faces (sendForm b data) := by
  unfold sendForm
  split <;> infer_instance

instance (b : BoundForm) (data : Fields) (accepted : Bool) : Faces (decided b data accepted) :=
  .seq (.emit rfl) fun _ => inferInstance

instance (b : BoundForm) (data : Fields) (hook : Inject Command) : Faces (inject b data hook) := by
  refine .seq inferInstance fun _ => ?_
  split
  · infer_instance
  · refine .seq inferInstance fun values => ⟨fun hc s k next t hd h => ?_⟩
    obtain ⟨x, u, hu, ht⟩ | ⟨f, -, he⟩ := bind_cases h
    · obtain ⟨y, hy, hx⟩ := outcome_cases hu
      cases hx
      cases x with
      | ok j => exact Faces.asked rfl (.deciding b data) (decided b data) hc hd hy ht
      | error f =>
          have hdraws := (Stages.staged hc s _ u hy).draws
          obtain ⟨hk, hface⟩ := Faces.faces hc u k next t (hd.draws hdraws) ht
          exact ⟨Nat.le_trans hdraws.nextTicket hk, hface⟩
    · cases he

instance (b : BoundForm) (data : Fields) (invalid : List String) :
    Faces (judged b data invalid) := by
  change Faces (if _ then _ else _)
  split
  · infer_instance
  · refine .seq inferInstance fun _ => ?_
    split
    · exact .seq (.emit rfl) fun _ => inferInstance
    · infer_instance

instance (b : BoundForm) : Faces (submit b) := by unfold submit; infer_instance

instance (n ms : Nat) (frame : Frame) : Faces (onward n ms frame) := by
  induction n generalizing ms frame with
  | zero => exact inferInstanceAs (Faces (pure (.sleep ms frame) : Act Progress))
  | succ n ih =>
      unfold onward
      have hgo (x : Sum Answer Subscription) : Faces (match x with
          | .inl a => pure (.done a)
          | .inr sub => onward n sub.interval (.resting sub) : Act Progress) := by
        cases x <;> infer_instance
      cases frame <;> infer_instance

instance (frame : Frame) : Faces (proceed frame) := by unfold proceed; infer_instance

instance (sub : Subscription) : Faces (ask sub) := by
  unfold ask
  split <;> infer_instance

instance (sub : Subscription) (p : Pending) : Faces (arrive sub p) := by
  unfold arrive; infer_instance

theorem faces_question (name : String) (args : Fields) (frame : Frame) (go : Bool → Act Progress)
    [∀ b, Faces (go b)] : Faces (do awaitAnswer (← question name args) frame go) where
  faces hc s k next t hd h := by
    obtain ⟨j, u, hu, ht⟩ | ⟨f, -, he⟩ := bind_cases h
    · exact Faces.asked rfl frame go hc hd hu ht
    · cases he

instance (step : Step) : Faces (begin step) := by
  cases step with
  | now c =>
      have hrun : Stages true (run c) := stages_run fun _ => rfl
      unfold begin; infer_instance
  | spawn id step => exact .seq (.change fun _ => .apart rfl) fun _ => inferInstance
  | confirm name previous next => exact faces_question name _ .confirming _
  | alert name title message => exact faces_question name _ .alerting _
  | socket method url data interval take =>
      change Faces (if _ then _ else _)
      infer_instance
  | _ => unfold begin; infer_instance

instance (frame : Frame) (answer : Bool) : Faces (resume frame answer) := by
  cases frame with
  | begin step => exact inferInstanceAs (Faces (begin step))
  | _ => unfold resume; infer_instance

end Act

/-- A caller waits since the end of a stretch, when its question stood in front of a modal that had
just opened alone. The question still stands there. -/
def AskedSince (s : Session) (log : List Stretch) (p : Ticket × Task) : Prop :=
  ∃ y ∈ log, ∃ name e label older newer, y.result = .ok (.await p.1 p.2.frame) ∧
    s.Stands name e p.1 ∧ y.after.trace = .modalOpened e label::.modalsClosed::older ∧
    s.trace = newer ++ y.after.trace

/-- Everybody who waits has asked, each with a ticket of its own. -/
structure Attended (s : Session) (log : List Stretch) : Prop where
  drawn : s.Drawn
  nodup : (s.awaiting.map Prod.fst).Nodup
  asked : ∀ p ∈ s.awaiting, AskedSince s log p

section
variable {s t : Session} {log : List Stretch}

/-- Where a task is put nothing changes on stage, but that it may begin to wait. -/
theorem Session.record_stage (s : Session) (task : Task) (x : Except Fault Progress) :
    (s.record task x).2.modals = s.modals ∧ (s.record task x).2.nextTicket = s.nextTicket ∧
      ((s.record task x).2.awaiting = s.awaiting ∨ ∃ k next, x = .ok (.await k next) ∧
        (s.record task x).2.awaiting = s.awaiting ++ [(k, { task with frame := next })] ∧
        (s.record task x).2.trace = s.trace) := by
  have hfinish (r : Result) : (s.finish task.role r).modals = s.modals ∧
      (s.finish task.role r).nextTicket = s.nextTicket ∧
      (s.finish task.role r).awaiting = s.awaiting := by
    unfold finish
    split <;> exact ⟨rfl, rfl, rfl⟩
  rcases x with f | (a | ⟨ms, next⟩ | ⟨k, next⟩)
  · obtain ⟨hm, hn, ha⟩ := hfinish (.error f)
    exact ⟨hm, hn, .inl ha⟩
  · obtain ⟨hm, hn, ha⟩ := hfinish (.ok a)
    exact ⟨hm, hn, .inl ha⟩
  · simp only [record, suspend]
    split <;> exact ⟨rfl, rfl, .inl rfl⟩
  · simp only [record, suspend]
    split
    · exact ⟨rfl, rfl, .inl rfl⟩
    · exact ⟨rfl, rfl, .inr ⟨k, next, rfl, rfl, rfl⟩⟩

theorem AskedSince.staged {raw : Bool} {p : Ticket × Task} (h : AskedSince s log p)
    (hst : Staged raw s t) (hp : p ∈ t.awaiting) : AskedSince t log p := by
  obtain ⟨y, hy, name, e, label, older, newer, hr, hs, hopen, htrace⟩ := h
  obtain ⟨more, hmore⟩ := hst.trace
  have hstands := hst.stands hs (List.mem_map_of_mem hp)
  refine ⟨y, hy, name, e, label, older, more ++ newer, hr, hstands, hopen, ?_⟩
  rw [hmore, htrace, List.append_assoc]

theorem Attended.staged {raw : Bool} (h : Attended s log) (hst : Staged raw s t) :
    Attended t log where
  drawn := h.drawn.draws hst.draws
  nodup := (hst.draws.awaiting.map Prod.fst).nodup h.nodup
  asked p hp := (h.asked p (hst.draws.awaiting.subset hp)).staged hst hp

theorem AskedSince.recorded {x : Stretch} {p : Ticket × Task} (h : AskedSince x.stopped log p) :
    AskedSince x.after (log ++ [x]) p := by
  obtain ⟨y, hy, name, e, label, older, newer, hr, hs, hopen, htrace⟩ := h
  obtain ⟨hmodals, -, -⟩ := x.stopped.record_stage x.task x.result
  obtain ⟨more, hmore, -⟩ := x.stopped.record_trace x.task x.result
  have hstands : x.after.Stands name e p.1 := hs.of_find (by rw [Stretch.after, hmodals])
  refine ⟨y, List.mem_append_left _ hy, name, e, label, older, more ++ newer, hr, hstands, hopen,
    ?_⟩
  rw [Stretch.after, hmore, htrace, List.append_assoc]

/-- A stretch lets the questions of those who wait stand, and adds at most one of its own. -/
theorem Attended.ran {x : Stretch} {n : Nat} (h : Attended x.before log) (hx : x.Runs (cascade n)) :
    Attended x.after (log ++ [x]) := by
  have hst : Staged true x.before x.stopped := hx.staged (onStage_cascade n) fun _ => rfl
  have hstopped := h.staged hst
  have hold (p : Ticket × Task) (hp : p ∈ x.stopped.awaiting) :
      AskedSince x.after (log ++ [x]) p := (hstopped.asked p hp).recorded
  obtain ⟨hmodals, hnext, hawaiting | ⟨k, next, hr, hawaiting, htrace⟩⟩ :=
    x.stopped.record_stage x.task x.result
  · refine ⟨⟨fun p hp => ?_, fun name k hk => ?_⟩, ?_, fun p hp => hold p (hawaiting ▸ hp)⟩
    · rw [Stretch.after, hnext]
      exact hstopped.drawn.awaiting p (hawaiting ▸ hp)
    · rw [Session.pendingOn, Stretch.after, hmodals] at hk
      rw [Stretch.after, hnext]
      exact hstopped.drawn.pending name k hk
    · rw [Stretch.after, hawaiting]
      exact hstopped.nodup
  · have hrun := hx
    rw [Stretch.Runs, hr] at hrun
    obtain ⟨hge, name, e, label, older, hstands, hopen⟩ :=
      Faces.faces (onStage_cascade n) x.before k next x.stopped h.drawn hrun
    have hnew : AskedSince x.after (log ++ [x]) (k, { x.task with frame := next }) := by
      have hafter : x.after.Stands name e k := hstands.of_find (by rw [Stretch.after, hmodals])
      refine ⟨x, List.mem_append_right _ (List.mem_singleton_self x), name, e, label, older, [], hr,
        hafter, ?_, rfl⟩
      rw [Stretch.after, htrace, hopen]
    have hfresh (p : Ticket × Task) (hp : p ∈ x.stopped.awaiting) : p.1 < k :=
      Nat.lt_of_lt_of_le (h.drawn.awaiting p (hst.draws.awaiting.subset hp)) hge
    refine ⟨⟨fun p hp => ?_, fun other j hj => ?_⟩, ?_, fun p hp => ?_⟩
    · rw [Stretch.after, hawaiting] at hp
      rw [Stretch.after, hnext]
      rcases List.mem_append.mp hp with hp | hp
      · exact hstopped.drawn.awaiting p hp
      · obtain rfl := List.mem_singleton.mp hp
        exact hstopped.drawn.pending name k hstands.pendingOn
    · rw [Session.pendingOn, Stretch.after, hmodals] at hj
      rw [Stretch.after, hnext]
      exact hstopped.drawn.pending other j hj
    · rw [Stretch.after, hawaiting, List.map_append]
      refine List.nodup_append.mpr ⟨hstopped.nodup, List.nodup_singleton _, ?_⟩
      rintro a ha b hb rfl
      obtain ⟨p, hp, rfl⟩ := List.mem_map.mp ha
      obtain rfl : p.1 = k := List.mem_singleton.mp hb
      exact Nat.lt_irrefl _ (hfresh p hp)
    · rw [Stretch.after, hawaiting] at hp
      rcases List.mem_append.mp hp with hp | hp
      · exact hold p hp
      · obtain rfl := List.mem_singleton.mp hp
        exact hnew

/-- In every run everybody who waits has asked. -/
theorem Interleaved.attended {s₀ : Session} (h : Interleaved cascade s₀ s log) (hd : s₀.Drawn)
    (h₀ : s₀.awaiting = []) : Attended s log := by
  induction h with
  | start => exact ⟨hd, by simp [h₀], by simp [h₀]⟩
  | ran n _ hx ih => exact ih.ran hx
  | idle _ ht ih =>
      rw [ht]
      exact ⟨⟨ih.drawn.awaiting, ih.drawn.pending⟩, ih.nodup, ih.asked⟩

end

section
variable {s : Session} {name : String} {k : Ticket} {task : Task} {x : Surface}

/-- Whoever waits alone for a question goes on with its answer. -/
theorem Session.resolve_waiting (hn : (s.awaiting.map Prod.fst).Nodup)
    (hw : (k, task) ∈ s.awaiting) (b : Bool) : (task, b) ∈ (s.resolve k b).ready := by
  cases hf : s.awaiting.find? (·.1 = k) with
  | none =>
      have hk := List.find?_eq_none.mp hf (k, task) hw
      simp at hk
  | some p =>
      have hp : p = (k, task) := by
        have hkey : p.1 = k := by simpa using List.find?_some hf
        exact List.inj_on_of_nodup_map hn (List.mem_of_find?_eq_some hf) hw hkey
      subst hp
      rw [resolve, hf]
      exact List.mem_append_right _ (List.mem_singleton_self _)

/-- A response reaches the caller whose question stands in front of the modal. -/
theorem Act.respond_reaches (carry : React) (hr : s.renderer = true)
    (hx : Table.find? s.modals name = some x) (hk : x.pending = some k)
    (hn : (s.awaiting.map Prod.fst).Nodup) (hw : (k, task) ∈ s.awaiting) (accepted : Bool) :
    ∃ t, respondModal name accepted carry s = some (.ok true, t) ∧
      (task, accepted || x.behavior matches .alert) ∈ t.ready ∧ ∀ p ∈ t.awaiting, p.1 ≠ k := by
  let b := accepted || x.behavior matches .alert
  have hrespond : respond .modal name accepted carry s =
      some (.ok true, (s.place name none).resolve k b) := by
    unfold respond
    rw [run_bind_ok (run_surface hx), hk]
    rfl
  have hrenderer : ((s.place name none).resolve k b).renderer = true := by
    rw [Session.resolve_renderer]
    exact hr
  have hready : (task, b) ∈ ((s.place name none).resolve k b).ready :=
    Session.resolve_waiting (s := s.place name none) hn hw b
  refine ⟨_, (run_bind_ok hrespond).trans (run_bind_ok (run_hideAll hrenderer)), hready, ?_⟩
  exact Session.resolve_dropped (s.place name none) k b

end

/-- What is open stays open until the modals are closed. -/
theorem visible_open {newer past : List Event} {e : ElementRef} (he : e ∈ visible .modal past)
    (hc : .modalsClosed ∉ newer) : e ∈ visible .modal (newer ++ past) := by
  induction newer with
  | nil => exact he
  | cons ev newer ih =>
      have hbefore := ih fun hm => hc (List.mem_cons_of_mem ev hm)
      cases ev with
      | modalOpened x label => exact List.mem_cons_of_mem x hbefore
      | modalsClosed => exact (hc (List.mem_cons_self ..)).elim
      | _ => exact hbefore

/-- The question of everybody who waits stands in front of a modal that was alone open when the
caller began to wait, and that is open as long as no modals were closed since. Open or not, a
response to the modal reaches the caller. -/
theorem waiting_question_stands {s₀ s : Session} {log : List Stretch}
    (h : Interleaved cascade s₀ s log) (hd : s₀.Drawn) (h₀ : s₀.awaiting = [])
    (hr : s.renderer = true) {k : Ticket} {task : Task} (hw : (k, task) ∈ s.awaiting) :
    ∃ y ∈ log, ∃ name x newer, y.result = .ok (.await k task.frame) ∧
      s.trace = newer ++ y.after.trace ∧
      Table.find? s.modals name = some x ∧ x.pending = some k ∧
      visible .modal y.after.trace = [x.element] ∧
      (.modalsClosed ∉ newer → x.element ∈ visible .modal s.trace ∧
        (Arranged s.trace → visible .modal s.trace = [x.element])) ∧
      ∀ carry accepted, ∃ t, respondModal name accepted carry s = some (.ok true, t) ∧
        (task, accepted || x.behavior matches .alert) ∈ t.ready ∧ ∀ p ∈ t.awaiting, p.1 ≠ k := by
  have ha := h.attended hd h₀
  obtain ⟨y, hy, name, e, label, older, newer, hres, ⟨x, hx, hk, rfl⟩, hopen, htrace⟩ :=
    ha.asked (k, task) hw
  have hopened : visible .modal y.after.trace = [x.element] := by
    rw [hopen]
    rfl
  refine ⟨y, hy, name, x, newer, hres, htrace, hx, hk, hopened, fun hc => ?_, ?_⟩
  · have hmem : x.element ∈ visible .modal s.trace := by
      rw [htrace]
      exact visible_open (hopened ▸ List.mem_singleton_self _) hc
    refine ⟨hmem, fun harr => ?_⟩
    have hle := harr.visible_le .modal
    obtain ⟨a, hone⟩ := List.length_eq_one_iff.mp
      (Nat.le_antisymm hle (List.length_pos_of_mem hmem))
    rw [hone] at hmem ⊢
    rw [List.mem_singleton.mp hmem]
  · exact fun carry accepted => respond_reaches carry hr hx hk ha.nodup hw accepted

/-- A confirm modal in front of two lists that differ. -/
def confirming : Session :=
  { renderer := true, modals := [("c", { element := 0, behavior := .confirm })] }

def confirmStep : Step := .confirm "c" (.array [.string "a"]) (.array [.string "b"])

theorem confirming_drawn : confirming.Drawn := by
  refine ⟨List.forall_mem_nil _, fun name k h => ?_⟩
  by_cases hn : "c" = name <;> simp [Session.pendingOn, confirming, Table.find?, hn] at h

/-- A caller waits in front of the modal that it has just opened, and is answered. -/
theorem waiting_question_stands_asked : ∃ (s t : Session) (log : List Stretch) (task : Task),
    Interleaved cascade confirming s log ∧ (0, task) ∈ s.awaiting ∧
    (∃ e, visible .modal s.trace = [e]) ∧ (task, true) ∈ t.ready := by
  let slots := confirming.settings.changes
  let label := (confirming.element 0).label
  let s₁ := (confirming.freshTicket.ask .modal "c" (some 0)).retrace
    [.modalOpened 0 label, .modalsClosed, .listFilled 0 label slots.removed ["a"],
      .listFilled 0 label slots.added ["b"], .textFilled 0 label slots.removedCount "1",
      .textFilled 0 label slots.addedCount "1"]
  have hasked : resume (.begin confirmStep) true (cascade 1) confirming =
      some (.ok (.await 0 .confirming), s₁) := rfl
  let x : Stretch := ⟨⟨0, .spawned "s", .begin confirmStep⟩, true, confirming,
    .ok (.await 0 .confirming), s₁⟩
  have hruns : x.Runs (cascade 1) := hasked
  have hrun : Interleaved cascade confirming x.after [x] := Interleaved.start.ran 1 hruns
  obtain ⟨y, hy, name, m, newer, -, -, -, -, hopen, -, hanswer⟩ :=
    waiting_question_stands hrun confirming_drawn rfl rfl (List.mem_singleton_self _)
  obtain rfl := List.mem_singleton.mp hy
  obtain ⟨t, -, hready, -⟩ := hanswer (cascade 1) true
  exact ⟨x.after, t, [x], _, hrun, List.mem_singleton_self _, ⟨m.element, hopen⟩, hready⟩

/-- The modals are hidden while somebody waits: nobody but the user can wake the caller, and the
modal that the user would have to answer is not open. -/
theorem question_behind_closed_modal : ∃ results s p,
    Session.play [.spawn "s" confirmStep, .now (.surface (.hide (some .modal)))] confirming =
      some (results, s) ∧ p ∈ s.awaiting ∧ s.ready = [] ∧ s.sleeping = [] ∧
      visible .modal s.trace = [] :=
  ⟨_, _, _, rfl, List.mem_singleton_self _, rfl, rfl, rfl⟩

end ScreenBinding
