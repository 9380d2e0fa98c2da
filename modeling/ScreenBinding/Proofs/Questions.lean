import ScreenBinding.Proofs.EngineActs
import ScreenBinding.Proofs.Running

/-!
# Questions to the user

A confirm modal keeps at most one question. Showing a difference puts a question in the place of the
one before, whose caller gets no for an answer; a response takes the question away and passes the
answer on; lists with the same members are no question at all. The lemmas here say, for each of
these acts, what it returns and what becomes of those who wait.
-/
namespace ScreenBinding
open Act

namespace Json

/-- Lists and texts stand for a list of texts, and null for the empty one. -/
def isListing : Json → Bool
  | .null | .array _ | .string _ => true
  | _ => false

end Json

namespace Separators

/-- The texts that a value stands for. -/
def tokens (sep : Separators) : Json → List String
  | .array items => sep.textsOf items
  | .string s => sep.split s
  | _ => []

end Separators

theorem Difference.isEmpty_iff {p n : List String} :
    (between p n).isEmpty = true ↔ ∀ a, a ∈ p ↔ a ∈ n := by
  simp only [isEmpty, Bool.and_eq_true, List.isEmpty_iff, List.eq_nil_iff_forall_not_mem,
    mem_added, mem_removed]
  constructor
  · rintro ⟨ha, hr⟩ a
    exact ⟨fun hp => Decidable.of_not_not fun hn => hr a ⟨hp, hn⟩,
      fun hn => Decidable.of_not_not fun hp => ha a ⟨hn, hp⟩⟩
  · intro h
    exact ⟨fun a ha => ha.2 ((h a).mpr ha.1), fun a ha => ha.2 ((h a).mp ha.1)⟩

theorem Table.find?_adjust {α : Type} (f : α → α) (t : Table α) (key : String) :
    find? (adjust f t key) key = (find? t key).map f := by
  induction t with
  | nil => rfl
  | cons e t ih =>
      obtain ⟨k, a⟩ := e
      by_cases h : k = key
      · simp [adjust, find?, h]
      · simp [adjust, find?, h, ih]

namespace Session

/-- The change that arguments ask to confirm, if they are listings. -/
def change? (s : Session) (args : Fields) : Option Difference :=
  let listed := fun key => (Table.find? args key).getD .null
  let sep := s.settings.separators
  if (listed "previous").isListing && (listed "next").isListing then
    some (.between (sep.tokens (listed "previous")) (sep.tokens (listed "next")))
  else none

/-- The same callers wait, and the same answers are on their way to them. -/
structure SameWaiters (s t : Session) : Prop where
  awaiting : t.awaiting = s.awaiting
  ready : t.ready = s.ready
  answers : t.answers = s.answers

theorem SameWaiters.refl (s : Session) : s.SameWaiters s := ⟨rfl, rfl, rfl⟩

theorem SameWaiters.resolve {s t : Session} (h : s.SameWaiters t) (k : Ticket) (b : Bool) :
    (s.resolve k b).SameWaiters (t.resolve k b) := by
  unfold Session.resolve
  rw [h.awaiting, h.ready, h.answers]
  split
  · exact ⟨rfl, rfl, rfl⟩
  · exact ⟨rfl, rfl, rfl⟩

theorem SameWaiters.drop {s t : Session} (h : s.SameWaiters t) (old : Option Ticket) :
    (s.drop old).SameWaiters (t.drop old) := by
  cases old with
  | none => exact h
  | some k => exact h.resolve k false

/-- The questions that were answered between two sessions: those whose answer is left for a caller
to fetch, and those whose caller was made ready to go on. -/
def answered (s t : Session) : List (Ticket × Bool) :=
  let gone := s.awaiting.filter fun p => !t.awaiting.any (·.1 = p.1)
  t.answers.take (t.answers.length-s.answers.length) ++
    (gone.zip (t.ready.drop s.ready.length)).map fun p => (p.1.1, p.2.2)

theorem SameWaiters.answered {s t : Session} (h : s.SameWaiters t) : s.answered t = [] := by
  simp [Session.answered, h.ready, h.answers]

theorem any_key {p : Ticket × Task} {l : List (Ticket × Task)} (h : p ∈ l) :
    l.any (·.1 = p.1) = true :=
  List.any_eq_true.mpr ⟨p, h, by simp⟩

/-- Resolving a question answers it and no other. -/
theorem answered_resolve {s t : Session} {k : Ticket} {b : Bool}
    (h : (s.resolve k b).SameWaiters t) : s.answered t = [(k, b)] := by
  obtain ⟨hawaiting, hready, hanswers⟩ := h
  simp only [Session.answered, hawaiting, hready, hanswers, Session.resolve]
  cases hf : s.awaiting.find? (·.1 = k) with
  | none => simp
  | some p =>
      obtain ⟨k', task⟩ := p
      have hk : k' = k := by simpa using List.find?_some hf
      subst hk
      have hgone : (s.awaiting.filter fun p => !(s.awaiting.filter (·.1 ≠ k')).any (·.1 = p.1)) =
          s.awaiting.filter (·.1 = k') := by
        refine List.filter_congr fun p hp => ?_
        by_cases hkey : p.1 = k'
        · simp [hkey]
        · have hm : p ∈ s.awaiting.filter (·.1 ≠ k') := List.mem_filter.mpr ⟨hp, by simpa⟩
          rw [any_key hm]
          simp [hkey]
      have hhead : (s.awaiting.filter (·.1 = k')).head? = some (k', task) := by
        rw [List.head?_filter]
        exact hf
      obtain ⟨rest, hrest⟩ := List.head?_eq_some_iff.mp hhead
      simp only [hgone, hrest]
      simp

/-- The question that waits in front of a modal. -/
def pendingOn (s : Session) (name : String) : Option Ticket :=
  (Table.find? s.modals name).bind (·.pending)

/-- A confirm modal with its renderer. Questions are drawn from a counter that no question in use
has reached. -/
structure Confirms (s : Session) (name : String) : Prop where
  renderer : s.renderer = true
  modal : ∃ x, Table.find? s.modals name = some x ∧ x.behavior = .confirm
  awaiting : ∀ p ∈ s.awaiting, p.1 < s.nextTicket
  answers : ∀ p ∈ s.answers, p.1 < s.nextTicket
  pending : ∀ k, s.pendingOn name = some k → k < s.nextTicket

@[simp] theorem resolve_renderer (s : Session) (k : Ticket) (b : Bool) :
    (s.resolve k b).renderer = s.renderer := by
  unfold resolve
  split <;> rfl

@[simp] theorem resolve_modals (s : Session) (k : Ticket) (b : Bool) :
    (s.resolve k b).modals = s.modals := by
  unfold resolve
  split <;> rfl

@[simp] theorem resolve_nextTicket (s : Session) (k : Ticket) (b : Bool) :
    (s.resolve k b).nextTicket = s.nextTicket := by
  unfold resolve
  split <;> rfl

theorem mem_resolve_awaiting {s : Session} {k : Ticket} {b : Bool} {p : Ticket × Task}
    (h : p ∈ (s.resolve k b).awaiting) : p ∈ s.awaiting := by
  unfold resolve at h
  split at h
  · exact (List.mem_filter.mp h).1
  · exact h

theorem mem_resolve_answers {s : Session} {k : Ticket} {b : Bool} {p : Ticket × Bool}
    (h : p ∈ (s.resolve k b).answers) : p = (k, b) ∨ p ∈ s.answers := by
  unfold resolve at h
  split at h
  · exact .inr h
  · exact List.mem_cons.mp h

section
variable {s t : Session} {name : String} {k : Ticket}

theorem Confirms.retrace (h : s.Confirms name) (T : List Event) : (s.retrace T).Confirms name :=
  ⟨h.renderer, h.modal, h.awaiting, h.answers, h.pending⟩

theorem Confirms.freshTicket (h : s.Confirms name) : s.freshTicket.Confirms name where
  renderer := h.renderer
  modal := h.modal
  awaiting p hp := Nat.lt_succ_of_lt (h.awaiting p hp)
  answers p hp := Nat.lt_succ_of_lt (h.answers p hp)
  pending k hk := Nat.lt_succ_of_lt (h.pending k hk)

theorem Confirms.resolve (h : s.Confirms name) (hk : k < s.nextTicket) (b : Bool) :
    (s.resolve k b).Confirms name where
  renderer := by rw [resolve_renderer, h.renderer]
  modal := by
    rw [resolve_modals]
    exact h.modal
  awaiting p hp := by
    rw [resolve_nextTicket]
    exact h.awaiting p (mem_resolve_awaiting hp)
  answers p hp := by
    rw [resolve_nextTicket]
    rcases mem_resolve_answers hp with rfl | hp
    · exact hk
    · exact h.answers p hp
  pending j hj := by
    rw [pendingOn, resolve_modals] at hj
    rw [resolve_nextTicket]
    exact h.pending j hj

theorem Confirms.drop {old : Option Ticket} (h : s.Confirms name)
    (ho : ∀ k, old = some k → k < s.nextTicket) : (s.drop old).Confirms name := by
  cases old with
  | none => exact h
  | some k => exact h.resolve (ho k rfl) false

/-- The modal with another question, or with none, in front of it. -/
def place (s : Session) (name : String) (ticket : Option Ticket) : Session :=
  s.setSurfaces .modal
    (Table.adjust (fun x => { x with pending := ticket }) (s.surfaces .modal) name)

theorem ask_eq (s : Session) (name : String) (ticket : Option Ticket) :
    s.ask .modal name ticket = (s.place name ticket).drop (s.pendingOn name) := rfl

theorem place_waiters (s : Session) (name : String) (ticket : Option Ticket) :
    s.SameWaiters (s.place name ticket) := ⟨rfl, rfl, rfl⟩

theorem find?_place {x : Surface} (h : Table.find? s.modals name = some x)
    (ticket : Option Ticket) :
    Table.find? (s.place name ticket).modals name = some { x with pending := ticket } := by
  change Table.find? (Table.adjust _ s.modals name) name = _
  rw [Table.find?_adjust, h]
  rfl

theorem Confirms.pendingOn_place (h : s.Confirms name) (ticket : Option Ticket) :
    (s.place name ticket).pendingOn name = ticket := by
  obtain ⟨x, hx, -⟩ := h.modal
  rw [pendingOn, find?_place hx]
  rfl

theorem Confirms.place {ticket : Option Ticket} (h : s.Confirms name)
    (ht : ∀ k, ticket = some k → k < s.nextTicket) : (s.place name ticket).Confirms name where
  renderer := h.renderer
  modal := by
    obtain ⟨x, hx, hb⟩ := h.modal
    exact ⟨_, find?_place hx ticket, hb⟩
  awaiting := h.awaiting
  answers := h.answers
  pending j hj := by
    rw [h.pendingOn_place] at hj
    exact ht j hj

theorem pendingOn_drop (s : Session) (name : String) (old : Option Ticket) :
    (s.drop old).pendingOn name = s.pendingOn name := by
  cases old with
  | none => rfl
  | some k => rw [drop, pendingOn, resolve_modals, pendingOn]

/-- The question that is asked takes the place of the one before. -/
theorem Confirms.ask (h : s.Confirms name) (ticket : Option Ticket)
    (ht : ∀ k, ticket = some k → k < s.nextTicket) : (s.ask .modal name ticket).Confirms name ∧
      (s.ask .modal name ticket).pendingOn name = ticket ∧
      (s.drop (s.pendingOn name)).SameWaiters (s.ask .modal name ticket) := by
  rw [ask_eq]
  refine ⟨(h.place ht).drop h.pending, ?_, (s.place_waiters name ticket).drop _⟩
  rw [pendingOn_drop, h.pendingOn_place]

end

end Session

namespace Act
variable {carry : React} {s : Session} {name : String}

theorem run_needRenderer (h : s.renderer = true) : needRenderer carry s = some (.ok (), s) := by
  rw [needRenderer, run_bind_ok (run_gets _), h]
  rfl

theorem run_needRenderer_missing (h : s.renderer = false) :
    needRenderer carry s = some (.error (.requirementMissing .renderer), s) := by
  rw [needRenderer, run_bind_ok (run_gets _), h]
  rfl

theorem run_listArgument (args : Fields) (key : String) : listArgument args key carry s =
    some (if ((Table.find? args key).getD .null).isListing then
        .ok (s.settings.separators.tokens ((Table.find? args key).getD .null))
      else .error .listExpected, s) := by
  unfold listArgument
  cases Table.find? args key with
  | none => rfl
  | some v => cases v <;> rfl

/-- The change that a confirm modal is to show. -/
def listedChange (args : Fields) : Act Difference := do
  return .between (← listArgument args "previous") (← listArgument args "next")

theorem run_listedChange (carry : React) (args : Fields) : listedChange args carry s =
    some (match s.change? args with
      | some d => .ok d
      | none => .error .listExpected, s) := by
  unfold listedChange Session.change?
  rw [run_bind, run_listArgument]
  by_cases hp : ((Table.find? args "previous").getD .null).isListing = true
  · rw [if_pos hp]
    dsimp only
    rw [run_bind, run_listArgument]
    by_cases hn : ((Table.find? args "next").getD .null).isListing = true
    · simp [hp, hn, run_pure]
    · simp [hp, hn]
  · simp [hp]

/-- What a confirm surface does with a change. -/
def showChange (kind : SurfaceKind) (name : String) (x : Surface) (args : Fields)
    (ticket : Option Ticket) (d : Difference) : Act Bool := do
  if d.isEmpty then
    answer ticket true
    return false
  let empty := textArgument args "empty_message" "No changes."
  let orEmpty := fun items : List String => if items.isEmpty then [empty] else items
  let slots ← gets (·.settings.changes)
  needRenderer
  fillText x.element slots.addedCount (toString d.added.length)
  fillText x.element slots.removedCount (toString d.removed.length)
  fillList x.element slots.added (orEmpty d.added)
  fillList x.element slots.removed (orEmpty d.removed)
  change (·.ask kind name ticket)
  return true

theorem refreshConfirm_eq (kind : SurfaceKind) (name : String) (x : Surface) (args : Fields)
    (ticket : Option Ticket) : refreshConfirm kind name x args ticket = (do
      showChange kind name x args ticket (← listedChange args)) := by
  unfold refreshConfirm showChange listedChange
  simp only [bind_assoc, pure_bind]

/-- The slots of a surface tell how much a change adds and removes, and what; the latest is filled
first. -/
def slotsFilled (s : Session) (x : Surface) (args : Fields) (d : Difference) : List Event :=
  let slots := s.settings.changes
  let label := (s.element x.element).label
  let orEmpty := fun items : List String =>
    if items.isEmpty then [textArgument args "empty_message" "No changes."] else items
  [.listFilled x.element label slots.removed (orEmpty d.removed),
    .listFilled x.element label slots.added (orEmpty d.added),
    .textFilled x.element label slots.removedCount (toString d.removed.length),
    .textFilled x.element label slots.addedCount (toString d.added.length)]

/-- A change is shown, and its question takes the place of the one before. -/
theorem run_showChange (carry : React) (kind : SurfaceKind) (name : String)
    (h : s.renderer = true) (x : Surface) (args : Fields) (ticket : Option Ticket)
    {d : Difference} (hd : d.isEmpty = false) :
    showChange kind name x args ticket d carry s = some (.ok true,
      (s.ask kind name ticket).retrace (slotsFilled s x args d ++ s.trace)) := by
  have hask (T : List Event) :
      (s.retrace T).ask kind name ticket = (s.ask kind name ticket).retrace T :=
    (Session.unseen_ask kind name ticket).trace s T
  rw [← hask, showChange, hd]
  exact (run_bind_ok (run_gets _)).trans (run_bind_ok (run_needRenderer h))

theorem run_showSame (kind : SurfaceKind) (name : String) (x : Surface) (args : Fields)
    (ticket : Option Ticket) {d : Difference} (hd : d.isEmpty = true) :
    showChange kind name x args ticket d carry s = some (.ok false, match ticket with
      | some k => s.resolve k true
      | none => s) := by
  unfold showChange
  rw [hd]
  rfl

theorem run_hideAll (h : s.renderer = true) :
    hideAll .modal carry s = some (.ok (), s.retrace (.modalsClosed::s.trace)) :=
  (run_bind_ok (run_needRenderer h)).trans (run_emit _)

theorem run_surface {x : Surface} (h : Table.find? s.modals name = some x) :
    surface .modal name carry s = some (.ok x, s) := by
  have hx : Table.find? (s.surfaces .modal) name = some x := h
  rw [surface, run_bind_ok (run_gets _), hx]
  rfl

/-- The modal opens alone. -/
theorem run_open (carry : React) {u : Session} (h : u.renderer = true) (e : ElementRef) : (do
    needRenderer
    hideAll .modal
    let label := (← element e).label
    emit (.modalOpened e label)
    return true) carry u = some (.ok true,
      u.retrace (.modalOpened e (u.element e).label::.modalsClosed::u.trace)) :=
  (run_bind_ok (run_needRenderer h)).trans (run_bind_ok (run_hideAll h))

/-- A confirm modal shows what its refresh allows. -/
theorem showSurface_confirm {x : Surface} (hx : Table.find? s.modals name = some x)
    (hb : x.behavior = .confirm) (args : Fields) (ticket : Option Ticket) :
    showSurface .modal name args ticket carry s = (do
      if ← showChange .modal name x args ticket (← listedChange args) then
        needRenderer
        hideAll .modal
        let label := (← element x.element).label
        emit (.modalOpened x.element label)
        return true
      else return false) carry s := by
  have hr : refresh .modal name x args ticket = (do
      showChange .modal name x args ticket (← listedChange args)) := by
    rw [← refreshConfirm_eq, refresh, hb]
  unfold showSurface
  rw [run_bind_ok (run_surface hx), hr, bind_assoc]

section
variable {args : Fields} {d : Difference}

theorem run_show_unlisted (h : s.Confirms name) (hc : s.change? args = none)
    (ticket : Option Ticket) :
    showSurface .modal name args ticket carry s = some (.error .listExpected, s) := by
  obtain ⟨x, hx, hb⟩ := h.modal
  have hl := run_listedChange carry (s := s) args
  rw [hc] at hl
  rw [showSurface_confirm hx hb, run_bind_error hl]

/-- Without a change nothing is shown, and a question is answered with yes. -/
theorem run_show_same (h : s.Confirms name) (hc : s.change? args = some d)
    (hd : d.isEmpty = true) (ticket : Option Ticket) :
    showSurface .modal name args ticket carry s = some (.ok false, match ticket with
      | some k => s.resolve k true
      | none => s) := by
  obtain ⟨x, hx, hb⟩ := h.modal
  have hl := run_listedChange carry (s := s) args
  rw [hc] at hl
  rw [showSurface_confirm hx hb, run_bind_ok hl, run_bind_ok (run_showSame .modal name x args ticket hd)]
  rfl

theorem run_show_change (carry : React) (h : s.Confirms name) (hc : s.change? args = some d)
    (hd : d.isEmpty = false) (ticket : Option Ticket)
    (ht : ∀ k, ticket = some k → k < s.nextTicket) :
    ∃ T, showSurface .modal name args ticket carry s =
      some (.ok true, (s.ask .modal name ticket).retrace T) := by
  obtain ⟨x, hx, hb⟩ := h.modal
  have hl := run_listedChange carry (s := s) args
  rw [hc] at hl
  have hshown := run_showChange carry .modal name h.renderer x args ticket hd
  let asked := (s.ask .modal name ticket).retrace (slotsFilled s x args d ++ s.trace)
  have hr : asked.renderer = true := (h.ask _ ht).1.renderer
  have hopen := run_open carry hr x.element
  refine ⟨.modalOpened x.element (asked.element x.element).label::.modalsClosed::asked.trace, ?_⟩
  rw [showSurface_confirm hx hb, run_bind_ok hl, run_bind_ok hshown]
  exact hopen

/-- A question that was taken or answered stands. -/
theorem run_question {r : Except Fault Bool} {u : Session}
    (hshow : showSurface .modal name args (some s.nextTicket) carry s.freshTicket = some (r, u))
    (htaken : r.isOk = true → (u.pendingOn name = some s.nextTicket ∨
      ∃ b, (s.nextTicket, b) ∈ u.answers)) :
    question name args carry s = some (r.map fun _ => s.nextTicket, u) := by
  unfold question
  rw [run_bind_ok (run_gets _), run_bind_ok (run_change _), run_bind, run_discard, hshow]
  cases r with
  | error why => rfl
  | ok b =>
      have hstands : ((Table.find? u.modals name).any (·.pending = some s.nextTicket) ||
          u.answers.any (·.1 = s.nextTicket)) = true := by
        rw [Bool.or_eq_true]
        rcases htaken rfl with hp | ⟨b, hb⟩
        · left
          obtain ⟨x, hx, hk⟩ := Option.bind_eq_some_iff.mp hp
          rw [hx]
          simpa using hk
        · right
          exact List.any_eq_true.mpr ⟨_, hb, by simp⟩
      dsimp only
      rw [run_bind_ok (run_change _)]
      simp only [hstands, ite_true]
      rfl

end

theorem run_respond_idle (h : s.Confirms name) (hp : s.pendingOn name = none)
    (accepted : Bool) : respondModal name accepted carry s =
      some (.ok false, s.retrace (.modalsClosed::s.trace)) := by
  obtain ⟨x, hx, -⟩ := h.modal
  have hnone : x.pending = none := by
    rw [Session.pendingOn, hx] at hp
    exact hp
  have hr : respond .modal name accepted carry s = some (.ok false, s) := by
    unfold respond
    rw [run_bind_ok (run_surface hx), hnone]
    rfl
  rw [respondModal, run_bind_ok hr, run_bind_ok (run_hideAll h.renderer)]
  rfl

/-- A response answers the question that waits, and takes it away. -/
theorem run_respond_waiting (carry : React) {k : Ticket} (h : s.Confirms name)
    (hp : s.pendingOn name = some k)
    (accepted : Bool) : ∃ T, respondModal name accepted carry s =
      some (.ok true, ((s.place name none).resolve k accepted).retrace T) := by
  obtain ⟨x, hx, hb⟩ := h.modal
  have hsome : x.pending = some k := by
    rw [Session.pendingOn, hx] at hp
    exact hp
  have hr : respond .modal name accepted carry s =
      some (.ok true, (s.place name none).resolve k accepted) := by
    unfold respond
    rw [run_bind_ok (run_surface hx), hsome]
    simp only [hb, Bool.or_false]
    rfl
  have hrenderer : ((s.place name none).resolve k accepted).renderer = true := by
    rw [Session.resolve_renderer]
    exact h.renderer
  refine ⟨.modalsClosed::((s.place name none).resolve k accepted).trace, ?_⟩
  rw [respondModal, run_bind_ok hr, run_bind_ok (run_hideAll hrenderer)]
  rfl

section
variable {previous next : Json} {d : Difference}

theorem run_confirm_unlisted (h : s.Confirms name)
    (hc : s.change? [("previous", previous), ("next", next)] = none) :
    askConfirm name previous next carry s = some (.error .listExpected, s.freshTicket) :=
  run_question (run_show_unlisted h.freshTicket hc _) nofun

/-- Without a change the question is answered with yes, and nobody else hears of it. -/
theorem run_confirm_same (carry : React) (h : s.Confirms name)
    (hc : s.change? [("previous", previous), ("next", next)] = some d) (hd : d.isEmpty = true) :
    askConfirm name previous next carry s =
      some (.ok s.nextTicket, s.freshTicket.resolve s.nextTicket true) ∧
    (s.freshTicket.resolve s.nextTicket true).answers = (s.nextTicket, true)::s.answers := by
  have hnone : s.awaiting.find? (·.1 = s.nextTicket) = none := by
    refine List.find?_eq_none.mpr fun p hp => ?_
    simpa using Nat.ne_of_lt (h.awaiting p hp)
  have hanswers : (s.freshTicket.resolve s.nextTicket true).answers =
      (s.nextTicket, true)::s.answers := by
    have hnone : s.freshTicket.awaiting.find? (·.1 = s.nextTicket) = none := hnone
    rw [Session.resolve, hnone]
    rfl
  have hmem : (s.nextTicket, true) ∈ (s.freshTicket.resolve s.nextTicket true).answers := by
    rw [hanswers]
    exact List.mem_cons_self ..
  exact ⟨run_question (run_show_same h.freshTicket hc hd _) fun _ => .inr ⟨true, hmem⟩, hanswers⟩

/-- A change is shown, and the question about it waits. -/
theorem run_confirm_change (carry : React) (h : s.Confirms name)
    (hc : s.change? [("previous", previous), ("next", next)] = some d) (hd : d.isEmpty = false) :
    ∃ T, askConfirm name previous next carry s = some (.ok s.nextTicket,
      (s.freshTicket.ask .modal name (some s.nextTicket)).retrace T) := by
  have ht : ∀ k, some s.nextTicket = some k → k < s.freshTicket.nextTicket := by
    rintro k ⟨⟩
    exact Nat.lt_succ_self _
  obtain ⟨T, hT⟩ := run_show_change carry h.freshTicket hc hd _ ht
  have hp := (h.freshTicket.ask _ ht).2.1
  exact ⟨T, run_question hT fun _ => .inl hp⟩

end

end Act
end ScreenBinding
