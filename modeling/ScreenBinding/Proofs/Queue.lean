import ScreenBinding.Proofs.Running
import Mathlib.Data.List.Nodup
import Mathlib.Data.List.Perm.Subperm
import Mathlib.Logic.Relation

/-!
# Who waits

Tasks wait until they can go on, until a time, or for an answer. Few things that acts do are noticed
there: a task is spawned or aborted, or whoever waits for an answer is resumed. Everything else goes
on aside, and nothing that the host has supplied is taken away. Beside the tasks, the steps tell
which subscription keeps the state in step, and which elements are disabled: a click that starts a
submission disables its button, and apart from that only elements that are free are switched on and
off.

`Queued` relates two sessions if such steps lead from the first to the second, and an act `Queues`
if each of its runs does, as long as its callbacks do. Whoever waits in the end has then waited
before, or is new and known by a number that was not yet drawn.
-/
namespace ScreenBinding
open Act

/-- A subscription that keeps the state in step. -/
def Subscription.isLive (sub : Subscription) : Bool := sub.sink matches .state

namespace Frame

/-- Whether a new task begins there. -/
def starts : Frame → Bool
  | .begin _ | .cooldown _ | .submit _ | .subscribe _ => true
  | _ => false

/-- Whether a task there belongs to a subscription that keeps the state in step. -/
def isLive : Frame → Bool
  | .subscribe sub | .receiving sub _ | .resting sub => sub.isLive
  | _ => false

/-- Whether a task that begins there is known to the script by a name. -/
def enlists : Frame → Bool
  | .begin _ => true
  | .subscribe sub => !sub.isLive
  | _ => false

end Frame

namespace Session

/-- The tasks that wait. -/
def queue (s : Session) : List Task :=
  s.ready.map Prod.fst ++ s.sleeping.map Prod.snd ++ s.awaiting.map Prod.snd

/-- Those who wait have numbers of their own, drawn from the counter. -/
structure Tidy (s : Session) : Prop where
  distinct : (s.queue.map Task.id).Nodup
  drawn : ∀ w ∈ s.queue, w.id < s.nextTask

/-- What the host has supplied stays. -/
structure Supplies (s t : Session) : Prop where
  renderer : s.renderer = true → t.renderer = true
  notifier : s.notifier = true → t.notifier = true
  transport : s.transport.isSome → t.transport.isSome

/-- Everybody waits as before. -/
structure Aside (s t : Session) : Prop where
  ready : t.ready = s.ready
  sleeping : t.sleeping = s.sleeping
  awaiting : t.awaiting = s.awaiting
  cancelled : t.cancelled = s.cancelled
  taskIds : t.taskIds = s.taskIds
  live : t.live = s.live
  nextTask : t.nextTask = s.nextTask
  now : t.now = s.now
  disabled : t.elements.map Element.disabled = s.elements.map Element.disabled
  handlers : s.handlers ⊆ t.handlers
  supplies : s.Supplies t

/-- Disables or enables an element. -/
def switch (s : Session) (e : ElementRef) (v : Bool) : Session :=
  { s with elements := s.elements.modify e fun x => { x with disabled := v } }

/-- A new task that the script knows by a name. -/
def enlist (s : Session) (name : String) (role : Role) (frame : Frame) : Session :=
  { s.spawn role frame with taskIds := Table.put s.taskIds name s.nextTask }

/-- A button cools down while its form is submitted. -/
def press (s : Session) (b : BoundForm) (e : ElementRef) : Session :=
  ((s.switch e true).spawn .detached (.cooldown e)).spawn .detached (.submit b)

/-- Aborts a task, if there is one. -/
def dismiss (s : Session) : Option Nat → Session
  | some id => s.abort id
  | none => s

/-- A subscription takes the place of the one that kept the state in step. -/
def follow (s : Session) (sub : Subscription) : Session :=
  { (s.spawn .detached (.subscribe sub)).dismiss s.live with live := some s.nextTask }

end Session

/-- A callback of an element that some event of it calls. -/
def Handler.Registered (h : Handler) (e : ElementRef) (s : Session) : Prop :=
  ∃ event, ⟨e, event, h⟩ ∈ s.handlers

theorem Handler.Registered.mono {h : Handler} {e : ElementRef} {s t : Session}
    (hr : h.Registered e s) (hs : s.handlers ⊆ t.handlers) : h.Registered e t := by
  obtain ⟨event, hmem⟩ := hr
  exact ⟨event, hs hmem⟩

/-- One thing that is noticed by the tasks that wait. -/
inductive QueueStep (free : ElementRef → Prop) (s : Session) : Session → Prop
  | aside {t : Session} : s.Aside t → QueueStep free s t
  | enlisted (name : String) (role : Role) {frame : Frame} : frame.enlists = true →
      QueueStep free s (s.enlist name role frame)
  | pressed {b : BoundForm} {e : ElementRef} : (Handler.submit b).Registered e s →
      (s.element e).disabled = false → QueueStep free s (s.press b e)
  | followed {sub : Subscription} : sub.isLive = true → QueueStep free s (s.follow sub)
  | resolved (k : Ticket) (b : Bool) : QueueStep free s (s.resolve k b)
  | aborted (name : String) {id : Nat} : Table.find? s.taskIds name = some id →
      QueueStep free s (s.abort id)
  | switched {e : ElementRef} (v : Bool) : free e → QueueStep free s (s.switch e v)

/-- Such steps lead from one session to the other. -/
abbrev Queued (free : ElementRef → Prop) : Session → Session → Prop :=
  Relation.ReflTransGen (QueueStep free)

/-- Callbacks whose runs are such; those of an element are called only if they are registered. -/
def OnQueue (free : ElementRef → Prop) (carry : React) : Prop :=
  ∀ r s x t, (∀ h e, r = .handler h e → h.Registered e s) → carry r s = some (x, t) →
    Queued free s t

/-- The runs of an act are such if those of its callbacks are. -/
class Queues (free : ElementRef → Prop) {α : Type} (a : Act α) : Prop where
  queued : ∀ {carry : React}, OnQueue free carry → ∀ s x t, a carry s = some (x, t) →
    Queued free s t

theorem subperm_map {α β : Type} {l m : List α} (h : l.Subperm m) (f : α → β) :
    (l.map f).Subperm (m.map f) := by
  obtain ⟨k, hperm, hsub⟩ := h
  exact ⟨k.map f, hperm.map f, hsub.map f⟩

theorem cons_filter_subperm {α : Type} {l : List α} {q : α → Bool} {a : α} (ha : a ∈ l)
    (hq : q a = false) : (a::l.filter q).Subperm l := by
  have hleft : [a].Subperm (l.filter fun x => !q x) :=
    List.singleton_subperm_iff.mpr (List.mem_filter.mpr ⟨ha, by simp [hq]⟩)
  have hall : (l.filter q ++ [a]).Subperm l :=
    ((List.subperm_append_left _).mpr hleft).trans (List.filter_append_perm _ _).subperm
  exact (List.perm_append_singleton a _).symm.subperm.trans hall

theorem nodup_of_subperm {α : Type} {l m : List α} (h : l.Subperm m) (hm : m.Nodup) : l.Nodup := by
  obtain ⟨k, hperm, hsub⟩ := h
  exact hperm.nodup_iff.mp (hsub.nodup hm)

namespace Session
variable {s t u : Session}

theorem Supplies.refl (s : Session) : s.Supplies s := ⟨id, id, id⟩

theorem Supplies.trans (h : s.Supplies t) (k : t.Supplies u) : s.Supplies u :=
  ⟨k.renderer ∘ h.renderer, k.notifier ∘ h.notifier, k.transport ∘ h.transport⟩

/-- A change of other parts of the session. -/
theorem Aside.apart (h : t = { t with
    ready := s.ready, sleeping := s.sleeping, awaiting := s.awaiting, cancelled := s.cancelled,
    taskIds := s.taskIds, live := s.live, nextTask := s.nextTask, now := s.now,
    elements := s.elements, handlers := s.handlers, renderer := s.renderer, notifier := s.notifier,
    transport := s.transport }) : s.Aside t := by
  rw [h]
  exact ⟨rfl, rfl, rfl, rfl, rfl, rfl, rfl, rfl, rfl, List.Subset.refl _, ⟨id, id, id⟩⟩

theorem map_modify {α β : Type} (f : α → β) (g : α → α) (h : ∀ x, f (g x) = f x) (l : List α)
    (i : Nat) : (l.modify i g).map f = l.map f := by
  refine List.ext_getElem? fun j => ?_
  rw [List.getElem?_map, List.getElem?_map, List.getElem?_modify]
  cases l[j]? <;> simp [apply_ite, h]

/-- An element changes, but is disabled or not as before. -/
theorem Aside.modified (s : Session) (e : ElementRef) {f : Element → Element}
    (h : ∀ x, (f x).disabled = x.disabled) :
    s.Aside { s with elements := s.elements.modify e f } :=
  ⟨rfl, rfl, rfl, rfl, rfl, rfl, rfl, rfl, map_modify _ f h _ e, List.Subset.refl _, ⟨id, id, id⟩⟩

theorem Aside.queue (h : s.Aside t) : t.queue = s.queue := by
  rw [Session.queue, Session.queue, h.ready, h.sleeping, h.awaiting]

theorem mem_queue_of_ready {w : Task} {answer : Bool} (h : (w, answer) ∈ s.ready) : w ∈ s.queue :=
  List.mem_append_left _ (List.mem_append_left _ (List.mem_map_of_mem h))

theorem mem_queue_of_sleeping {w : Task} {time : Nat} (h : (time, w) ∈ s.sleeping) :
    w ∈ s.queue :=
  List.mem_append_left _ (List.mem_append_right _ (List.mem_map_of_mem h))

theorem spawn_queue (s : Session) (role : Role) (frame : Frame) :
    (s.spawn role frame).queue.Perm (⟨s.nextTask, role, frame⟩::s.queue) := by
  simp only [queue, spawn, List.map_append, List.append_assoc]
  exact List.perm_middle

theorem press_queue (s : Session) (b : BoundForm) (e : ElementRef) : (s.press b e).queue.Perm
    ([⟨s.nextTask+1, .detached, .submit b⟩, ⟨s.nextTask, .detached, .cooldown e⟩] ++ s.queue) :=
  (((s.switch e true).spawn .detached (.cooldown e)).spawn_queue .detached (.submit b)).trans
    (((s.switch e true).spawn_queue .detached (.cooldown e)).cons _)

theorem sleeping_queue (s : Session) (time : Nat) (w : Task) :
    ({ s with sleeping := s.sleeping ++ [(time, w)] } : Session).queue.Perm (w::s.queue) := by
  simp only [queue, List.map_append, List.append_assoc, List.map_cons, List.map_nil,
    List.cons_append, List.nil_append]
  rw [← List.append_assoc, ← List.append_assoc]
  exact List.perm_middle

theorem awaiting_queue (s : Session) (k : Ticket) (w : Task) :
    ({ s with awaiting := s.awaiting ++ [(k, w)] } : Session).queue.Perm (w::s.queue) := by
  simp only [queue, List.map_append, ← List.append_assoc, List.map_cons, List.map_nil]
  exact List.perm_append_singleton _ _

/-- Whoever is resumed was waiting. -/
theorem resolve_queue (s : Session) (k : Ticket) (b : Bool) :
    (s.resolve k b).queue.Subperm s.queue := by
  unfold resolve
  split
  · rename_i j task hfind
    have hkey : j = k := by simpa using List.find?_some hfind
    have htaken : ((j, task)::s.awaiting.filter (·.1 ≠ k)).Subperm s.awaiting :=
      cons_filter_subperm (List.mem_of_find?_eq_some hfind) (by simpa using hkey)
    have hmoved : (task::(s.awaiting.filter (·.1 ≠ k)).map Prod.snd).Subperm
        (s.awaiting.map Prod.snd) := subperm_map htaken Prod.snd
    have hbehind : (s.sleeping.map Prod.snd ++ task::(s.awaiting.filter (·.1 ≠ k)).map
        Prod.snd).Subperm (s.sleeping.map Prod.snd ++ s.awaiting.map Prod.snd) :=
      (List.subperm_append_left _).mpr hmoved
    simp only [queue, List.map_append, List.append_assoc, List.map_cons, List.map_nil,
      List.cons_append, List.nil_append]
    refine (List.subperm_append_left _).mpr (.trans ?_ hbehind)
    exact List.perm_middle.symm.subperm
  · exact List.Subperm.refl _

theorem mem_abort {s : Session} {id : Nat} {w : Task} :
    w ∈ (s.abort id).queue ↔ w ∈ s.queue ∧ w.id ≠ id := by
  simp only [queue, abort, List.mem_append, List.mem_map, List.mem_filter, decide_eq_true_eq]
  constructor
  · rintro ((⟨p, ⟨hp, hne⟩, rfl⟩ | ⟨p, ⟨hp, hne⟩, rfl⟩) | ⟨p, ⟨hp, hne⟩, rfl⟩)
    · exact ⟨.inl (.inl ⟨p, hp, rfl⟩), hne⟩
    · exact ⟨.inl (.inr ⟨p, hp, rfl⟩), hne⟩
    · exact ⟨.inr ⟨p, hp, rfl⟩, hne⟩
  · rintro ⟨(⟨p, hp, rfl⟩ | ⟨p, hp, rfl⟩) | ⟨p, hp, rfl⟩, hne⟩
    · exact .inl (.inl ⟨p, ⟨hp, hne⟩, rfl⟩)
    · exact .inl (.inr ⟨p, ⟨hp, hne⟩, rfl⟩)
    · exact .inr ⟨p, ⟨hp, hne⟩, rfl⟩

theorem abort_queue (s : Session) (id : Nat) : (s.abort id).queue.Sublist s.queue :=
  ((List.filter_sublist.map _).append (List.filter_sublist.map _)).append
    (List.filter_sublist.map _)

theorem dismiss_queue (s : Session) (id : Option Nat) :
    (s.dismiss id).queue.Sublist s.queue := by
  cases id with
  | none => exact .refl _
  | some i => exact s.abort_queue i

theorem follow_queue (s : Session) (sub : Subscription) :
    (s.follow sub).queue.Subperm (⟨s.nextTask, .detached, .subscribe sub⟩::s.queue) :=
  ((s.spawn .detached (.subscribe sub)).dismiss_queue s.live).subperm.trans
    (s.spawn_queue .detached (.subscribe sub)).subperm

theorem follow_nextTask (s : Session) (sub : Subscription) :
    (s.follow sub).nextTask = s.nextTask+1 := by
  unfold follow dismiss
  cases s.live <;> rfl

/-- Whoever waits waited before, or is new and begins under a number that was not yet drawn. -/
structure Grows (s t : Session) : Prop where
  nextTask : s.nextTask ≤ t.nextTask
  queue : ∃ new : List Task, t.queue.Subperm (new ++ s.queue) ∧ (new.map Task.id).Nodup ∧
    ∀ w ∈ new, s.nextTask ≤ w.id ∧ w.id < t.nextTask ∧ w.frame.starts = true

theorem Grows.kept (hnext : t.nextTask = s.nextTask) (h : t.queue.Subperm s.queue) : s.Grows t :=
  ⟨Nat.le_of_eq hnext.symm, [], h, .nil, List.forall_mem_nil _⟩

/-- New tasks begin under the next numbers. -/
theorem Grows.added (new : List Task) (h : t.queue.Subperm (new ++ s.queue))
    (hids : new.map Task.id = (List.range' s.nextTask new.length).reverse)
    (hnext : t.nextTask = s.nextTask + new.length) (hstarts : ∀ w ∈ new, w.frame.starts = true) :
    s.Grows t := by
  refine ⟨hnext ▸ Nat.le_add_right _ _, new, h, ?_, fun w hw => ?_⟩
  · rw [hids, List.nodup_reverse]
    exact List.nodup_range'
  · have hid : w.id ∈ List.range' s.nextTask new.length := by
      rw [← List.mem_reverse, ← hids]
      exact List.mem_map_of_mem hw
    rw [List.mem_range'_1, ← hnext] at hid
    exact ⟨hid.1, hid.2, hstarts w hw⟩

theorem Grows.trans (h : s.Grows t) (k : t.Grows u) : s.Grows u where
  nextTask := Nat.le_trans h.nextTask k.nextTask
  queue := by
    obtain ⟨new, hsub, hnodup, hnew⟩ := h.queue
    obtain ⟨more, hmsub, hmnodup, hmore⟩ := k.queue
    refine ⟨more ++ new, ?_, ?_, fun w hw => ?_⟩
    · rw [List.append_assoc]
      exact hmsub.trans ((List.subperm_append_left _).mpr hsub)
    · -- the later numbers are behind the counter that the earlier ones are below
      rw [List.map_append]
      refine hmnodup.append hnodup fun i hi hj => ?_
      obtain ⟨v, hv, rfl⟩ := List.mem_map.mp hi
      obtain ⟨w, hw, he⟩ := List.mem_map.mp hj
      have hv := (hmore v hv).1
      have hw := (hnew w hw).2.1
      omega
    · rcases List.mem_append.mp hw with hw | hw
      · obtain ⟨hge, hlt, hstarts⟩ := hmore w hw
        exact ⟨Nat.le_trans h.nextTask hge, hlt, hstarts⟩
      · obtain ⟨hge, hlt, hstarts⟩ := hnew w hw
        exact ⟨hge, Nat.lt_of_lt_of_le hlt k.nextTask, hstarts⟩

theorem Grows.mem (h : s.Grows t) {w : Task} (hw : w ∈ t.queue) :
    w ∈ s.queue ∨ s.nextTask ≤ w.id ∧ w.frame.starts = true := by
  obtain ⟨new, hsub, -, hnew⟩ := h.queue
  rcases List.mem_append.mp (hsub.subset hw) with hw | hw
  · obtain ⟨hge, -, hstarts⟩ := hnew w hw
    exact .inr ⟨hge, hstarts⟩
  · exact .inl hw

theorem Tidy.grows (h : s.Tidy) (k : s.Grows t) : t.Tidy := by
  obtain ⟨new, hsub, hnodup, hnew⟩ := k.queue
  refine ⟨nodup_of_subperm (subperm_map hsub Task.id) ?_, fun w hw => ?_⟩
  · rw [List.map_append]
    refine hnodup.append h.distinct fun i hi hj => ?_
    obtain ⟨v, hv, rfl⟩ := List.mem_map.mp hi
    obtain ⟨w, hw, he⟩ := List.mem_map.mp hj
    have hv := (hnew v hv).1
    have hw := h.drawn w hw
    omega
  · rcases List.mem_append.mp (hsub.subset hw) with hw | hw
    · exact (hnew w hw).2.1
    · exact Nat.lt_of_lt_of_le (h.drawn w hw) k.nextTask

theorem Supplies.resolved (s : Session) (k : Ticket) (b : Bool) : s.Supplies (s.resolve k b) := by
  unfold resolve
  split <;> exact ⟨id, id, id⟩

theorem Supplies.dismissed (s : Session) (old : Option Nat) : s.Supplies (s.dismiss old) := by
  cases old <;> exact ⟨id, id, id⟩

end Session

theorem Frame.starts_of_enlists {frame : Frame} (h : frame.enlists = true) :
    frame.starts = true := by
  cases frame with
  | begin | subscribe => rfl
  | _ => cases h

theorem Frame.isLive_of_enlists {frame : Frame} (h : frame.enlists = true) :
    frame.isLive = false := by
  cases frame with
  | subscribe sub => simpa [enlists, isLive] using h
  | begin => rfl
  | _ => cases h

section
variable {free : ElementRef → Prop} {s t : Session}

theorem QueueStep.grows (h : QueueStep free s t) : s.Grows t := by
  cases h with
  | aside h => exact .kept h.nextTask (h.queue ▸ .refl _)
  | enlisted name role hf =>
      exact .added [_] (s.spawn_queue role _).subperm rfl rfl
        (List.forall_mem_singleton.mpr (Frame.starts_of_enlists hf))
  | @pressed b e =>
      exact .added [_, _] (s.press_queue b _).subperm rfl rfl (by simp [Frame.starts])
  | followed =>
      exact .added [_] (s.follow_queue _) rfl (s.follow_nextTask _) (by simp [Frame.starts])
  | resolved k b =>
      refine .kept ?_ (s.resolve_queue k b)
      unfold Session.resolve
      split <;> rfl
  | aborted => exact .kept rfl (s.abort_queue _).subperm
  | switched => exact .kept rfl (.refl _)

theorem Queued.grows (h : Queued free s t) : s.Grows t := by
  induction h with
  | refl => exact .kept rfl (.refl _)
  | tail _ hstep ih => exact ih.trans hstep.grows

theorem QueueStep.handlers (h : QueueStep free s t) : s.handlers ⊆ t.handlers := by
  cases h with
  | aside h => exact h.handlers
  | followed =>
      unfold Session.follow Session.dismiss
      cases s.live <;> exact List.Subset.refl _
  | resolved k b =>
      unfold Session.resolve
      split <;> exact List.Subset.refl _
  | _ => exact List.Subset.refl _

theorem Queued.handlers (h : Queued free s t) : s.handlers ⊆ t.handlers := by
  induction h with
  | refl => exact List.Subset.refl _
  | tail _ hstep ih => exact List.Subset.trans ih hstep.handlers

theorem QueueStep.supplies (h : QueueStep free s t) : s.Supplies t := by
  cases h with
  | aside h => exact h.supplies
  | resolved k b => exact .resolved s k b
  | followed =>
      obtain ⟨hr, hn, ht⟩ := Session.Supplies.dismissed (s.spawn .detached (.subscribe _)) s.live
      exact ⟨hr, hn, ht⟩
  | _ => exact ⟨id, id, id⟩

theorem Queued.supplies (h : Queued free s t) : s.Supplies t := by
  induction h with
  | refl => exact .refl s
  | tail _ hstep ih => exact ih.trans hstep.supplies

end

namespace Queues
variable {free : ElementRef → Prop} {α β : Type}

instance pure (x : α) : Queues free (Pure.pure x : Act α) where
  queued _ s y t h := by
    cases h
    exact .refl

instance throw (e : Fault) : Queues free (throw e : Act α) where
  queued _ s y t h := by
    cases h
    exact .refl

instance gets (f : Session → α) : Queues free (gets f) where
  queued _ s y t h := by
    cases h
    exact .refl

instance script (commands : List Command) : Queues free (react (.script commands)) where
  queued hc s x t h := hc (.script commands) s x t (fun _ _ hr => nomatch hr) h

instance hook (commands : List Command) : Queues free (react (.hook commands)) where
  queued hc s x t h := hc (.hook commands) s x t (fun _ _ hr => nomatch hr) h

instance listener (l : Listener) (key : String) (v : Json) (source : Option Source) :
    Queues free (react (.listener l key v source)) where
  queued hc s x t h := hc (.listener l key v source) s x t (fun _ _ hr => nomatch hr) h

theorem seq {a : Act α} {f : α → Act β} (ha : Queues free a) (hf : ∀ x, Queues free (f x)) :
    Queues free (a >>= f) where
  queued hc s y t h := by
    obtain ⟨x, u, hu, ht⟩ | ⟨e, he, -⟩ := bind_cases h
    · exact (ha.queued hc s _ u hu).trans ((hf x).queued hc u y t ht)
    · exact ha.queued hc s _ t he

instance bind (a : Act α) (f : α → Act β) [Queues free a] [hf : ∀ x, Queues free (f x)] :
    Queues free (a >>= f) := seq inferInstance hf

instance attempt (a : Act Unit) [ha : Queues free a] : Queues free (attempt a) where
  queued hc s y t h := by
    obtain ⟨x, hx, -⟩ := attempt_cases h
    exact ha.queued hc s x t hx

instance outcome (a : Act α) [ha : Queues free a] : Queues free (outcome a) where
  queued hc s y t h := by
    obtain ⟨x, hx, -⟩ := outcome_cases h
    exact ha.queued hc s x t hx

instance discard (a : Act α) [Queues free a] : Queues free (discard a) :=
  inferInstanceAs (Queues free (a >>= fun _ => Pure.pure ()))

instance ite (c : Prop) [Decidable c] (a b : Act α) [ha : Queues free a] [hb : Queues free b] :
    Queues free (if c then a else b) := by
  split
  · exact ha
  · exact hb

instance forIn (l : List β) (u : α) (f : β → α → Act (ForInStep α))
    [hf : ∀ x u, Queues free (f x u)] : Queues free (ForIn.forIn l u f) := by
  induction l generalizing u with
  | nil => exact pure u
  | cons x l ih =>
      rw [List.forIn_cons]
      have hrest (step : ForInStep α) : Queues free (match step with
          | .done v => Pure.pure v
          | .yield v => ForIn.forIn l v f) := by
        cases step with
        | done v => exact pure v
        | yield v => exact ih v
      exact bind _ _

theorem change {f : Session → Session} (h : ∀ s : Session, Queued free s (f s)) :
    Queues free (change f) where
  queued _ s y t hf := by
    cases hf
    exact h s

/-- A change that goes on aside. -/
theorem aside {f : Session → Session} (h : ∀ s : Session, s.Aside (f s)) :
    Queues free (Act.change f) :=
  change fun s => .single (.aside (h s))

theorem ending {a : Act α} {f : Session → Session} [ha : Queues free a]
    (h : ∀ s : Session, s.Aside (f s)) : Queues free (a.ending f) where
  queued hc s x t hr := by
    obtain ⟨u, hu, rfl⟩ := ending_cases hr
    exact (ha.queued hc s x u hu).tail (.aside (h u))

instance emit (e : Event) : Queues free (emit e) := aside fun _ => .apart rfl

end Queues
end ScreenBinding
