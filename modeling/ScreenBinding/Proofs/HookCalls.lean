import ScreenBinding.Proofs.OwnEvents

/-!
# Which hooks are called

The hooks of a form are callbacks of the host. An event tells that one is called, but the event
alone does not say that the commands of the hook are run. To see this an act is run once more with
callbacks that do what they did and record nothing, except that each hook leaves a mark. Nothing
looks at the trace, so this run goes the same way, and for marks of any choice it shows the notes of
the act: the events that it records itself and the hooks that it calls, with the session in which
it calls them, in order. The notes of a run are determined by this.

Every act built of the primitives has notes. Many acts call no hook: they do not tell callbacks
apart that differ in hooks only. Their notes are their own events.
-/
namespace ScreenBinding
open Act

def Reaction.isHook : Reaction → Bool
  | .hook _ => true
  | _ => false

/-- What is noted of a task: an event that it records itself, a hook that it calls in a session,
but for its trace, and where it is resumed with an answer. -/
inductive Note where
  | event (e : Event)
  | called (commands : List Command) (s : Session)
  | resumed (s : Session) (answer : Bool)

namespace Note

def event? : Note → Option Event
  | event e => some e
  | _ => none

def called? : Note → Option (List Command)
  | called commands _ => some commands
  | _ => none

def isResumed : Note → Bool
  | resumed .. => true
  | _ => false

/-- What a trace shows of a note, if hooks leave marks. -/
def marks (mark : List Command → Session → List Event) : Note → List Event
  | event e => [e]
  | called commands s => mark commands s
  | resumed .. => []

def events (notes : List Note) : List Event := notes.filterMap event?

def calls (notes : List Note) : List (List Command) := notes.filterMap called?

theorem events_append (notes more : List Note) :
    events (notes ++ more) = events notes ++ events more := List.filterMap_append

theorem calls_append (notes more : List Note) :
    calls (notes ++ more) = calls notes ++ calls more := List.filterMap_append

@[simp] theorem events_map_event (l : List Event) : events (l.map event) = l := by
  simp [events, event?, List.filterMap_map, Function.comp_def]

@[simp] theorem calls_map_event (l : List Event) : calls (l.map event) = [] := by
  simp [calls, called?, List.filterMap_map, Function.comp_def]

@[simp] theorem flatMap_marks_event (mark : List Command → Session → List Event) (l : List Event) :
    (l.map event).flatMap (marks mark) = l := by
  induction l with
  | nil => rfl
  | cons e l ih => exact congrArg (e::·) ih

/-- Without marks only the events are shown. -/
theorem flatMap_marks_nil (notes : List Note) :
    notes.flatMap (marks fun _ _ => []) = events notes := by
  induction notes with
  | nil => rfl
  | cons note notes ih =>
      rw [List.flatMap_cons, ih]
      cases note <;> rfl

/-- A note with a mark of one event for each hook. -/
def shown (m : List Command → Session → Event) : Note → Event
  | event e => e
  | called commands s => m commands s
  | resumed .. => .failed

/-- Marks of any choice tell a hook from every event, and from every other hook. -/
theorem eq_of_shown {note other : Note} (hn : note.isResumed = false) (ho : other.isResumed = false)
    (h : ∀ m, note.shown m = other.shown m) : note = other := by
  have hevent {e : Event} (he : ∀ d : Event, d = e) : False := by
    cases (he .failed).trans (he .modalsClosed).symm
  cases note with
  | resumed s answer => cases hn
  | event e =>
      cases other with
      | resumed s answer => cases ho
      | event d => exact congrArg event (h fun _ _ => .failed)
      | called commands s => exact (hevent fun d => (h fun _ _ => d).symm).elim
  | called commands s =>
      cases other with
      | resumed t answer => cases ho
      | event e => exact (hevent fun d => h fun _ _ => d).elim
      | called others t =>
          classical
          have hmark := h fun c u => if c = commands ∧ u = s then .failed else .modalsClosed
          by_cases hsame : others = commands ∧ t = s
          · rw [hsame.1, hsame.2]
          · simp [shown, hsame] at hmark

theorem eq_of_map_shown {notes more : List Note} (hn : ∀ note ∈ notes, note.isResumed = false)
    (hm : ∀ note ∈ more, note.isResumed = false)
    (h : ∀ m, notes.map (shown m) = more.map (shown m)) : notes = more := by
  induction notes generalizing more with
  | nil => exact (List.map_eq_nil_iff.mp (h fun _ _ => .failed).symm).symm
  | cons note notes ih =>
      cases more with
      | nil => cases h fun _ _ => .failed
      | cons other more =>
          obtain ⟨hnote, hnotes⟩ := List.forall_mem_cons.mp hn
          obtain ⟨hother, hmore⟩ := List.forall_mem_cons.mp hm
          have hfirst := eq_of_shown hnote hother fun m => (List.cons.inj (h m)).1
          have hrest := ih hnotes hmore fun m => (List.cons.inj (h m)).2
          rw [hfirst, hrest]

theorem flatMap_marks_single (m : List Command → Session → Event) {notes : List Note}
    (hn : ∀ note ∈ notes, note.isResumed = false) :
    notes.flatMap (marks fun commands s => [m commands s]) = notes.map (shown m) := by
  induction notes with
  | nil => rfl
  | cons note notes ih =>
      obtain ⟨hnote, hnotes⟩ := List.forall_mem_cons.mp hn
      rw [List.flatMap_cons, ih hnotes]
      cases note with
      | resumed s answer => cases hnote
      | _ => rfl

end Note

namespace Act
variable {α β : Type} {n : Nat}

/-- The same callbacks, but what they record is dropped, and hooks leave marks. -/
def marking (mark : List Command → Session → List Event) (carry : React) : React := fun r s =>
  (carry r s).map fun p => (p.1, p.2.retrace ((match r with
    | .hook commands => (mark commands (s.retrace [])).reverse
    | _ => []) ++ s.trace))

/-- What is noted of a run from `s` to `t`: with marks of any choice, it ends likewise and leaves
the marks of these notes. -/
structure Notes (n : Nat) (a : Act α) (s : Session) (notes : List Note) (x : Except Fault α)
    (t : Session) : Prop where
  steady : ∀ note ∈ notes, note.isResumed = false
  marked : ∀ mark T, a (marking mark (cascade n)) (s.retrace T) =
    some (x, t.retrace ((notes.flatMap (Note.marks mark)).reverse ++ T))

section
variable {a : Act α} {s t u : Session} {x y : Except Fault α} {notes more : List Note}

/-- The notes of a run are determined. -/
theorem Notes.unique (h : Notes n a s notes x t) (k : Notes n a s more y u) : notes = more := by
  refine Note.eq_of_map_shown h.steady k.steady fun m => ?_
  rw [← Note.flatMap_marks_single m h.steady, ← Note.flatMap_marks_single m k.steady]
  have hsame := (h.marked (fun commands s => [m commands s]) []).symm.trans (k.marked _ [])
  have htrace := congrArg Session.trace (Prod.mk.inj (Option.some.inj hsame)).2
  simpa [Session.retrace] using htrace

/-- Without marks the notes show what the act records itself. -/
theorem Notes.own (h : Notes n a s notes x t) : a.own (cascade n) s = Note.events notes := by
  have hhush : hush (cascade n) = marking (fun _ _ => []) (cascade n) := by
    funext r s
    cases r <;> rfl
  rw [Act.own, hhush, h.marked, Note.flatMap_marks_nil]
  simp [Session.retrace]

theorem Notes.pure (v : α) : Notes n (Pure.pure v : Act α) s [] (.ok v) s where
  steady := List.forall_mem_nil _
  marked _ _ := rfl

theorem Notes.emit (e : Event) :
    Notes n (emit e) s [.event e] (.ok ()) { s with trace := e::s.trace } where
  steady := by simp [Note.isResumed]
  marked _ _ := rfl

theorem Notes.bind {f : α → Act β} {v : α} {y : Except Fault β} (h : Notes n a s notes (.ok v) t)
    (k : Notes n (f v) t more y u) : Notes n (a >>= f) s (notes ++ more) y u where
  steady := List.forall_mem_append.mpr ⟨h.steady, k.steady⟩
  marked mark T := by
    rw [run_bind_ok (h.marked mark T), k.marked, List.flatMap_append, List.reverse_append,
      List.append_assoc]

/-- Before it the session is looked at. -/
theorem Notes.looked {γ : Type} {f : Session → γ} {g : γ → Act α}
    (hf : ∀ s T, f (s.retrace T) = f s) (h : Notes n (g (f s)) s notes x t) :
    Notes n (gets f >>= g) s notes x t where
  steady := h.steady
  marked mark T := by rw [run_bind_ok (run_gets f), hf, h.marked]

/-- Before it the session is changed in what is no event. -/
theorem Notes.changed {f : Session → Session} {g : Unit → Act α} (hf : Unseen f)
    (h : Notes n (g ()) (f s) notes x t) : Notes n (change f >>= g) s notes x t where
  steady := h.steady
  marked mark T := by rw [run_bind_ok (run_change f), hf.trace, h.marked]

theorem Notes.bind_error {f : α → Act β} {e : Fault} (h : Notes n a s notes (.error e) t) :
    Notes n (a >>= f) s notes (.error e) t where
  steady := h.steady
  marked mark T := run_bind_error (h.marked mark T)

end

/-- An act that does not tell callbacks apart that differ in hooks only: it calls none. -/
class Hookless (a : Act α) : Prop where
  same : ∀ {carry carry' : React}, (∀ r, r.isHook = false → carry r = carry' r) → a carry = a carry'

namespace Hookless

instance pure (x : α) : Hookless (Pure.pure x : Act α) := ⟨fun _ => rfl⟩

instance throw (e : Fault) : Hookless (throw e : Act α) := ⟨fun _ => rfl⟩

instance gets (f : Session → α) : Hookless (gets f) := ⟨fun _ => rfl⟩

instance change (f : Session → Session) : Hookless (change f) := ⟨fun _ => rfl⟩

instance emit (e : Event) : Hookless (emit e) := ⟨fun _ => rfl⟩

instance listener (l : Listener) (key : String) (v : Json) (source : Option Source) :
    Hookless (react (.listener l key v source)) := ⟨fun h => h _ rfl⟩

instance handler (x : Handler) (e : ElementRef) : Hookless (react (.handler x e)) :=
  ⟨fun h => h _ rfl⟩

instance script (commands : List Command) : Hookless (react (.script commands)) :=
  ⟨fun h => h _ rfl⟩

theorem seq {a : Act α} {f : α → Act β} (ha : Hookless a) (hf : ∀ x, Hookless (f x)) :
    Hookless (a >>= f) where
  same {carry carry'} h := by
    change (a carry >>= fun x => f x carry) = a carry' >>= fun x => f x carry'
    rw [ha.same h]
    exact congrArg (a carry' >>= ·) (funext fun x => (hf x).same h)

instance bind (a : Act α) (f : α → Act β) [Hookless a] [hf : ∀ x, Hookless (f x)] :
    Hookless (a >>= f) := seq inferInstance hf

instance attempt (a : Act Unit) [ha : Hookless a] : Hookless (attempt a) where
  same h := by
    funext s
    rw [run_attempt, run_attempt, ha.same h]

instance outcome (a : Act α) [ha : Hookless a] : Hookless (outcome a) where
  same h := by
    funext s
    rw [run_outcome, run_outcome, ha.same h]

instance ending (a : Act α) (f : Session → Session) [ha : Hookless a] : Hookless (a.ending f) where
  same h := by
    funext s
    rw [run_ending, run_ending, ha.same h]

instance discard (a : Act α) [Hookless a] : Hookless (discard a) :=
  inferInstanceAs (Hookless (a >>= fun _ => Pure.pure ()))

instance ite (c : Prop) [Decidable c] (a b : Act α) [ha : Hookless a] [hb : Hookless b] :
    Hookless (if c then a else b) := by
  split
  · exact ha
  · exact hb

instance forIn (l : List β) (u : α) (f : β → α → Act (ForInStep α))
    [hf : ∀ x u, Hookless (f x u)] : Hookless (ForIn.forIn l u f) := by
  induction l generalizing u with
  | nil => exact pure u
  | cons x l ih =>
      rw [List.forIn_cons]
      have hrest (step : ForInStep α) : Hookless (match step with
          | .done v => Pure.pure v
          | .yield v => ForIn.forIn l v f) := by
        cases step with
        | done v => exact pure v
        | yield v => exact ih v
      exact bind _ _

end Hookless

instance (key : String) (v : Json) (source : Option Source) : Hookless (store key v source) := by
  unfold store; infer_instance

instance (key : String) (v : Json) (source : Option Source) : Hookless (notify key v source) := by
  unfold notify; infer_instance

instance (key : String) (v : Json) (source : Option Source) : Hookless (write key v source) := by
  unfold write; infer_instance

section
variable {a : Act α} {P : Event → Prop} {s t : Session} {x : Except Fault α}

/-- An act that calls no hook is noted by its own events. -/
theorem Hookless.notes (h : Hookless a) (hb : Built P a) (ha : a.settle n s = some (x, t)) :
    ∃ l : List Event, (∀ e ∈ l, P e) ∧ Notes n a s (l.map .event) x t := by
  obtain ⟨new, hnew, hn⟩ := hb.mirrors (hush_mirrors (cascade_mirrors n)) s x t ha
  refine ⟨new.reverse, fun e he => hnew e (List.mem_reverse.mp he), ?_, fun mark T => ?_⟩
  · simp [Note.isResumed]
  · have hsame : a (marking mark (cascade n)) = a (hush (cascade n)) := by
      refine h.same fun r hr => ?_
      cases r with
      | hook commands => cases hr
      | _ => rfl
    rw [hsame, hn, Note.flatMap_marks_event, List.reverse_reverse]

/-- A hook that is called is run. -/
theorem settle_hook {commands : List Command} {x : Except Fault Unit}
    (h : (react (.hook commands)).settle n s = some (x, t)) :
    ∃ m, (runAll commands).settle m s = some (x, t) := by
  cases n with
  | zero => cases h
  | succ m => exact ⟨m, h⟩

theorem Notes.hook {commands : List Command} {x : Except Fault Unit}
    (h : (react (.hook commands)).settle n s = some (x, t)) :
    Notes n (react (.hook commands)) s [.called commands (s.retrace [])] x t where
  steady := by simp [Note.isResumed]
  marked mark T := by
    obtain ⟨new, -, hn⟩ := cascade_mirrors n (.hook commands) s x t h
    change (cascade n (.hook commands) (s.retrace T)).map _ = _
    rw [hn T]
    simp [Note.marks, Session.retrace]

theorem Notes.attempt {a : Act Unit} {x : Except Fault Unit} {notes : List Note}
    (h : Notes n a s notes x t) : Notes n (attempt a) s notes (.ok ()) t where
  steady := h.steady
  marked mark T := by
    rw [run_attempt, h.marked]
    rfl

theorem Notes.outcome {notes : List Note} (h : Notes n a s notes x t) :
    Notes n (outcome a) s notes (.ok x) t where
  steady := h.steady
  marked mark T := by
    rw [run_outcome, h.marked]
    rfl

theorem Notes.ending {notes : List Note} {f : Session → Session} (h : Notes n a s notes x t)
    (hf : Unseen f) : Notes n (a.ending f) s notes x (f t) where
  steady := h.steady
  marked mark T := by
    rw [run_ending, h.marked, Option.map_some, hf.trace]

/-- Every run of an act built of the primitives is noted. -/
theorem noted_of_built (h : Built P a) (ha : a.settle n s = some (x, t)) :
    ∃ notes, Notes n a s notes x t := by
  have hplain {α : Type} {a : Act α} [hl : Hookless a] {s t : Session} {x : Except Fault α}
      (hb : Built P a) (ha : a.settle n s = some (x, t)) : ∃ notes, Notes n a s notes x t :=
    let ⟨_, _, hnotes⟩ := hl.notes hb ha
    ⟨_, hnotes⟩
  induction h generalizing s t with
  | pure v => exact hplain (.pure v) ha
  | throw e => exact hplain (.throw e) ha
  | gets hf => exact hplain (.gets hf) ha
  | change hf => exact hplain (.change hf) ha
  | emit he hw => exact hplain (.emit he hw) ha
  | write he => exact hplain (.write he) ha
  | react r =>
      cases r with
      | hook commands => exact ⟨_, .hook ha⟩
      | _ => exact hplain (.react _) ha
  | bind _ _ iha ihf =>
      obtain ⟨v, u, hu, ht⟩ | ⟨e, he, rfl⟩ := bind_cases ha
      · obtain ⟨notes, hnotes⟩ := iha hu
        obtain ⟨more, hmore⟩ := ihf v ht
        exact ⟨_, hnotes.bind hmore⟩
      · obtain ⟨notes, hnotes⟩ := iha he
        exact ⟨_, hnotes.bind_error⟩
  | attempt _ ih =>
      obtain ⟨y, hy, rfl⟩ := attempt_cases ha
      obtain ⟨notes, hnotes⟩ := ih hy
      exact ⟨_, hnotes.attempt⟩
  | outcome _ ih =>
      obtain ⟨y, hy, rfl⟩ := outcome_cases ha
      obtain ⟨notes, hnotes⟩ := ih hy
      exact ⟨_, hnotes.outcome⟩
  | ending _ hf ih =>
      obtain ⟨u, hu, rfl⟩ := ending_cases ha
      obtain ⟨notes, hnotes⟩ := ih hu
      exact ⟨_, hnotes.ending hf⟩

end

/-- Whenever the act ends, `G` holds of its notes and of its result. -/
def Tells (n : Nat) (a : Act α) (G : List Note → Except Fault α → Prop) : Prop :=
  ∀ s x t, a.settle n s = some (x, t) → ∃ notes, Notes n a s notes x t ∧ G notes x

namespace Tells
variable {G : List Note → Except Fault α → Prop}

theorem mono {a : Act α} {H : List Note → Except Fault α → Prop} (h : Tells n a G)
    (hi : ∀ notes x, G notes x → H notes x) : Tells n a H := by
  intro s x t ha
  obtain ⟨notes, hnotes, hg⟩ := h s x t ha
  exact ⟨notes, hnotes, hi notes x hg⟩

theorem of_hookless {P : Event → Prop} {a : Act α} [hl : Hookless a] (hb : Built P a) :
    Tells n a fun notes _ => ∃ l : List Event, (∀ e ∈ l, P e) ∧ notes = l.map .event := by
  intro s x t ha
  obtain ⟨l, hp, hnotes⟩ := hl.notes hb ha
  exact ⟨_, hnotes, l, hp, rfl⟩

/-- What is neither recorded nor called is not noted. -/
theorem silent {a : Act α} [Hookless a] (hb : Built (fun _ => False) a) :
    Tells n a fun notes _ => notes = [] :=
  (of_hookless hb).mono fun notes x h => by
    obtain ⟨l, hl, rfl⟩ := h
    rw [List.eq_nil_iff_forall_not_mem.mpr fun e he => hl e he]
    rfl

theorem pure {x : α} (h : G [] (.ok x)) : Tells n (Pure.pure x) G := by
  intro s y t ha
  cases ha
  exact ⟨_, .pure x, h⟩

theorem throw {e : Fault} (h : G [] (.error e)) : Tells n (throw e : Act α) G := by
  intro s y t ha
  obtain ⟨notes, hnotes, rfl⟩ := silent (.throw e) s y t ha
  cases ha
  exact ⟨_, hnotes, h⟩

theorem emit (e : Event) :
    Tells n (Act.emit e) fun notes x => notes = [.event e] ∧ x = .ok () := by
  intro s x t ha
  cases ha
  exact ⟨_, .emit e, rfl, rfl⟩

theorem bind {a : Act α} {f : α → Act β} {H : List Note → Except Fault β → Prop}
    (ha : Tells n a G) (hf : ∀ notes x, G notes (.ok x) → Tells n (f x) fun more y =>
      H (notes ++ more) y)
    (he : ∀ notes e, G notes (.error e) → H notes (.error e)) : Tells n (a >>= f) H := by
  intro s y u h
  obtain ⟨x, t, hx, hu⟩ | ⟨e, hx, rfl⟩ := bind_cases h
  · obtain ⟨notes, hnotes, hg⟩ := ha s _ t hx
    obtain ⟨more, hmore, hh⟩ := hf notes x hg t y u hu
    exact ⟨_, hnotes.bind hmore, hh⟩
  · obtain ⟨notes, hnotes, hg⟩ := ha s _ u hx
    exact ⟨_, hnotes.bind_error, he _ e hg⟩

end Tells
end Act
end ScreenBinding
