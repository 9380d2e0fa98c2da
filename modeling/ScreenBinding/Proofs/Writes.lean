import ScreenBinding.Proofs.Running

/-!
# The writes of a run

Every write of the state leaves a `stored` event, so the trace tells which writes a session has
made. `Wrote ws` relates two sessions between which exactly the writes `ws` were made while
everything that decides who is notified stayed as it was. The elements, the tasks and the other
events may have changed; nothing here is said about them.
-/
namespace ScreenBinding

/-- An entry of two lists in a row stands in one of them. -/
theorem split_append {α : Type} {l m a b : List α} {e : α} (h : l ++ m = a ++ e::b) :
    (∃ c, l = a ++ e::c ∧ b = c ++ m) ∨ ∃ c, m = c ++ e::b ∧ a = l ++ c := by
  rcases List.append_eq_append_iff.mp h with ⟨c, ha, hm⟩ | ⟨c, hl, he⟩
  · exact .inr ⟨c, hm, ha⟩
  · rcases List.cons_eq_append_iff.mp he with ⟨rfl, hm⟩ | ⟨d, rfl, hb⟩
    · exact .inr ⟨[], hm, by simpa using hl.symm⟩
    · exact .inl ⟨d, hl, hb⟩

/-- An entry of a list that is one longer is the last one, or stood there before. -/
theorem split_last {α : Type} {l a b : List α} {x e : α} (h : l ++ [x] = a ++ e::b) :
    (a = l ∧ e = x ∧ b = []) ∨ ∃ c, b = c ++ [x] ∧ l = a ++ e::c := by
  obtain ⟨c, hl, hb⟩ | ⟨c, hx, ha⟩ := split_append h
  · exact .inr ⟨c, hb, hl⟩
  · obtain ⟨rfl, he⟩ | ⟨-, he⟩ := List.singleton_eq_append_iff.mp hx
    · cases he
      exact .inl ⟨ha.trans (List.append_nil l), rfl, rfl⟩
    · cases he

/-- One write of the state. -/
structure Write where
  key : String
  value : Json
  source : Option Source

def Write.target (w : Write) : String × Option Source := (w.key, w.source)

def Event.write? : Event → Option Write
  | .stored key value source => some ⟨key, value, source⟩
  | _ => none

/-- The state after some writes. -/
def Table.written (values : Fields) (ws : List Write) : Fields :=
  ws.foldl (fun t w => Table.put t w.key w.value) values

theorem Table.written_append (values : Fields) (ws us : List Write) :
    Table.written values (ws ++ us) = Table.written (Table.written values ws) us :=
  List.foldl_append

/-- Entries as writes under a source. -/
def Table.writesBy (values : Fields) (source : Option Source) : List Write :=
  values.map fun entry => ⟨entry.1, entry.2, source⟩

theorem Table.written_writesBy (values entries : Fields) (source : Option Source) :
    Table.written values (Table.writesBy entries source) = Table.overlay values entries := by
  rw [written, writesBy, List.foldl_map, overlay]

namespace Session

/-- All writes of a session, the earliest first. -/
def writes (s : Session) : List Write := s.trace.reverse.filterMap Event.write?

theorem writes_of_trace {s t : Session} {new : List Event} (h : t.trace = new ++ s.trace) :
    t.writes = s.writes ++ new.reverse.filterMap Event.write? := by
  rw [writes, writes, h, List.reverse_append, List.filterMap_append]

theorem writes_of_plain {s t : Session} {new : List Event} (h : t.trace = new ++ s.trace)
    (hn : ∀ e ∈ new, e.write? = none) : t.writes = s.writes := by
  have hnone : new.reverse.filterMap Event.write? = [] :=
    List.filterMap_eq_nil_iff.mpr fun e he => hn e (List.mem_reverse.mp he)
  rw [writes_of_trace h, hnone, List.append_nil]

theorem writes_emit (s : Session) (e : Event) :
    { s with trace := e::s.trace }.writes = s.writes ++ (e.write?).toList := by
  have ht : { s with trace := e::s.trace }.trace = [e] ++ s.trace := rfl
  rw [writes_of_trace ht]
  cases h : e.write? <;> simp [h]

/-- Exactly the writes `ws` lie between two sessions with the same callbacks. -/
structure Wrote (ws : List Write) (s t : Session) : Prop where
  values : t.values = Table.written s.values ws
  writes : t.writes = s.writes ++ ws
  listeners : t.listeners = s.listeners
  handlers : t.handlers = s.handlers
  evaluators : t.evaluators = s.evaluators
  connectors : t.connectors = s.connectors
  loading : t.loading = s.loading

theorem Wrote.refl (s : Session) : Wrote [] s s :=
  ⟨rfl, (List.append_nil _).symm, rfl, rfl, rfl, rfl, rfl⟩

theorem Wrote.trans {ws us : List Write} {s t u : Session} (h : Wrote ws s t)
    (k : Wrote us t u) : Wrote (ws ++ us) s u where
  values := by rw [k.values, h.values, Table.written_append]
  writes := by rw [k.writes, h.writes, List.append_assoc]
  listeners := k.listeners.trans h.listeners
  handlers := k.handlers.trans h.handlers
  evaluators := k.evaluators.trans h.evaluators
  connectors := k.connectors.trans h.connectors
  loading := k.loading.trans h.loading

/-- An event that is no write leaves the state as it is. -/
theorem Wrote.emit (s : Session) {e : Event} (h : e.write? = none) :
    Wrote [] s { s with trace := e::s.trace } where
  values := rfl
  writes := by rw [writes_emit, h, Option.toList_none]
  listeners := rfl
  handlers := rfl
  evaluators := rfl
  connectors := rfl
  loading := rfl

/-- Storing a value is a write. -/
theorem Wrote.stored (s : Session) (key : String) (value : Json) (source : Option Source) :
    Wrote [⟨key, value, source⟩] s
      { s with values := Table.put s.values key value,
               trace := .stored key value source::s.trace } where
  values := rfl
  writes := by
    change Session.writes { s with trace := .stored key value source::s.trace } = _
    rw [writes_emit]
    rfl
  listeners := rfl
  handlers := rfl
  evaluators := rfl
  connectors := rfl
  loading := rfl

/-- What is shown in the elements is no matter of the state. -/
theorem Wrote.elements (s : Session) (elements : List Element) :
    Wrote [] s { s with elements } :=
  ⟨rfl, (List.append_nil _).symm, rfl, rfl, rfl, rfl, rfl⟩

end Session
end ScreenBinding
