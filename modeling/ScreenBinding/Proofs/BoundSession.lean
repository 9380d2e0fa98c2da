import ScreenBinding.Proofs.Binding

/-!
# Bound sessions

A session is followed from its creation through connections, edits, loads and writes in any order
and number. Other callbacks may be registered as long as they are quiet, and between two acts the
host may change all that is neither a callback nor the loading depth. In each session reached in
this way an edit makes exactly the writes of the save connections of its element, and a write makes
no further one.

Fuel appears as four levels below an edit and three below a write, which always suffice. Which
values the saves of one edit write is not stated: a later save may see what an earlier one loaded
back into the element.
-/
namespace ScreenBinding
open Session (Wrote)
open Act

/-- Where the connections write when an element is edited: those of its save connections that
store, in order of registration. -/
def saveTargets (conns : List Connection) (e : ElementRef) : List (String × Option Source) :=
  (conns.filter fun c =>
    c.trigger = .save && c.element = e && (Directive.parse c.directive).saves).map fun c =>
      ((Directive.parse c.directive).key, c.source)

theorem saveTargets_append (conns rest : List Connection) (e : ElementRef) :
    saveTargets (conns ++ rest) e = saveTargets conns e ++ saveTargets rest e := by
  simp only [saveTargets, List.filter_append, List.map_append]

/-- Load connections take no part. -/
theorem saveTargets_filter (conns : List Connection) (e : ElementRef) :
    saveTargets (conns.filter (·.trigger = .save)) e = saveTargets conns e := by
  rw [saveTargets, saveTargets, List.filter_filter]
  congr 1
  refine List.filter_congr fun c _ => ?_
  cases c.trigger <;> simp

theorem saveTargets_save (directive : String) (e e' : ElementRef) (source : Option Source) :
    saveTargets [⟨.save, directive, e, source⟩] e' =
      if e = e' then savedTo directive source else [] := by
  by_cases he : e = e' <;> cases hd : (Directive.parse directive).saves <;>
    simp [saveTargets, savedTo, he, hd]

/-- One registration writes, on a change of `e`, where its save connection does. -/
theorem targets_save? (r : Registration) (e : ElementRef) :
    (if r.element = e && r.event = .change then r.handler.targets else []) =
      saveTargets r.save?.toList e := by
  obtain ⟨x, event, h⟩ := r
  cases h with
  | save directive source =>
      cases event with
      | change => simp [Registration.save?, saveTargets_save, Handler.targets]
      | blur => simp [Registration.save?, saveTargets]
      | click => simp [Registration.save?, saveTargets]
  | _ => cases event <;> simp [Registration.save?, saveTargets, Handler.targets]

/-- The handlers of an element write where its save connections do. -/
theorem flatMap_targets (s : Session) (e : ElementRef) :
    (s.handlersOf e .change).flatMap Handler.targets =
      saveTargets (s.handlers.filterMap Registration.save?) e := by
  rw [Session.handlersOf]
  induction s.handlers with
  | nil => rfl
  | cons r rs ih =>
      have hr := targets_save? r e
      have hc : (r::rs).filterMap Registration.save? =
          r.save?.toList ++ rs.filterMap Registration.save? := by
        cases h : r.save? <;> simp [h]
      rw [hc, saveTargets_append, ← ih, ← hr, List.filter_cons]
      split <;> rfl

/-- What a host does to elements and state. -/
inductive Deed where
  | type (e : ElementRef) (text : String)
  | put (e : ElementRef) (v : Json)
  | write (key : String) (v : Json) (source : Option Source)
  | merge (key : String) (v : Json) (source : Option Source)
  | bulk (values : Fields) (source : Option Source)
  | execute (t : Trigger) (directives : List String) (carried : Option Json) (e : ElementRef)
      (source : Option Source)

def Deed.act : Deed → Act Unit
  | type e text => Act.type e text
  | put e v => Act.put e v
  | write key v source => discard (Act.write key v source)
  | merge key v source => Act.merge key v source
  | bulk values source => writeAll values source
  | execute t directives carried e source => executeAll t carried e source directives

/-- The sessions that a host can bring about with these connections. -/
inductive Reached : List Connection → Session → Prop
  | fresh {s : Session} : s.evaluators = [] → s.connectors = [] → s.listeners = [] →
      s.handlers = [] → s.loading = 0 → Reached [] s
  | connected {conns : List Connection} {s t : Session} {r : Except Fault Unit}
      (c : Connection) (n : Nat) : Reached conns s →
      (connect c.trigger c.directive c.element c.source).settle n s = some (r, t) →
      Reached (conns ++ [c]) t
  | listening {conns : List Connection} {s t : Session} {r : Except Fault Unit}
      (keys : List String) (l : Listener) (n : Nat) : Reached conns s → l.Quiet →
      (listen keys l).settle n s = some (r, t) → Reached conns t
  | watching {conns : List Connection} {s t : Session} {r : Except Fault Unit}
      (e : ElementRef) (label : String) (actions : List Command) (n : Nat) : Reached conns s →
      QuietScript actions → (onEvent e .change (.watch label actions)).settle n s = some (r, t) →
      Reached conns t
  | handling {conns : List Connection} {s t : Session} {r : Except Fault Unit}
      (e : ElementRef) (event : EventKind) (h : Handler) (n : Nat) : Reached conns s →
      event ≠ .change → (onEvent e event h).settle n s = some (r, t) → Reached conns t
  | done {conns : List Connection} {s t : Session} {r : Except Fault Unit} (d : Deed) (n : Nat) :
      Reached conns s → d.act.settle (n+4) s = some (r, t) → Reached conns t
  | other {conns : List Connection} {s t : Session} : Reached conns s →
      t.listeners = s.listeners → t.handlers = s.handlers → t.evaluators = s.evaluators →
      t.connectors = s.connectors → t.loading = s.loading → Reached conns t

namespace Act
section
variable {α β : Type} {saves : List Connection} {depth n : Nat} {carry : React}

/-- Ends, with or without a fault, after some writes. -/
def Settles (saves : List Connection) (depth : Nat) (carry : React) (a : Act α) : Prop :=
  ∀ s, Linked saves depth s → ∃ r t ws, a carry s = some (r, t) ∧ Wrote ws s t

theorem Calm.settles {a : Act α} (h : Calm saves depth carry a) : Settles saves depth carry a :=
  fun s hs => let ⟨r, t, hr, ht⟩ := h s hs; ⟨r, t, [], hr, ht⟩

theorem Makes.settles {a : Act α} {ts : List (String × Option Source)}
    (h : Makes saves depth carry a ts) : Settles saves depth carry a :=
  fun s hs => let ⟨x, t, ws, hr, ht, _⟩ := h s hs; ⟨.ok x, t, ws, hr, ht⟩

theorem Settles.bind {a : Act α} {f : α → Act β} (ha : Settles saves depth carry a)
    (hf : ∀ x, Settles saves depth carry (f x)) : Settles saves depth carry (a >>= f) := by
  intro s hs
  obtain ⟨r, t, ws, hr, ht⟩ := ha s hs
  cases r with
  | error e => exact ⟨_, t, ws, run_bind_error hr, ht⟩
  | ok x =>
      obtain ⟨r, u, vs, hu, hw⟩ := hf x t (hs.wrote ht)
      exact ⟨r, u, ws ++ vs, (run_bind_ok hr).trans hu, ht.trans hw⟩

theorem Settles.outcome {a : Act α} (h : Settles saves depth carry a) :
    Settles saves depth carry (Act.outcome a) := by
  intro s hs
  obtain ⟨r, t, ws, hr, ht⟩ := h s hs
  exact ⟨.ok r, t, ws, by rw [run_outcome, hr]; rfl, ht⟩

/-- The only session that an act can end in is the one it settles in. -/
theorem Settles.linked {a : Act α} {r : Except Fault α} {s t : Session}
    (h : Settles saves depth carry a) (hs : Linked saves depth s) (hr : a carry s = some (r, t)) :
    Linked saves depth t := by
  obtain ⟨_, u, ws, hu, hw⟩ := h s hs
  cases hr.symm.trans hu
  exact hs.wrote hw

theorem settles_execute (t : Trigger) (directive : String) (carried : Option Json)
    (field : ElementRef) (source : Option Source) :
    Settles saves depth (cascade (n+3)) (execute t directive carried field source) := by
  cases t with
  | save => exact (makes_execute_save directive carried field source).settles
  | load => exact (calm_execute_load (n := n+1) directive carried field source).settles

theorem settles_executeAll (t : Trigger) (directives : List String) (carried : Option Json)
    (field : ElementRef) (source : Option Source) :
    Settles saves depth (cascade (n+3)) (executeAll t carried field source directives) := by
  induction directives with
  | nil => exact (Makes.pure ()).settles
  | cons d ds ih =>
      exact .bind (settles_execute t d carried field source).outcome fun _ =>
        .bind ih.outcome fun _ => (Calm.ofExcept _).settles

theorem settles_writeAll (values : Fields) (source : Option Source) :
    Settles saves depth (cascade (n+3)) (writeAll values source) := by
  induction values with
  | nil => exact (Makes.pure ()).settles
  | cons entry values ih =>
      rw [writeAll_cons]
      exact .bind (makes_write entry.1 entry.2 source).discard.settles fun _ => ih

/-- A change that a user makes saves what the element is bound to. -/
theorem makes_raise (e : ElementRef) :
    Makes saves 0 (cascade (n+4)) (raise e .change) (saveTargets saves e) := by
  refine .looked fun s hs => ?_
  rw [← hs.saves, ← flatMap_targets]
  exact .forEach fun h hh => makes_handler (hs.handlersOf hh) e

theorem makes_type (e : ElementRef) (text : String) :
    Makes saves 0 (cascade (n+4)) (type e text) (saveTargets saves e) :=
  .bind (.modify e _) fun _ => makes_raise e

theorem makes_put (e : ElementRef) (v : Json) :
    Makes saves 0 (cascade (n+4)) (put e v) (saveTargets saves e) :=
  .looked fun _ _ => .bind (.modify e _) fun _ => makes_raise e

end
end Act

theorem Deed.settles {saves : List Connection} {n : Nat} (d : Deed) :
    Settles saves 0 (cascade (n+4)) d.act := by
  cases d with
  | type e text => exact (makes_type e text).settles
  | put e v => exact (makes_put e v).settles
  | write key v source => exact (makes_write (n := n+1) key v source).discard.settles
  | merge key v source => exact (makes_merge (n := n+1) key v source).settles
  | bulk values source => exact settles_writeAll (n := n+1) values source
  | execute t directives carried e source =>
      exact settles_executeAll (n := n+1) t directives carried e source

/-- Wiring a directive adds a save connection or a load binding, and nothing else. -/
theorem Linked.connect {saves : List Connection} {s t : Session} {carry : React}
    {r : Except Fault Unit} (h : Linked saves 0 s) (c : Connection)
    (hr : connect c.trigger c.directive c.element c.source carry s = some (r, t)) :
    Linked (saves ++ [c].filter (·.trigger = .save)) 0 t := by
  obtain ⟨trigger, directive, e, source⟩ := c
  simp only [Act.connect] at hr
  rw [run_bind_ok (run_gets _), h.connectors] at hr
  cases trigger with
  | save =>
      cases hr
      refine ⟨h.evaluators, h.connectors, h.listeners, ?_, ?_, h.loading⟩
      · intro x hx hc
        rcases List.mem_append.mp hx with hx | hx
        · exact h.handlers x hx hc
        · obtain rfl := List.mem_singleton.mp hx
          trivial
      · rw [List.filterMap_append, h.saves]
        rfl
  | load =>
      cases hr
      refine ⟨h.evaluators, h.connectors, ?_, h.handlers, ?_, h.loading⟩
      · intro p hp
        rcases List.mem_append.mp hp with hp | hp
        · exact h.listeners p hp
        · obtain rfl := List.mem_singleton.mp hp
          trivial
      · rw [h.saves]
        exact (List.append_nil saves).symm

theorem Linked.listen {saves : List Connection} {s t : Session} {carry : React}
    {r : Except Fault Unit} (h : Linked saves 0 s) {keys : List String} {l : Listener}
    (hl : l.Quiet) (hr : Act.listen keys l carry s = some (r, t)) : Linked saves 0 t := by
  cases hr
  refine ⟨h.evaluators, h.connectors, ?_, h.handlers, h.saves, h.loading⟩
  intro p hp
  rcases List.mem_append.mp hp with hp | hp
  · exact h.listeners p hp
  · obtain ⟨key, -, rfl⟩ := List.mem_map.mp hp
    exact hl

/-- A handler may be added that is no save and, if it hears of changes, is quiet. -/
theorem Linked.onEvent {saves : List Connection} {s t : Session} {carry : React}
    {r : Except Fault Unit} (h : Linked saves 0 s) {e : ElementRef} {event : EventKind}
    {x : Handler} (hx : event = .change → x.Quiet)
    (hs : (Registration.mk e event x).save? = none)
    (hr : Act.onEvent e event x carry s = some (r, t)) : Linked saves 0 t := by
  cases hr
  refine ⟨h.evaluators, h.connectors, h.listeners, ?_, ?_, h.loading⟩
  · intro y hy hc
    rcases List.mem_append.mp hy with hy | hy
    · exact h.handlers y hy hc
    · obtain rfl := List.mem_singleton.mp hy
      exact hx hc
  · rw [List.filterMap_append, h.saves]
    simp [hs]

/-- Whatever the host has done, the save connections are wired in order, all other callbacks are
quiet, and no load is left running. -/
theorem Reached.linked {conns : List Connection} {s : Session} (h : Reached conns s) :
    Linked (conns.filter (·.trigger = .save)) 0 s := by
  induction h with
  | fresh he hc hl hh hd =>
      exact ⟨he, hc, by simp [hl], by simp [hh], by simp [hh], hd⟩
  | connected c n _ hr ih =>
      rw [List.filter_append]
      exact ih.connect c hr
  | listening keys l n _ hl hr ih => exact ih.listen hl hr
  | watching e label actions n _ hq hr ih =>
      have hx : (Handler.watch label actions).Quiet := hq
      exact ih.onEvent (fun _ => hx) rfl hr
  | handling e event x n _ hne hr ih =>
      refine ih.onEvent (fun he => (hne he).elim) ?_ hr
      cases event with
      | change => exact (hne rfl).elim
      | _ => rfl
  | done d n _ hr ih => exact d.settles.linked ih hr
  | other _ hl hh he hc hd ih =>
      exact ⟨he.trans ih.evaluators, hc.trans ih.connectors, by rw [hl]; exact ih.listeners,
        by rw [hh]; exact ih.handlers, by rw [hh]; exact ih.saves, hd.trans ih.loading⟩

/-- An edit ends, makes one write for each storing save connection of its element, in order of
registration and under that connection's source, and makes no other write; a write from outside
ends and makes none beyond itself. No load is left running, whether or not its evaluators failed. -/
theorem edits_and_writes {conns : List Connection} {s : Session} (h : Reached conns s) (n : Nat) :
    (∀ e text, ∃ t ws, (type e text).settle (n+4) s = some (.ok (), t) ∧ Wrote ws s t ∧
      ws.map Write.target = saveTargets conns e ∧ t.loading = 0) ∧
    ∀ key v source, ∃ t, (write key v source).settle (n+3) s =
      some (.ok (Table.find? s.values key), t) ∧ Wrote [⟨key, v, source⟩] s t ∧
        t.loading = 0 := by
  have hl := h.linked
  constructor
  · intro e text
    obtain ⟨_, t, ws, hr, hw, he⟩ := makes_type (n := n) e text s hl
    have ht : ws.map Write.target = saveTargets conns e := he.trans (saveTargets_filter conns e)
    have hd : t.loading = 0 := (hl.wrote hw).loading
    exact ⟨t, ws, hr, hw, ht, hd⟩
  · intro key v source
    obtain ⟨t, hr, hw⟩ := write_once (n := n) hl key v source
    have hd : t.loading = 0 := (hl.wrote hw).loading
    exact ⟨t, hr, hw, hd⟩

/-- Two elements, three saves, one load and a watch on the edited element. -/
theorem edits_and_writes_pair : ∃ s t ws,
    Reached [⟨.save, ">~a", 0, some ⟨"form"⟩⟩, ⟨.load, "a", 1, none⟩, ⟨.save, "*b", 0, none⟩,
      ⟨.save, "#c", 0, none⟩] s ∧
    (type 0 "x").settle 4 s = some (.ok (), t) ∧ Wrote ws s t ∧
    ws.map Write.target = [("a", some ⟨"form"⟩), ("b", none)] ∧ t.loading = 0 := by
  have h₀ : Reached [] { elements := [{ control := .input "" }, { control := .input "" }] } :=
    .fresh rfl rfl rfl rfl rfl
  have h₁ := h₀.watching 0 "w" [.host (.note "n")] 0 (quietScript_notes ["n"]) rfl
  have h₂ := ((h₁.connected ⟨.save, ">~a", 0, some ⟨"form"⟩⟩ 0 rfl).connected
    ⟨.load, "a", 1, none⟩ 0 rfl)
  have h₃ := (h₂.connected ⟨.save, "*b", 0, none⟩ 0 rfl).connected ⟨.save, "#c", 0, none⟩ 0 rfl
  obtain ⟨t, ws, hr, hw, he, ht⟩ := (edits_and_writes h₃ 0).1 0 "x"
  exact ⟨_, t, ws, h₃, hr, hw, he, ht⟩

end ScreenBinding
