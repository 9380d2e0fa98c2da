import ScreenBinding.Proofs.SharedKey

/-!
# The order of wiring

Connections are made in some order, and this is the order in which loads hear of a write. If an
element is connected at most once in each direction, the order is of no effect: whatever users type
and hosts write, the state and the elements are the same as under any other order, however the
keys are shared and the connections tagged.

What a load puts into its field depends on the stored values and on that field alone, and it changes
nothing but the field. So two loads with different fields may change places, and a pass over the
listeners of a write comes to the same in any order. Everything else runs through such passes:
`Indifferent` acts do the same under two wirings, and are closed under what acts are made of.

Nothing is said of elements with several connections in one direction. Their loads would overwrite
one another, and their saves would write in the order in which they were wired.
-/
namespace ScreenBinding
open Act

namespace Session
variable {s : Session} {e e' : ElementRef} {conns : List Connection}

theorem blank_shown_ne (h : e ≠ e') (v : Json) : (s.shown e v).blank e' = s.blank e' := by
  rw [blank, element_shown_ne s h]
  rfl

/-- What one field shows is no matter to what another is offered. -/
theorem offeredBy_taking_ne (h : e ≠ e') (x : Except Fault (Option Json)) (directive : String)
    (carried : Option Json) :
    (s.taking e x).offeredBy directive carried e' = s.offeredBy directive carried e' := by
  obtain f | (_ | v) := x
  · rfl
  · rfl
  · have hoffered (key : String) (o : Operator) :
        (s.shown e v).offered key carried e' o = s.offered key carried e' o := by
      cases o with
      | default =>
          rw [offered, offered, blank_shown_ne h]
          rfl
      | _ => rfl
    simp only [taking, offeredBy, hoffered]

theorem taking_comm (h : e ≠ e') (x y : Except Fault (Option Json)) :
    (s.taking e x).taking e' y = (s.taking e' y).taking e x := by
  obtain f | (_ | v) := x
  · rfl
  · rfl
  · obtain f | (_ | w) := y
    · rfl
    · rfl
    · simp only [taking, shown, List.modify_modify_ne _ _ _ h]

theorem taking_wired (e : ElementRef) (x : Except Fault (Option Json)) :
    (s.wired conns).taking e x = (s.taking e x).wired conns := by
  obtain f | (_ | v) := x <;> rfl

/-- What is stored and shown is no matter of what is registered. -/
theorem Unwired.of_eq {t : Session} (h : s.Unwired)
    (ht : t = { s with values := t.values, elements := t.elements, trace := t.trace }) :
    t.Unwired := by
  rw [ht]
  exact ⟨h.evaluators, h.connectors, h.listeners, h.handlers, h.loading⟩

theorem Unwired.taking (h : s.Unwired) (e : ElementRef) (x : Except Fault (Option Json)) :
    (s.taking e x).Unwired := by
  obtain f | (_ | v) := x
  · exact h
  · exact h
  · exact h.of_eq rfl

end Session

namespace Connection
variable {s : Session} {conns : List Connection} {v : Json} {writer : Option Source}

def listener (c : Connection) : Listener := .load c.directive c.element c.source

def handler (c : Connection) : Handler := .save c.directive c.source

/-- The session once a load connection has heard of a write. -/
def hearing (v : Json) (writer : Option Source) (s : Session) (c : Connection) : Session :=
  s.hearing c.directive c.element c.source v writer

theorem hearing_wired (c : Connection) :
    c.hearing v writer (s.wired conns) = (c.hearing v writer s).wired conns := by
  unfold hearing Session.hearing
  split
  · rfl
  · exact Session.taking_wired _ _

theorem unwired_hearing (c : Connection) (h : s.Unwired) : (c.hearing v writer s).Unwired := by
  unfold hearing Session.hearing
  split
  · exact h
  · exact h.taking _ _

/-- Loads of different elements may hear of a write in either order. -/
theorem hearing_comm {c d : Connection} (h : c.element = d.element → c = d) :
    d.hearing v writer (c.hearing v writer s) = c.hearing v writer (d.hearing v writer s) := by
  by_cases he : c.element = d.element
  · rw [h he]
  · unfold hearing Session.hearing
    split
    · rfl
    · split
      · rfl
      · rw [Session.offeredBy_taking_ne he, Session.offeredBy_taking_ne (Ne.symm he),
          Session.taking_comm he]

end Connection

/-- The loads of a key. -/
def loadsOf (conns : List Connection) (key : String) : List Connection :=
  conns.filter fun c => c.trigger = .load && (Directive.parse c.directive).key = key

/-- The loads that a write of a key tells. -/
def hearersOf (conns : List Connection) (key : String) : List Connection :=
  loadsOf conns key ++ loadsOf conns wildcard

/-- The saves of an element. -/
def savesOf (conns : List Connection) (e : ElementRef) : List Connection :=
  conns.filter fun c => c.trigger = .save && c.element = e

section
variable {s : Session} {conns : List Connection}

/-- The subscriptions to a key are those of its loads. -/
theorem listeners_of_loads (conns : List Connection) (key : String) :
    ((conns.filterMap Connection.subscription?).filter (·.1 = key)).map Prod.snd =
      (loadsOf conns key).map Connection.listener := by
  induction conns with
  | nil => rfl
  | cons c conns ih =>
      obtain ⟨trigger, directive, e, source⟩ := c
      cases trigger with
      | save => exact ih
      | load =>
          by_cases hk : (Directive.parse directive).key = key <;>
            simp_all [loadsOf, Connection.subscription?, Connection.listener]

/-- The registrations for changes of an element are those of its saves. -/
theorem handlers_of_saves (conns : List Connection) (e : ElementRef) :
    ((conns.filterMap Connection.registration?).filter fun r =>
      r.element = e && r.event = .change).map (·.handler) =
      (savesOf conns e).map Connection.handler := by
  induction conns with
  | nil => rfl
  | cons c conns ih =>
      obtain ⟨trigger, directive, e', source⟩ := c
      cases trigger with
      | load => exact ih
      | save =>
          by_cases he : e' = e <;>
            simp_all [savesOf, Connection.registration?, Connection.handler]

theorem audience_wired (hs : s.Unwired) (key : String) :
    (s.wired conns).audience key = (hearersOf conns key).map Connection.listener := by
  have hone (k : String) :
      (s.wired conns).listenersOf k = (loadsOf conns k).map Connection.listener := by
    rw [Session.listenersOf, Session.wired, hs.listeners, List.nil_append]
    exact listeners_of_loads conns k
  rw [Session.audience, hone, hone, hearersOf, List.map_append]

theorem changesOf_wired (hs : s.Unwired) (e : ElementRef) :
    (s.wired conns).handlersOf e .change = (savesOf conns e).map Connection.handler := by
  rw [Session.handlersOf, Session.wired, hs.handlers, List.nil_append]
  exact handlers_of_saves conns e

theorem onlySaves_wired (hs : s.Unwired) (e : ElementRef) : (s.wired conns).OnlySaves e := by
  intro h hh
  rw [changesOf_wired hs] at hh
  obtain ⟨c, -, rfl⟩ := List.mem_map.mp hh
  exact ⟨c.directive, c.source, rfl⟩

end

/-- The same connections in two orders; no element is connected twice in one direction. -/
structure Rewiring (conns conns' : List Connection) : Prop where
  perm : conns.Perm conns'
  once : (conns.map fun c => (c.element, c.trigger)).Nodup

namespace Rewiring
variable {conns conns' : List Connection} (h : Rewiring conns conns')
include h

theorem hearersOf_perm (key : String) : (hearersOf conns key).Perm (hearersOf conns' key) :=
  (h.perm.filter _).append (h.perm.filter _)

/-- Among those who hear of a write, the element tells the connection. -/
theorem hearer_eq {key : String} {c d : Connection} (hc : c ∈ hearersOf conns key)
    (hd : d ∈ hearersOf conns key) (he : c.element = d.element) : c = d := by
  have hload {x : Connection} (hx : x ∈ hearersOf conns key) : x ∈ conns ∧ x.trigger = .load := by
    simp only [hearersOf, loadsOf, List.mem_append, List.mem_filter, Bool.and_eq_true,
      decide_eq_true_eq] at hx
    rcases hx with ⟨hx, ht, -⟩ | ⟨hx, ht, -⟩ <;> exact ⟨hx, ht⟩
  obtain ⟨hc, htc⟩ := hload hc
  obtain ⟨hd, htd⟩ := hload hd
  exact List.inj_on_of_nodup_map h.once hc hd (Prod.ext he (htc.trans htd.symm))

/-- There is at most one save of an element, so the order is the same. -/
theorem savesOf_eq (e : ElementRef) : savesOf conns e = savesOf conns' e := by
  -- a list without repetitions all of whose entries are the same has at most one
  have hsame : ∀ p ∈ (savesOf conns e).map fun c => (c.element, c.trigger), p = (e, .save) := by
    intro p hp
    obtain ⟨c, hc, rfl⟩ := List.mem_map.mp hp
    simp only [savesOf, List.mem_filter, Bool.and_eq_true, decide_eq_true_eq] at hc
    rw [hc.2.1, hc.2.2]
  have hnodup : ((savesOf conns e).map fun c => (c.element, c.trigger)).Nodup :=
    h.once.sublist (List.filter_sublist.map _)
  rw [List.eq_replicate_of_mem hsame, List.nodup_replicate, List.length_map] at hnodup
  have hperm : (savesOf conns e).Perm (savesOf conns' e) := h.perm.filter _
  match hs : savesOf conns e, hnodup with
  | [], _ =>
      rw [hs] at hperm
      exact (List.nil_perm.mp hperm).symm
  | [c], _ =>
      rw [hs] at hperm
      exact List.singleton_perm.mp hperm

end Rewiring

namespace Act
section
variable {α β : Type} {n : Nat} {conns conns' : List Connection} {carry : React}

/-- The act ends in the same way under two wirings, and registers nothing. -/
def Indifferent (conns conns' : List Connection) (carry : React) (a : Act α) : Prop :=
  ∀ s : Session, s.Unwired → ∃ x, ∃ t : Session, t.Unwired ∧
    a carry (s.wired conns) = some (.ok x, t.wired conns) ∧
    a carry (s.wired conns') = some (.ok x, t.wired conns')

theorem Indifferent.pure (x : α) : Indifferent conns conns' carry (Pure.pure x) :=
  fun s hs => ⟨x, s, hs, run_pure x, run_pure x⟩

theorem Indifferent.bind {a : Act α} {f : α → Act β} (ha : Indifferent conns conns' carry a)
    (hf : ∀ x, Indifferent conns conns' carry (f x)) :
    Indifferent conns conns' carry (a >>= f) := by
  intro s hs
  obtain ⟨x, t, ht, hr, hr'⟩ := ha s hs
  obtain ⟨y, u, hu, hq, hq'⟩ := hf x t ht
  exact ⟨y, u, hu, (run_bind_ok hr).trans hq, (run_bind_ok hr').trans hq'⟩

/-- What is looked up may be used to go on. -/
theorem Indifferent.looked {f : Session → α} {g : α → Act β}
    (hf : ∀ s : Session, s.Unwired → f (s.wired conns') = f (s.wired conns))
    (hg : ∀ s : Session, s.Unwired → Indifferent conns conns' carry (g (f (s.wired conns)))) :
    Indifferent conns conns' carry (Act.gets f >>= g) := by
  intro s hs
  obtain ⟨y, t, ht, hr, hr'⟩ := hg s hs s hs
  refine ⟨y, t, ht, (run_bind_ok (run_gets f)).trans hr, (run_bind_ok (run_gets f)).trans ?_⟩
  rw [hf s hs]
  exact hr'

theorem Indifferent.gets {f : Session → α}
    (hf : ∀ s : Session, s.Unwired → f (s.wired conns') = f (s.wired conns)) :
    Indifferent conns conns' carry (Act.gets f) :=
  fun s hs => ⟨_, s, hs, run_gets f, (run_gets f).trans (by rw [hf s hs])⟩

theorem Indifferent.change {f : Session → Session} (hu : ∀ s : Session, s.Unwired → (f s).Unwired)
    (hf : ∀ s cs, f (s.wired cs) = (f s).wired cs) :
    Indifferent conns conns' carry (Act.change f) :=
  fun s hs => ⟨(), f s, hu s hs, (run_change f).trans (by rw [hf]),
    (run_change f).trans (by rw [hf])⟩

theorem Indifferent.forEach {f : β → Act Unit} {l : List β}
    (h : ∀ x ∈ l, Indifferent conns conns' carry (f x)) :
    Indifferent conns conns' carry (do for x in l do f x) := by
  induction l with
  | nil => rw [forEach_nil]; exact .pure ()
  | cons x l ih =>
      rw [forEach_cons]
      exact .bind (h x (List.mem_cons_self ..)) fun _ =>
        ih fun y hy => h y (List.mem_cons_of_mem x hy)

theorem Indifferent.attempt {a : Act Unit} (h : Indifferent conns conns' carry a) :
    Indifferent conns conns' carry (Act.attempt a) := by
  intro s hs
  obtain ⟨x, t, ht, hr, hr'⟩ := h s hs
  exact ⟨(), t, ht, by rw [run_attempt, hr]; rfl, by rw [run_attempt, hr']; rfl⟩

theorem Indifferent.discard {a : Act α} (h : Indifferent conns conns' carry a) :
    Indifferent conns conns' carry (Functor.discard a) := by
  intro s hs
  obtain ⟨x, t, ht, hr, hr'⟩ := h s hs
  exact ⟨(), t, ht, by rw [run_discard, hr], by rw [run_discard, hr']⟩

theorem indifferent_modify (e : ElementRef) (f : Element → Element) :
    Indifferent conns conns' carry (modify e f) :=
  .change (fun _ h => h.of_eq rfl) fun _ _ => rfl

/-- The loads of a write hear of it in the order in which they were wired. -/
theorem run_notify_wired {s : Session} (hs : s.Unwired) (key : String) (v : Json)
    (writer : Option Source) : notify key v writer (cascade (n+2)) (s.wired conns) =
      some (.ok (), ((hearersOf conns key).foldl (Connection.hearing v writer) s).wired conns) := by
  have hpass (cs : List Connection) {s : Session} (hs : s.Unwired) :
      (do for l in cs.map Connection.listener do react (.listener l key v writer))
        (cascade (n+2)) (s.wired conns) =
      some (.ok (), (cs.foldl (Connection.hearing v writer) s).wired conns) := by
    induction cs generalizing s with
    | nil =>
        rw [List.map_nil, forEach_nil]
        exact run_pure ()
    | cons c cs ih =>
        have hone : react (.listener c.listener key v writer) (cascade (n+2)) (s.wired conns) =
            some (.ok (), c.hearing v writer (s.wired conns)) :=
          run_hear_offered c.directive c.source key v writer hs.evaluators
            (onlySaves_wired hs c.element)
        rw [List.map_cons, forEach_cons, run_bind_ok hone, Connection.hearing_wired]
        exact ih (c.unwired_hearing hs)
  rw [notify, run_bind_ok (run_gets _), audience_wired hs]
  exact hpass _ hs

theorem unwired_foldl {s : Session} (hs : s.Unwired) (cs : List Connection) (v : Json)
    (writer : Option Source) : (cs.foldl (Connection.hearing v writer) s).Unwired := by
  induction cs generalizing s with
  | nil => exact hs
  | cons c cs ih => exact ih (c.unwired_hearing hs)

variable (hR : Rewiring conns conns')
include hR

/-- A pass comes to the same in both orders. -/
theorem indifferent_notify (key : String) (v : Json) (writer : Option Source) :
    Indifferent conns conns' (cascade (n+2)) (notify key v writer) := by
  intro s hs
  have hfold : (hearersOf conns key).foldl (Connection.hearing v writer) s =
      (hearersOf conns' key).foldl (Connection.hearing v writer) s :=
    (hR.hearersOf_perm key).foldl_eq'
      (fun _ hc _ hd _ => Connection.hearing_comm (hR.hearer_eq hc hd)) s
  refine ⟨(), _, unwired_foldl hs (hearersOf conns key) v writer, run_notify_wired hs .., ?_⟩
  rw [hfold]
  exact run_notify_wired hs ..

theorem indifferent_write (key : String) (v : Json) (source : Option Source) :
    Indifferent conns conns' (cascade (n+2)) (write key v source) := by
  have hstore : Indifferent conns conns' (cascade (n+2)) (store key v source) :=
    .bind (.change (fun _ h => h.of_eq rfl) fun _ _ => rfl) fun _ =>
      .change (fun _ h => h.of_eq rfl) fun _ _ => rfl
  exact .bind (.gets fun _ _ => rfl) fun old => .bind hstore fun _ =>
    .bind (indifferent_notify hR key v source) fun _ => .pure old

theorem indifferent_merge (key : String) (v : Json) (source : Option Source) :
    Indifferent conns conns' (cascade (n+2)) (merge key v source) := by
  refine .bind (.gets fun _ _ => rfl) fun old => ?_
  cases old with
  | none => exact .discard (indifferent_write hR key v source)
  | some old =>
      exact .bind (.gets fun _ _ => rfl) fun _ => .discard (indifferent_write hR key _ source)

theorem indifferent_writeAll (values : Fields) (source : Option Source) :
    Indifferent conns conns' (cascade (n+2)) (writeAll values source) :=
  .forEach fun p _ => .discard (indifferent_write hR p.1 p.2 source)

theorem indifferent_save (directive : String) (e : ElementRef) (source : Option Source) :
    Indifferent conns conns' (cascade (n+2)) (execute .save directive none e source) := by
  have hvalue (x : Evaluation) : Indifferent conns conns' (cascade (n+2)) (fieldValue x) := by
    have hfield : Indifferent conns conns' (cascade (n+2)) (do return (← element x.field).value) :=
      .bind (.gets fun _ _ => rfl) fun _ => .pure _
    unfold fieldValue carriedOr
    split
    · split
      · exact .pure _
      · exact hfield
    · exact hfield
  have hone (x : Evaluation) (o : Operator) :
      Indifferent conns conns' (cascade (n+2)) (evaluate? x (Evaluator.standard .save o)) := by
    cases o with
    | assign => exact .bind (hvalue x) fun v => .discard (indifferent_write hR x.key v x.source)
    | merge => exact .bind (hvalue x) fun v => indifferent_merge hR x.key v x.source
    | _ => exact .pure ()
  have hfound (x : Evaluation) (o : Operator) : Indifferent conns conns' (cascade (n+2))
      (gets (·.evaluator? .save o) >>= evaluate? x) := by
    refine .looked (fun _ _ => rfl) fun s hs => ?_
    have he : (s.wired conns).evaluators = [] := hs.evaluators
    rw [Session.evaluator?_standard he]
    exact hone x o
  change Indifferent conns conns' _ (if _ then _ else _)
  split
  · exact .forEach fun o _ => hfound _ o
  · exact .pure ()

theorem indifferent_raise (e : ElementRef) :
    Indifferent conns conns' (cascade (n+3)) (raise e .change) := by
  refine .looked (fun s hs => ?_) fun s hs => ?_
  · rw [changesOf_wired hs, changesOf_wired hs, hR.savesOf_eq]
  · rw [changesOf_wired hs]
    refine .forEach fun h hh => ?_
    obtain ⟨c, -, rfl⟩ := List.mem_map.mp hh
    have hsave : Indifferent conns conns' (cascade (n+2)) (handle c.handler e) := by
      refine .bind (.gets fun _ _ => rfl) fun depth => ?_
      split
      · exact .attempt (indifferent_save hR c.directive e c.source)
      · exact .pure ()
    exact hsave

end
end Act

/-- Edits, changes of fields and writes; nothing that executes a directive at once. -/
def Deed.Plain : Deed → Prop
  | .execute .. => False
  | _ => True

section
variable {n : Nat} {conns conns' : List Connection} {s : Session} {ds : List Deed}

theorem Deed.Plain.indifferent (hR : Rewiring conns conns') {d : Deed} (hd : d.Plain) :
    Indifferent conns conns' (cascade (n+3)) d.act := by
  cases d with
  | type e text => exact .bind (indifferent_modify e _) fun _ => indifferent_raise hR e
  | put e v =>
      exact .bind (.gets fun _ _ => rfl) fun _ => .bind (indifferent_modify e _) fun _ =>
        indifferent_raise hR e
  | write key v source => exact .discard (indifferent_write (n := n+1) hR key v source)
  | merge key v source => exact indifferent_merge (n := n+1) hR key v source
  | bulk values source => exact indifferent_writeAll (n := n+1) hR values source
  | execute t directives carried e source => exact hd.elim

/-- Wiring the same connections in another order makes no difference, as long as no element is
connected twice in one direction: after any edits and writes the state holds the same values in the
same order, all elements show the same, and the same has happened on the way. -/
theorem wiring_order_indifferent (hR : Rewiring conns conns') (hs : s.Unwired)
    (hd : ∀ d ∈ ds, d.Plain) (n : Nat) : ∃ t t',
      (do wire conns; carryOut ds).settle (n+3) s = some (.ok (), t) ∧
      (do wire conns'; carryOut ds).settle (n+3) s = some (.ok (), t') ∧
      t'.values = t.values ∧ t'.elements = t.elements ∧ t'.trace = t.trace := by
  have hall : Indifferent conns conns' (cascade (n+3)) (carryOut ds) :=
    .forEach fun d hm => (hd d hm).indifferent hR
  obtain ⟨_, t, -, hr, hr'⟩ := hall s hs
  exact ⟨t.wired conns, t.wired conns', (run_bind_ok (run_wire hs.connectors conns)).trans hr,
    (run_bind_ok (run_wire hs.connectors conns')).trans hr', rfl, rfl, rfl⟩

end

/-- Four fields on one key, one of them on any key, with and without tags. -/
def sharedConnections : List Connection :=
  [⟨.save, "k", 0, none⟩, ⟨.load, "k", 0, none⟩, ⟨.save, "~k", 1, some ⟨"a"⟩⟩,
    ⟨.load, "<#k", 2, none⟩, ⟨.load, "<?*", 3, some ⟨"a"⟩⟩]

theorem wiring_order_indifferent_reversed : ∃ s t t',
    (do
      wire sharedConnections
      carryOut [.type 1 "x", .bulk [("k", .texts ["y", "z"]), ("j", .bool true)] none,
        .type 0 "q", .merge "k" (.string "w") (some ⟨"a"⟩)]).settle 3 s = some (.ok (), t) ∧
    (do
      wire sharedConnections.reverse
      carryOut [.type 1 "x", .bulk [("k", .texts ["y", "z"]), ("j", .bool true)] none,
        .type 0 "q", .merge "k" (.string "w") (some ⟨"a"⟩)]).settle 3 s = some (.ok (), t') ∧
    sharedConnections ≠ sharedConnections.reverse ∧
    t'.values = t.values ∧ t'.elements = t.elements := by
  let s : Session := { elements := [{ control := .input "" }, {}, {}, {}] }
  have hR : Rewiring sharedConnections sharedConnections.reverse :=
    ⟨(List.reverse_perm _).symm, by decide⟩
  have hd : ∀ d ∈ [Deed.type 1 "x", .bulk [("k", .texts ["y", "z"]), ("j", .bool true)] none,
      .type 0 "q", .merge "k" (.string "w") (some ⟨"a"⟩)], d.Plain := by simp [Deed.Plain]
  have hne : sharedConnections ≠ sharedConnections.reverse := by
    simp [sharedConnections]
  obtain ⟨t, t', hr, hr', hvalues, helements, -⟩ :=
    wiring_order_indifferent hR (s := s) ⟨rfl, rfl, rfl, rfl, rfl⟩ hd 0
  exact ⟨s, t, t', hr, hr', hne, hvalues, helements⟩

end ScreenBinding
