import ScreenBinding.Proofs.WiringOrder

/-!
# Inert connections

A connection is inert if its directive is for the other direction, or if there is no evaluator for
its operator in its own. It is wired like any other and called like any other, in the midst of the
passes over listeners and handlers, and it may even count as a load that is running while it parses
its directive. But each call of it leaves the session as it was found.

So whatever is done with a session, it goes on in step with the same session without the inert
connections: they are there among the listeners and handlers, and all else is equal. Others may look
on, as long as they look at no registrations. The calls of the inert connections take fuel of their
own, one level of it, since nothing is called from there.
-/
namespace ScreenBinding
open Session (Wrote)
open Act

/-- The second list is the first one with `xs` somewhere in it. -/
def Amid {α : Type} (xs l l' : List α) : Prop := ∃ a b, l = a ++ b ∧ l' = a ++ xs ++ b

namespace Amid
variable {α β : Type} {xs l l' : List α}

theorem at_end (xs l : List α) : Amid xs l (l ++ xs) :=
  ⟨l, [], (List.append_nil l).symm, (List.append_nil _).symm⟩

theorem refl (l : List α) : Amid [] l l := ⟨l, [], (List.append_nil l).symm, by simp⟩

theorem append (h : Amid xs l l') (m : List α) : Amid xs (l ++ m) (l' ++ m) := by
  obtain ⟨a, b, rfl, rfl⟩ := h
  exact ⟨a, b ++ m, List.append_assoc .., List.append_assoc ..⟩

theorem filter_map (h : Amid xs l l') (p : α → Bool) (f : α → β) :
    Amid ((xs.filter p).map f) ((l.filter p).map f) ((l'.filter p).map f) := by
  obtain ⟨a, b, rfl, rfl⟩ := h
  exact ⟨(a.filter p).map f, (b.filter p).map f, by simp, by simp⟩

theorem eq_of_nil (h : Amid [] l l') : l' = l := by
  obtain ⟨a, b, rfl, rfl⟩ := h
  rw [List.append_nil]

theorem length_eq (h : Amid xs l l') : l'.length = l.length+xs.length := by
  obtain ⟨a, b, rfl, rfl⟩ := h
  simp only [List.length_append]
  omega

end Amid

/-- The directive is for the other direction, or its operators have no evaluator in this one. -/
def Connection.Inert (c : Connection) : Prop :=
  (Directive.parse c.directive).appliesTo c.trigger = false ∨
    ∀ o ∈ (Directive.parse c.directive).operators, Evaluator.standard c.trigger o = none

/-- A script that writes nothing and calls nobody, and that does the same whatever is registered. -/
def LooksOn (actions : List Command) : Prop :=
  ∀ (carry : React) (s : Session), ∃ r t, runAll actions carry s = some (r, t) ∧ Wrote [] s t ∧
    ∀ (carry' : React) listeners handlers, runAll actions carry' { s with listeners, handlers } =
      some (r, { t with listeners, handlers })

theorem looksOn_nil : LooksOn [] := fun _ s => ⟨_, s, rfl, .refl s, fun _ _ _ => rfl⟩

def Listener.LooksOn : Listener → Prop
  | .report _ actions => ScreenBinding.LooksOn actions
  | _ => True

/-- As a handler of changes. -/
def Handler.LooksOn : Handler → Prop
  | .save _ _ => True
  | .watch _ actions => ScreenBinding.LooksOn actions
  | _ => False

theorem Listener.LooksOn.quiet {l : Listener} (h : l.LooksOn) : l.Quiet := by
  cases l with
  | report label actions =>
      intro carry s
      obtain ⟨r, t, hr, ht, -⟩ := h carry s
      exact ⟨r, t, hr, ht⟩
  | _ => trivial

theorem Handler.LooksOn.quiet {x : Handler} (h : x.LooksOn) : x.Quiet := by
  cases x with
  | save => trivial
  | watch label actions =>
      intro carry s
      obtain ⟨r, t, hr, ht, -⟩ := h carry s
      exact ⟨r, t, hr, ht⟩
  | _ => exact h.elim

namespace Session

/-- Evaluators and connectors are the standard ones, and whoever hears of writes and changes is a
connection or only looks on. -/
structure Onlooked (s : Session) : Prop where
  evaluators : s.evaluators = []
  connectors : s.connectors = []
  listeners : ∀ p ∈ s.listeners, p.2.LooksOn
  handlers : ∀ r ∈ s.handlers, r.event = .change → r.handler.LooksOn

theorem Onlooked.wired {s : Session} (h : s.Onlooked) (conns : List Connection) :
    (s.wired conns).Onlooked := by
  refine ⟨h.evaluators, h.connectors, List.forall_mem_append.mpr ⟨h.listeners, fun p hp => ?_⟩,
    List.forall_mem_append.mpr ⟨h.handlers, fun r hr _ => ?_⟩⟩
  · obtain ⟨⟨trigger, directive, e, source⟩, -, hsub⟩ := List.mem_filterMap.mp hp
    cases trigger with
    | save => cases hsub
    | load =>
        cases hsub
        trivial
  · obtain ⟨⟨trigger, directive, e, source⟩, -, hreg⟩ := List.mem_filterMap.mp hr
    cases trigger with
    | save =>
        cases hreg
        trivial
    | load => cases hreg

theorem Onlooked.linked {s : Session} (h : s.Onlooked) :
    Linked (s.handlers.filterMap Registration.save?) s.loading s :=
  ⟨h.evaluators, h.connectors, fun p hp => (h.listeners p hp).quiet,
    fun r hr he => (h.handlers r hr he).quiet, rfl, rfl⟩

/-- The same session but for some more connections among the registrations. -/
structure Alongside (extra : List Connection) (s s' : Session) : Prop where
  listeners : Amid (extra.filterMap Connection.subscription?) s.listeners s'.listeners
  handlers : Amid (extra.filterMap Connection.registration?) s.handlers s'.handlers
  rest : s' = { s with listeners := s'.listeners, handlers := s'.handlers }

theorem Alongside.wired {extra : List Connection} (s : Session) :
    Alongside extra s (s.wired extra) :=
  ⟨.at_end _ _, .at_end _ _, rfl⟩

theorem Alongside.refl (s : Session) : Alongside [] s s := ⟨.refl _, .refl _, rfl⟩

theorem Alongside.eq_of_nil {s s' : Session} (h : Alongside [] s s') : s' = s := by
  rw [h.rest, h.listeners.eq_of_nil, h.handlers.eq_of_nil]

/-- The extra loads of a key are the ones that are counted in addition. -/
theorem Alongside.length_listenersOf {extra : List Connection} {s s' : Session}
    (h : Alongside extra s s') (key : String) :
    (s'.listenersOf key).length = (s.listenersOf key).length+(loadsOf extra key).length := by
  have hamid := h.listeners.filter_map (·.1 = key) Prod.snd
  rw [listeners_of_loads] at hamid
  rw [listenersOf, listenersOf, hamid.length_eq]
  exact congrArg (_ + ·) (List.length_map _)

end Session

namespace Act
section
variable {α β : Type} {extra : List Connection} {carry carry' : React} {s : Session}

/-- An inert connection is executed without effect. -/
theorem run_execute_inert {c : Connection} (hc : c.Inert) (he : s.evaluators = [])
    (carried : Option Json) (e : ElementRef) (source : Option Source) :
    execute c.trigger c.directive carried e source carry s = some (.ok (), s) := by
  obtain ⟨trigger, directive, field, tag⟩ := c
  dsimp only [Connection.Inert] at hc ⊢
  let x : Evaluation := ⟨(Directive.parse directive).key, carried, e, source⟩
  rcases hc with hdirection | hnone
  · change (if _ then _ else _ : Act Unit) carry s = _
    rw [hdirection]
    exact run_pure ()
  · have hpass (s : Session) (he : s.evaluators = []) :
        evaluateAll trigger x (Directive.parse directive).operators carry s =
          some (.ok (), s) := by
      refine run_forEach_still fun o ho => ?_
      have hfound : s.evaluator? trigger o = none :=
        (Session.evaluator?_standard he trigger o).trans (hnone o ho)
      change evaluate? x (s.evaluator? trigger o) carry s = _
      rw [hfound]
      rfl
    cases trigger with
    | save =>
        change (if _ then _ else _ : Act Unit) carry s = _
        split
        · exact hpass s he
        · exact run_pure ()
    | load =>
        rw [execute_load]
        split
        · have hloaded := hpass { s with loading := s.loading+1 } he
          rw [run_bind_ok (run_change _), run_ending, hloaded]
          rfl
        · exact run_pure ()

theorem run_hear_inert {c : Connection} (hc : c.Inert) (ht : c.trigger = .load)
    (he : s.evaluators = []) (key : String) (v : Json) (writer : Option Source) :
    hear c.listener key v writer carry s = some (.ok (), s) := by
  have hrun : execute c.trigger c.directive (some v) c.element c.source carry s =
      some (.ok (), s) := run_execute_inert hc he (some v) c.element c.source
  rw [ht] at hrun
  change (if _ then _ else _ : Act Unit) carry s = _
  split
  · exact run_pure ()
  · rw [run_attempt, hrun]
    rfl

theorem run_handle_inert {c : Connection} (hc : c.Inert) (ht : c.trigger = .save)
    (he : s.evaluators = []) (e : ElementRef) :
    handle c.handler e carry s = some (.ok (), s) := by
  have hrun : execute c.trigger c.directive none e c.source carry s = some (.ok (), s) :=
    run_execute_inert hc he none e c.source
  rw [ht] at hrun
  change (gets _ >>= _ : Act Unit) carry s = _
  rw [run_bind_ok (run_gets _)]
  split
  · rw [run_attempt, hrun]
    rfl
  · exact run_pure ()

/-- Whenever the first act ends in some session, the second one ends likewise in the session
alongside, and the sessions they leave are alongside again. -/
def InStep (extra : List Connection) (carry carry' : React) (a a' : Act α) : Prop :=
  ∀ s s' r t, s.Onlooked → s.Alongside extra s' → a carry s = some (r, t) →
    ∃ t', a' carry' s' = some (r, t') ∧ t.Onlooked ∧ t.Alongside extra t'

theorem InStep.pure (x : α) :
    InStep extra carry carry' (Pure.pure x : Act α) (Pure.pure x) := by
  intro s s' r t hs hb h
  cases h
  exact ⟨s', run_pure x, hs, hb⟩

theorem InStep.ofExcept (x : Except Fault α) :
    InStep extra carry carry' (Act.ofExcept x) (Act.ofExcept x) := by
  intro s s' r t hs hb h
  cases (run_ofExcept x).symm.trans h
  exact ⟨s', run_ofExcept x, hs, hb⟩

theorem InStep.bind {a a' : Act α} {f f' : α → Act β} (ha : InStep extra carry carry' a a')
    (hf : ∀ x, InStep extra carry carry' (f x) (f' x)) :
    InStep extra carry carry' (a >>= f) (a' >>= f') := by
  intro s s' r u hs hb h
  obtain ⟨x, t, ht, hu⟩ | ⟨why, ht, rfl⟩ := bind_cases h
  · obtain ⟨t', ht', hs, hb⟩ := ha s s' _ t hs hb ht
    obtain ⟨u', hu', hend⟩ := hf x t t' r u hs hb hu
    exact ⟨u', (run_bind_ok ht').trans hu', hend⟩
  · obtain ⟨t', ht', hend⟩ := ha s s' _ u hs hb ht
    exact ⟨t', run_bind_error ht', hend⟩

/-- What is looked up apart from registrations may be used to go on. -/
theorem InStep.looked {f : Session → α} {g : α → Act β}
    (hf : ∀ s listeners handlers, f { s with listeners, handlers } = f s)
    (hg : ∀ s, s.Onlooked → InStep extra carry carry' (g (f s)) (g (f s))) :
    InStep extra carry carry' (Act.gets f >>= g) (Act.gets f >>= g) := by
  intro s s' r t hs hb h
  have hsame : f s' = f s := by rw [hb.rest, hf]
  rw [run_bind_ok (run_gets _)] at h ⊢
  rw [hsame]
  exact hg s hs s s' r t hs hb h

theorem InStep.gets {f : Session → α}
    (hf : ∀ s listeners handlers, f { s with listeners, handlers } = f s) :
    InStep extra carry carry' (Act.gets f) (Act.gets f) := by
  intro s s' r t hs hb h
  cases h
  have hsame : f s' = f s := by rw [hb.rest, hf]
  exact ⟨s', by rw [run_gets, hsame], hs, hb⟩

/-- A change that is no registration, and that looks at none. -/
structure Apart (f : Session → Session) : Prop where
  eq : ∀ s listeners handlers,
    f { s with listeners, handlers } = { f s with listeners := listeners, handlers := handlers }
  kept : ∀ s, f s = { f s with evaluators := s.evaluators, connectors := s.connectors }

theorem Apart.alongside {f : Session → Session} (hf : Apart f) {s s' : Session} (hs : s.Onlooked)
    (hb : s.Alongside extra s') : (f s).Onlooked ∧ (f s).Alongside extra (f s') := by
  have hown : f s = { f s with listeners := s.listeners, handlers := s.handlers } :=
    hf.eq s s.listeners s.handlers
  have hother : f s' = { f s with listeners := s'.listeners, handlers := s'.handlers } := by
    rw [← hf.eq, ← hb.rest]
  constructor
  · rw [hown, hf.kept]
    exact ⟨hs.evaluators, hs.connectors, hs.listeners, hs.handlers⟩
  · rw [hown, hother]
    exact ⟨hb.listeners, hb.handlers, rfl⟩

theorem InStep.change {f : Session → Session} (hf : Apart f) :
    InStep extra carry carry' (Act.change f) (Act.change f) := by
  intro s s' r t hs hb h
  cases h
  exact ⟨f s', run_change f, hf.alongside hs hb⟩

theorem InStep.ending {a a' : Act α} {f : Session → Session}
    (ha : InStep extra carry carry' a a') (hf : Apart f) :
    InStep extra carry carry' (a.ending f) (a'.ending f) := by
  intro s s' r u hs hb h
  obtain ⟨t, ht, rfl⟩ := ending_cases h
  obtain ⟨t', ht', hs, hb⟩ := ha s s' r t hs hb ht
  exact ⟨f t', by rw [run_ending, ht']; rfl, hf.alongside hs hb⟩

theorem InStep.emit (e : Event) : InStep extra carry carry' (Act.emit e) (Act.emit e) :=
  .change ⟨fun _ _ _ => rfl, fun _ => rfl⟩

theorem InStep.attempt {a a' : Act Unit} (ha : InStep extra carry carry' a a') :
    InStep extra carry carry' (Act.attempt a) (Act.attempt a') := by
  intro s s' r t hs hb h
  obtain ⟨x, hx, rfl⟩ := attempt_cases h
  obtain ⟨t', ht', hend⟩ := ha s s' x t hs hb hx
  exact ⟨t', by rw [run_attempt, ht']; rfl, hend⟩

theorem InStep.outcome {a a' : Act α} (ha : InStep extra carry carry' a a') :
    InStep extra carry carry' (Act.outcome a) (Act.outcome a') := by
  intro s s' r t hs hb h
  obtain ⟨x, hx, rfl⟩ := outcome_cases h
  obtain ⟨t', ht', hend⟩ := ha s s' x t hs hb hx
  exact ⟨t', by rw [run_outcome, ht']; rfl, hend⟩

theorem InStep.discard {a a' : Act α} (ha : InStep extra carry carry' a a') :
    InStep extra carry carry' (Functor.discard a) (Functor.discard a') :=
  .bind ha fun _ => .pure ()

theorem InStep.forEach {f : β → Act Unit} {l : List β}
    (h : ∀ x ∈ l, InStep extra carry carry' (f x) (f x)) :
    InStep extra carry carry' (do for x in l do f x) (do for x in l do f x) := by
  induction l with
  | nil =>
      rw [forEach_nil]
      exact .pure ()
  | cons x l ih =>
      rw [forEach_cons]
      exact .bind (h x (List.mem_cons_self ..)) fun _ =>
        ih fun y hy => h y (List.mem_cons_of_mem x hy)

/-- A pass stays in step with one that has more rounds amid its own, if these do nothing. -/
theorem InStep.pass {f : β → Act Unit} {xs l l' : List β} (hl : Amid xs l l')
    (h : ∀ x ∈ l, InStep extra carry carry' (f x) (f x))
    (hxs : ∀ x ∈ xs, ∀ s : Session, s.evaluators = [] → f x carry' s = some (.ok (), s)) :
    InStep extra carry carry' (do for x in l do f x) (do for x in l' do f x) := by
  obtain ⟨a, b, rfl, rfl⟩ := hl
  obtain ⟨ha, hb⟩ := List.forall_mem_append.mp h
  have hmore : InStep extra carry carry' (Pure.pure ()) (do for x in xs do f x) := by
    intro s s' r t hs hb h
    cases h
    have he : s'.evaluators = [] := by
      rw [hb.rest]
      exact hs.evaluators
    exact ⟨s', run_forEach_still fun x hx => hxs x hx s' he, hs, hb⟩
  have hfirst : InStep extra carry carry' (do for x in a do f x)
      (do (do for x in a do f x); for x in xs do f x) := by
    have hboth := InStep.bind (InStep.forEach ha) fun _ => hmore
    rwa [bind_pure_unit] at hboth
  rw [forEach_append a b, forEach_append (a ++ xs) b, forEach_append a xs]
  exact .bind hfirst fun _ => .forEach hb

/-- What a reaction is to be of, unless an inert connection is called. -/
def OfOnlookers : Reaction → Prop
  | .listener l _ _ _ => l.LooksOn
  | .handler h _ => h.LooksOn
  | .script actions | .hook actions => LooksOn actions

/-- Callbacks that are carried out in step, and without effect for the extra connections. -/
structure Attends (extra : List Connection) (carry carry' : React) : Prop where
  inStep : ∀ r, OfOnlookers r → InStep extra carry carry' (react r) (react r)
  listener : ∀ c ∈ extra, c.trigger = .load → ∀ key v writer (s : Session), s.evaluators = [] →
    react (.listener c.listener key v writer) carry' s = some (.ok (), s)
  handler : ∀ c ∈ extra, c.trigger = .save → ∀ e (s : Session), s.evaluators = [] →
    react (.handler c.handler e) carry' s = some (.ok (), s)

variable (h : Attends extra carry carry')
include h

theorem inStep_raise (e : ElementRef) :
    InStep extra carry carry' (raise e .change) (raise e .change) := by
  intro s s' r t hs hb hr
  have hamid : Amid _ (s.handlersOf e .change) (s'.handlersOf e .change) :=
    hb.handlers.filter_map (fun r => r.element = e && r.event = .change) (·.handler)
  rw [handlers_of_saves] at hamid
  rw [raise, run_bind_ok (run_gets _)] at hr ⊢
  refine InStep.pass hamid (fun x hx => ?_) (fun x hx => ?_) s s' r t hs hb hr
  · exact h.inStep (.handler x e) (hs.handlers _ (Session.mem_handlersOf.mp hx) rfl)
  · obtain ⟨c, hc, rfl⟩ := List.mem_map.mp hx
    simp only [savesOf, List.mem_filter, Bool.and_eq_true, decide_eq_true_eq] at hc
    exact h.handler c hc.1 hc.2.1 e

theorem inStep_put (e : ElementRef) (v : Json) :
    InStep extra carry carry' (put e v) (put e v) :=
  .bind (.gets fun _ _ _ => rfl) fun _ =>
    .bind (.change ⟨fun _ _ _ => rfl, fun _ => rfl⟩) fun _ => inStep_raise h e

theorem inStep_type (e : ElementRef) (text : String) :
    InStep extra carry carry' (type e text) (type e text) :=
  .bind (.change ⟨fun _ _ _ => rfl, fun _ => rfl⟩) fun _ => inStep_raise h e

theorem inStep_notify (key : String) (v : Json) (source : Option Source) :
    InStep extra carry carry' (notify key v source) (notify key v source) := by
  intro s s' r t hs hb hr
  have hpass (k : String) : InStep extra carry carry'
      (do for l in s.listenersOf k do react (.listener l key v source))
      (do for l in s'.listenersOf k do react (.listener l key v source)) := by
    have hamid : Amid _ (s.listenersOf k) (s'.listenersOf k) :=
      hb.listeners.filter_map (·.1 = k) Prod.snd
    rw [listeners_of_loads] at hamid
    refine .pass hamid (fun l hl => ?_) (fun l hl => ?_)
    · obtain ⟨p, hp, rfl⟩ := List.mem_map.mp hl
      exact h.inStep (.listener p.2 key v source) (hs.listeners p (List.mem_filter.mp hp).1)
    · obtain ⟨c, hc, rfl⟩ := List.mem_map.mp hl
      simp only [loadsOf, List.mem_filter, Bool.and_eq_true, decide_eq_true_eq] at hc
      exact h.listener c hc.1 hc.2.1 key v source
  rw [notify, run_bind_ok (run_gets _), Session.audience, forEach_append] at hr ⊢
  exact (InStep.bind (hpass key) fun _ => hpass wildcard) s s' r t hs hb hr

theorem inStep_write (key : String) (v : Json) (source : Option Source) :
    InStep extra carry carry' (write key v source) (write key v source) := by
  have hstore : InStep extra carry carry' (store key v source) (store key v source) :=
    .bind (.change ⟨fun _ _ _ => rfl, fun _ => rfl⟩) fun _ => .emit _
  exact .bind (.gets fun _ _ _ => rfl) fun old => .bind hstore fun _ =>
    .bind (inStep_notify h key v source) fun _ => .pure old

theorem inStep_merge (key : String) (v : Json) (source : Option Source) :
    InStep extra carry carry' (merge key v source) (merge key v source) := by
  refine .bind (.gets fun _ _ _ => rfl) fun old => ?_
  cases old with
  | none => exact .discard (inStep_write h key v source)
  | some old =>
      exact .bind (.gets fun _ _ _ => rfl) fun _ => .discard (inStep_write h key _ source)

theorem inStep_writeAll (values : Fields) (source : Option Source) :
    InStep extra carry carry' (writeAll values source) (writeAll values source) :=
  .forEach fun p _ => .discard (inStep_write h p.1 p.2 source)

omit h in
theorem inStep_carriedOr (x : Evaluation) {other : Act Json}
    (ho : InStep extra carry carry' other other) :
    InStep extra carry carry' (carriedOr x other) (carriedOr x other) := by
  unfold carriedOr
  split
  · split
    · exact .pure _
    · exact ho
  · exact ho

omit h in
theorem inStep_fieldValue (x : Evaluation) :
    InStep extra carry carry' (fieldValue x) (fieldValue x) :=
  inStep_carriedOr x (.bind (.gets fun _ _ _ => rfl) fun _ => .pure _)

omit h in
theorem inStep_stateValue (x : Evaluation) (unset : Json) :
    InStep extra carry carry' (stateValue x unset) (stateValue x unset) :=
  inStep_carriedOr x (.gets fun _ _ _ => rfl)

omit h in
theorem inStep_stateList (x : Evaluation) :
    InStep extra carry carry' (stateList x) (stateList x) := by
  refine .bind (inStep_stateValue x _) fun v => ?_
  split
  · exact .pure _
  · exact .bind (.gets fun _ _ _ => rfl) fun _ => .ofExcept _

theorem inStep_evaluate (x : Evaluation) (t : Trigger) (o : Operator) :
    InStep extra carry carry' (evaluate? x (Evaluator.standard t o))
      (evaluate? x (Evaluator.standard t o)) := by
  have hput (v : Json) : InStep extra carry carry' (put x.field v) (put x.field v) :=
    inStep_put h x.field v
  cases t with
  | save =>
      cases o with
      | assign => exact .bind (inStep_fieldValue x) fun v => .discard (inStep_write h x.key v _)
      | merge => exact .bind (inStep_fieldValue x) fun v => inStep_merge h x.key v _
      | _ => exact .pure ()
  | load =>
      cases o with
      | assign => exact .bind (inStep_stateValue x _) hput
      | count => exact .bind (inStep_stateList x) fun _ => hput _
      | merge => exact .pure ()
      | first =>
          refine .bind (inStep_stateList x) fun items => ?_
          cases items with
          | nil => exact .pure ()
          | cons a items => exact hput _
      | default =>
          refine .bind (.bind (.gets fun _ _ _ => rfl) fun _ =>
            .bind (.gets fun _ _ _ => rfl) fun _ => .pure _) fun text => ?_
          split
          · exact .bind (inStep_stateValue x _) hput
          · exact .pure ()

theorem inStep_execute (t : Trigger) (directive : String) (carried : Option Json)
    (field : ElementRef) (source : Option Source) :
    InStep extra carry carry' (execute t directive carried field source)
      (execute t directive carried field source) := by
  have hall (x : Evaluation) (os : List Operator) :
      InStep extra carry carry' (evaluateAll t x os) (evaluateAll t x os) := by
    induction os with
    | nil => exact .pure ()
    | cons o os ih =>
        rw [evaluateAll_cons]
        refine .looked (fun _ _ _ => rfl) fun s hs => .bind ?_ fun _ => ih
        rw [Session.evaluator?_standard hs.evaluators]
        exact inStep_evaluate h x t o
  cases t with
  | save =>
      change InStep _ _ _ (if _ then _ else _) (if _ then _ else _)
      split
      · exact hall _ _
      · exact .pure ()
  | load =>
      rw [execute_load]
      split
      · exact .bind (.change ⟨fun _ _ _ => rfl, fun _ => rfl⟩) fun _ =>
          .ending (hall _ _) ⟨fun _ _ _ => rfl, fun _ => rfl⟩
      · exact .pure ()

theorem inStep_executeAll (t : Trigger) (carried : Option Json) (field : ElementRef)
    (source : Option Source) (directives : List String) :
    InStep extra carry carry' (executeAll t carried field source directives)
      (executeAll t carried field source directives) := by
  induction directives with
  | nil => exact .pure ()
  | cons d ds ih =>
      exact .bind (.outcome (inStep_execute h t d carried field source)) fun _ =>
        .bind (.outcome ih) fun _ => .ofExcept _

omit h in
theorem inStep_eachField (f : Form) (spec : Table (List String))
    {act : List String → ElementRef → Act Unit}
    (ha : ∀ ds e, InStep extra carry carry' (act ds e) (act ds e)) :
    InStep extra carry carry' (eachField f spec act) (eachField f spec act) := by
  induction spec with
  | nil => exact .pure ()
  | cons p spec ih =>
      rw [eachField_cons]
      refine .bind (.gets fun _ _ _ => rfl) fun found => .bind ?_ fun _ => ih
      cases found with
      | none => exact .pure ()
      | some e => exact ha _ e

theorem inStep_saveForm (f : Form) (spec : Table (List String)) :
    InStep extra carry carry' (saveForm f spec) (saveForm f spec) := by
  unfold saveForm
  refine inStep_eachField f spec fun ds e => .bind (.gets fun _ _ _ => rfl) fun x => ?_
  exact inStep_executeAll h .save (some x.value) e (some f.source) ds

theorem inStep_loadForm (f : Form) (spec : Table (List String)) :
    InStep extra carry carry' (loadForm f spec) (loadForm f spec) := by
  unfold loadForm
  exact inStep_eachField f spec fun ds e => inStep_executeAll h .load none e none ds

omit h in
theorem inStep_wire (conns : List Connection) :
    InStep extra carry carry' (wire conns) (wire conns) := by
  intro s s' r t hs hb hr
  have hc : s'.connectors = [] := by
    rw [hb.rest]
    exact hs.connectors
  cases (run_wire hs.connectors conns).symm.trans hr
  refine ⟨s'.wired conns, run_wire hc conns, hs.wired conns, ?_⟩
  · refine ⟨hb.listeners.append _, hb.handlers.append _, ?_⟩
    rw [hb.rest]
    rfl

theorem inStep_hear (l : Listener) (hl : l.LooksOn) (key : String) (v : Json)
    (writer : Option Source) :
    InStep extra carry carry' (hear l key v writer) (hear l key v writer) := by
  cases l with
  | load directive field source =>
      change InStep _ _ _ (if _ then _ else _) (if _ then _ else _)
      split
      · exact .pure ()
      · exact .attempt (inStep_execute h .load directive (some v) field source)
  | journal => exact .emit _
  | report label actions =>
      exact .bind (.emit _) fun _ => .attempt (h.inStep (.script actions) hl)
  | silent => exact .pure ()

theorem inStep_handle (x : Handler) (hx : x.LooksOn) (e : ElementRef) :
    InStep extra carry carry' (handle x e) (handle x e) := by
  cases x with
  | save directive source =>
      refine .bind (.gets fun _ _ _ => rfl) fun loading => ?_
      split
      · exact .attempt (inStep_execute h .save directive none e source)
      · exact .pure ()
  | watch label actions =>
      exact .bind (.gets fun _ _ _ => rfl) fun _ => .bind (.gets fun _ _ _ => rfl) fun _ =>
        .bind (.emit _) fun _ => .attempt (h.inStep (.script actions) hx)
  | restore b => exact hx.elim
  | submit b => exact hx.elim
  | check b => exact hx.elim

omit h in
/-- Onlookers see no difference. -/
theorem inStep_runAll {actions : List Command} (ha : LooksOn actions) :
    InStep extra carry carry' (runAll actions) (runAll actions) := by
  intro s s' r t hs hb hr
  obtain ⟨x, u, hu, hw, hother⟩ := ha carry s
  cases hu.symm.trans hr
  have hrun := hother carry' s'.listeners s'.handlers
  rw [← hb.rest] at hrun
  refine ⟨_, hrun, ?_, ?_⟩
  · refine ⟨hw.evaluators.trans hs.evaluators, hw.connectors.trans hs.connectors, ?_, ?_⟩
    · rw [hw.listeners]
      exact hs.listeners
    · rw [hw.handlers]
      exact hs.handlers
  · refine ⟨?_, ?_, rfl⟩
    · rw [hw.listeners]
      exact hb.listeners
    · rw [hw.handlers]
      exact hb.handlers

theorem inStep_reaction {r : Reaction} (hr : OfOnlookers r) :
    InStep extra carry carry' (reaction r) (reaction r) := by
  cases r with
  | listener l key v writer => exact inStep_hear h l hr key v writer
  | handler x e => exact inStep_handle h x hr e
  | script actions | hook actions => exact inStep_runAll hr

end

/-- One level more of fuel is enough for all calls of inert connections. -/
theorem attends_cascade {extra : List Connection} (hx : ∀ c ∈ extra, c.Inert) (n : Nat) :
    Attends extra (cascade n) (cascade (n+1)) := by
  have hlistener (n : Nat) : ∀ c ∈ extra, c.trigger = .load → ∀ key v writer (s : Session),
      s.evaluators = [] →
      react (.listener c.listener key v writer) (cascade (n+1)) s = some (.ok (), s) :=
    fun c hc ht key v writer s he => run_hear_inert (hx c hc) ht he key v writer
  have hhandler (n : Nat) : ∀ c ∈ extra, c.trigger = .save → ∀ e (s : Session),
      s.evaluators = [] → react (.handler c.handler e) (cascade (n+1)) s = some (.ok (), s) :=
    fun c hc ht e s he => run_handle_inert (hx c hc) ht he e
  induction n with
  | zero =>
      refine ⟨fun r hr s s' x t hs hb h => ?_, hlistener 0, hhandler 0⟩
      cases h
  | succ n ih => exact ⟨fun r hr => inStep_reaction ih hr, hlistener (n+1), hhandler (n+1)⟩

/-- Does one thing after the other, whichever of them fail, and reports how each has ended. -/
def outcomes : List (Act Unit) → Act (List (Except Fault Unit))
  | [] => return []
  | a::as => do
      let r ← outcome a
      let rs ← outcomes as
      return r::rs

end Act

/-- What a host does with a bound session; more connections may be made on the way. -/
inductive Doing where
  | deed (d : Deed)
  | wire (conns : List Connection)
  | saveForm (f : Form) (spec : Table (List String))
  | loadForm (f : Form) (spec : Table (List String))

def Doing.act : Doing → Act Unit
  | deed d => d.act
  | wire conns => Act.wire conns
  | saveForm f spec => Act.saveForm f spec
  | loadForm f spec => Act.loadForm f spec

section
variable {extra : List Connection} {carry carry' : React} {n : Nat} {s : Session}

theorem Deed.inStep (h : Attends extra carry carry') (d : Deed) :
    InStep extra carry carry' d.act d.act := by
  cases d with
  | type e text => exact inStep_type h e text
  | put e v => exact inStep_put h e v
  | write key v source => exact .discard (inStep_write h key v source)
  | merge key v source => exact inStep_merge h key v source
  | bulk values source => exact inStep_writeAll h values source
  | execute t directives carried e source => exact inStep_executeAll h t carried e source directives

theorem Doing.inStep (h : Attends extra carry carry') (d : Doing) :
    InStep extra carry carry' d.act d.act := by
  cases d with
  | deed d => exact d.inStep h
  | wire conns => exact inStep_wire conns
  | saveForm f spec =>
      exact inStep_saveForm h f spec
  | loadForm f spec =>
      exact inStep_loadForm h f spec

theorem inStep_outcomes (h : Attends extra carry carry') (ds : List Doing) :
    InStep extra carry carry' (outcomes (ds.map Doing.act)) (outcomes (ds.map Doing.act)) := by
  induction ds with
  | nil => exact .pure []
  | cons d ds ih =>
      exact .bind (.outcome (d.inStep h)) fun _ => .bind ih fun _ => .pure _

theorem settles_eachField {saves : List Connection} {depth : Nat} (f : Form)
    (spec : Table (List String)) {act : List String → ElementRef → Act Unit}
    (ha : ∀ ds e, Settles saves depth carry (act ds e)) :
    Settles saves depth carry (eachField f spec act) := by
  induction spec with
  | nil => exact (Makes.pure ()).settles
  | cons p spec ih =>
      rw [eachField_cons]
      refine .bind (Calm.gets _).settles fun found => .bind ?_ fun _ => ih
      cases found with
      | none => exact (Makes.pure ()).settles
      | some e => exact ha _ e

theorem settles_saveForm {saves : List Connection} {depth : Nat} (f : Form)
    (spec : Table (List String)) : Settles saves depth (cascade (n+3)) (saveForm f spec) := by
  unfold saveForm
  refine settles_eachField f spec fun ds e => .bind (Calm.gets _).settles fun x => ?_
  exact settles_executeAll .save ds (some x.value) e (some f.source)

theorem settles_loadForm {saves : List Connection} {depth : Nat} (f : Form)
    (spec : Table (List String)) : Settles saves depth (cascade (n+3)) (loadForm f spec) := by
  unfold loadForm
  exact settles_eachField f spec fun ds e => settles_executeAll .load ds none e none

/-- Whatever is done ends, and no load is left running. -/
theorem Doing.ends (hs : s.Onlooked) (hl : s.loading = 0) (d : Doing) (n : Nat) :
    ∃ r t, d.act.settle (n+4) s = some (r, t) ∧ t.loading = 0 := by
  have hsettled {a : Act Unit}
      (h : Settles (s.handlers.filterMap Registration.save?) s.loading (cascade (n+4)) a) :
      ∃ r t, a.settle (n+4) s = some (r, t) ∧ t.loading = 0 := by
    obtain ⟨r, t, ws, ht, hw⟩ := h s hs.linked
    exact ⟨r, t, ht, hw.loading.trans hl⟩
  cases d with
  | deed d => exact hsettled (hl ▸ d.settles)
  | wire conns => exact ⟨.ok (), s.wired conns, run_wire hs.connectors conns, hl⟩
  | saveForm f spec =>
      exact hsettled (settles_saveForm (n := n+1) f spec)
  | loadForm f spec =>
      exact hsettled (settles_loadForm (n := n+1) f spec)

theorem outcomes_end (hs : s.Onlooked) (hl : s.loading = 0) (ds : List Doing) (n : Nat) :
    ∃ rs t, (outcomes (ds.map Doing.act)).settle (n+4) s = some (.ok rs, t) := by
  induction ds generalizing s with
  | nil => exact ⟨[], s, run_pure []⟩
  | cons d ds ih =>
      obtain ⟨r, t, ht, hlt⟩ := d.ends hs hl n
      obtain ⟨t', -, hst, -⟩ :=
        d.inStep (attends_cascade (List.forall_mem_nil _) (n+4)) s s r t hs (.refl s) ht
      obtain ⟨rs, u, hu⟩ := ih hst hlt
      have hr : outcome d.act (cascade (n+4)) s = some (.ok r, t) := by
        rw [settle] at ht
        rw [run_outcome, ht]
        rfl
      exact ⟨r::rs, u, (run_bind_ok hr).trans ((run_bind_ok hu).trans (run_pure _))⟩

/-- Inert connections change nothing: whatever is done afterwards ends in the same way, each thing
with the same result, as it does without them, after the same writes and events in the same order,
and with the same elements. Only the listeners and handlers tell of them, where they stand amid the
others. -/
theorem inert_connections_unnoticed (hx : ∀ c ∈ extra, c.Inert) (hs : s.Onlooked)
    (hl : s.loading = 0) (ds : List Doing) (n : Nat) : ∃ rs t t',
    (outcomes (ds.map Doing.act)).settle (n+5) s = some (.ok rs, t) ∧
    (do wire extra; outcomes (ds.map Doing.act)).settle (n+5) s = some (.ok rs, t') ∧
    t'.writes = t.writes ∧ t'.trace = t.trace ∧ t'.elements = t.elements ∧
    t.Alongside extra t' ∧
    ∀ key, (t'.listenersOf key).length = (t.listenersOf key).length+(loadsOf extra key).length := by
  obtain ⟨rs, t, ht⟩ := outcomes_end hs hl ds n
  -- the run without the connections needs no more fuel, so it comes to the same with one level more
  obtain ⟨u, hu, -, htu⟩ :=
    inStep_outcomes (attends_cascade (List.forall_mem_nil _) (n+4)) ds s s _ t hs (.refl s) ht
  obtain rfl : u = t := htu.eq_of_nil
  obtain ⟨t', ht', -, halong⟩ :=
    inStep_outcomes (attends_cascade hx (n+4)) ds s (s.wired extra) _ u hs (.wired s) ht
  have htrace : t'.trace = u.trace := by rw [halong.rest]
  have helements : t'.elements = u.elements := by rw [halong.rest]
  exact ⟨rs, u, t', hu, (run_bind_ok (run_wire hs.connectors extra)).trans ht',
    congrArg (·.reverse.filterMap Event.write?) htrace, htrace, helements, halong,
    halong.length_listenersOf⟩

end

/-- One for the other direction, and one in each direction without an evaluator; the last one hears
of every write, and then it counts as a load. -/
def inertConnections : List Connection :=
  [⟨.load, ">k", 0, none⟩, ⟨.save, "#k", 0, none⟩, ⟨.load, "<~*", 1, none⟩]

/-- Writes and the changes of one element are watched. -/
def watchedSession : Session :=
  { elements := [{ name := some "a", control := .input "" }, { control := .input "" }],
    listeners := [("*", .report "w" [])], handlers := [⟨1, .change, .watch "o" []⟩] }

theorem inert_connections_unnoticed_watched :
    let f : Form := ⟨"f", ⟨"form#1"⟩, [0]⟩
    let course : List Doing := [.wire [⟨.save, "k", 0, none⟩, ⟨.load, "k", 1, some ⟨"t"⟩⟩],
      .deed (.type 0 "x"), .saveForm f [("a", ["~k"])], .loadForm f [("a", ["#k", "?j"])]]
    (∀ c ∈ inertConnections, c.Inert) ∧ ∃ rs t t',
    (outcomes (course.map Doing.act)).settle 5 watchedSession = some (.ok rs, t) ∧
    (do wire inertConnections; outcomes (course.map Doing.act)).settle 5 watchedSession =
      some (.ok rs, t') ∧ t'.trace = t.trace ∧ t'.elements = t.elements ∧
    (t'.listenersOf "*").length = (t.listenersOf "*").length+1 := by
  intro f course
  have hx : ∀ c ∈ inertConnections, c.Inert := by
    simp only [inertConnections, List.forall_mem_cons, List.not_mem_nil, false_implies,
      implies_true, and_true]
    exact ⟨.inl (by decide), .inr (by decide), .inr (by decide)⟩
  have hs : watchedSession.Onlooked := by
    refine ⟨rfl, rfl, ?_, ?_⟩
    · rintro p hp
      obtain rfl := List.mem_singleton.mp hp
      exact looksOn_nil
    · rintro r hr -
      obtain rfl := List.mem_singleton.mp hr
      exact looksOn_nil
  obtain ⟨rs, t, t', ht, ht', -, htrace, helements, -, hcount⟩ :=
    inert_connections_unnoticed hx hs rfl course 0
  exact ⟨hx, rs, t, t', ht, ht', htrace, helements, hcount "*"⟩

end ScreenBinding
