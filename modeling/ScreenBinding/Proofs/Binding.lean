import ScreenBinding.Proofs.Quiet

/-!
# What bindings write

The reactions of a bound session, from the inside out: a quiet script, a change raised by a load,
a load, a listener, a write, a save, and a change raised by a user. Each stage runs in a cascade
one deeper than the stage that it calls, so four levels of fuel are enough for any number of
bindings. A chain of bindings cannot go round, because a load raises changes only while the loading
depth is positive, where saves do nothing.
-/
namespace ScreenBinding
open Session (Wrote)

/-- Whether a save with this operator writes. -/
def Operator.stores : Operator → Bool
  | .assign | .merge => true
  | _ => false

namespace Directive

/-- Whether a save of the directive writes. -/
def saves (d : Directive) : Bool := d.appliesTo .save && d.operators.any Operator.stores

theorem parse_operators (s : String) : ∃ o, (parse s).operators = [o] := ⟨_, rfl⟩

end Directive

/-- Where a save of a directive writes. -/
def savedTo (directive : String) (source : Option Source) : List (String × Option Source) :=
  let d := Directive.parse directive
  if d.saves then [(d.key, source)] else []

/-- Where a handler writes when a user changes its element. -/
def Handler.targets : Handler → List (String × Option Source)
  | .save directive source => savedTo directive source
  | _ => []

namespace Act
section
variable {saves : List Connection} {depth n : Nat} {carry : React}

/-- A reaction is one level deeper than what it reacts to. -/
theorem Makes.react {r : Reaction} {ts : List (String × Option Source)}
    (h : Makes saves depth (cascade n) (reaction r) ts) :
    Makes saves depth (cascade (n+1)) (Act.react r) ts := h

theorem calm_script {actions : List Command} (h : QuietScript actions) :
    Calm saves depth (cascade (n+1)) (react (.script actions)) :=
  fun s _ => h (cascade n) s

/-- While a load runs, a change makes no write. -/
theorem handler_while_loading {h : Handler} (hq : h.Quiet) (e : ElementRef) :
    Makes saves (depth+1) (cascade (n+2)) (react (.handler h e)) [] := by
  apply Makes.react
  cases h with
  | save directive source =>
      refine Makes.looked fun s hs => ?_
      rw [if_neg (by rw [hs.loading]; exact Nat.succ_ne_zero depth)]
      exact .pure ()
  | watch label actions =>
      exact .looked fun s _ => .looked fun t _ => .bind (.emit rfl) fun _ =>
        (calm_script hq).attempt
  | restore b => exact hq.elim
  | submit b => exact hq.elim
  | check b => exact hq.elim

theorem put_while_loading (e : ElementRef) (v : Json) :
    Makes saves (depth+1) (cascade (n+2)) (put e v) [] :=
  .looked fun _ _ => .bind (.modify e _) fun _ => .looked fun _ hs =>
    .forEach_nil fun _ hx => handler_while_loading (hs.handlersOf hx) e

theorem calm_carriedOr (x : Evaluation) {other : Act Json}
    (h : Calm saves depth carry other) : Calm saves depth carry (carriedOr x other) := by
  unfold carriedOr
  split
  · split
    · exact .pure _
    · exact h
  · exact h

theorem calm_stateValue (x : Evaluation) (unset : Json) :
    Calm saves depth carry (stateValue x unset) :=
  calm_carriedOr x (.gets _)

theorem calm_stateList (x : Evaluation) : Calm saves depth carry (stateList x) := by
  refine .bind (calm_stateValue x _) fun v => ?_
  split
  · exact .pure _
  · exact .bind (.gets _) fun sep => .ofExcept _

/-- No evaluator of a load writes, whether it fails or not. -/
theorem calm_evaluate_load (x : Evaluation) (o : Operator) :
    Calm saves (depth+1) (cascade (n+2)) (evaluate? x (Evaluator.standard .load o)) := by
  cases o with
  | assign =>
      exact .bind (calm_stateValue x _) fun _ => (put_while_loading x.field _).calm
  | count =>
      exact .bind (calm_stateList x) fun _ => (put_while_loading x.field _).calm
  | merge => exact .pure ()
  | first =>
      refine .bind (calm_stateList x) fun items => ?_
      cases items with
      | nil => exact .pure ()
      | cons a r => exact (put_while_loading x.field _).calm
  | default =>
      refine .bind (.bind (.gets _) fun _ => .bind (.gets _) fun _ => .pure _) fun text => ?_
      split
      · exact .bind (calm_stateValue x _) fun _ => (put_while_loading x.field _).calm
      · exact .pure ()

theorem calm_evaluateAll_load (x : Evaluation) (operators : List Operator) :
    Calm saves (depth+1) (cascade (n+2)) (evaluateAll .load x operators) := by
  induction operators with
  | nil => exact .pure ()
  | cons o os ih =>
      rw [evaluateAll_cons]
      refine .looked fun s hs => .bind ?_ fun _ => ih
      rw [hs.evaluator?]
      exact calm_evaluate_load x o

theorem execute_load (directive : String) (carried : Option Json) (field : ElementRef)
    (source : Option Source) : execute .load directive carried field source =
      if (Directive.parse directive).appliesTo .load then do
        change fun s => { s with loading := s.loading+1 }
        (evaluateAll .load ⟨(Directive.parse directive).key, carried, field, source⟩
          (Directive.parse directive).operators).ending fun s => { s with loading := s.loading-1 }
      else pure () := rfl

/-- A load ends at the depth at which it began, after a fault too. -/
theorem calm_execute_load (directive : String) (carried : Option Json) (field : ElementRef)
    (source : Option Source) :
    Calm saves depth (cascade (n+2)) (execute .load directive carried field source) := by
  intro s hs
  rw [execute_load]
  split
  · have hs' : Linked saves (depth+1) { s with loading := s.loading+1 } :=
      ⟨hs.evaluators, hs.connectors, hs.listeners, hs.handlers, hs.saves,
        congrArg (·+1) hs.loading⟩
    obtain ⟨r, t, hr, ht⟩ := calm_evaluateAll_load
      ⟨(Directive.parse directive).key, carried, field, source⟩
      (Directive.parse directive).operators _ hs'
    refine ⟨r, { t with loading := t.loading-1 }, ?_, ?_⟩
    · rw [run_bind_ok (run_change _), run_ending, hr]
      rfl
    · exact ⟨ht.values, ht.writes, ht.listeners, ht.handlers, ht.evaluators, ht.connectors,
        by simp only [ht.loading, Nat.add_sub_cancel]⟩
  · exact ⟨_, s, run_pure (), .refl s⟩

/-- Quiet listeners hear of a write and make none. -/
theorem hear_quiet {l : Listener} (hl : l.Quiet) (key : String) (v : Json)
    (writer : Option Source) :
    Makes saves depth (cascade (n+3)) (react (.listener l key v writer)) [] := by
  apply Makes.react
  cases l with
  | load directive field source =>
      change Makes saves depth _ (if _ then _ else _) []
      split
      · exact .pure ()
      · exact (calm_execute_load directive (some v) field source).attempt
  | journal => exact .emit rfl
  | report label actions => exact .bind (.emit rfl) fun _ => (calm_script hl).attempt
  | silent => exact .pure ()

theorem makes_notify (key : String) (v : Json) (source : Option Source) :
    Makes saves depth (cascade (n+3)) (notify key v source) [] :=
  .looked fun _ hs => .forEach_nil fun _ hl => hear_quiet (hs.audience hl) key v source

/-- A write is one write, and it returns the value before. -/
theorem write_once {s : Session} (h : Linked saves depth s) (key : String) (v : Json)
    (source : Option Source) :
    ∃ t, write key v source (cascade (n+3)) s = some (.ok (Table.find? s.values key), t) ∧
      Wrote [⟨key, v, source⟩] s t := by
  have hw := Wrote.stored s key v source
  obtain ⟨_, t, ws, hr, ht, he⟩ := makes_notify (n := n) key v source _ (h.wrote hw)
  obtain rfl : ws = [] := List.map_eq_nil_iff.mp he
  refine ⟨t, ?_, hw.trans ht⟩
  rw [write, run_bind_ok (run_gets _), run_bind_ok (run_store key v source), run_bind_ok hr,
    run_pure]

theorem makes_write (key : String) (v : Json) (source : Option Source) :
    Makes saves depth (cascade (n+3)) (write key v source) [(key, source)] := fun _ hs =>
  let ⟨t, hr, ht⟩ := write_once hs key v source
  ⟨_, t, _, hr, ht, rfl⟩

theorem makes_merge (key : String) (v : Json) (source : Option Source) :
    Makes saves depth (cascade (n+3)) (merge key v source) [(key, source)] := by
  refine .looked fun s _ => ?_
  split
  · exact (makes_write key v source).discard
  · exact .looked fun _ _ => (makes_write key _ source).discard

theorem makes_fieldValue (x : Evaluation) :
    Makes saves depth carry (fieldValue x) [] := by
  unfold fieldValue carriedOr
  split
  · split
    · exact .pure _
    · exact .looked fun _ _ => .pure _
  · exact .looked fun _ _ => .pure _

/-- One operator of a save: a write if it stores, and nothing else. -/
theorem makes_evaluate_save (x : Evaluation) (o : Operator) :
    Makes saves depth (cascade (n+3)) (evaluate? x (Evaluator.standard .save o))
      (if o.stores then [(x.key, x.source)] else []) := by
  cases o with
  | assign => exact .bind (makes_fieldValue x) fun _ => (makes_write x.key _ x.source).discard
  | merge => exact .bind (makes_fieldValue x) fun _ => makes_merge x.key _ x.source
  | count => exact .pure ()
  | first => exact .pure ()
  | default => exact .pure ()

theorem makes_evaluateAll_save (x : Evaluation) (operators : List Operator) :
    Makes saves depth (cascade (n+3)) (evaluateAll .save x operators)
      ((operators.filter Operator.stores).map fun _ => (x.key, x.source)) := by
  induction operators with
  | nil => exact .pure ()
  | cons o os ih =>
      rw [evaluateAll_cons]
      refine .looked fun s hs => ?_
      rw [hs.evaluator?]
      have h : Makes saves depth (cascade (n+3)) _ _ :=
        .bind (makes_evaluate_save x o) fun _ => ih
      cases ho : o.stores <;> simpa [List.filter_cons, ho] using h

/-- A save writes to its key once or not at all. -/
theorem makes_execute_save (directive : String) (carried : Option Json) (field : ElementRef)
    (source : Option Source) :
    Makes saves depth (cascade (n+3)) (execute .save directive carried field source)
      (savedTo directive source) := by
  obtain ⟨o, ho⟩ := Directive.parse_operators directive
  have h : Makes saves depth (cascade (n+3)) _ _ := makes_evaluateAll_save
    ⟨(Directive.parse directive).key, carried, field, source⟩ (Directive.parse directive).operators
  change Makes saves depth _ (if _ then _ else _) _
  simp only [savedTo, Directive.saves, ho, List.any_cons, List.any_nil, Bool.or_false] at h ⊢
  cases (Directive.parse directive).appliesTo .save with
  | false => exact .pure ()
  | true => cases hs : o.stores <;> simpa [List.filter_cons, hs] using h

theorem makes_handler {h : Handler} (hq : h.Quiet) (e : ElementRef) :
    Makes saves 0 (cascade (n+4)) (react (.handler h e)) h.targets := by
  apply Makes.react
  cases h with
  | save directive source =>
      refine Makes.looked fun s hs => ?_
      rw [if_pos hs.loading]
      exact (makes_execute_save directive none e source).attempt
  | watch label actions =>
      exact .looked fun s _ => .looked fun t _ => .bind (.emit rfl) fun _ =>
        (calm_script hq).attempt
  | restore b => exact hq.elim
  | submit b => exact hq.elim
  | check b => exact hq.elim

end
end Act
end ScreenBinding
