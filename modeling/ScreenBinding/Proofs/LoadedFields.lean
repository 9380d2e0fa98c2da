import ScreenBinding.Proofs.Binding

/-!
# What a field shows

An element shows a value according to its kind, and nothing else of the session is touched when it
does. While a load runs, saves are held back, so the change that it raises comes to nothing as long
as the element has no other handler of changes. A save that assigns writes what the element shows.
-/
namespace ScreenBinding
open Act

namespace Directive

/-- The operator that a text names. -/
def operator (d : Directive) : Operator := d.operators.headD .assign

theorem operators_parse (s : String) : (parse s).operators = [(parse s).operator] := rfl

/-- A directive that assigns a key in some direction. -/
structure Assigns (directive : String) (t : Trigger) (key : String) : Prop where
  key : (parse directive).key = key
  applies : (parse directive).appliesTo t = true
  operator : (parse directive).operator = .assign

end Directive

namespace Control

/-- What an element of its kind shows for a value. -/
def Shows (sep : Separators) (v : Json) : Control → Prop
  | checkbox b => b = v.truthy
  | input s => s = sep.textOf v
  | plain s => s = sep.textOf v

theorem shows_put (sep : Separators) (v : Json) (c : Control) : (c.put sep v).Shows sep v := by
  cases c <;> rfl

/-- What an element shows, it shows for its own value. -/
theorem shows_value (sep : Separators) (c : Control) : c.Shows sep c.value := by
  cases c with
  | checkbox b => rfl
  | input s => simp [Shows, value, Separators.textOf]
  | plain s => simp [Shows, value, Separators.textOf]

end Control

namespace Session

/-- The session once an element shows a value. -/
def shown (s : Session) (e : ElementRef) (v : Json) : Session :=
  { s with elements := s.elements.modify e fun x =>
      { x with control := x.control.put s.settings.separators v } }

theorem element_modify_ne (s : Session) {e e' : ElementRef} (h : e ≠ e') (f : Element → Element) :
    { s with elements := s.elements.modify e f }.element e' = s.element e' := by
  simp [element, List.getD_eq_getElem?_getD, h]

theorem element_modify (s : Session) {e : ElementRef} (h : e < s.elements.length)
    (f : Element → Element) :
    { s with elements := s.elements.modify e f }.element e = f (s.element e) := by
  simp [element, List.getD_eq_getElem?_getD, h]

theorem element_shown_ne (s : Session) {e e' : ElementRef} (h : e ≠ e') (v : Json) :
    (s.shown e v).element e' = s.element e' :=
  s.element_modify_ne h _

theorem shows_shown (s : Session) {e : ElementRef} (h : e < s.elements.length) (v : Json) :
    ((s.shown e v).element e).control.Shows s.settings.separators v := by
  rw [shown, element_modify s h]
  exact Control.shows_put ..

/-- Nothing differs but what one element shows. -/
def Refills (e : ElementRef) (s t : Session) : Prop := t = s ∨ ∃ v, t = s.shown e v

/-- Changes of an element are saved, if they are heard of at all. -/
def OnlySaves (s : Session) (e : ElementRef) : Prop :=
  ∀ h ∈ s.handlersOf e .change, ∃ directive source, h = .save directive source

end Session

open Session (OnlySaves)

namespace Act
section
variable {β : Type} {n : Nat} {carry : React} {s : Session}

/-- A loop whose rounds leave the session alone. -/
theorem run_forEach_still {f : β → Act Unit} {l : List β}
    (h : ∀ x ∈ l, f x carry s = some (.ok (), s)) :
    (do for x in l do f x) carry s = some (.ok (), s) := by
  induction l with
  | nil => rw [forEach_nil, run_pure]
  | cons x l ih =>
      rw [forEach_cons, run_bind_ok (h x (List.mem_cons_self ..))]
      exact ih fun y hy => h y (List.mem_cons_of_mem x hy)

/-- While a load runs, a binding saves nothing. -/
theorem run_save_held (directive : String) (source : Option Source) (e : ElementRef)
    (hl : s.loading ≠ 0) : handle (.save directive source) e carry s = some (.ok (), s) := by
  rw [handle, run_bind_ok (run_gets _), if_neg hl, run_pure]

/-- Callbacks that save nothing while a load runs. -/
def HoldsSaves (carry : React) : Prop :=
  ∀ directive source e (s : Session), s.loading ≠ 0 →
    react (.handler (.save directive source) e) carry s = some (.ok (), s)

theorem holdsSaves_cascade (n : Nat) : HoldsSaves (cascade (n+1)) :=
  fun directive source e _ hl => run_save_held directive source e hl

theorem run_raise_held (hc : HoldsSaves carry) {e : ElementRef} (hs : s.OnlySaves e)
    (hl : s.loading ≠ 0) : raise e .change carry s = some (.ok (), s) := by
  rw [raise, run_bind_ok (run_gets _)]
  refine run_forEach_still fun h hh => ?_
  obtain ⟨directive, source, rfl⟩ := hs h hh
  exact hc directive source e s hl

theorem run_put_held (hc : HoldsSaves carry) {e : ElementRef} (hs : s.OnlySaves e)
    (hl : s.loading ≠ 0) (v : Json) : put e v carry s = some (.ok (), s.shown e v) := by
  have hr : raise e .change carry (s.shown e v) = some (.ok (), s.shown e v) :=
    run_raise_held hc hs hl
  exact hr

theorem evaluateAll_single (t : Trigger) (x : Evaluation) (o : Operator)
    (he : s.evaluators = []) :
    evaluateAll t x [o] carry s = evaluate? x (Evaluator.standard t o) carry s := by
  have hlast : evaluateAll t x [] = pure () := by simp [evaluateAll]
  rw [evaluateAll_cons, run_bind_ok (run_gets _), Session.evaluator?_standard he, hlast,
    bind_pure_unit]

/-- What a save that assigns writes is what the field shows. -/
theorem run_save_assign {directive key : String} {carried : Option Json} {e : ElementRef}
    (source : Option Source) (hd : Directive.Assigns directive .save key)
    (he : s.evaluators = []) (hc : carried = none ∨ carried = some (s.element e).value) :
    execute .save directive carried e source carry s =
      discard (write key (s.element e).value source) carry s := by
  have hvalue : fieldValue ⟨key, carried, e, source⟩ carry s =
      some (.ok (s.element e).value, s) := by
    obtain rfl | rfl := hc
    · rfl
    · simp only [fieldValue, carriedOr]
      split <;> rfl
  change (if _ then _ else _ : Act Unit) carry s = _
  rw [if_pos hd.applies, hd.key, Directive.operators_parse, hd.operator,
    evaluateAll_single .save _ .assign he]
  change (fieldValue _ >>= fun v => discard (write key v source)) carry s = _
  exact run_bind_ok hvalue

theorem react_listener (l : Listener) (key : String) (v : Json) (writer : Option Source) :
    react (.listener l key v writer) (cascade (n+1)) s = hear l key v writer (cascade n) s := rfl

/-- A load binding does not hear of the writes of its own source. -/
theorem run_hear_own (directive : String) (e : ElementRef) (tag : Source) (key : String)
    (v : Json) :
    react (.listener (.load directive e (some tag)) key v (some tag)) (cascade (n+1)) s =
      some (.ok (), s) := by
  rw [react_listener, hear, if_pos ⟨rfl, rfl⟩, run_pure]

end
end Act
end ScreenBinding
