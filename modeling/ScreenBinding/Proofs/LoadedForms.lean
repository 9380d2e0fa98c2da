import ScreenBinding.Proofs.FormSaves

/-!
# Loads of whole forms

A load of a form goes through its fields and their directives. Each directive sets its field, fills
it if it is blank, leaves it as it is, or fails; which of these it does depends on the state alone,
and so does the place at which the load stops. Several of them in a row come to no more than one of
them, for each kind of field, and one of them changes nothing where it has been carried out already.
So a load that is repeated finds everything as it leaves it.

The elements may be bound to the state in any way: their saves do nothing while the load runs, and
loads that listen to the state do not hear of it, since nothing is written.
-/
namespace ScreenBinding
open Act

namespace Control
variable {sep : Separators} {c x : Control}

/-- White space, or nothing. -/
def blank (sep : Separators) (c : Control) : Bool := (Text.trim (sep.textOf c.value).toList).isEmpty

/-- A control that shows every value as another one does. -/
def Like (sep : Separators) (c x : Control) : Prop := ∀ v, x.put sep v = c.put sep v

theorem put_put (sep : Separators) (c : Control) (v w : Json) :
    (c.put sep v).put sep w = c.put sep w := by
  cases c <;> rfl

theorem Like.refl (sep : Separators) (c : Control) : c.Like sep c := fun _ => rfl

theorem Like.put (h : c.Like sep x) (v : Json) : c.Like sep (x.put sep v) :=
  fun w => (put_put sep x v w).trans (h w)

end Control

/-- What a load does to what a field shows. -/
inductive Filling where
  | keep
  /-- Shows the value if the field is blank. -/
  | fill (v : Json)
  | set (v : Json)

namespace Filling
variable {sep : Separators} {c x : Control}

def apply (sep : Separators) (c : Control) : Filling → Control
  | keep => c
  | fill v => if c.blank sep then c.put sep v else c
  | set v => c.put sep v

theorem apply_apply (sep : Separators) (c : Control) (g : Filling) :
    apply sep (apply sep c g) g = apply sep c g := by
  cases g with
  | keep => rfl
  | fill v =>
      by_cases hblank : c.blank sep = true
      · simp only [apply, hblank, ↓reduceIte, Control.put_put, ite_self]
      · simp only [apply, hblank, ↓reduceIte, Bool.false_eq_true]
  | set v => exact Control.put_put sep c v v

theorem like_apply (h : c.Like sep x) (g : Filling) : c.Like sep (apply sep x g) := by
  cases g with
  | keep => exact h
  | fill v =>
      rw [apply]
      split
      · exact h.put v
      · exact h
  | set v => exact h.put v

/-- Once a value is shown, whether the field is blank is the same for all controls of a kind. -/
theorem fill_put (h : c.Like sep x) (v w : Json) : apply sep (x.put sep w) (fill v) =
    x.put sep (if (c.put sep w).blank sep then v else w) := by
  rw [apply, h w]
  split
  · rw [Control.put_put, h v]
  · exact (h w).symm

/-- Two fillings in a row come to one, the same for all controls of a kind. -/
theorem exists_comp (sep : Separators) (c : Control) (g h : Filling) : ∃ k, ∀ x, c.Like sep x →
    apply sep (apply sep x g) h = apply sep x k := by
  cases h with
  | keep => exact ⟨g, fun x _ => rfl⟩
  | set v =>
      refine ⟨set v, fun x hx => ?_⟩
      exact (like_apply hx g v).trans (hx v).symm
  | fill v =>
      -- What a field shows in the end if it shows `w` before it is filled with `v`.
      let last (w : Json) : Json := if (c.put sep w).blank sep then v else w
      cases g with
      | keep => exact ⟨fill v, fun x _ => rfl⟩
      | set w => exact ⟨set (last w), fun x hx => fill_put hx v w⟩
      | fill w =>
          refine ⟨fill (last w), fun x hx => ?_⟩
          by_cases hx' : x.blank sep = true
          · have hput := fill_put hx v w
            simpa only [apply, hx', ↓reduceIte] using hput
          · simp only [apply, hx', ↓reduceIte, Bool.false_eq_true]

/-- Any number of fillings in a row come to one. -/
theorem exists_single (sep : Separators) (c : Control) (gs : List Filling) :
    ∃ g, ∀ x, c.Like sep x → gs.foldl (apply sep) x = apply sep x g := by
  induction gs with
  | nil => exact ⟨keep, fun x _ => rfl⟩
  | cons g gs ih =>
      obtain ⟨h, hh⟩ := ih
      obtain ⟨k, hk⟩ := exists_comp sep c g h
      refine ⟨k, fun x hx => ?_⟩
      rw [List.foldl_cons, hh _ (like_apply hx g), hk x hx]

/-- Carried out twice, they do no more than once. -/
theorem foldl_foldl (sep : Separators) (c : Control) (gs : List Filling) :
    gs.foldl (apply sep) (gs.foldl (apply sep) c) = gs.foldl (apply sep) c := by
  obtain ⟨g, hg⟩ := exists_single sep c gs
  have hlike : c.Like sep (apply sep c g) := like_apply (.refl sep c) g
  rw [hg c (.refl sep c), hg _ hlike, apply_apply]

/-- What an element shows, filled. -/
def into (sep : Separators) (g : Filling) (x : Element) : Element :=
  { x with control := apply sep x.control g }

end Filling

/-- Elements filled one after the other. -/
def fillAll (sep : Separators) (fills : List (ElementRef × Filling)) (elements : List Element) :
    List Element :=
  fills.foldl (fun xs p => xs.modify p.1 (p.2.into sep)) elements

theorem fillAll_append (sep : Separators) (fills more : List (ElementRef × Filling))
    (elements : List Element) : fillAll sep (fills ++ more) elements =
      fillAll sep more (fillAll sep fills elements) :=
  List.foldl_append

/-- Of all fillings an element takes its own. -/
theorem getElem?_fillAll (sep : Separators) (fills : List (ElementRef × Filling))
    (elements : List Element) (e : ElementRef) : (fillAll sep fills elements)[e]? =
      elements[e]?.map fun x => { x with control :=
        ((fills.filter (·.1 = e)).map Prod.snd).foldl (Filling.apply sep) x.control } := by
  induction fills generalizing elements with
  | nil => simp [fillAll]
  | cons p fills ih =>
      have hrest := ih (elements.modify p.1 (p.2.into sep))
      rw [fillAll, List.foldl_cons]
      refine hrest.trans ?_
      rw [List.getElem?_modify]
      by_cases he : p.1 = e
      · cases elements[e]? <;> simp [he, Filling.into]
      · cases elements[e]? <;> simp [he]

theorem fillAll_fillAll (sep : Separators) (fills : List (ElementRef × Filling))
    (elements : List Element) :
    fillAll sep fills (fillAll sep fills elements) = fillAll sep fills elements := by
  apply List.ext_getElem?
  intro e
  rw [getElem?_fillAll, getElem?_fillAll, Option.map_map]
  cases elements[e]? with
  | none => rfl
  | some x => simp [Filling.foldl_foldl]

namespace Session
variable {s t : Session}

/-- What a load with this operator does to its field. -/
def filling (s : Session) (key : String) : Operator → Except Fault Filling
  | .assign => .ok (.set (s.looked key none (.string "")))
  | .count => (s.lookedList key none).map fun items => .set (.whole items.length)
  | .merge => .ok .keep
  | .first => (s.lookedList key none).map fun items =>
      items.head?.elim .keep fun a => .set (.string a)
  | .default => .ok (.fill (s.looked key none (.string "")))

/-- What a load of a directive does to its field. -/
def fillingBy (s : Session) (directive : String) : Except Fault Filling :=
  let d := Directive.parse directive
  if d.appliesTo .load then s.filling d.key d.operator else .ok .keep

/-- What the directives of a field do to it; one that fails leaves it as it is. -/
def fillings (s : Session) (directives : List String) : List Filling :=
  directives.map fun d => (s.fillingBy d).toOption.getD .keep

/-- The first fault of some directives. -/
def verdict (s : Session) : List String → Except Fault Unit
  | [] => .ok ()
  | d::ds => match s.fillingBy d with
      | .error f => .error f
      | .ok _ => verdict s ds

/-- The session once some elements are filled. -/
def filled (s : Session) (fills : List (ElementRef × Filling)) : Session :=
  { s with elements := fillAll s.settings.separators fills s.elements }

theorem element_of_getElem? {e : ElementRef} {x : Element} (hx : s.elements[e]? = some x) :
    s.element e = x := by
  rw [element, List.getD_eq_getElem?_getD, hx, Option.getD_some]

theorem element_congr {s t : Session} {e : ElementRef} (h : t.elements[e]? = s.elements[e]?) :
    t.element e = s.element e := by
  rw [element, element, List.getD_eq_getElem?_getD, List.getD_eq_getElem?_getD, h]

theorem modify_congr {xs : List Element} {e : ElementRef} {g h : Element → Element}
    (hx : ∀ x, xs[e]? = some x → g x = h x) : xs.modify e g = xs.modify e h := by
  apply List.ext_getElem?
  intro i
  rw [List.getElem?_modify, List.getElem?_modify]
  by_cases he : e = i
  · subst he
    cases hi : xs[e]? with
    | none => rfl
    | some x => simp [hx x hi]
  · simp [he]

theorem filled_keep (s : Session) (e : ElementRef) : s.filled [(e, .keep)] = s := by
  have hsame : s.elements.modify e (Filling.into s.settings.separators .keep) = s.elements :=
    List.modify_id e s.elements
  rw [filled, fillAll, List.foldl_cons, List.foldl_nil, hsame]

/-- A blank field is filled, any other one is not. -/
theorem filled_fill (s : Session) (e : ElementRef) (v : Json) :
    s.filled [(e, .fill v)] = if s.blank e then s.shown e v else s := by
  let sep := s.settings.separators
  have hblank {x : Element} (hx : s.elements[e]? = some x) : x.control.blank sep = s.blank e := by
    rw [blank, element_of_getElem? hx]
    rfl
  rw [filled, fillAll, List.foldl_cons, List.foldl_nil]
  split
  · rename_i hb
    have hput : s.elements.modify e (Filling.into sep (.fill v)) =
        s.elements.modify e fun x => { x with control := x.control.put sep v } := by
      apply modify_congr
      intro x hx
      simp only [Filling.into, Filling.apply, hblank hx, hb, ↓reduceIte]
    rw [hput]
    rfl
  · rename_i hb
    have hsame : s.elements.modify e (Filling.into sep (.fill v)) = s.elements.modify e id := by
      apply modify_congr
      intro x hx
      simp only [Filling.into, Filling.apply, hblank hx, hb, ↓reduceIte, Bool.false_eq_true, id]
    rw [hsame, List.modify_id]

/-- A field takes what it is offered by being filled. -/
theorem taking_filled (s : Session) (e : ElementRef) (directive : String) :
    s.taking e (s.offeredBy directive none e) =
      s.filled [(e, (s.fillingBy directive).toOption.getD .keep)] ∧
    (s.offeredBy directive none e).map (fun _ => ()) =
      (s.fillingBy directive).map fun _ => () := by
  have hkeep := (s.filled_keep e).symm
  have hone (key : String) (o : Operator) :
      s.taking e (s.offered key none e o) =
        s.filled [(e, (s.filling key o).toOption.getD .keep)] ∧
      (s.offered key none e o).map (fun _ => ()) = (s.filling key o).map fun _ => () := by
    cases o with
    | assign => exact ⟨rfl, rfl⟩
    | count =>
        rw [offered, filling]
        cases s.lookedList key none with
        | error f => exact ⟨hkeep, rfl⟩
        | ok items => exact ⟨rfl, rfl⟩
    | merge => exact ⟨hkeep, rfl⟩
    | first =>
        rw [offered, filling]
        rcases s.lookedList key none with f | (_ | ⟨a, items⟩)
        · exact ⟨hkeep, rfl⟩
        · exact ⟨hkeep, rfl⟩
        · exact ⟨rfl, rfl⟩
    | default =>
        refine ⟨?_, rfl⟩
        have hfill := s.filled_fill e (s.looked key none (.string ""))
        rw [offered]
        split
        · rename_i hb
          rw [if_pos hb] at hfill
          exact hfill.symm
        · rename_i hb
          rw [if_neg hb] at hfill
          exact hfill.symm
  rw [offeredBy, fillingBy]
  split
  · exact hone _ _
  · exact ⟨hkeep, rfl⟩

/-- To fill is to look at the state and the separators only. -/
theorem verdict_congr (hv : t.values = s.values) (hs : t.settings = s.settings)
    (directives : List String) : t.verdict directives = s.verdict directives ∧
      t.fillings directives = s.fillings directives := by
  have hone (d : String) : t.fillingBy d = s.fillingBy d := by
    simp only [fillingBy, filling.eq_def, lookedList, looked, hv, hs]
  constructor
  · induction directives with
    | nil => rfl
    | cons d ds ih => simp only [verdict, hone, ih]
  · simp only [fillings, hone]

theorem filled_filled (s : Session) (fills more : List (ElementRef × Filling)) :
    (s.filled fills).filled more = s.filled (fills ++ more) := by
  simp only [filled, fillAll_append]

/-- What is filled keeps all that selectors look at. -/
theorem matchesElement_filled (s : Session) (fills : List (ElementRef × Filling))
    (e : ElementRef) (sel : Selector) :
    sel.matchesElement ((s.filled fills).element e) = sel.matchesElement (s.element e) := by
  rw [element, element, List.getD_eq_getElem?_getD, List.getD_eq_getElem?_getD, filled,
    getElem?_fillAll]
  cases s.elements[e]? with
  | none => rfl
  | some x => rfl

end Session

open Session (OnlySaves)

/-- A load of a form: the elements that it fills, up to the first field that fails. -/
def Form.pass (f : Form) (s : Session) :
    Table (List String) → Except Fault Unit × List (ElementRef × Filling)
  | [] => (.ok (), [])
  | (key, directives)::spec =>
      match f.findField s key with
      | none => pass f s spec
      | some e =>
          let fills := (s.fillings directives).map fun g => (e, g)
          match s.verdict directives with
          | .error x => (.error x, fills)
          | .ok () => ((pass f s spec).1, fills ++ (pass f s spec).2)

theorem Form.pass_congr (f : Form) {s t : Session} (hv : t.values = s.values)
    (hs : t.settings = s.settings) (hf : ∀ key, f.findField t key = f.findField s key)
    (spec : Table (List String)) : f.pass t spec = f.pass s spec := by
  induction spec with
  | nil => rfl
  | cons p spec ih =>
      obtain ⟨key, ds⟩ := p
      obtain ⟨hverdict, hfillings⟩ := Session.verdict_congr hv hs ds
      simp only [pass, hf, hverdict, hfillings, ih]

theorem Form.pass_filled (f : Form) (s : Session) (fills : List (ElementRef × Filling))
    (spec : Table (List String)) : f.pass (s.filled fills) spec = f.pass s spec := by
  apply f.pass_congr
  · rfl
  · rfl
  · exact f.findField_congr fun e _ => s.matchesElement_filled fills e

namespace Act
variable {carry : React} {s : Session}

theorem run_loads_filled (hc : HoldsSaves carry) (he : s.evaluators = []) {e : ElementRef}
    (ho : s.OnlySaves e) (directives : List String) :
    executeAll .load none e none directives carry s = some (s.verdict directives,
      s.filled ((s.fillings directives).map fun g => (e, g))) := by
  induction directives generalizing s with
  | nil => rfl
  | cons d ds ih =>
      obtain ⟨htaking, hresult⟩ := s.taking_filled e d
      have hfirst := run_load_offered hc d none none he ho
      rw [htaking, hresult] at hfirst
      let u := s.filled [(e, (s.fillingBy d).toOption.getD .keep)]
      have hrest : executeAll .load none e none ds carry u = some (u.verdict ds,
          u.filled ((u.fillings ds).map fun g => (e, g))) := ih (s := u) he ho
      have hverdict : (do (s.fillingBy d).map fun _ => (); u.verdict ds) = s.verdict (d::ds) := by
        rw [(Session.verdict_congr (s := s) (t := u) rfl rfl ds).1, Session.verdict]
        cases s.fillingBy d <;> rfl
      rw [run_executeAll_cons hfirst hrest, hverdict, s.filled_filled]
      rfl

/-- A load of a form is its pass. -/
theorem run_loadForm_filled (hc : HoldsSaves carry) {f : Form} (he : s.evaluators = [])
    (ho : ∀ e ∈ f.elements, s.OnlySaves e) (spec : Table (List String)) :
    loadForm f spec carry s = some ((f.pass s spec).1, s.filled (f.pass s spec).2) := by
  induction spec generalizing s with
  | nil => rfl
  | cons p spec ih =>
      obtain ⟨key, ds⟩ := p
      rw [loadForm, eachField_cons, run_bind_ok (run_gets _), Form.pass]
      cases hfield : f.findField s key with
      | none => exact ih he ho
      | some e =>
          have hfirst := run_loads_filled hc he (ho e (Form.mem_of_findField hfield)) ds
          let u := s.filled ((s.fillings ds).map fun g => (e, g))
          have hrest : loadForm f spec carry u =
              some ((f.pass u spec).1, u.filled (f.pass u spec).2) := ih (s := u) he ho
          cases hverdict : s.verdict ds with
          | error x =>
              rw [hverdict] at hfirst
              exact run_bind_error hfirst
          | ok _ =>
              rw [hverdict] at hfirst
              refine (run_bind_ok hfirst).trans (hrest.trans ?_)
              rw [f.pass_filled, s.filled_filled]

end Act

/-- Fillings that have been carried out change nothing. -/
theorem Session.filled_again (s : Session) (fills : List (ElementRef × Filling)) :
    (s.filled fills).filled fills = s.filled fills := by
  simp only [filled, fillAll_fillAll]

/-- Whether a reaction tells a listener of a write. -/
def Reaction.tells : Reaction → Bool
  | .listener .. => true
  | _ => false

/-- What a cancel, or a hook that rejects a submission, loads into a form. -/
def BoundForm.restored (b : BoundForm) : Table (List String) :=
  if b.options.restore then b.state else []

namespace Act

theorem holdsSaves_refusing (n : Nat) : HoldsSaves (refusing Reaction.tells (n+1)) := by
  intro directive source e s hl
  rw [react_refusing rfl]
  exact run_save_held directive source e hl

theorem restoreForm_eq (b : BoundForm) : restoreForm b = loadForm b.form b.restored := by
  rw [restoreForm, BoundForm.restored]
  split
  · rfl
  · rfl

/-- A cancel restores its form, and its faults go nowhere. -/
theorem run_cancelled {b : BoundForm} {n : Nat} {s t : Session} {r : Except Fault Unit}
    (h : loadForm b.form b.restored (cascade (n+1)) s = some (r, t)) (e : ElementRef) :
    (react (.handler (.restore b) e)).settle (n+2) s = some (.ok (), t) := by
  change attempt (restoreForm b) (cascade (n+1)) s = _
  rw [run_attempt, restoreForm_eq, h]
  rfl

/-- A rejected submission ends with the load that restores its form. -/
theorem run_rejected {b : BoundForm} {s : Session} (he : s.evaluators = [])
    (ho : ∀ e ∈ b.form.elements, s.OnlySaves e) (n : Nat) (data : Fields) :
    (decided b data false).settle (n+1) s =
      some ((b.form.pass s b.restored).1.map fun _ => .done (.submitted .rejected),
        { s.filled (b.form.pass s b.restored).2 with trace := .ruled false::s.trace }) := by
  let told : Session := { s with trace := .ruled false::s.trace }
  have hsame : b.form.pass told b.restored = b.form.pass s b.restored :=
    b.form.pass_congr (s := s) (t := told) rfl rfl (fun _ => rfl) b.restored
  have hrun := run_loadForm_filled (s := told) (holdsSaves_cascade n) he ho b.restored
  rw [hsame, ← restoreForm_eq] at hrun
  change (restoreForm b >>= fun _ => pure (Progress.done (.submitted .rejected)))
    (cascade (n+1)) told = _
  rw [run_bind, hrun]
  cases (b.form.pass s b.restored).1 <;> rfl

end Act

/-- A load of a form fills its elements, writes nothing and tells no listener; and a second load
ends as the first did and finds all elements as it leaves them. So does a cancel, and a submission
that is rejected, by which the form is restored. -/
theorem form_load_settles {f : Form} {spec : Table (List String)} {s : Session}
    (he : s.evaluators = []) (ho : ∀ e ∈ f.elements, s.OnlySaves e) :
    let r := (f.pass s spec).1
    let t := s.filled (f.pass s spec).2
    t.values = s.values ∧ t.trace = s.trace ∧
      (∀ n, loadForm f spec (refusing Reaction.tells (n+1)) s = some (r, t) ∧
        (loadForm f spec).settle (n+1) s = some (r, t) ∧
        (loadForm f spec).settle (n+1) t = some (r, t)) ∧
      ∀ b : BoundForm, b.form = f → b.restored = spec → ∀ n,
        (∀ e, (react (.handler (.restore b) e)).settle (n+2) s = some (.ok (), t) ∧
          (react (.handler (.restore b) e)).settle (n+2) t = some (.ok (), t)) ∧
        ∀ data, let result := r.map fun _ => Progress.done (.submitted .rejected)
          let ruled : Session := { t with trace := .ruled false::s.trace }
          (decided b data false).settle (n+1) s = some (result, ruled) ∧
          (decided b data false).settle (n+1) t = some (result, ruled) := by
  let fills := (f.pass s spec).2
  have hagain : f.pass (s.filled fills) spec = f.pass s spec := f.pass_filled s fills spec
  have hload {carry : React} (hc : HoldsSaves carry) : loadForm f spec carry s =
      some ((f.pass s spec).1, s.filled fills) := run_loadForm_filled hc he ho spec
  have hsecond {carry : React} (hc : HoldsSaves carry) : loadForm f spec carry (s.filled fills) =
      some ((f.pass s spec).1, s.filled fills) := by
    have hrun := run_loadForm_filled (s := s.filled fills) hc he ho spec
    rw [hagain, s.filled_again] at hrun
    exact hrun
  refine ⟨rfl, rfl, fun n => ⟨?_, ?_, ?_⟩, ?_⟩
  · exact hload (holdsSaves_refusing n)
  · exact hload (holdsSaves_cascade n)
  · exact hsecond (holdsSaves_cascade n)
  · rintro b rfl rfl n
    refine ⟨fun e => ⟨?_, ?_⟩, fun data => ⟨?_, ?_⟩⟩
    · exact run_cancelled (hload (holdsSaves_cascade n)) e
    · exact run_cancelled (hsecond (holdsSaves_cascade n)) e
    · exact run_rejected he ho n data
    · have hrun := run_rejected (s := s.filled fills) he ho n data
      rw [hagain, s.filled_again] at hrun
      exact hrun

/-- An input, a check box and a plain element. -/
def tripleForm : Form := ⟨"triple", ⟨"form#1"⟩, [0, 1, 2]⟩

def tripleSpec : Table (List String) :=
  [("a", ["?k", "#l"]), ("$[name=a]", ["?k"]), ("b", ["^o", "k"]), ("c", ["k"])]

def tripleSession : Session :=
  { values := [("k", .string "v"), ("l", .texts ["x", "y"]), ("o", .object [])],
    listeners := [("k", .load "k" 0 none), (wildcard, .journal)],
    elements := [{ name := some "a", control := .input "" },
      { name := some "b", control := .checkbox false }, { name := some "c" }],
    handlers := [⟨0, .change, .save "k" none⟩, ⟨1, .change, .save "~l" none⟩] }

/-- An input that two spec keys select is filled and then counts a list; the load of the check box
fails after it has been set, and the plain element is not loaded. -/
theorem form_load_settles_faulty : ∃ t why, t.values = tripleSession.values ∧
    t.trace = tripleSession.trace ∧
    (loadForm tripleForm tripleSpec).settle 1 tripleSession = some (.error why, t) ∧
    (loadForm tripleForm tripleSpec).settle 1 t = some (.error why, t) ∧
    (t.element 0).value = .string "2" ∧ (t.element 1).value = .bool true ∧
    (t.element 2).value = .string "" := by
  have ho : ∀ e ∈ tripleForm.elements, tripleSession.OnlySaves e := by
    intro e _ h hh
    have hmem := Session.mem_handlersOf.mp hh
    simp only [tripleSession, List.mem_cons, List.not_mem_nil, or_false] at hmem
    rcases hmem with hmem | hmem
    · cases hmem
      exact ⟨_, _, rfl⟩
    · cases hmem
      exact ⟨_, _, rfl⟩
  have he : tripleSession.evaluators = [] := rfl
  obtain ⟨hvalues, htrace, hload, -⟩ := form_load_settles he ho
  obtain ⟨-, hfirst, hsecond⟩ := hload 0
  obtain ⟨why, hwhy⟩ : ∃ why, (tripleForm.pass tripleSession tripleSpec).1 = .error why := ⟨_, rfl⟩
  rw [hwhy] at hfirst hsecond
  exact ⟨_, why, hvalues, htrace, hfirst, hsecond, rfl, rfl, rfl⟩

end ScreenBinding
