import Mathlib.Data.List.DropRight
import ScreenBinding.Proofs.Reloads
import ScreenBinding.Proofs.SavedFields

/-!
# Fields found by their names

A key that names a field is put between brackets, as a selector of that name, and this text is read
again. Brackets, equals signs, dots and blanks in the name come through: the text ends with the
bracket that was put there, and it is cut at its first equals sign. Quotes do not, where they stand
at an end of the name. They are taken for quotes around it, and the key stands for what they enclose.

So a key finds the first field of its name unless the name begins or ends with a quote; such a field
is not bound by its name, and a submission that finds it invalid marks others in its place.
-/
namespace ScreenBinding

namespace Selector
variable {s : List Char}

/-- No quote stands at either end. -/
def Bare (s : List Char) : Prop :=
  s.head?.any isQuote = false ∧ s.getLast?.any isQuote = false

instance (s : List Char) : Decidable (Bare s) := inferInstanceAs (Decidable (_ ∧ _))

theorem dropWhile_isQuote_eq_self_iff :
    s.dropWhile isQuote = s ↔ s.head?.any isQuote = false := by
  cases s with
  | nil => simp
  | cons c s => simp [List.dropWhile_eq_self_iff]

theorem rdropWhile_isQuote_eq_self_iff :
    s.rdropWhile isQuote = s ↔ s.getLast?.any isQuote = false := by
  rw [List.rdropWhile, List.reverse_eq_iff, dropWhile_isQuote_eq_self_iff, List.head?_reverse]

theorem unquoted_eq_self_iff : unquoted s = s ↔ Bare s := by
  change (s.dropWhile isQuote).rdropWhile isQuote = s ↔ _
  rw [Bare, ← dropWhile_isQuote_eq_self_iff, ← rdropWhile_isQuote_eq_self_iff]
  constructor
  · intro h
    -- What is left lies within what the first pass leaves, so that it left everything.
    have hprefix : s <+: s.dropWhile isQuote := by
      simpa only [h] using List.rdropWhile_prefix isQuote (l := s.dropWhile isQuote)
    have hfirst : s.dropWhile isQuote = s :=
      (List.dropWhile_suffix isQuote).eq_of_length_le hprefix.length_le
    exact ⟨hfirst, by rwa [hfirst] at h⟩
  · rintro ⟨hfirst, hlast⟩
    rw [hfirst, hlast]

end Selector

theorem Form.nameOf_eq_self_iff {key : String} : nameOf key = key ↔ Selector.Bare key.toList := by
  rw [← Selector.unquoted_eq_self_iff, nameOf, ← String.toList_inj, String.toList_ofList]

namespace Element
variable {c d : String} {l : List String}

theorem mem_insertClass : d ∈ insertClass c l ↔ d = c ∨ d ∈ l := by
  induction l with
  | nil => simp [insertClass]
  | cons e l ih =>
      rw [insertClass]
      split
      · rename_i he
        simp [he]
      · split
        · exact List.mem_cons
        · rw [List.mem_cons, ih, List.mem_cons, or_left_comm]

theorem insertClass_insertClass : insertClass c (insertClass c l) = insertClass c l := by
  induction l with
  | nil => simp [insertClass]
  | cons e l ih =>
      by_cases he : c = e
      · simp [insertClass, he]
      · by_cases hlt : c < e
        · simp [insertClass, he, hlt]
        · simp [insertClass, he, hlt, ih]

theorem filter_ne_eq_self (h : c ∉ l) : l.filter (· ≠ c) = l :=
  List.filter_eq_self.mpr fun _ hd => decide_eq_true fun he => h (he ▸ hd)

theorem filter_ne_insertClass (h : c ∉ l) : (insertClass c l).filter (· ≠ c) = l := by
  induction l with
  | nil => simp [insertClass]
  | cons e l ih =>
      have he : e ≠ c := (List.ne_of_not_mem_cons h).symm
      have hl : c ∉ l := List.not_mem_of_not_mem_cons h
      rw [insertClass, if_neg he.symm]
      split
      · rw [List.filter_cons_of_neg (by simp), filter_ne_eq_self h]
      · rw [List.filter_cons_of_pos (by simpa using he), ih hl]

end Element

/-- How a submission marks an element whose value fails its rules. -/
def ValidationClasses.reject (c : ValidationClasses) (x : Element) : Element :=
  (x.removeClass c.good).addClass c.bad

namespace ValidationClasses
variable {c : ValidationClasses} {x : Element}

theorem reject_name : (c.reject x).name = x.name := rfl

/-- The mark of a field that fails comes, that of a good one goes, and other classes stay. -/
theorem mem_classes_reject {d : String} :
    d ∈ (c.reject x).classes ↔ d = c.bad ∨ d ∈ x.classes ∧ d ≠ c.good := by
  rw [reject, Element.addClass, Element.mem_insertClass]
  simp [Element.removeClass]

/-- To mark an element again changes nothing. -/
theorem reject_reject : c.reject (c.reject x) = c.reject x := by
  let l := x.classes.filter (· ≠ c.good)
  have hgood : c.good ∉ l := by simp [l]
  suffices h : Element.insertClass c.bad ((Element.insertClass c.bad l).filter (· ≠ c.good)) =
      Element.insertClass c.bad l from
    congrArg (fun classes => { x with classes }) h
  by_cases he : c.bad = c.good
  · rw [he, Element.filter_ne_insertClass hgood]
  · have hkept : c.good ∉ Element.insertClass c.bad l := fun hmem =>
      ((mem_classes_reject (x := x)).mp hmem).elim (fun h => he h.symm) fun h => h.2 rfl
    rw [Element.filter_ne_eq_self hkept, Element.insertClass_insertClass]

end ValidationClasses

/-- The session in which these elements are marked as failing. -/
def Session.rejecting (s : Session) (marked : List ElementRef) : Session :=
  { s with elements := s.elements.mapIdx fun e x =>
      if e ∈ marked then s.settings.validation.reject x else x }

namespace Session
variable {s : Session} {marked others : List ElementRef} {e : ElementRef} {name : String}

theorem getElem?_rejecting : (s.rejecting marked).elements[e]? =
    s.elements[e]?.map fun x => if e ∈ marked then s.settings.validation.reject x else x :=
  List.getElem?_mapIdx

theorem element_rejecting (hn : (s.element e).name = some name) (he : e ∈ marked) :
    (s.rejecting marked).element e = s.settings.validation.reject (s.element e) := by
  rw [element, List.getD_eq_getElem?_getD] at hn
  rw [element, element, List.getD_eq_getElem?_getD, List.getD_eq_getElem?_getD, getElem?_rejecting]
  cases hx : s.elements[e]? with
  | none =>
      rw [hx] at hn
      cases hn
  | some x => simp [he]

theorem element_rejecting_not_mem (he : e ∉ marked) :
    (s.rejecting marked).element e = s.element e := by
  simp [element, List.getD_eq_getElem?_getD, getElem?_rejecting, he]

theorem name_rejecting : ((s.rejecting marked).element e).name = (s.element e).name := by
  simp only [element, List.getD_eq_getElem?_getD, getElem?_rejecting]
  cases s.elements[e]? with
  | none => rfl
  | some x => by_cases he : e ∈ marked <;> simp [he, ValidationClasses.reject_name]

theorem rejecting_nil : s.rejecting [] = s := by
  have hsame : s.elements.mapIdx (fun _ x => x) = s.elements :=
    List.ext_getElem? fun i => by simp
  simp [rejecting, hsame]

theorem rejecting_rejecting :
    (s.rejecting marked).rejecting others = s.rejecting (marked ++ others) := by
  have hboth : (s.rejecting marked).elements.mapIdx (fun e x =>
      if e ∈ others then s.settings.validation.reject x else x) =
        (s.rejecting (marked ++ others)).elements := by
    refine List.ext_getElem? fun e => ?_
    rw [List.getElem?_mapIdx, getElem?_rejecting, getElem?_rejecting, Option.map_map]
    congr 1
    funext x
    by_cases hm : e ∈ marked <;> by_cases ho : e ∈ others <;>
      simp [hm, ho, ValidationClasses.reject_reject]
  exact congrArg (fun elements => { s with elements }) hboth

end Session

/-- The names stay, and whatever is found by a name. -/
theorem Form.find_rejecting {s : Session} {marked : List ElementRef} (f : Form) (name : String) :
    f.find (s.rejecting marked) (.named name) = f.find s (.named name) := by
  simp only [find, Selector.matchesElement, Session.name_rejecting]

namespace BoundForm

/-- The fields that are marked for these names: for each of them those whose name it stands for. -/
def rejected (b : BoundForm) (s : Session) (names : List String) : List ElementRef :=
  names.flatMap fun name => b.form.find s (.named (Form.nameOf name))

theorem mem_rejected {b : BoundForm} {s : Session} {names : List String} {e : ElementRef} :
    e ∈ b.rejected s names ↔
      e ∈ b.form.elements ∧ ∃ name ∈ names, (s.element e).name = some (Form.nameOf name) := by
  simp only [rejected, List.mem_flatMap, Form.find, List.mem_filter, Selector.matchesElement,
    decide_eq_true_eq]
  constructor
  · rintro ⟨name, hname, he, hn⟩
    exact ⟨he, name, hname, hn⟩
  · rintro ⟨he, name, hname, hn⟩
    exact ⟨name, hname, he, hn⟩

/-- What the user is told of data that fail their rules. -/
def objection (b : BoundForm) : Event :=
  .error (b.options.error.getD "Please correct your submission and try again.")

end BoundForm

namespace Act
variable {b : BoundForm} {carry : React} {s : Session}

theorem run_mark_failing (e : ElementRef) (s : Session) :
    mark false e carry s = some (.ok (), s.rejecting [e]) := by
  have hmodify : (s.elements.modify e fun x => s.settings.validation.reject x) =
      (s.rejecting [e]).elements := by
    refine List.ext_getElem? fun i => ?_
    rw [List.getElem?_modify, Session.getElem?_rejecting]
    cases s.elements[i]? with
    | none => rfl
    | some x => by_cases hi : e = i <;> simp [hi, eq_comm]
  exact congrArg (fun elements => some (Except.ok (), { s with elements })) hmodify

theorem run_marks (l : List ElementRef) (s : Session) :
    (do for e in l do mark false e) carry s = some (.ok (), s.rejecting l) := by
  induction l generalizing s with
  | nil => rw [forEach_nil, Session.rejecting_nil]; rfl
  | cons e l ih =>
      rw [forEach_cons, run_bind_ok (run_mark_failing e s), ih, Session.rejecting_rejecting]
      rfl

theorem rejectFields_nil (b : BoundForm) : rejectFields b [] = (do
    needNotifier
    emit b.objection) := by
  simp [rejectFields, BoundForm.objection]

theorem rejectFields_cons (b : BoundForm) (name : String) (names : List String) :
    rejectFields b (name::names) = (do
      let found ← gets (b.form.find · (Selector.parse ("[name=" ++ name ++ "]")))
      (do for e in found do mark false e)
      rejectFields b names) := by
  simp [rejectFields]

/-- Each name is looked up where the fields of the names before it are marked already, and finds the
same fields there. -/
theorem run_rejectFields (b : BoundForm) (names : List String) (s : Session) :
    rejectFields b names carry s =
      rejectFields b [] carry (s.rejecting (b.rejected s names)) := by
  induction names generalizing s with
  | nil => exact congrArg (rejectFields b [] carry) Session.rejecting_nil.symm
  | cons name names ih =>
      let found := b.form.find s (.named (Form.nameOf name))
      have hrest : b.rejected (s.rejecting found) names = b.rejected s names := by
        simp only [BoundForm.rejected, Form.find_rejecting]
      rw [rejectFields_cons, run_bind_ok (run_gets _), Form.parse_name,
        run_bind_ok (run_marks found s), ih, hrest, Session.rejecting_rejecting]
      rfl

theorem run_submit_rejecting (hb : b.invalid s ≠ []) : submit b carry s = (do
    rejectFields b []
    return Progress.submitted (.invalid (b.invalid s))) carry
      (s.rejecting (b.rejected s (b.invalid s))) := by
  have hsome : (!(b.invalid s).isEmpty) = true := by simpa using hb
  rw [submit, run_bind_ok (run_gets _), separators, run_bind_ok (run_gets _)]
  change judged b (b.form.data s) (b.invalid s) carry s = _
  rw [judged, if_pos hsome, run_bind, run_rejectFields, ← run_bind]
  rfl

/-- A submission of which a name fails its rules marks the fields, tells the user, and ends there
and then. -/
theorem run_submit_invalid (hn : s.notifier = true) (hb : b.invalid s ≠ []) (carry : React) :
    submit b carry s = some (.ok (.submitted (.invalid (b.invalid s))),
      { s.rejecting (b.rejected s (b.invalid s)) with trace := b.objection::s.trace }) := by
  have hneed : needNotifier carry (s.rejecting (b.rejected s (b.invalid s))) = some (.ok (), _) :=
    run_needNotifier hn
  rw [run_submit_rejecting hb, rejectFields_nil, bind_assoc, run_bind_ok hneed]
  rfl

/-- Where nobody can tell the user, it fails for that, and the fields are marked all the same. -/
theorem run_submit_untold (hn : s.notifier = false) (hb : b.invalid s ≠ []) (carry : React) :
    submit b carry s = some (.error (.requirementMissing .notifier),
      s.rejecting (b.rejected s (b.invalid s))) := by
  have hneed : needNotifier carry (s.rejecting (b.rejected s (b.invalid s))) =
      some (.error (.requirementMissing .notifier), _) := run_needNotifier_missing hn
  rw [run_submit_rejecting hb, rejectFields_nil, bind_assoc, run_bind_error hneed]

theorem run_submit_marks (hb : b.invalid s ≠ []) (carry : React) : ∃ x t,
    submit b carry s = some (x, t) ∧
      t.elements = (s.rejecting (b.rejected s (b.invalid s))).elements := by
  cases hn : s.notifier with
  | true => exact ⟨_, _, run_submit_invalid hn hb carry, rfl⟩
  | false => exact ⟨_, _, run_submit_untold hn hb carry, rfl⟩

end Act

/-- A key stands for the fields of a name. It finds the first of them; an entry of a spec under this
key is carried out on that one, once the entries before it are through; and if a submission finds
that the value under the key fails its rules, it looks up all of them and marks each, and besides
only fields for which another such key stands. -/
structure Form.StandsFor (f : Form) (s : Session) (key name : String) : Prop where
  found : f.findField s key = f.firstNamed s name
  entry (e : ElementRef) : f.firstNamed s name = some e →
    ∀ (before after : Table (List String)) (ds : List String)
      (act : List String → ElementRef → Act Unit) (carry : React) (start : Session),
      Act.eachField f before act carry start = some (.ok (), s) →
      Act.eachField f (before ++ (key, ds)::after) act carry start =
        (do act ds e; Act.eachField f after act) carry s
  lookup : f.find s (Selector.parse ("[name=" ++ key ++ "]")) =
    f.elements.filter fun e => (s.element e).name = some name
  marked (b : BoundForm) : b.form = f → key ∈ b.invalid s → ∀ carry, ∃ x t,
    Act.submit b carry s = some (x, t) ∧
      (∀ e ∈ f.elements, (s.element e).name = some name →
        t.element e = s.settings.validation.reject (s.element e)) ∧
      ∀ e, (∀ other ∈ b.invalid s, (s.element e).name ≠ some (Form.nameOf other)) →
        t.element e = s.element e

namespace Form
variable {f : Form} {s : Session} {key : String}

theorem standsFor_nameOf (hne : key ≠ "") (hkey : key.toList.head? ≠ some '$') :
    f.StandsFor s key (nameOf key) where
  found := findField_name s f hne hkey
  entry e he before after ds act carry start hbefore := by
    have hfound : f.findField s key = some e := (findField_name s f hne hkey).trans he
    rw [Act.eachField_append, Act.run_bind_ok hbefore, Act.eachField_cons,
      Act.run_bind_ok (Act.run_gets _), hfound]
  lookup := by
    rw [parse_name]
    rfl
  marked b hb hinvalid carry := by
    have hsome : b.invalid s ≠ [] := List.ne_nil_of_mem hinvalid
    obtain ⟨x, t, ht, helements⟩ := Act.run_submit_marks hsome carry
    have helement (e : ElementRef) :
        t.element e = (s.rejecting (b.rejected s (b.invalid s))).element e := by
      rw [Session.element, helements]
      rfl
    refine ⟨x, t, ht, fun e he hn => ?_, fun e hother => ?_⟩
    · have hmarked : e ∈ b.rejected s (b.invalid s) :=
        BoundForm.mem_rejected.mpr ⟨hb ▸ he, key, hinvalid, hn⟩
      rw [helement, Session.element_rejecting hn hmarked]
    · have hleft : e ∉ b.rejected s (b.invalid s) := fun hmarked => by
        obtain ⟨-, other, hmem, hn⟩ := BoundForm.mem_rejected.mp hmarked
        exact hother other hmem hn
      rw [helement, Session.element_rejecting_not_mem hleft]

end Form

/-- The name of a field, if it is not empty and does not begin as a selector does, is a key that
stands for the fields of exactly this name, of which there is a first, as long as no quote stands at
either of its ends. Otherwise it is a key that stands for the fields of another name. -/
theorem fields_found_by_name {f : Form} {s : Session} {e : ElementRef} {name : String}
    (he : e ∈ f.elements) (hn : (s.element e).name = some name) (hne : name ≠ "")
    (hkey : name.toList.head? ≠ some '$') :
    (Selector.Bare name.toList →
      f.StandsFor s name name ∧ ∃ first, f.firstNamed s name = some first) ∧
    (¬ Selector.Bare name.toList →
      f.StandsFor s name (Form.nameOf name) ∧ Form.nameOf name ≠ name) := by
  have hstands : f.StandsFor s name (Form.nameOf name) := Form.standsFor_nameOf hne hkey
  refine ⟨fun hbare => ⟨?_, ?_⟩, fun hquoted => ⟨hstands, fun hsame => ?_⟩⟩
  · rwa [Form.nameOf_eq_self_iff.mpr hbare] at hstands
  · exact Option.isSome_iff_exists.mp (List.find?_isSome.mpr ⟨e, he, decide_eq_true hn⟩)
  · exact hquoted (Form.nameOf_eq_self_iff.mp hsame)

/-- Brackets, an equals sign, blanks and quotes inside the name of the two last fields. -/
theorem fields_found_by_name_brackets :
    let s : Session := { elements := [{ name := some "a" }, { name := some "]= \"a\" [.#" },
      { name := some "]= \"a\" [.#" }] }
    let f : Form := ⟨"F", ⟨"form#1"⟩, [0, 2, 1]⟩
    f.StandsFor s "]= \"a\" [.#" "]= \"a\" [.#" ∧
      f.findField s "]= \"a\" [.#" = some 2 := by
  let s : Session := { elements := [{ name := some "a" }, { name := some "]= \"a\" [.#" },
    { name := some "]= \"a\" [.#" }] }
  let f : Form := ⟨"F", ⟨"form#1"⟩, [0, 2, 1]⟩
  obtain ⟨hstands, -⟩ := (fields_found_by_name (f := f) (s := s) (e := 1) (by decide) rfl
    (by decide) (by decide)).1 (by decide)
  exact ⟨hstands, hstands.found⟩

/-- The name of the first field is quoted: as a key it finds the other field, and a submission that
finds the first one invalid marks the other. -/
theorem quoted_name_finds_other :
    let s : Session := { notifier := true, elements :=
      [{ name := some "'a'", control := .input "1" }, { name := some "a", control := .input "2" }] }
    let f : Form := ⟨"F", ⟨"form#1"⟩, [0, 1]⟩
    let b : BoundForm := ⟨f, [("'a'", ["email"])], [], {}⟩
    f.firstNamed s "'a'" = some 0 ∧ f.findField s "'a'" = some 1 ∧
      ∀ carry, ∃ t, Act.submit b carry s = some (.ok (.submitted (.invalid ["'a'"])), t) ∧
        (t.element 0).classes = [] ∧ (t.element 1).classes = ["error"] := by
  intro s f b
  refine ⟨by decide, by decide, fun carry => ?_⟩
  have hinvalid : b.invalid s = ["'a'"] := by decide
  have hsome : b.invalid s ≠ [] := by simp [hinvalid]
  have hrun := Act.run_submit_invalid rfl hsome carry
  rw [hinvalid] at hrun
  exact ⟨_, hrun, by decide, by decide⟩

end ScreenBinding
