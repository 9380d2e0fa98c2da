import Mathlib.Data.List.Basic
import ScreenBinding.Proofs.FieldNames

/-!
# Checks of fields and of whole forms

A form is judged in two ways. Leaving a field looks up the rules of that field and judges what the
field shows; a submission goes through the table of rules and judges the data of the form. Both
judge by the same rules and refer to the same data, so where no two fields have one name they agree
on every field: a submission rejects a form for the fields that do not pass their checks, and
besides for rules that name no field.

A check marks its field, which leaves the contents as they are. So the fields may be checked one
after the other, and in any order.
-/
namespace ScreenBinding
open Act

/-- Another session, in which the form holds the same contents and texts are split alike. -/
structure Form.SameContents (f : Form) (s t : Session) : Prop where
  still : f.Still s t
  separators : t.settings.separators = s.settings.separators

namespace Form
variable {f : Form} {s t u : Session}

theorem SameContents.refl (f : Form) (s : Session) : f.SameContents s s := ⟨.refl f s, rfl⟩

theorem SameContents.trans (h : f.SameContents s t) (k : f.SameContents t u) :
    f.SameContents s u :=
  ⟨h.still.trans k.still, k.separators.trans h.separators⟩

theorem SameContents.data (h : f.SameContents s t) : f.data t = f.data s := by
  refine congrArg Table.ofPairs (List.filterMap_congr fun e he => ?_)
  obtain ⟨hname, hvalue⟩ := h.still e he
  rw [hname, hvalue]

end Form

/-- A mark touches nothing but the elements, and leaves their contents. -/
theorem Act.run_mark (f : Form) (good : Bool) (e : ElementRef) (carry : React) (s : Session) :
    ∃ elements, mark good e carry s = some (.ok (), { s with elements }) ∧
      f.Still s { s with elements } := by
  have hstill (g : Element → Element) (hg : ∀ x, (g x).name = x.name ∧ (g x).value = x.value) :
      f.Still s { s with elements := s.elements.modify e g } := by
    have hkeeps : Keeps false f carry (Act.modify e g) := keeps_modify e hg
    exact hkeeps s (.ok ()) _ rfl rfl
  cases good with
  | true => exact ⟨_, rfl, hstill _ fun _ => ⟨rfl, rfl⟩⟩
  | false => exact ⟨_, rfl, hstill _ fun _ => ⟨rfl, rfl⟩⟩

namespace BoundForm
variable {b : BoundForm} {s t : Session} {e : ElementRef} {name : String}

/-- Whether a field passes its rules. -/
def passes (b : BoundForm) (s : Session) (e : ElementRef) : Bool :=
  match (s.element e).name with
  | none => true
  | some name => validate s.settings.separators (b.form.data s) (s.element e).value
      ((Table.find? b.rules name).getD [])

theorem passes_congr (h : b.form.SameContents s t) (he : e ∈ b.form.elements) :
    b.passes t e = b.passes s e := by
  obtain ⟨hname, hvalue⟩ := h.still e he
  rw [passes, passes, hname, hvalue, h.data, h.separators]

/-- A check that is made where the form holds the contents that it has here gives this answer, and
the contents are the same afterwards. -/
def ChecksTo (b : BoundForm) (s : Session) (e : ElementRef) (answer : Bool) : Prop :=
  ∀ t, b.form.SameContents s t → ∀ n, ∃ u,
    (checkField b e).settle n t = some (.ok answer, u) ∧ b.form.SameContents t u

theorem run_checkField (b : BoundForm) (e : ElementRef) (carry : React) (s : Session) : ∃ t,
    checkField b e carry s = some (.ok (b.passes s e), t) ∧ b.form.SameContents s t := by
  rw [checkField, Act.element, run_bind_ok (run_gets _), passes]
  cases (s.element e).name with
  | none => exact ⟨s, run_pure true, .refl b.form s⟩
  | some name =>
      let good := validate s.settings.separators (b.form.data s) (s.element e).value
        ((Table.find? b.rules name).getD [])
      obtain ⟨elements, hmark, hstill⟩ := run_mark b.form good e carry s
      refine ⟨{ s with elements }, ?_, hstill, rfl⟩
      simp only [separators, run_bind_ok (run_gets _)]
      exact run_bind_ok hmark

theorem checksTo_passes (he : e ∈ b.form.elements) : b.ChecksTo s e (b.passes s e) := by
  intro t ht n
  rw [← passes_congr ht he]
  exact run_checkField b e (cascade n) t

theorem ChecksTo.eq_passes {answer : Bool} (h : b.ChecksTo s e answer) :
    answer = b.passes s e := by
  obtain ⟨u, hu, -⟩ := h s (.refl b.form s) 0
  obtain ⟨t, ht, -⟩ := run_checkField b e (cascade 0) s
  cases hu.symm.trans ht
  rfl

end BoundForm

namespace Table
variable {α : Type} {t : Table α} {key : String} {a : α}

theorem mem_of_find? (h : find? t key = some a) : (key, a) ∈ t := by
  induction t with
  | nil => cases h
  | cons p t ih =>
      rw [find?] at h
      split at h
      · rename_i hkey
        cases h
        exact hkey ▸ List.mem_cons_self ..
      · exact List.mem_cons_of_mem p (ih h)

theorem find?_of_mem (ht : (keys t).Nodup) (h : (key, a) ∈ t) : find? t key = some a := by
  induction t with
  | nil => cases h
  | cons p t ih =>
      obtain ⟨hnew, hrest⟩ := List.nodup_cons.mp ht
      rcases List.mem_cons.mp h with rfl | h
      · rw [find?, if_pos rfl]
      · have hne : p.1 ≠ key := fun he => hnew (he ▸ List.mem_map_of_mem (f := Prod.fst) h)
        rw [find?, if_neg hne]
        exact ih hrest h

end Table

/-- No rules, no objection. -/
theorem validate_nil (sep : Separators) (refs : Fields) (v : Json) :
    validate sep refs v [] = true := rfl

namespace BoundForm
variable {b : BoundForm} {s t : Session} {e : ElementRef} {name : String}

theorem mem_invalid : name ∈ b.invalid s ↔ ∃ rules, (name, rules) ∈ b.rules ∧
    validate s.settings.separators (b.form.data s)
      ((Table.find? (b.form.data s) name).getD .null) rules = false := by
  simp [invalid, invalidNames]

/-- The name of a field is invalid if and only if the field does not pass. -/
theorem mem_invalid_iff_not_passes (hrules : (Table.keys b.rules).Nodup) (hd : b.form.Distinct s)
    (he : e ∈ b.form.elements) (hn : (s.element e).name = some name) :
    name ∈ b.invalid s ↔ b.passes s e = false := by
  have hvalue : Table.find? (b.form.data s) name = some (s.element e).value := by
    rw [Form.find?_data, Form.lastNamed_distinct hd he hn, Option.map_some]
  rw [mem_invalid, hvalue, Option.getD_some]
  simp only [passes, hn]
  constructor
  · rintro ⟨rules, hmem, hfails⟩
    rw [Table.find?_of_mem hrules hmem]
    exact hfails
  · intro hfails
    cases hfind : Table.find? b.rules name with
    | none =>
        rw [hfind, Option.getD_none, validate_nil] at hfails
        cases hfails
    | some rules =>
        rw [hfind] at hfails
        exact ⟨rules, Table.mem_of_find? hfind, hfails⟩

theorem passes_eq_false_iff (hrules : (Table.keys b.rules).Nodup) (hd : b.form.Distinct s)
    (he : e ∈ b.form.elements) :
    b.passes s e = false ↔ ∃ name, (s.element e).name = some name ∧ name ∈ b.invalid s := by
  constructor
  · intro hfails
    cases hn : (s.element e).name with
    | none =>
        rw [passes, hn] at hfails
        cases hfails
    | some name => exact ⟨name, rfl, (mem_invalid_iff_not_passes hrules hd he hn).mpr hfails⟩
  · rintro ⟨name, hn, hmem⟩
    exact (mem_invalid_iff_not_passes hrules hd he hn).mp hmem

/-- If every rule names a field, the form is valid if and only if each of its fields passes. -/
theorem invalid_eq_nil_iff (hrules : (Table.keys b.rules).Nodup) (hd : b.form.Distinct s)
    (hfields : ∀ name ∈ Table.keys b.rules, name ∈ b.form.names s) :
    b.invalid s = [] ↔ ∀ e ∈ b.form.elements, b.passes s e = true := by
  constructor
  · intro hvalid e he
    cases hpass : b.passes s e with
    | true => rfl
    | false =>
        obtain ⟨name, -, hmem⟩ := (passes_eq_false_iff hrules hd he).mp hpass
        rw [hvalid] at hmem
        cases hmem
  · intro hpass
    refine List.eq_nil_iff_forall_not_mem.mpr fun name hmem => ?_
    obtain ⟨rules, hrule, -⟩ := mem_invalid.mp hmem
    have hkey : name ∈ Table.keys b.rules := List.mem_map_of_mem (f := Prod.fst) hrule
    obtain ⟨e, he, hn⟩ := List.mem_filterMap.mp (hfields name hkey)
    have hfails := (passes_eq_false_iff hrules hd he).mpr ⟨name, hn, hmem⟩
    rw [hpass e he] at hfails
    cases hfails

end BoundForm

section
variable {b : BoundForm} {data : Fields} {bad : List String} {l : List Event} {r : Option Result}

/-- Whether a result tells that fields are invalid. -/
def Result.invalid? : Result → Option (List String)
  | .ok (.submitted (.invalid names)) => some names
  | _ => none

theorem EndsIn.invalid? {o : SubmitOutcome} {x : Result} (h : EndsIn o x)
    (ho : ∀ names, o ≠ .invalid names) : x.invalid? = none := by
  rcases x with f | a
  · rfl
  · cases h a rfl
    cases o with
    | invalid names => exact (ho names rfl).elim
    | rejected => rfl
    | submitted v => rfl
    | failed why => rfl
    | native data => rfl

theorem Replied.invalid? {x : Result} (h : Replied b l (some x)) : x.invalid? = none := by
  cases h with
  | denied why o hx => exact hx.invalid? nofun
  | granted v _ hx => exact hx.invalid? nofun

theorem Delivered.invalid? {x : Result} (h : Delivered b data l (some x)) :
    x.invalid? = none := by
  cases h with
  | native _ _ hx => exact hx.invalid? nofun
  | unsent o _ hx => exact hx.invalid? nofun
  | sent scripted verb url _ hl => exact hl.invalid?

theorem Asked.invalid? {x : Result} (h : Asked b data l (some x)) : x.invalid? = none := by
  cases h with
  | refused _ hx => exact hx.invalid? nofun
  | allowed hl => exact hl.invalid?

/-- A submission of valid data does not end as invalid. -/
theorem Conducted.invalid? {x : Result} (h : Conducted b data [] l (some x)) :
    x.invalid? = none := by
  cases h with
  | invalid hne _ => exact (hne rfl).elim
  | asked _ _ hl => exact hl.invalid?
  | unasked _ _ hl => exact hl.invalid?

end

/-- The entries of a form's spec that have rules. -/
def ruleTable (spec : Table FieldSpec) : Table (List String) :=
  (spec.filter fun x => !x.2.rules.isEmpty).map fun x => (x.1, x.2.rules)

section
variable {spec : Table FieldSpec}

theorem mem_keys_ruleTable {name : String} :
    name ∈ Table.keys (ruleTable spec) ↔ ∃ x, (name, x) ∈ spec ∧ x.rules ≠ [] := by
  simp [ruleTable, Table.keys]

theorem nodup_ruleTable (h : (Table.keys spec).Nodup) : (Table.keys (ruleTable spec)).Nodup := by
  have hkeys : Table.keys (ruleTable spec) =
      Table.keys (spec.filter fun x => !x.2.rules.isEmpty) := by
    simp [ruleTable, Table.keys]
  rw [hkeys]
  exact List.Nodup.sublist (List.filter_sublist.map Prod.fst) h

/-- A form that is defined keeps its elements and takes the rules of its spec. -/
theorem Act.defineForm_cases {f : Form} {options : FormOptions Command} {b : BoundForm}
    {carry : React} {s t : Session} (h : defineForm f spec options carry s = some (.ok b, t)) :
    b.form = f ∧ b.rules = ruleTable spec := by
  obtain ⟨names, u, -, h⟩ | ⟨_, _, h⟩ := bind_cases h
  · obtain ⟨_, v, -, h⟩ | ⟨_, _, h⟩ := bind_cases h
    · obtain ⟨_, w, -, h⟩ | ⟨_, _, h⟩ := bind_cases h
      · obtain ⟨_, x, -, h⟩ | ⟨_, _, h⟩ := bind_cases h
        · cases h
          exact ⟨rfl, rfl⟩
        · cases h
      · cases h
    · cases h
  · cases h

end

/-- What a submission that begins in `s` reports as invalid: these names, there and then, or none
in any of its courses. -/
structure BoundForm.Reports (b : BoundForm) (s : Session) (bad : List String) : Prop where
  ends : bad ≠ [] → ∀ n, ∃ t,
    (submit b).settle n s = some (.ok (.submitted (.invalid bad)), t)
  only : ∀ answer log names,
    Course (.submit b) answer s log (some (.ok (.submitted (.invalid names)))) →
    names = bad ∧ bad ≠ []

theorem BoundForm.reports_invalid {b : BoundForm} {s : Session} (hn : s.notifier = true) :
    b.Reports s (b.invalid s) where
  ends hb n := ⟨_, run_submit_invalid hn hb (cascade n)⟩
  only answer log names h := by
    by_cases hb : b.invalid s = []
    · have hc := h.conducted
      rw [hb] at hc
      cases hc.invalid?
    · obtain ⟨x, hx, hends⟩ := (h.invalid hb).1
      cases hx
      cases hends _ rfl
      exact ⟨rfl, hb⟩

/-- What is reported is determined. -/
theorem BoundForm.Reports.eq_invalid {b : BoundForm} {s : Session} {bad : List String}
    (h : b.Reports s bad) (hn : s.notifier = true) : bad = b.invalid s := by
  have course {names : List String} (hr : b.Reports s names) (hne : names ≠ []) :
      ∃ log, Course (.submit b) true s log (some (.ok (.submitted (.invalid names)))) := by
    obtain ⟨t, ht⟩ := hr.ends hne 0
    exact ⟨_, .ends (x := .ok (.submitted (.invalid names))) 0 ht⟩
  have hinvalid := reports_invalid (b := b) hn
  by_cases hbad : bad = []
  · by_cases hb : b.invalid s = []
    · rw [hbad, hb]
    · obtain ⟨log, hc⟩ := course hinvalid hb
      exact (h.only true log _ hc).1.symm
  · obtain ⟨log, hc⟩ := course h hbad
    exact (hinvalid.only true log _ hc).1

/-- Where no two fields have one name, the names that a submission reports are, among those of
fields, the names of the fields whose check answers no; so if every rule names a field, a submission
rejects the form as invalid if and only if some field does not pass its check. -/
theorem submission_reports_failed_checks {f : Form} {spec : Table FieldSpec}
    {options : FormOptions Command} {b : BoundForm} {n : Nat} {s₀ s₁ s : Session}
    (hb : (defineForm f spec options).settle n s₀ = some (.ok b, s₁))
    (hspec : (Table.keys spec).Nodup) (hd : f.Distinct s) (hn : s.notifier = true) :
    ∃ bad, b.Reports s bad ∧
      (∀ e ∈ f.elements, ∃ answer, b.ChecksTo s e answer ∧
        (answer = false ↔ ∃ name, (s.element e).name = some name ∧ name ∈ bad)) ∧
      ((∀ p ∈ spec, p.2.rules ≠ [] → p.1 ∈ f.names s) →
        (bad = [] ↔ ∀ e ∈ f.elements, b.ChecksTo s e true)) := by
  obtain ⟨rfl, hrules⟩ := defineForm_cases hb
  have hnodup : (Table.keys b.rules).Nodup := by
    rw [hrules]
    exact nodup_ruleTable hspec
  refine ⟨b.invalid s, BoundForm.reports_invalid hn, ?_, ?_⟩
  · intro e he
    exact ⟨b.passes s e, BoundForm.checksTo_passes he, BoundForm.passes_eq_false_iff hnodup hd he⟩
  · intro hfields
    have hnames : ∀ name ∈ Table.keys b.rules, name ∈ b.form.names s := by
      intro name hname
      rw [hrules] at hname
      obtain ⟨x, hx, hne⟩ := mem_keys_ruleTable.mp hname
      exact hfields (name, x) hx hne
    rw [BoundForm.invalid_eq_nil_iff hnodup hd hnames]
    constructor
    · intro hpass e he
      rw [← hpass e he]
      exact BoundForm.checksTo_passes he
    · exact fun hchecks e he => (hchecks e he).eq_passes.symm

/-- A password, its repetition, and an element without a name. -/
def passwordForm : Form := ⟨"password", ⟨"form#1"⟩, [0, 1, 2]⟩

/-- The repetition has a rule, the password has none. -/
def passwordSpec : Table FieldSpec :=
  [("again", { rules := ["equalRef:password"] }), ("password", { state := ["k"] })]

def passwordSession : Session :=
  { notifier := true,
    elements := [{ name := some "password", control := .input "x" },
      { name := some "again", control := .input "y" }, {}] }

theorem distinct_password : passwordForm.Distinct passwordSession := by
  have hnames : ∀ e ∈ passwordForm.elements, ∀ e' ∈ passwordForm.elements,
      (passwordSession.element e).name.isSome →
      (passwordSession.element e).name = (passwordSession.element e').name → e = e' := by decide
  intro e he e' he' name hn hn'
  exact hnames e he e' he' (by rw [hn]; rfl) (hn.trans hn'.symm)

/-- The repetition differs: its check answers no, and the submission reports it. With a rule for a
field that there is not, the submission reports that name too. -/
theorem submission_reports_failed_checks_password : ∃ b b' : BoundForm,
    b.Reports passwordSession ["again"] ∧ b.ChecksTo passwordSession 1 false ∧
    ¬ (∀ e ∈ passwordForm.elements, b.ChecksTo passwordSession e true) ∧
    b'.Reports passwordSession ["again", "ghost"] ∧ b'.ChecksTo passwordSession 0 true := by
  let spec : Table FieldSpec := passwordSpec ++ [("ghost", { rules := ["minLen:1"] })]
  let b : BoundForm := ⟨passwordForm, ruleTable passwordSpec, [("password", ["k"])], {}⟩
  let b' : BoundForm := ⟨passwordForm, ruleTable spec, [("password", ["k"])], {}⟩
  have hb : ∃ t, (defineForm passwordForm passwordSpec {}).settle 0 passwordSession =
      some (.ok b, t) := ⟨_, rfl⟩
  have hb' : ∃ t, (defineForm passwordForm spec {}).settle 0 passwordSession =
      some (.ok b', t) := ⟨_, rfl⟩
  have hfields : ∀ p ∈ passwordSpec, p.2.rules ≠ [] →
      p.1 ∈ passwordForm.names passwordSession := by decide
  have hinvalid : b.invalid passwordSession = ["again"] := by decide
  have hinvalid' : b'.invalid passwordSession = ["again", "ghost"] := by decide
  obtain ⟨_, hb⟩ := hb
  obtain ⟨_, hb'⟩ := hb'
  obtain ⟨bad, hreports, hchecks, hall⟩ :=
    submission_reports_failed_checks hb (by decide) distinct_password rfl
  obtain ⟨bad', hreports', hchecks', -⟩ :=
    submission_reports_failed_checks hb' (by decide) distinct_password rfl
  obtain rfl : bad = ["again"] := (hreports.eq_invalid rfl).trans hinvalid
  obtain rfl : bad' = ["again", "ghost"] := (hreports'.eq_invalid rfl).trans hinvalid'
  refine ⟨b, b', hreports, ?_, ?_, hreports', ?_⟩
  · obtain ⟨answer, hanswer, hiff⟩ := hchecks 1 (by decide)
    obtain rfl := hiff.mpr ⟨"again", rfl, List.mem_cons_self ..⟩
    exact hanswer
  · intro hpass
    cases (hall hfields).mpr hpass
  · obtain ⟨answer, hanswer, hiff⟩ := hchecks' 0 (by decide)
    cases answer with
    | true => exact hanswer
    | false =>
        obtain ⟨name, hname, hmem⟩ := hiff.mp rfl
        cases hname
        have hgood : "password" ∉ ["again", "ghost"] := by decide
        exact (hgood hmem).elim

end ScreenBinding
