import ScreenBinding.Proofs.LoadedForms

/-!
# Loads that are cut short

The directives of one field are all executed, whichever of them fail. A load of a form goes from
field to field, and there it is otherwise: the first field that fails ends the load, and the fields
behind it are left as they were. So whether a field is loaded depends on the order of the spec. A
field ahead of all that fail shows what its own directives show when they are executed alone.

While a load runs, changes of the fields may be watched. The handlers may do anything as long as
they leave the state and the fields of the form alone; bindings do, since they save nothing then.
-/
namespace ScreenBinding
open Act

/-- A form finds the same state in both sessions, and its elements are the same. -/
structure Form.Agrees (f : Form) (s t : Session) : Prop where
  values : t.values = s.values
  settings : t.settings = s.settings
  loading : t.loading = s.loading
  elements : ∀ e ∈ f.elements, t.elements[e]? = s.elements[e]?

namespace Form.Agrees
variable {f : Form} {s t u : Session}

theorem refl (f : Form) (s : Session) : f.Agrees s s := ⟨rfl, rfl, rfl, fun _ _ => rfl⟩

theorem trans (h : f.Agrees s t) (k : f.Agrees t u) : f.Agrees s u where
  values := k.values.trans h.values
  settings := k.settings.trans h.settings
  loading := k.loading.trans h.loading
  elements e he := (k.elements e he).trans (h.elements e he)

theorem element (h : f.Agrees s t) {e : ElementRef} (he : e ∈ f.elements) :
    t.element e = s.element e :=
  Session.element_congr (h.elements e he)

/-- The same elements are filled alike. -/
theorem filled (h : f.Agrees s t) (fills : List (ElementRef × Filling)) :
    f.Agrees (s.filled fills) (t.filled fills) where
  values := h.values
  settings := h.settings
  loading := h.loading
  elements e he := by
    simp only [Session.filled, getElem?_fillAll, h.elements e he, h.settings]

theorem pass (h : f.Agrees s t) (spec : Table (List String)) : f.pass t spec = f.pass s spec := by
  apply f.pass_congr h.values h.settings
  exact f.findField_congr fun e he sel => by rw [h.element he]

end Form.Agrees

/-- As a handler of changes: does nothing, while a load runs, that the form could notice. -/
def Handler.Harmless (f : Form) (n : Nat) (P : Session → Prop) (e : ElementRef) (h : Handler) :
    Prop :=
  ∀ s, P s → s.loading ≠ 0 → ∃ t, react (.handler h e) (cascade n) s = some (.ok (), t) ∧
    P t ∧ f.Agrees s t

/-- A kind of sessions in which a form is loaded undisturbed, whatever its elements show. -/
structure Form.Undisturbed (f : Form) (n : Nat) (P : Session → Prop) : Prop where
  evaluators : ∀ {s}, P s → s.evaluators = []
  shown : ∀ {s}, P s → ∀ e ∈ f.elements, ∀ v, P (s.shown e v)
  counted : ∀ {s}, P s → ∀ loading, P { s with loading }
  handlers : ∀ {s}, P s → ∀ e ∈ f.elements, ∀ h ∈ s.handlersOf e .change, h.Harmless f n P e

/-- While a load runs, saves are held back. -/
theorem Handler.harmless_save (f : Form) (n : Nat) (P : Session → Prop) (e : ElementRef)
    (directive : String) (source : Option Source) :
    (Handler.save directive source).Harmless f (n+1) P e := fun s hs hl =>
  ⟨s, holdsSaves_cascade n directive source e s hl, hs, .refl f s⟩

/-- A watch that does no more than report is recorded, and that is all. -/
theorem Handler.harmless_watch (f : Form) (n : Nat) {P : Session → Prop} (e : ElementRef)
    (label : String) (hP : ∀ s, P s → ∀ event, P { s with trace := event::s.trace }) :
    (Handler.watch label []).Harmless f (n+2) P e := fun s hs _ =>
  ⟨{ s with trace := .observed label (s.element e).value (0 < s.loading)::s.trace }, rfl,
    hP s hs _, rfl, rfl, rfl, fun _ _ => rfl⟩

/-- Forms whose changes are saved, and not heard of otherwise, are undisturbed. -/
theorem Form.undisturbed_onlySaves (f : Form) (n : Nat) : f.Undisturbed (n+1) fun s =>
    s.evaluators = [] ∧ ∀ e ∈ f.elements, s.OnlySaves e where
  evaluators hs := hs.1
  shown hs _ _ _ := hs
  counted hs _ := hs
  handlers hs e he h hh := by
    obtain ⟨directive, source, rfl⟩ := hs.2 e he h hh
    exact Handler.harmless_save f n _ e directive source

namespace Act
section
variable {f : Form} {n : Nat} {P : Session → Prop} {s : Session} {e : ElementRef}

theorem run_handlers_harmless {l : List Handler} (hl : ∀ h ∈ l, h.Harmless f n P e) (hs : P s)
    (hload : s.loading ≠ 0) : ∃ t,
    (do for h in l do react (.handler h e)) (cascade n) s = some (.ok (), t) ∧
      P t ∧ f.Agrees s t := by
  induction l generalizing s with
  | nil =>
      rw [forEach_nil]
      exact ⟨s, run_pure (), hs, .refl f s⟩
  | cons h l ih =>
      obtain ⟨hh, hrest⟩ := List.forall_mem_cons.mp hl
      obtain ⟨u, hu, hP, hagrees⟩ := hh s hs hload
      obtain ⟨t, ht, hP', hagrees'⟩ := ih hrest hP (hagrees.loading ▸ hload)
      rw [forEach_cons, run_bind_ok hu]
      exact ⟨t, ht, hP', hagrees.trans hagrees'⟩

variable (h : f.Undisturbed n P)
include h

theorem run_offer_undisturbed (hs : P s) (hload : s.loading ≠ 0) (he : e ∈ f.elements)
    (x : Except Fault (Option Json)) : ∃ t,
    offer e x (cascade n) s = some (x.map fun _ => (), t) ∧ P t ∧ f.Agrees (s.taking e x) t := by
  obtain why | (_ | v) := x
  · exact ⟨s, rfl, hs, .refl f s⟩
  · exact ⟨s, rfl, hs, .refl f s⟩
  · have hshown : P (s.shown e v) := h.shown hs e he v
    obtain ⟨t, ht, hP, hagrees⟩ :=
      run_handlers_harmless (s := s.shown e v) (h.handlers hshown e he) hshown hload
    exact ⟨t, ht, hP, hagrees⟩

/-- A load ends with its field showing what it was offered, or with the fault that kept it from
being offered anything. -/
theorem run_load_taking (hs : P s) (he : e ∈ f.elements) (directive : String)
    (carried : Option Json) (source : Option Source) : ∃ t,
    execute .load directive carried e source (cascade n) s =
      some ((s.offeredBy directive carried e).map fun _ => (), t) ∧
    P t ∧ f.Agrees (s.taking e (s.offeredBy directive carried e)) t := by
  let counted : Session := { s with loading := s.loading+1 }
  let x := s.offeredBy directive carried e
  obtain ⟨t, ht, hP, hagrees⟩ := run_offer_undisturbed (s := counted) h
    (h.counted hs _) (Nat.succ_ne_zero _) he x
  have hrun : asLoad (offer e x) (cascade n) s =
      some (x.map fun _ => (), { t with loading := t.loading-1 }) := by
    rw [asLoad, run_bind_ok (run_change _), run_ending, ht]
    rfl
  have hdone : f.Agrees (s.taking e x) { t with loading := t.loading-1 } := by
    rw [← s.taking_loading e x]
    exact ⟨hagrees.values, hagrees.settings, congrArg (· - 1) hagrees.loading, hagrees.elements⟩
  refine ⟨{ t with loading := t.loading-1 }, ?_, h.counted hP _, hdone⟩
  rw [run_load directive carried e source (h.evaluators hs), hrun]

/-- A directive fills its field, or fails. -/
theorem run_load_undisturbed (hs : P s) (he : e ∈ f.elements) (directive : String) : ∃ t,
    execute .load directive none e none (cascade n) s =
      some ((s.fillingBy directive).map fun _ => (), t) ∧
    P t ∧ f.Agrees (s.filled [(e, (s.fillingBy directive).toOption.getD .keep)]) t := by
  obtain ⟨htaking, hresult⟩ := s.taking_filled e directive
  rw [← htaking, ← hresult]
  exact run_load_taking h hs he directive none none

theorem run_loads_undisturbed (hs : P s) (he : e ∈ f.elements) (directives : List String) : ∃ t,
    executeAll .load none e none directives (cascade n) s = some (s.verdict directives, t) ∧
    P t ∧ f.Agrees (s.filled ((s.fillings directives).map fun g => (e, g))) t := by
  induction directives generalizing s with
  | nil => exact ⟨s, run_pure (), hs, .refl f s⟩
  | cons d ds ih =>
      obtain ⟨u, hfirst, hP, hagrees⟩ := run_load_undisturbed h hs he d
      obtain ⟨t, hrest, hP', hagrees'⟩ := ih hP
      obtain ⟨hverdict, hfillings⟩ :=
        Session.verdict_congr (s := s) (t := u) hagrees.values hagrees.settings ds
      have hall : (do (s.fillingBy d).map fun _ => (); u.verdict ds) = s.verdict (d::ds) := by
        rw [hverdict, Session.verdict]
        cases s.fillingBy d <;> rfl
      refine ⟨t, ?_, hP', ?_⟩
      · rw [run_executeAll_cons hfirst hrest, hall]
      · rw [hfillings] at hagrees'
        exact (hagrees.filled _).trans hagrees'

/-- An undisturbed load of a form is its pass. -/
theorem run_loadForm_undisturbed (hs : P s) (spec : Table (List String)) : ∃ t,
    (loadForm f spec).settle n s = some ((f.pass s spec).1, t) ∧
    P t ∧ f.Agrees (s.filled (f.pass s spec).2) t := by
  induction spec generalizing s with
  | nil => exact ⟨s, rfl, hs, .refl f s⟩
  | cons p spec ih =>
      obtain ⟨key, ds⟩ := p
      rw [settle, loadForm, eachField_cons, run_bind_ok (run_gets _), Form.pass]
      cases hfield : f.findField s key with
      | none => exact ih hs
      | some e =>
          obtain ⟨u, hfirst, hP, hagrees⟩ :=
            run_loads_undisturbed h hs (Form.mem_of_findField hfield) ds
          obtain ⟨t, hrest, hP', hagrees'⟩ := ih hP
          have hpass : f.pass u spec = f.pass s spec :=
            (hagrees.pass spec).trans (f.pass_filled s _ spec)
          cases hverdict : s.verdict ds with
          | error why =>
              rw [hverdict] at hfirst
              exact ⟨u, run_bind_error hfirst, hP, hagrees⟩
          | ok _ =>
              rw [hverdict] at hfirst
              rw [hpass] at hrest hagrees'
              refine ⟨t, (run_bind_ok hfirst).trans hrest, hP', ?_⟩
              rw [← s.filled_filled]
              exact (hagrees.filled _).trans hagrees'

end
end Act

namespace Form
variable {f : Form} {s : Session} {before spec : Table (List String)} {e : ElementRef}

/-- The fields that the entries of a spec find. -/
def found (f : Form) (s : Session) (spec : Table (List String)) : List ElementRef :=
  spec.filterMap fun p => f.findField s p.1

/-- A load ends without a fault if and only if none of its entries has one. -/
theorem pass_ok_iff : (f.pass s spec).1 = .ok () ↔
    ∀ p ∈ spec, ∀ e, f.findField s p.1 = some e → s.verdict p.2 = .ok () := by
  induction spec with
  | nil => simp [pass]
  | cons p spec ih =>
      obtain ⟨key, ds⟩ := p
      rw [List.forall_mem_cons, ← ih, pass]
      cases f.findField s key with
      | none => simp
      | some e => cases s.verdict ds <;> simp

/-- The entries behind others are reached if those have no fault. -/
theorem pass_append (before spec : Table (List String)) : f.pass s (before ++ spec) =
    match f.pass s before with
    | (.ok _, filled) => ((f.pass s spec).1, filled ++ (f.pass s spec).2)
    | (.error why, filled) => (.error why, filled) := by
  induction before with
  | nil => rfl
  | cons p before ih =>
      obtain ⟨key, ds⟩ := p
      rw [List.cons_append, pass, pass]
      cases f.findField s key with
      | none => exact ih
      | some e =>
          cases s.verdict ds with
          | error why => rfl
          | ok _ =>
              simp only [ih]
              rcases f.pass s before with ⟨why | _, filled⟩
              · rfl
              · simp only [List.append_assoc]

theorem pass_append_ok (h : (f.pass s before).1 = .ok ()) (spec : Table (List String)) :
    f.pass s (before ++ spec) =
      ((f.pass s spec).1, (f.pass s before).2 ++ (f.pass s spec).2) := by
  rw [pass_append]
  rcases hbefore : f.pass s before with ⟨r, filled⟩
  rw [hbefore] at h
  cases h
  rfl

theorem pass_append_error {why : Fault} (h : (f.pass s before).1 = .error why)
    (spec : Table (List String)) : f.pass s (before ++ spec) = f.pass s before := by
  rw [pass_append]
  rcases hbefore : f.pass s before with ⟨r, filled⟩
  rw [hbefore] at h
  cases h
  rfl

/-- Nothing is filled but the fields that are found. -/
theorem filter_pass_of_not_mem (h : e ∉ f.found s spec) :
    (f.pass s spec).2.filter (·.1 = e) = [] := by
  induction spec with
  | nil => rfl
  | cons p spec ih =>
      obtain ⟨key, ds⟩ := p
      rw [found, List.filterMap_cons] at h
      rw [pass]
      cases hfield : f.findField s key with
      | none =>
          rw [hfield] at h
          exact ih h
      | some e' =>
          rw [hfield] at h
          obtain ⟨hne, hrest⟩ := List.ne_and_not_mem_of_not_mem_cons h
          have hown : ((s.fillings ds).map fun g => (e', g)).filter (·.1 = e) = [] := by
            simpa [List.filter_eq_nil_iff] using fun _ _ => hne.symm
          cases s.verdict ds with
          | error why => exact hown
          | ok _ =>
              dsimp only
              rw [List.filter_append, hown, ih hrest, List.append_nil]

/-- Where the field of an entry is found by none behind it, it takes the fillings of that entry. -/
theorem filter_pass_own {key : String} {ds : List String} (hfield : f.findField s key = some e)
    (h : e ∉ f.found s spec) : (f.pass s ((key, ds)::spec)).2.filter (·.1 = e) =
      ((s.fillings ds).map fun g => (e, g)).filter (·.1 = e) := by
  rw [pass, hfield]
  cases s.verdict ds with
  | error why => rfl
  | ok _ =>
      dsimp only
      rw [List.filter_append, filter_pass_of_not_mem h, List.append_nil]

end Form

/-- What a field shows once it is filled depends on its own fillings only. -/
theorem Session.element_filled_congr (s : Session) {e : ElementRef}
    {fills more : List (ElementRef × Filling)}
    (h : fills.filter (·.1 = e) = more.filter (·.1 = e)) :
    (s.filled fills).element e = (s.filled more).element e := by
  apply element_congr
  simp only [filled, getElem?_fillAll, h]

/-- The directives of an entry load its field without a fault if they are executed alone. -/
def Form.LoadsAlone (f : Form) (n : Nat) (s : Session) (p : String × List String) : Prop :=
  ∀ e, f.findField s p.1 = some e →
    ∃ u, (executeAll .load none e none p.2).settle n s = some (.ok (), u)

theorem Form.Undisturbed.loadsAlone_iff {f : Form} {n : Nat} {P : Session → Prop} {s : Session}
    (h : f.Undisturbed n P) (hs : P s) (spec : Table (List String)) :
    (f.pass s spec).1 = .ok () ↔ ∀ p ∈ spec, f.LoadsAlone n s p := by
  rw [Form.pass_ok_iff]
  refine forall₂_congr fun p _ => forall₂_congr fun e he => ?_
  obtain ⟨t, ht, -⟩ := run_loads_undisturbed h hs (Form.mem_of_findField he) p.2
  rw [settle, ht]
  simp

/-- A load of a form ends, and leaves the state as it is. A field ahead of which no entry fails
shows what its own directives show when they are executed alone, and if one of these fails, that is
the fault of the load; a field behind an entry that fails is left as it was. -/
theorem form_load_stops_at_fault {f : Form} {n : Nat} {P : Session → Prop} {s : Session}
    {spec : Table (List String)} (h : f.Undisturbed n P) (hs : P s)
    (hdistinct : (f.found s spec).Nodup) :
    ∃ r t, (loadForm f spec).settle n s = some (r, t) ∧ t.values = s.values ∧
      (r = .ok () ↔ ∀ p ∈ spec, f.LoadsAlone n s p) ∧
      ∀ before p after e, spec = before ++ p::after → f.findField s p.1 = some e →
        ((∀ q ∈ before, f.LoadsAlone n s q) → ∃ x u,
          (executeAll .load none e none p.2).settle n s = some (x, u) ∧
          t.element e = u.element e ∧ ∀ why, x = .error why → r = .error why) ∧
        (¬ (∀ q ∈ before, f.LoadsAlone n s q) → t.element e = s.element e) := by
  obtain ⟨t, ht, -, hagrees⟩ := run_loadForm_undisturbed h hs spec
  refine ⟨(f.pass s spec).1, t, ht, hagrees.values, h.loadsAlone_iff hs spec, ?_⟩
  rintro before ⟨key, ds⟩ after e rfl hfield
  have he : e ∈ f.elements := Form.mem_of_findField hfield
  have hfound : f.found s (before ++ (key, ds)::after) =
      f.found s before ++ e::f.found s after := by
    rw [Form.found, List.filterMap_append]
    exact congrArg (f.found s before ++ ·) (List.filterMap_cons_some hfield)
  rw [hfound] at hdistinct
  obtain ⟨-, hrest, hapart⟩ := List.nodup_append.mp hdistinct
  have hafter : e ∉ f.found s after := (List.nodup_cons.mp hrest).1
  have hbefore : e ∉ f.found s before := fun hmem => hapart e hmem e (List.mem_cons_self ..) rfl
  have hshown : t.element e = (s.filled (f.pass s (before ++ (key, ds)::after)).2).element e :=
    hagrees.element he
  rw [← h.loadsAlone_iff hs before]
  constructor
  · intro hok
    obtain ⟨u, hu, -, hagrees'⟩ := run_loads_undisturbed h hs he ds
    refine ⟨s.verdict ds, u, hu, ?_, fun why hwhy => ?_⟩
    · rw [hshown, hagrees'.element he, Form.pass_append_ok hok]
      apply s.element_filled_congr
      rw [List.filter_append, Form.filter_pass_of_not_mem hbefore, List.nil_append,
        Form.filter_pass_own hfield hafter]
    · rw [Form.pass_append_ok hok, Form.pass, hfield]
      simp only [hwhy]
  · intro hfails
    cases hverdict : (f.pass s before).1 with
    | ok _ => exact (hfails hverdict).elim
    | error why =>
        have hnone : (f.pass s before).2.filter (·.1 = e) = [] :=
          Form.filter_pass_of_not_mem hbefore
        have hkept : (s.filled (f.pass s before).2).element e = (s.filled []).element e :=
          s.element_filled_congr hnone
        rw [hshown, Form.pass_append_error hverdict, hkept]
        rfl

/-- Three inputs with names. -/
def rowForm : Form := ⟨"row", ⟨"form#1"⟩, [0, 1, 2]⟩

def rowSpec : Table (List String) := [("a", ["#l"]), ("b", ["#bad", "good"]), ("c", ["good"])]

/-- The first input is watched, the second one saves its changes. -/
def rowSession : Session :=
  { values := [("bad", .whole 5), ("good", .string "ok"), ("l", .texts ["x", "y"])],
    elements := [{ name := some "a", control := .input "" },
      { name := some "b", control := .input "" }, { name := some "c", control := .input "" }],
    handlers := [⟨0, .change, .watch "w" []⟩, ⟨1, .change, .save "good" none⟩] }

theorem undisturbed_row : rowForm.Undisturbed 2 fun s =>
    s.evaluators = [] ∧ s.handlers = rowSession.handlers where
  evaluators hs := hs.1
  shown hs _ _ _ := hs
  counted hs _ := hs
  handlers := by
    rintro s ⟨-, hs⟩ e - h hh
    have hmem := Session.mem_handlersOf.mp hh
    rw [hs] at hmem
    simp only [rowSession, List.mem_cons, List.not_mem_nil, or_false] at hmem
    rcases hmem with hmem | hmem
    · cases hmem
      exact Handler.harmless_watch rowForm 0 0 "w" fun _ hs _ => hs
    · cases hmem
      exact Handler.harmless_save rowForm 1 _ 1 "good" none

/-- A load of the three inputs: the watched one is loaded, the second one too, though its load
fails, and the third one is left as it was. -/
theorem form_load_stops_at_fault_watched : ∃ t,
    (loadForm rowForm rowSpec).settle 2 rowSession = some (.error .listExpected, t) ∧
    (t.element 0).value = .string "2" ∧ (t.element 1).value = .string "ok" ∧
    (t.element 2).value = .string "" := by
  have hdistinct : (rowForm.found rowSession rowSpec).Nodup := by decide
  obtain ⟨r, t, ht, -, -, hentries⟩ :=
    form_load_stops_at_fault undisturbed_row ⟨rfl, rfl⟩ hdistinct
  have hfirst : rowForm.LoadsAlone 2 rowSession ("a", ["#l"]) := by
    intro e he
    cases he
    exact ⟨_, rfl⟩
  have hsecond : ¬ rowForm.LoadsAlone 2 rowSession ("b", ["#bad", "good"]) := by
    intro hloads
    obtain ⟨u, hu⟩ := hloads 1 rfl
    cases hu
  obtain ⟨x, u, hu, hshown, -⟩ := (hentries [] _ _ 0 rfl rfl).1 nofun
  obtain ⟨y, v, hv, hshown', hfault⟩ := (hentries [_] _ _ 1 rfl rfl).1 (by simpa using hfirst)
  have hkept := (hentries [_, _] _ _ 2 rfl rfl).2 fun hall => hsecond (hall _ (by simp))
  cases hu
  cases hv
  obtain rfl : r = .error .listExpected := hfault _ rfl
  refine ⟨t, ht, ?_, ?_, ?_⟩
  · rw [hshown]
    rfl
  · rw [hshown']
    rfl
  · rw [hkept]
    rfl

/-- The first directive of the second input fails. That input is loaded all the same, by its other
directive; the third one, whose directive does not fail, is not. -/
theorem load_withheld_behind_fault : ∃ t u, (rowForm.found rowSession rowSpec).Nodup ∧
    (loadForm rowForm rowSpec).settle 2 rowSession = some (.error .listExpected, t) ∧
    ("c", ["good"]) ∈ rowSpec ∧ rowForm.findField rowSession "c" = some 2 ∧
    (executeAll .load none 2 none ["good"]).settle 2 rowSession = some (.ok (), u) ∧
    (u.element 2).value = .string "ok" ∧ (t.element 2).value = .string "" :=
  ⟨_, _, by decide, rfl, by decide, by decide, rfl, rfl, rfl⟩

end ScreenBinding
