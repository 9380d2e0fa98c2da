import ScreenBinding.Proofs.Completion
import ScreenBinding.Proofs.LoadedForms
import ScreenBinding.Proofs.Questions
import ScreenBinding.Proofs.Wants

/-!
# A form that is saved and loaded

Directives that assign, each to a key of its own, leave in the state what the fields of a form show.
A load that follows shows every field the value that it shows already, and this changes no field of
any kind, whatever it contains. What the load may still bring about are the handlers of changes,
which leave the form alone.

So nothing is lost either by a cancel that follows a submission: the submission ends with such a
save, and with a hook that does not touch the form.
-/
namespace ScreenBinding
open Act

/-- A field that is shown its own value stays as it is. -/
theorem Control.put_value (sep : Separators) (c : Control) : c.put sep c.value = c := by
  cases c with
  | checkbox b => rfl
  | input text => simp only [value, put, Separators.textOf]
  | plain text => simp only [value, put, Separators.textOf]

theorem Session.shown_value (s : Session) (e : ElementRef) :
    s.shown e (s.element e).value = s := by
  let again (x : Element) : Element :=
    { x with control := x.control.put s.settings.separators (s.element e).value }
  have hsame : s.elements.modify e again = s.elements.modify e id := by
    apply modify_congr
    intro x hx
    simp only [again, element_of_getElem? hx, Element.value, Control.put_value, id]
  change { s with elements := s.elements.modify e again } = s
  rw [hsame, List.modify_id]

namespace Form

/-- The entries of a form: what its directives assign from its fields. -/
def entries (f : Form) (s : Session) (spec : Table (List String)) : Fields :=
  (f.turns s spec).map fun p => ((Directive.parse p.1).key, p.2)

/-- Directives that save what their fields show, each to a key of its own. -/
structure Faithful (f : Form) (s : Session) (spec : Table (List String)) : Prop where
  assigns : ∀ p ∈ f.turns s spec, Directive.Assigns p.1 .save (Directive.parse p.1).key
  distinct : (Table.keys (f.entries s spec)).Nodup

/-- The keys hold what their fields show, and would be assigned to them. -/
def InStep (f : Form) (s : Session) (spec : Table (List String)) : Prop :=
  ∀ p ∈ f.turns s spec, (Directive.parse p.1).operator = .assign ∧
    Table.find? s.values (Directive.parse p.1).key = some p.2

end Form

theorem Session.savings_assigns {source : Option Source} (s : Session)
    {turns : List (String × Json)}
    (h : ∀ p ∈ turns, Directive.Assigns p.1 .save (Directive.parse p.1).key) :
    s.savings source turns =
      Table.writesBy (turns.map fun p => ((Directive.parse p.1).key, p.2)) source := by
  induction turns generalizing s with
  | nil => rfl
  | cons p turns ih =>
      obtain ⟨hp, hturns⟩ := List.forall_mem_cons.mp h
      have hone : s.savedBy p.1 p.2 source = some ⟨(Directive.parse p.1).key, p.2, source⟩ := by
        rw [savedBy, if_pos hp.applies, hp.operator]
        rfl
      rw [savings, hone, ih _ hturns]
      rfl

namespace Form
variable {f : Form} {keys : List String} {spec : Table (List String)} {s t : Session}

/-- What is assigned to different keys is found there. -/
theorem Faithful.inStep (h : f.Faithful s spec) (ht : f.Rests keys s t)
    (hk : Table.keys spec ⊆ keys) (hv : t.values = Table.overlay s.values (f.entries s spec)) :
    f.InStep t spec := by
  intro p hp
  rw [ht.turns hk] at hp
  refine ⟨(h.assigns p hp).operator, ?_⟩
  rw [hv]
  apply Table.find?_overlay_of_mem h.distinct
  exact List.mem_map_of_mem hp

theorem InStep.rests (h : f.InStep s spec) (ht : f.Rests keys s t) (hk : Table.keys spec ⊆ keys)
    (hv : t.values = s.values) : f.InStep t spec := by
  intro p hp
  rw [ht.turns hk] at hp
  rw [hv]
  exact h p hp

end Form

namespace Act
section
variable {f : Form} {keys : List String} {n : Nat} {P : Session → Prop} {s : Session}

section
variable (h : f.LeftAlone keys n P)
  (ho : ∀ {s}, P s → ∀ r ∈ s.handlers, r.event = .change → r.handler.Sparing f keys n P)
include h ho

/-- A field that is loaded with the value that it shows is left as it is. -/
theorem run_load_shown (hs : P s) {directive : String} {e : ElementRef}
    (hd : (Directive.parse directive).operator = .assign)
    (hv : Table.find? s.values (Directive.parse directive).key = some (s.element e).value) :
    ∃ t, execute .load directive none e none (cascade (n+2)) s = some (.ok (), t) ∧
      f.Spared keys P [] s t := by
  let s' : Session := { s with loading := s.loading+1 }
  have hs' : Session.InLoad P s' := ⟨h.counted hs _, Nat.succ_ne_zero _⟩
  obtain ⟨t, hrun, ht⟩ : ∃ t, offer e (s.offeredBy directive none e) (cascade (n+2)) s' =
      some (.ok (), t) ∧ f.Spared keys (Session.InLoad P) [] s' t := by
    by_cases happ : (Directive.parse directive).appliesTo .load = true
    · rw [Session.offeredBy_assign e ⟨rfl, happ, hd⟩ hv (.inl rfl)]
      have hraise : Spares f keys (Session.InLoad P) (refusing (fun _ => false) (n+2))
          (raise e .change) := by
        apply spares_raise h
        · exact fun _ hr => nomatch hr
        · intro u hu x hx
          exact ⟨ho hu _ (Session.mem_handlersOf.mp hx) rfl, rfl⟩
      rw [refusing_none] at hraise
      obtain ⟨r, t, hr, ht⟩ := hraise s' hs'
      -- The value is there already, so that the change is all that is left of the load.
      have hput : put e (s.element e).value (cascade (n+2)) s' = some (r, t) := by
        change raise e .change (cascade (n+2)) (s'.shown e (s'.element e).value) = _
        rw [s'.shown_value]
        exact hr
      obtain ⟨_, rfl⟩ := faultless_put (lenient_cascade _) e _ _ _ _ hput
      exact ⟨t, hput, ht⟩
    · rw [Session.offeredBy, if_neg happ]
      exact ⟨s', rfl, .refl hs'⟩
  rw [run_load directive none e none (h.evaluators hs)]
  exact run_asLoad_spared h hrun ht

theorem run_loads_shown (hs : P s) {e : ElementRef} (he : e ∈ f.elements) {v : Json}
    (hv : (s.element e).value = v) {directives : List String}
    (hd : ∀ d ∈ directives, (Directive.parse d).operator = .assign ∧
      Table.find? s.values (Directive.parse d).key = some v) :
    ∃ t, executeAll .load none e none directives (cascade (n+2)) s = some (.ok (), t) ∧
      f.Spared keys P [] s t := by
  induction directives generalizing s with
  | nil => exact ⟨s, run_pure (), .refl hs⟩
  | cons d ds ih =>
      obtain ⟨⟨hassign, hkey⟩, hrest⟩ := List.forall_mem_cons.mp hd
      obtain ⟨u, hu, hfirst⟩ := run_load_shown h ho hs hassign (hkey.trans (congrArg some hv.symm))
      have hbuilt : Built Anything (execute .load d none e none) :=
        built_execute .load d _ e fun _ _ => trivial
      have hsame : u.values = s.values := hfirst.values hbuilt hu
      rw [← hsame] at hrest
      obtain ⟨t, ht, hspared⟩ := ih hfirst.kind ((hfirst.rests.shown e he).trans hv) hrest
      exact ⟨t, run_executeAll_cons hu ht, hfirst.trans hspared⟩

/-- A form in step with the state is loaded without a change. -/
theorem run_loadForm_shown (hs : P s) {spec : Table (List String)} (hk : Table.keys spec ⊆ keys)
    (hin : f.InStep s spec) :
    ∃ t, loadForm f spec (cascade (n+2)) s = some (.ok (), t) ∧ f.Spared keys P [] s t := by
  induction spec generalizing s with
  | nil => exact ⟨s, rfl, .refl hs⟩
  | cons p spec ih =>
      obtain ⟨key, ds⟩ := p
      obtain ⟨-, hrest⟩ := List.cons_subset.mp hk
      rw [Form.InStep, Form.turns_cons] at hin
      obtain ⟨hfield, hlater⟩ := List.forall_mem_append.mp hin
      rw [loadForm, eachField_cons, run_bind_ok (run_gets _)]
      cases he : f.findField s key with
      | none => exact ih hs hrest hlater
      | some e =>
          rw [he] at hfield
          have hmem : e ∈ f.elements := Form.mem_of_findField he
          obtain ⟨u, hu, hfirst⟩ :=
            run_loads_shown h ho hs hmem rfl (List.forall_mem_map.mp hfield)
          have hbuilt : Built Anything (executeAll .load none e none ds) :=
            built_executeAll .load _ e ds fun _ _ => trivial
          have hsame : u.values = s.values := hfirst.values hbuilt hu
          have hstep : f.InStep u spec := Form.InStep.rests hlater hfirst.rests hrest hsame
          obtain ⟨t, ht, hspared⟩ := ih hfirst.kind hrest hstep
          exact ⟨t, (run_bind_ok hu).trans ht, hfirst.trans hspared⟩

/-- What has saved a faithful form, and nothing else, leaves it in step with the state. -/
theorem run_loadForm_saved {α : Type} {a : Act α} {x : Except Fault α} {m : Nat} {t : Session}
    {spec : Table (List String)} (hf : f.Faithful s spec) (hk : Table.keys spec ⊆ keys)
    (ha : Built Anything a) (hrun : a.settle m s = some (x, t))
    (ht : f.Spared keys P (Table.writesBy (f.entries s spec) (some f.source)) s t) :
    ∃ u, loadForm f spec (cascade (n+2)) t = some (.ok (), u) ∧ f.Spared keys P [] t u := by
  have hvalues : t.values = Table.overlay s.values (f.entries s spec) :=
    (ht.values ha hrun).trans (Table.written_writesBy ..)
  exact run_loadForm_shown h ho ht.kind hk (hf.inStep ht.rests hk hvalues)

end

theorem run_saveForm_entries (h : f.LeftAlone keys n P) (hs : P s) {spec : Table (List String)}
    (hk : Table.keys spec ⊆ keys) (hf : f.Faithful s spec) :
    ∃ t, saveForm f spec (refusing f.owns (n+3)) s = some (.ok (), t) ∧
      f.Spared keys P (Table.writesBy (f.entries s spec) (some f.source)) s t := by
  obtain ⟨t, ht, hspared⟩ := run_saveForm_spared h hs hk
  rw [s.savings_assigns hf.assigns] at hspared
  exact ⟨t, ht, hspared⟩

/-- To close the modals takes a renderer, and nothing else. -/
theorem run_closing_spared (h : f.LeftAlone keys n P) (hs : P s) (b : BoundForm) (carry : React) :
    ∃ r t, (if b.options.modal then hideAll .modal else pure () : Act Unit) carry s =
        some (r, t) ∧ f.Spared keys P [] s t ∧
      (r = .ok () ∨ b.options.modal = true ∧ t.renderer = false) := by
  cases hmodal : b.options.modal with
  | false => exact ⟨_, s, run_pure (), .refl hs, .inl rfl⟩
  | true =>
      cases hrenderer : s.renderer with
      | true =>
          refine ⟨_, _, run_hideAll hrenderer, ?_, .inl rfl⟩
          exact ⟨(Session.Wrote.emit s rfl).writes, rfl, .of_same rfl, h.emitted hs _ rfl⟩
      | false =>
          exact ⟨_, s, run_bind_error (run_needRenderer_missing hrenderer), .refl hs,
            .inr ⟨rfl, hrenderer⟩⟩

theorem spares_callHook (h : f.LeftAlone keys n P) {e : Event} (he : e.write? = none)
    {hook : Option (List Command)}
    (hh : ∀ actions, hook = some actions → Spares f keys P (refusing f.owns n) (runAll actions)) :
    Spares f keys P (refusing f.owns (n+3)) (callHook e hook) := by
  cases hook with
  | none => exact .pure ()
  | some actions =>
      exact spares_callback h (fun _ hr => hr) (Nat.le_add_right n 2) he (hh actions rfl) rfl rfl

/-- A submission that succeeds makes the writes of its save, and leaves the form alone. -/
theorem run_succeed_spared (h : f.LeftAlone keys n P) (hs : P s) {b : BoundForm} (hb : b.form = f)
    (hk : Table.keys b.state ⊆ keys) (hf : f.Faithful s b.state)
    (hh : ∀ actions, b.options.onSuccess = some actions →
      Spares f keys P (refusing f.owns n) (runAll actions)) (v : Json) :
    ∃ r t, (succeed b v).settle (n+3) s = some (r, t) ∧
      f.Spared keys P (Table.writesBy (f.entries s b.state) (some f.source)) s t ∧
      (r = .ok () ∨ b.options.modal = true ∧ t.renderer = false) := by
  subst hb
  obtain ⟨t, ht, hsaved⟩ := run_saveForm_entries h hs hk hf
  obtain ⟨r, u, hu, hclosed, hr⟩ := run_closing_spared h hsaved.kind b _
  obtain ⟨x, w, hw, hcalled⟩ :=
    spares_callHook h (e := .succeeded v) rfl hh u hclosed.kind
  obtain ⟨_, rfl⟩ := faultless_callHook _ _ _ _ _ hw
  have hbuilt : Built Anything (succeed b v) := built_succeed b v fun _ _ => trivial
  have hrest := run_bind_ok (f := fun _ : Unit => (do
    (if b.options.modal then hideAll .modal else pure () : Act Unit)
    callHook (.succeeded v) b.options.onSuccess)) ht
  cases r with
  | ok _ =>
      have hrun : succeed b v (refusing b.form.owns (n+3)) s = some (.ok (), w) := by
        rw [succeed_eq]
        exact hrest.trans ((run_bind_ok hu).trans hw)
      refine ⟨.ok (), w, settle_of_refusing hbuilt hrun, ?_, .inl rfl⟩
      simpa using (hsaved.trans hclosed).trans hcalled
  | error e =>
      have hrun : succeed b v (refusing b.form.owns (n+3)) s = some (.error e, u) := by
        rw [succeed_eq]
        exact hrest.trans (run_bind_error hu)
      refine ⟨.error e, u, settle_of_refusing hbuilt hrun, ?_, hr⟩
      simpa using hsaved.trans hclosed

end
end Act
/-- A form that assigns what its fields show, each to a key of its own, and is bound by nothing else
is loaded again without a change to any of its elements. So a cancel behind a submission that has
succeeded changes none, whether the form was sent or left to the host. -/
theorem form_saved_and_loaded {f : Form} {spec : Table (List String)} {n : Nat}
    {P : Session → Prop} (h : f.LeftAlone (Table.keys spec) n P)
    (ho : ∀ {s}, P s → ∀ r ∈ s.handlers, r.event = .change →
      r.handler.Sparing f (Table.keys spec) n P)
    {s : Session} (hs : P s) (hf : f.Faithful s spec) :
    (∃ t u, (saveForm f spec).settle (n+3) s = some (.ok (), t) ∧
      (loadForm f spec).settle (n+3) t = some (.ok (), u) ∧
      t.writes = s.writes ++ Table.writesBy (f.entries s spec) (some f.source) ∧
      u.writes = t.writes ∧ ∀ e ∈ f.elements, (t.element e).value = (s.element e).value ∧
        (u.element e).value = (s.element e).value) ∧
    ∀ b : BoundForm, b.form = f → b.state = spec →
      (∀ actions, b.options.onSuccess = some actions →
        Spares f (Table.keys spec) P (refusing f.owns n) (runAll actions)) →
      ∀ v, ∃ (r : Except Fault Unit) (t : Session),
        (r = .ok () ∨ b.options.modal = true ∧ t.renderer = false) ∧
        (afterCall (.submission b) (.success v)).settle (n+3) s =
          some (r.map fun _ => .submitted (.submitted v), t) ∧
        (∀ data, v = .object data → b.options.method = none → (sendForm b data).settle (n+3) s =
          some (r.map fun _ => .done (.submitted (.native data)), t)) ∧
        ∀ cancel, ∃ u, (react (.handler (.restore b) cancel)).settle (n+3) t =
            some (.ok (), u) ∧ u.writes = t.writes ∧
          ∀ e ∈ f.elements, (t.element e).value = (s.element e).value ∧
            (u.element e).value = (s.element e).value := by
  have hk : Table.keys spec ⊆ Table.keys spec := List.Subset.refl _
  constructor
  · obtain ⟨t, ht, hsaved⟩ := run_saveForm_entries h hs hk hf
    have hsave : Built Anything (saveForm f spec) := built_saveForm f spec fun _ _ => trivial
    have hload : Built Anything (loadForm f spec) := built_loadForm f spec fun _ _ => trivial
    have hrun : (saveForm f spec).settle (n+3) s = some (.ok (), t) := settle_of_refusing hsave ht
    obtain ⟨u, hu, hloaded⟩ := run_loadForm_saved h ho hf hk hsave hrun hsaved
    refine ⟨t, u, hrun, settle_deeper hload (Nat.le_succ _) hu, hsaved.writes, ?_, ?_⟩
    · exact hloaded.writes.trans (List.append_nil _)
    · intro e he
      exact ⟨hsaved.rests.shown e he, (hsaved.trans hloaded).rests.shown e he⟩
  · rintro b rfl rfl hh v
    obtain ⟨r, t, hrun, hsaved, hr⟩ := run_succeed_spared h hs rfl hk hf hh v
    have hanswer {α : Type} (y : α) : (do succeed b v; return y : Act α).settle (n+3) s =
        some (r.map fun _ => y, t) := by
      cases r with
      | ok _ => exact run_bind_ok hrun
      | error e => exact run_bind_error hrun
    refine ⟨r, t, hr, hanswer _, ?_, ?_⟩
    · rintro data rfl hmethod
      rw [sendForm, hmethod]
      exact hanswer _
    · intro cancel
      have hsucceed : Built Anything (succeed b v) := built_succeed b v fun _ _ => trivial
      obtain ⟨u, hu, hloaded⟩ : ∃ u, loadForm b.form b.restored (cascade (n+2)) t =
          some (.ok (), u) ∧ b.form.Spared (Table.keys b.state) P [] t u := by
        rw [BoundForm.restored]
        split
        · exact run_loadForm_saved h ho hf hk hsucceed hrun hsaved
        · exact ⟨t, rfl, .refl hsaved.kind⟩
      refine ⟨u, run_cancelled hu cancel, hloaded.writes.trans (List.append_nil _), ?_⟩
      intro e he
      exact ⟨hsaved.rests.shown e he, (hsaved.trans hloaded).rests.shown e he⟩

/-- A check box that is off, an input without text, and a plain element that is saved to two keys,
one of which it does not load. -/
def falsyForm : Form := ⟨"falsy", ⟨"form#1"⟩, [0, 1, 2]⟩

def falsySpec : Table (List String) := [("a", ["k"]), ("b", ["*=l"]), ("c", [">m", "n"])]

def falsySession : Session :=
  { renderer := true
    values := [("k", .string "old"), ("n", .bool true)],
    listeners := [("k", .load "k" 0 (some ⟨"form#1"⟩)), ("k", .load "k" 3 none)],
    elements := [{ name := some "a", control := .checkbox false },
      { name := some "b", control := .input "" }, { name := some "c", control := .plain "0" },
      { control := .input "" }],
    handlers := [⟨1, .change, .watch "b" [.host (.note "changed")]⟩, ⟨3, .change, .save "k" none⟩] }

def falsyBound : BoundForm :=
  ⟨falsyForm, [], falsySpec, { modal := true, onSuccess := some [.host (.note "saved")] }⟩

theorem form_saved_and_loaded_falsy : ∃ t u,
    (afterCall (.submission falsyBound) (.success .null)).settle 3 falsySession =
      some (.ok (.submitted (.submitted .null)), t) ∧
    (react (.handler (.restore falsyBound) 2)).settle 3 t = some (.ok (), u) ∧
    u.writes = t.writes ∧ (u.element 0).value = .bool false ∧ (u.element 1).value = .string "" ∧
    (u.element 2).value = .string "0" := by
  have hnote (label : String) : Spares falsyForm (Table.keys falsySpec) falsySession.Alike
      (refusing falsyForm.owns 0) (runAll [.host (.note label)]) := fun u hu =>
    ⟨.ok (), { u with trace := .noted label::u.trace }, rfl, (Session.Wrote.emit u rfl).writes,
      rfl, .of_same rfl, hu.listeners, hu.handlers, hu.evaluators⟩
  have hown : ∀ r ∈ falsySession.handlers, r.event = .change →
      r.handler.Sparing falsyForm (Table.keys falsySpec) 0 falsySession.Alike := by
    simpa [falsySession, Handler.Sparing] using hnote "changed"
  have halone : falsyForm.LeftAlone (Table.keys falsySpec) 0 falsySession.Alike := by
    apply Form.leftAlone_alike
    · rfl
    · simp [falsySession, falsyForm, Listener.Sparing]
    · exact fun r hr he _ => hown r hr he
  have hfaithful : falsyForm.Faithful falsySession falsySpec := by
    constructor
    · intro p hp
      have hturns : falsyForm.turns falsySession falsySpec = [("k", .bool false),
          ("*=l", .string ""), (">m", .string "0"), ("n", .string "0")] := rfl
      rw [hturns] at hp
      simp only [List.mem_cons, List.not_mem_nil, or_false] at hp
      rcases hp with rfl | rfl | rfl | rfl <;> exact ⟨rfl, rfl, rfl⟩
    · have hkeys : Table.keys (falsyForm.entries falsySession falsySpec) =
          ["k", "l", "m", "n"] := rfl
      rw [hkeys]
      decide
  obtain ⟨-, hsubmitted⟩ := form_saved_and_loaded halone
    (fun hs r hr he => hown r (hs.handlers ▸ hr) he) (s := falsySession) ⟨rfl, rfl, rfl⟩ hfaithful
  have hhook : ∀ actions, falsyBound.options.onSuccess = some actions →
      Spares falsyForm (Table.keys falsySpec) falsySession.Alike (refusing falsyForm.owns 0)
        (runAll actions) := by
    rintro actions ⟨⟩
    exact hnote "saved"
  obtain ⟨r, t, -, hsubmit, -, hcancel⟩ := hsubmitted falsyBound rfl rfl hhook .null
  obtain ⟨t', ht'⟩ : ∃ t', (afterCall (.submission falsyBound) (.success .null)).settle 3
      falsySession = some (.ok (.submitted (.submitted .null)), t') := ⟨_, rfl⟩
  obtain ⟨u, hu, hwrites, hshown⟩ := hcancel 2
  obtain ⟨hr, rfl⟩ := Prod.mk.inj (Option.some.inj (hsubmit.symm.trans ht'))
  exact ⟨t, u, ht', hu, hwrites, (hshown 0 (by decide)).2, (hshown 1 (by decide)).2,
    (hshown 2 (by decide)).2⟩

end ScreenBinding
