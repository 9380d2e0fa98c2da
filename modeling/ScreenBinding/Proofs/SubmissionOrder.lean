import ScreenBinding.Proofs.SubmissionCalls

/-!
# The order of a submission

The steps that a submission takes itself keep to one order along each of its courses: it validates,
asks, sends, hears, and saves. The order is stated event by event, as what has to stand before an
event in the record, and is read off the grammar. The record tells how the hook has ruled; that the
hook was called once, and has said this of the data, is told by the notes of the course.

Writes that callbacks make in turn are no steps of the submission, whatever source they name.
-/
namespace ScreenBinding

/-- Whether a submission of `data` may take a step behind others: the hook is called once, on the
data, and rules once after that; one request is sent, with the data, after the hook has accepted;
and the state is written under the source of the form after a success was heard or, without a
request, after the hook has accepted. -/
def Allowed (b : BoundForm) (data : Fields) (before : List Event) : Event → Prop
  | .injected d => d = data ∧ b.options.inject.isSome ∧ ∀ d', .injected d' ∉ before
  | .ruled _ => .injected data ∈ before ∧ ∀ accepted, .ruled accepted ∉ before
  | .sent _ _ _ payload => payload = .object data ∧ b.options.method.isSome ∧
      (b.options.inject.isSome → .ruled true ∈ before) ∧
      ∀ scripted verb url v, .sent scripted verb url v ∉ before
  | .answered _ => ∃ scripted verb url, .sent scripted verb url (.object data) ∈ before
  | .stored _ _ source => source = some b.form.source →
      (b.options.method.isSome → ∃ v, .answered (.ok v) ∈ before) ∧
      (b.options.method = none → b.options.inject.isSome → .ruled true ∈ before)
  | _ => True

/-- Every step of a list may be taken behind those before it. -/
def Ordered (b : BoundForm) (data : Fields) : List Event → List Event → Prop
  | _, [] => True
  | before, e::l => Allowed b data before e ∧ Ordered b data (before ++ [e]) l

section
variable {b : BoundForm} {data : Fields}

theorem Ordered.allowed {pre post before : List Event} {e : Event}
    (h : Ordered b data before (pre ++ e::post)) : Allowed b data (before ++ pre) e := by
  induction pre generalizing before with
  | nil => simpa using h.1
  | cons d pre ih => simpa using ih h.2

/-- Events that are no steps neither need nor give a leave. -/
theorem allowed_filter {before : List Event} {e : Event}
    (h : e.isStep = true → Allowed b data (before.filter Event.isStep) e) :
    Allowed b data before e := by
  have hm {d : Event} (hd : d.isStep = true) : d ∈ before.filter Event.isStep ↔ d ∈ before := by
    simp [hd]
  cases e with
  | injected d =>
      obtain ⟨hd, hi, hn⟩ := h rfl
      exact ⟨hd, hi, fun d' hm' => hn d' ((hm rfl).mpr hm')⟩
  | ruled accepted =>
      obtain ⟨hi, hn⟩ := h rfl
      exact ⟨(hm rfl).mp hi, fun a hm' => hn a ((hm rfl).mpr hm')⟩
  | sent scripted verb url payload =>
      obtain ⟨hp, hs, hi, hn⟩ := h rfl
      refine ⟨hp, hs, fun hk => (hm rfl).mp (hi hk), fun _ _ _ _ hm' => ?_⟩
      exact hn _ _ _ _ ((hm rfl).mpr hm')
  | answered a =>
      obtain ⟨scripted, verb, url, hs⟩ := h rfl
      exact ⟨scripted, verb, url, (hm rfl).mp hs⟩
  | stored key v source =>
      intro hsrc
      obtain ⟨ha, hr⟩ := h rfl hsrc
      refine ⟨fun hk => ?_, fun hk hi => (hm rfl).mp (hr hk hi)⟩
      obtain ⟨v, hv⟩ := ha hk
      exact ⟨v, (hm rfl).mp hv⟩
  | _ => trivial

theorem Ordered.of_filter {log pre post : List Event} {e : Event}
    (h : Ordered b data [] (log.filter Event.isStep)) (hl : log = pre ++ e::post) :
    Allowed b data pre e := by
  refine allowed_filter fun he => ?_
  rw [hl, List.filter_append, List.filter_cons_of_pos he] at h
  exact h.allowed

theorem ordered_saves {before l : List Event} (h : WrittenUnder (some b.form.source) l)
    (ha : b.options.method.isSome → ∃ v, .answered (.ok v) ∈ before)
    (hr : b.options.method = none → b.options.inject.isSome → .ruled true ∈ before) :
    Ordered b data before l := by
  induction l generalizing before with
  | nil => trivial
  | cons e l ih =>
      obtain ⟨key, v, rfl⟩ := h e (List.mem_cons_self ..)
      refine ⟨fun _ => ⟨ha, hr⟩, ih (fun d hd => h d (List.mem_cons_of_mem _ hd)) ?_ ?_⟩
      · intro hk
        obtain ⟨w, hw⟩ := ha hk
        exact ⟨w, List.mem_append_left _ hw⟩
      · exact fun hk hi => List.mem_append_left _ (hr hk hi)

/-- Writes under no source need no leave. -/
theorem ordered_loads {before l : List Event} (h : WrittenUnder none l) :
    Ordered b data before l := by
  induction l generalizing before with
  | nil => trivial
  | cons e l ih =>
      obtain ⟨key, v, rfl⟩ := h e (List.mem_cons_self ..)
      exact ⟨nofun, ih fun d hd => h d (List.mem_cons_of_mem _ hd)⟩

theorem Replied.ordered {before l : List Event} {r : Option Result} (h : Replied b l r)
    (hs : ∃ scripted verb url, .sent scripted verb url (.object data) ∈ before)
    (hb : b.options.method.isSome) : Ordered b data before l := by
  cases h with
  | waiting => trivial
  | denied why o _ => exact ⟨hs, trivial⟩
  | granted v hw _ =>
      have hv : Event.answered (.ok v) ∈ before ++ [.answered (.ok v)] :=
        List.mem_append_right _ (List.mem_cons_self ..)
      refine ⟨hs, ordered_saves hw (fun _ => ⟨v, hv⟩) fun hn => ?_⟩
      rw [hn] at hb
      cases hb

theorem Delivered.ordered {before l : List Event} {r : Option Result} (h : Delivered b data l r)
    (hr : b.options.inject.isSome → .ruled true ∈ before)
    (hn : ∀ scripted verb url v, .sent scripted verb url v ∉ before) :
    Ordered b data before l := by
  cases h with
  | native hb hw _ =>
      refine ordered_saves hw (fun hk => ?_) fun _ => hr
      rw [hb] at hk
      cases hk
  | unsent o _ _ => trivial
  | sent scripted verb url hb hl =>
      exact ⟨⟨rfl, hb, hr, hn⟩,
        hl.ordered ⟨scripted, verb, url, List.mem_append_right _ (List.mem_cons_self ..)⟩ hb⟩

theorem Asked.ordered {l : List Event} {r : Option Result} (h : Asked b data l r) :
    Ordered b data [.injected data] l := by
  cases h with
  | waiting => trivial
  | refused hw _ => exact ⟨⟨List.mem_cons_self .., by simp⟩, ordered_loads hw⟩
  | allowed hl => exact ⟨⟨List.mem_cons_self .., by simp⟩, hl.ordered (fun _ => by simp) (by simp)⟩

theorem Conducted.ordered {l : List Event} {r : Option Result}
    (h : Conducted b data [] l r) : Ordered b data [] l := by
  cases h with
  | invalid hb _ => exact (hb rfl).elim
  | asked _ hi hl => exact ⟨⟨rfl, hi, nofun⟩, hl.ordered⟩
  | unasked _ hi hl =>
      refine hl.ordered (fun hk => ?_) nofun
      rw [hi] at hk
      cases hk

end

/-- Whether a submission with this outcome saves its form. -/
def SubmitOutcome.saves : SubmitOutcome → Bool
  | .submitted _ | .native _ => true
  | _ => false

section
variable {b : BoundForm} {data : Fields} {bad : List String} {l : List Event} {r : Option Result}
  {key : String} {v : Json}

theorem EndsIn.saves {o o' : SubmitOutcome} {x : Result} (h : EndsIn o x)
    (ho : o.saves = true) (hx : some x = some (.ok (.submitted o'))) : o'.saves = true := by
  cases hx
  cases h _ rfl
  exact ho

theorem Replied.saves (h : Replied b l r) (hm : .stored key v (some b.form.source) ∈ l)
    {o : SubmitOutcome} (hr : r = some (.ok (.submitted o))) : o.saves = true := by
  cases h with
  | waiting => cases hm
  | denied why o' _ => simp at hm
  | granted w _ hx => exact hx.saves rfl hr

theorem Delivered.saves (h : Delivered b data l r) (hm : .stored key v (some b.form.source) ∈ l)
    {o : SubmitOutcome} (hr : r = some (.ok (.submitted o))) : o.saves = true := by
  cases h with
  | native _ _ hx => exact hx.saves rfl hr
  | unsent o' _ _ => cases hm
  | sent scripted verb url _ hl => exact hl.saves ((List.mem_cons.mp hm).resolve_left nofun) hr

theorem Asked.saves (h : Asked b data l r) (hm : .stored key v (some b.form.source) ∈ l)
    {o : SubmitOutcome} (hr : r = some (.ok (.submitted o))) : o.saves = true := by
  cases h with
  | waiting => cases hm
  | refused hw _ =>
      obtain ⟨_, _, he⟩ := hw _ ((List.mem_cons.mp hm).resolve_left nofun)
      cases he
  | allowed hl => exact hl.saves ((List.mem_cons.mp hm).resolve_left nofun) hr

/-- A submission that writes under the source of its form ends in success. -/
theorem Conducted.saves (h : Conducted b data bad l r)
    (hm : .stored key v (some b.form.source) ∈ l) {o : SubmitOutcome}
    (hr : r = some (.ok (.submitted o))) : o.saves = true := by
  cases h with
  | invalid _ _ => cases hm
  | asked _ _ hl => exact hl.saves ((List.mem_cons.mp hm).resolve_left nofun) hr
  | unasked _ _ hl => exact hl.saves hm hr

end

section
variable {b : BoundForm} {answer : Bool} {s : Session} {log : List Event} {r : Option Result}

/-- A submission of which a name fails its rules takes no step. -/
theorem Course.invalid (h : Course (.submit b) answer s log r) (hb : b.invalid s ≠ []) :
    (∃ x, r = some x ∧ EndsIn (.invalid (b.invalid s)) x) ∧ ∀ e ∈ log, e.isStep = false := by
  have hc := h.conducted
  generalize hl : log.filter Event.isStep = l at hc
  cases hc with
  | invalid _ hx =>
      have hplain : ∀ e ∈ log, e.isStep = false := by
        simpa [List.filter_eq_nil_iff] using hl
      exact ⟨⟨_, rfl, hx⟩, hplain⟩
  | asked hn _ _ => exact (hb hn).elim
  | unasked hn _ _ => exact (hb hn).elim

/-- Every step of a submission of valid data is allowed. -/
theorem Course.allowed (h : Course (.submit b) answer s log r) (hb : b.invalid s = [])
    {pre post : List Event} {e : Event} (hl : log = pre ++ e::post) :
    Allowed b (b.form.data s) pre e := by
  have hc := h.conducted
  rw [hb] at hc
  exact hc.ordered.of_filter hl

/-- A submission that ends without success has not written under the source of its form. -/
theorem Course.unsaved (h : Course (.submit b) answer s log r) {o : SubmitOutcome}
    (hr : r = some (.ok (.submitted o))) (ho : o.saves = false) (key : String) (v : Json) :
    .stored key v (some b.form.source) ∉ log := by
  intro hm
  have hf : .stored key v (some b.form.source) ∈ log.filter Event.isStep :=
    List.mem_filter.mpr ⟨hm, rfl⟩
  have hs := h.conducted.saves hf hr
  rw [ho] at hs
  cases hs

/-- Whatever happens while a submission waits. If a name fails its rules, the outcome is that or a
fault, no hook is called, and no step is taken. Otherwise the hook is called once, if there is one,
and rules by what it says of the data; every step is allowed behind those before it; and a
submission that ends without success has not written under its source. -/
theorem submission_in_order (h : Course (.submit b) answer s log r) :
    ∃ notes, Account (.submit b) answer s notes r ∧ Note.events notes = log ∧
    (b.invalid s ≠ [] → (∃ x, r = some x ∧ EndsIn (.invalid (b.invalid s)) x) ∧
      Note.calls notes = [] ∧ ∀ e ∈ log, e.isStep = false) ∧
    (b.invalid s = [] →
      (∀ hook, b.options.inject = some hook → b.Hooked (b.form.data s) hook s notes r) ∧
      (b.options.inject = none → b.Closes (r.bind Except.toOption) notes) ∧
      (∀ pre e post, log = pre ++ e::post → Allowed b (b.form.data s) pre e) ∧
      ∀ o, r = some (.ok (.submitted o)) → o.saves = false →
        ∀ key v, .stored key v (some b.form.source) ∉ log) := by
  obtain ⟨notes, hnotes, hlog⟩ := h.account .begins
  refine ⟨notes, hnotes, hlog, fun hb => ?_, fun hb => ⟨?_, ?_, ?_, ?_⟩⟩
  · obtain ⟨hends, hplain⟩ := h.invalid hb
    exact ⟨hends, (hnotes.refused hb).uncalled, hplain⟩
  · intro hook hi
    exact hnotes.hooked hb hi
  · intro hi
    exact hnotes.unasked hb hi
  · intro pre e post hl
    exact h.allowed hb hl
  · intro o hr ho
    exact h.unsaved hr ho

end

/-- A form of one field, whose hook takes its time and accepts. -/
def ageForm : BoundForm :=
  ⟨⟨"person", .unique "form" 1, [0]⟩, [("age", ["maxLen:3"])], [("age", ["age"])],
    { method := some "put", inject := some { delay := 1 } }⟩

/-- The field shows a text, and the server accepts. -/
def ageSession (text : String) : Session :=
  { notifier := true, transport := some .scripted,
    values := [("methods", MethodTable.single "put" .post "people")],
    replies := [("people", [⟨5, .ok .null⟩])],
    elements := [{ control := .input text, name := some "age" }] }

/-- A hook that takes its time, leaves a note in the state, and accepts. -/
def notingHook : Inject Command :=
  { delay := 1, actions := [.state (.set "asked" (.bool true) none)] }

/-- The form of one field with that hook. -/
def notingForm : BoundForm :=
  { ageForm with options := { method := some "put", inject := some notingHook } }

/-- The field is edited while the hook takes its time and again while the answer is awaited. The
hook is called on the data that were there first. -/
theorem submission_in_order_edited : ∃ notes log, Course (.submit notingForm) true (ageSession "7")
      log (some (.ok (.submitted (.submitted .null)))) ∧
    notingForm.invalid (ageSession "7") = [] ∧ Note.events notes = log ∧
    notingForm.Hooked [("age", .string "7")] notingHook (ageSession "7") notes
      (some (.ok (.submitted (.submitted .null)))) := by
  have h₁ : Course (.replying ⟨"put", {}, .submission notingForm⟩ (.settled (.ok .null))) true
      (ageSession "9") _ _ :=
    .ends (x := .ok (.submitted (.submitted .null))) 5 rfl
  have h₂ : Course (.injecting notingForm [("age", .string "7")] notingHook) true
      (ageSession "8") _ _ :=
    .waits 5 rfl rfl h₁
  have h : Course (.submit notingForm) true (ageSession "7") _ _ := .waits 5 rfl rfl h₂
  obtain ⟨notes, -, hlog, -, hvalid⟩ := submission_in_order h
  exact ⟨notes, _, h, rfl, hlog, (hvalid rfl).1 notingHook rfl⟩

end ScreenBinding
