import ScreenBinding.Proofs.CallActs
import ScreenBinding.Proofs.SaveTurns
import ScreenBinding.Proofs.SubmissionOrder

/-!
# What a submission saves

A submission validates and sends the data that its form holds when it begins, but it saves what the
fields show when it comes to its end. The two agree only as far as the fields do: each directive
stores what its field shows at its turn, and whoever edits a field while the submission waits
changes what is saved.

A submission that saves does so at the end of its last stretch, so that the session in which the
stretch ends is the one in which the save ends. Unless the hook runs in that stretch, nothing before
the save touches the fields.
-/
namespace ScreenBinding
open Act

/-- A task goes on, from where it is resumed in one session to where it is resumed in another;
whatever else happens while it waits lies between its stretches. -/
inductive GoesOn : Frame → Bool → Session → Frame → Bool → Session → Prop
  | here {frame : Frame} {answer : Bool} {s : Session} : GoesOn frame answer s frame answer s
  | waits {frame next last : Frame} {answer accepted final : Bool} {s t u v : Session}
      {p : Progress} (n : Nat) :
      (resume frame answer).settle n s = some (.ok p, t) → p.next? = some next →
      GoesOn next accepted u last final v → GoesOn frame answer s last final v

theorem Onward.resumed {b : BoundForm} {data : Fields} {frame next : Frame} {answer : Bool}
    {s t : Session} {p : Progress} {n : Nat} (h : ∃ L, Onward b data frame L)
    (hr : (resume frame answer).settle n s = some (.ok p, t)) (hp : p.next? = some next) :
    ∃ L, Onward b data next L := by
  obtain ⟨L, ho⟩ := h
  obtain ⟨M, hM, -⟩ := (own_steps (built_resume ho.reloads _) hr
    (yields_resume (mute_hush _) ho _ _ _)).next hp
  exact ⟨M, hM⟩

theorem GoesOn.onward {b : BoundForm} {data : Fields} {frame last : Frame} {answer final : Bool}
    {s u : Session} (h : GoesOn frame answer s last final u) (ho : ∃ L, Onward b data frame L) :
    ∃ L, Onward b data last L := by
  induction h with
  | here => exact ho
  | waits n hr hp _ ih => exact ih (Onward.resumed ho hr hp)

/-- A submission stands at its beginning, or where the grammar of its steps lets it wait. -/
theorem GoesOn.submitted {b : BoundForm} {last : Frame} {answer final : Bool} {s u : Session}
    (h : GoesOn (.submit b) answer s last final u) :
    last = .submit b ∨ ∃ L, Onward b (b.form.data s) last L := by
  cases h with
  | here => exact .inl rfl
  | waits n hr hp h =>
      obtain ⟨M, hM, -⟩ :=
        (own_steps (built_submit b) hr (yields_submit (mute_hush _) _ _)).next hp
      exact .inr (h.onward ⟨M, hM⟩)

/-- Whether the hook of a submission may run in the stretch that begins here. -/
def Frame.asksHook : Frame → Bool
  | .submit b => b.options.inject.isSome
  | .injecting .. => true
  | _ => false

/-- The fields of a form have kept their names and show what they showed. -/
def Form.Still (f : Form) (s t : Session) : Prop :=
  ∀ e ∈ f.elements, (t.element e).name = (s.element e).name ∧
    (t.element e).value = (s.element e).value

theorem Form.Still.refl (f : Form) (s : Session) : f.Still s s := fun _ _ => ⟨rfl, rfl⟩

theorem Form.Still.trans {f : Form} {s t u : Session} (h : f.Still s t) (k : f.Still t u) :
    f.Still s u := fun e he =>
  ⟨(k e he).1.trans (h e he).1, (k e he).2.trans (h e he).2⟩

theorem Form.Still.of_beside {f : Form} {s t : Session} (h : s.Beside t) : f.Still s t := by
  intro e _
  rw [Session.element, h.elements]
  exact ⟨rfl, rfl⟩

/-- The fields are still as they were, unless the hook may have run. -/
def Near (asks : Bool) (f : Form) (s t : Session) : Prop := asks = false → f.Still s t

theorem Near.trans {asks : Bool} {f : Form} {s t u : Session} (h : Near asks f s t)
    (k : Near asks f t u) : Near asks f s u := fun ha => (h ha).trans (k ha)

/-- What a submission has come to when it ends. -/
def Progress.submitted (o : SubmitOutcome) : Progress := .done (.submitted o)

namespace Act
variable {α β : Type} {asks : Bool} {b : BoundForm} {f : Form} {carry : React}

/-- The fields are near to what they were, whatever the result. -/
def Keeps (asks : Bool) (f : Form) (carry : React) (a : Act α) : Prop :=
  ∀ s x t, a carry s = some (x, t) → Near asks f s t

theorem Keeps.asking (a : Act α) : Keeps true f carry a := fun _ _ _ _ => nofun

theorem Keeps.of_beside {a : Act α} (h : StaysBeside carry a) : Keeps asks f carry a :=
  fun s x t ha _ => .of_beside (h s x t ha)

theorem Keeps.gets (g : Session → α) : Keeps asks f carry (Act.gets g) := .of_beside (.gets g)

theorem Keeps.bind {a : Act α} {g : α → Act β} (ha : Keeps asks f carry a)
    (hg : ∀ x, Keeps asks f carry (g x)) : Keeps asks f carry (a >>= g) := by
  intro s y u h
  obtain ⟨x, t, ht, hu⟩ | ⟨e, he, -⟩ := bind_cases h
  · have hs := ha s _ t ht
    exact hs.trans (hg x t y u hu)
  · exact ha s _ u he

theorem Keeps.forEach {l : List β} {g : β → Act Unit} (h : ∀ x, Keeps asks f carry (g x)) :
    Keeps asks f carry (do for x in l do g x) := by
  induction l with
  | nil =>
      rw [forEach_nil]
      exact .of_beside (.pure ())
  | cons x l ih =>
      rw [forEach_cons]
      exact .bind (h x) fun _ => ih

theorem keeps_modify {g : Element → Element} (e : ElementRef)
    (hg : ∀ x : Element, (g x).name = x.name ∧ (g x).value = x.value) :
    Keeps asks f carry (modify e g) := by
  intro s x t h _ e' _
  cases h
  simp only [Session.element, List.getD_eq_getElem?_getD, List.getElem?_modify]
  cases s.elements[e']? with
  | none => exact ⟨rfl, rfl⟩
  | some x =>
      by_cases he : e = e'
      · simpa [he] using hg x
      · simp [he]

/-- Taking back marks changes classes only. -/
theorem keeps_clearMarks : Keeps asks f carry (clearMarks b) :=
  .bind (.gets _) fun _ => .bind (.gets _) fun _ => .forEach fun e =>
    keeps_modify e fun _ => ⟨rfl, rfl⟩

/-- If the act ends in an outcome that saves, it ends where `succeed` ends, which began near where
the act began. -/
def Closes (asks : Bool) (b : BoundForm) (carry : React) (result : SubmitOutcome → α)
    (a : Act α) : Prop :=
  ∀ s o t, a carry s = some (.ok (result o), t) → o.saves = true →
    ∃ w response, Near asks b.form s w ∧ succeed b response carry w = some (.ok (), t)

section
variable {result : SubmitOutcome → α}

theorem Closes.bind {a : Act β} {g : β → Act α} (ha : Keeps asks b.form carry a)
    (hg : ∀ x, Closes asks b carry result (g x)) : Closes asks b carry result (a >>= g) := by
  intro s o u h ho
  obtain ⟨x, t, ht, hu⟩ | ⟨e, -, he⟩ := bind_cases h
  · obtain ⟨w, response, hw, hs⟩ := hg x t o u hu ho
    exact ⟨w, response, (ha s _ t ht).trans hw, hs⟩
  · cases he

/-- Nothing is saved if the outcome does not say so. -/
theorem Closes.pure {x : α} (h : ∀ o, o.saves = true → x ≠ result o) :
    Closes asks b carry result (Pure.pure x) := by
  intro s o t ha ho
  cases ha
  exact (h o ho rfl).elim

theorem Closes.throw (e : Fault) : Closes asks b carry result (throw e) := by
  intro s o t ha
  cases ha

/-- What comes before an outcome that does not save is of no matter. -/
theorem Closes.vain {a : Act β} {x : α} (h : ∀ o, o.saves = true → x ≠ result o) :
    Closes asks b carry result (a >>= fun _ => Pure.pure x) := by
  intro s o u ha ho
  obtain ⟨_, t, -, hu⟩ | ⟨e, -, he⟩ := bind_cases ha
  · cases hu
    exact (h o ho rfl).elim
  · cases he

theorem Closes.succeed (response : Json) (x : α) :
    Closes asks b carry result (succeed b response >>= fun _ => Pure.pure x) := by
  intro s o u ha ho
  obtain ⟨_, t, ht, hu⟩ | ⟨e, -, he⟩ := bind_cases ha
  · cases hu
    exact ⟨s, response, fun _ => .refl b.form s, ht⟩
  · cases he

end

theorem closes_failure (why : Fault) :
    Closes asks b carry .submitted (afterCall (.submission b) (.failure why)) := by
  refine .vain fun o ho he => ?_
  cases he
  cases ho

theorem closes_finishCall (method : String) (options : RemoteOptions)
    (attempt : Except Fault (Except TransportFault Json)) :
    Closes asks b carry .submitted (finishCall ⟨method, options, .submission b⟩ attempt) := by
  refine .bind (.of_beside (beside_lock options .lockReleased)) fun _ => ?_
  rcases attempt with why | (why | v)
  · refine .bind (.of_beside (beside_reportFailure options)) fun _ => .bind (.gets _) fun mode => ?_
    split
    · exact closes_failure why
    · exact .throw why
  · exact .bind (.of_beside (beside_reportFailure options)) fun _ => closes_failure (.transport why)
  · exact .bind (.of_beside (beside_reportSuccess options)) fun _ => .succeed v _

theorem Closes.done {a : Act Answer} (h : Closes asks b carry .submitted a) :
    Closes asks b carry Progress.submitted (do return Progress.done (← a)) := by
  intro s o u ha ho
  obtain ⟨x, t, ht, hu⟩ | ⟨e, -, he⟩ := bind_cases ha
  · cases hu
    exact h s o _ ht ho
  · cases he

theorem closes_reply (method : String) (options : RemoteOptions) (p : Pending) :
    Closes asks b carry Progress.submitted (do
      return Progress.done (← finishCall ⟨method, options, .submission b⟩ (.ok (← receive p)))) :=
  .bind (.of_beside (beside_receive p)) fun a => .done (closes_finishCall method options (.ok a))

theorem Closes.after {ms : Nat} {frame : Frame} {a : Act Progress}
    (h : Closes asks b carry Progress.submitted a) :
    Closes asks b carry Progress.submitted (after ms frame a) := by
  unfold Act.after
  split
  · exact h
  · exact .pure fun _ _ => nofun

theorem closes_call (method : String) (payload : Json) (options : RemoteOptions) :
    Closes asks b carry Progress.submitted (call method payload options (.submission b)) := by
  refine .bind (.of_beside (beside_lock options .lockShown)) fun _ =>
    .bind (.of_beside (beside_dispatch method).outcome) fun x => ?_
  cases x with
  | error why => exact .done (closes_finishCall method options (.error why))
  | ok p =>
      exact .bind (.of_beside (beside_send p.2 p.1.verb p.1.url payload)) fun y =>
        .after (closes_reply method options y.2)

theorem closes_sendForm (data : Fields) :
    Closes asks b carry Progress.submitted (sendForm b data) := by
  unfold sendForm
  split
  · exact closes_call _ _ _
  · exact .succeed _ _

theorem closes_decided (data : Fields) (accepted : Bool) :
    Closes asks b carry Progress.submitted (decided b data accepted) := by
  refine .bind (.of_beside (.emit _)) fun _ => ?_
  cases accepted with
  | true => exact closes_sendForm data
  | false =>
      refine .vain fun o ho he => ?_
      cases he
      cases ho

theorem closes_inject (data : Fields) (hook : Inject Command) :
    Closes true b carry Progress.submitted (inject b data hook) := by
  refine .bind (.asking _) fun _ => ?_
  split
  · exact closes_decided data _
  · refine .bind (.asking _) fun values => .bind (.asking _) fun x => ?_
    cases x with
    | error f => exact closes_decided data false
    | ok ticket =>
        refine .bind (.asking _) fun answers => ?_
        split
        · exact .bind (.asking _) fun _ => closes_decided data _
        · refine .pure fun o ho he => ?_
          cases he

theorem closes_submit :
    Closes b.options.inject.isSome b carry Progress.submitted (submit b) := by
  refine .bind (.gets _) fun data => .bind (.gets _) fun sep => ?_
  unfold judged
  split
  · refine .vain fun o ho he => ?_
    cases he
    cases ho
  · refine .bind keeps_clearMarks fun _ => ?_
    cases b.options.inject with
    | some hook => exact .bind (.of_beside (.emit _)) fun _ => .after (closes_inject data hook)
    | none => exact closes_sendForm data

theorem closes_resume {data : Fields} {frame : Frame} {answer : Bool}
    (h : frame = .submit b ∨ ∃ L, Onward b data frame L) :
    Closes frame.asksHook b carry Progress.submitted (resume frame answer) := by
  rcases h with rfl | ⟨L, ho⟩
  · exact closes_submit
  · cases ho with
    | injecting hook => exact closes_inject data hook
    | deciding => exact closes_decided data answer
    | replying method options reply => exact closes_reply method options reply

end Act

/-- A submission that ends well saves the form at its end. Each assignment stores what its field
shows at its turn. That is what the data holds which was validated and sent if and only if the last
field of that name showed it when the submission began, which is the same field if names are
distinct. -/
theorem submission_saves_shown {b : BoundForm} {answer accepted : Bool} {s u t : Session}
    {frame : Frame} {n : Nat} {o : SubmitOutcome}
    (h : GoesOn (.submit b) answer s frame accepted u)
    (hr : (resume frame accepted).settle n u = some (.ok (.done (.submitted o)), t))
    (ho : o.saves = true) :
    ∃ w response, (frame.asksHook = false → b.form.Still u w) ∧
      (succeed b response).settle n w = some (.ok (), t) ∧
      (∀ before after key done d rest, b.state = before ++ (key, done ++ d::rest)::after →
        ∃ entry, (saveForm b.form before).settle n w = some (.ok (), entry) ∧
          ∀ e, b.form.findField entry key = some e →
            ∃ now, Turn n b.form b.state w key d e entry now) ∧
      ∀ key d e entry now, Turn n b.form b.state w key d e entry now →
        (Directive.parse d).appliesTo .save = true → (Directive.parse d).operators = [.assign] →
        now.evaluator? .save .assign = some .saveAssign →
        .stored (Directive.parse d).key (entry.taken now e) (some b.form.source)::now.trace <:+
            t.trace ∧
          (Table.find? (b.form.data s) key = some (entry.taken now e) ↔
            ∃ last, b.form.lastNamed s key = some last ∧
              (s.element last).value = entry.taken now e) ∧
          (b.form.Distinct s → Form.Plain key → (s.element e).name = (entry.element e).name →
            (Table.find? (b.form.data s) key = some (entry.taken now e) ↔
              (s.element e).value = entry.taken now e)) := by
  obtain ⟨w, response, hw, hs⟩ := closes_resume h.submitted u o t hr ho
  obtain ⟨_, saved, hsave, hrest⟩ | ⟨_, _, hx⟩ := bind_cases hs
  · have hall : AdmitsWrites Anything (some b.form.source) := fun _ _ => trivial
    have hsuf : saved.trace <:+ t.trace :=
      settle_respects respected_trace (built_acknowledge b response) hrest
    refine ⟨w, response, hw, hs, fun before after key done d rest hsp => ?_, ?_⟩
    · exact turn_of_saved hsave hsp
    · intro key d e entry now hturn hd hop hev
      refine ⟨(hturn.stores hsave hd hop hev).trans hsuf, ?_, ?_⟩
      · rw [Form.find?_data, Option.map_eq_some_iff]
      · intro hnames hk hn
        rw [Form.find?_data_distinct hnames hk hturn.found hn, Option.some.injEq]
  · cases hx

/-- The field of the example is edited while the hook is asked and again while the answer is
awaited. -/
theorem goesOn_edited : GoesOn (.submit ageForm) true (ageSession "7")
    (.replying ⟨"put", {}, .submission ageForm⟩ (.settled (.ok .null))) true
    (ageSession "9999") := by
  have h : GoesOn (.injecting ageForm [("age", .string "7")] { delay := 1 }) true (ageSession "8")
      (.replying ⟨"put", {}, .submission ageForm⟩ (.settled (.ok .null))) true
      (ageSession "9999") :=
    .waits 5 rfl rfl .here
  exact .waits 5 rfl rfl h

/-- The save begins with what the field shows when the server answers. -/
theorem submission_saves_shown_edited : ∃ frame u t w response,
    GoesOn (.submit ageForm) true (ageSession "7") frame true u ∧ ageForm.form.Still u w ∧
      (succeed ageForm response).settle 5 w = some (.ok (), t) := by
  obtain ⟨w, response, hw, hs, -, -⟩ :=
    submission_saves_shown (n := 5) (o := .submitted .null) goesOn_edited rfl rfl
  exact ⟨_, _, _, w, response, goesOn_edited, hw rfl, hs⟩

/-- A value that was neither sent nor valid is saved. -/
theorem saves_neither_sent_nor_valid : ∃ frame u t,
    GoesOn (.submit ageForm) true (ageSession "7") frame true u ∧
      (resume frame true).settle 5 u = some (.ok (.done (.submitted (.submitted .null))), t) ∧
      Table.find? (ageForm.form.data (ageSession "7")) "age" = some (.string "7") ∧
      Table.find? t.values "age" = some (.string "9999") ∧ ageForm.invalid u = ["age"] :=
  ⟨_, _, _, goesOn_edited, rfl, rfl, rfl, rfl⟩

end ScreenBinding
