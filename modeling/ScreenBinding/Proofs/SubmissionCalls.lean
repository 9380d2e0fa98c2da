import ScreenBinding.Proofs.Completion

/-!
# The hooks of a submission

The notes of a submission along its course: its events, the hooks that it calls, and where it is
resumed. A submission of data that are valid calls its hook first, where it has one. The commands of
the hook are run to their end, and what the hook says is told by its decision: it answers, or it
asks for a confirmation of what the commands left under its key. If that is not answered at once,
the hook says what the submission is resumed with.

Behind the ruling of its hook a submission calls no hook but the one that goes with its answer.
-/
namespace ScreenBinding
open Act

/-- The notes of a course, stretch by stretch. -/
inductive Account : Frame → Bool → Session → List Note → Option Result → Prop
  | ends {frame : Frame} {answer : Bool} {s t : Session} {notes : List Note} {x : Result}
      (n : Nat) :
      (resume frame answer).settle n s = some (x.map .done, t) →
      Notes n (resume frame answer) s notes (x.map .done) t →
      Account frame answer s notes (some x)
  | stops {frame next : Frame} {answer : Bool} {s t : Session} {notes : List Note} {p : Progress}
      (n : Nat) :
      (resume frame answer).settle n s = some (.ok p, t) →
      Notes n (resume frame answer) s notes (.ok p) t → p.next? = some next →
      Account frame answer s notes none
  | waits {frame next : Frame} {answer accepted : Bool} {s t u : Session} {notes more : List Note}
      {p : Progress} {r : Option Result} (n : Nat) :
      (resume frame answer).settle n s = some (.ok p, t) →
      Notes n (resume frame answer) s notes (.ok p) t → p.next? = some next →
      Account next accepted u more r →
      Account frame answer s (notes ++ .resumed u accepted::more) r

/-- What is noted of a course behind a stretch that ends with `x`. -/
inductive Later : Except Fault Progress → List Note → Option Result → Prop
  | ends {x : Except Fault Progress} {y : Result} : x = y.map .done → Later x [] (some y)
  | stops {p : Progress} {next : Frame} : p.next? = some next → Later (.ok p) [] none
  | waits {p : Progress} {next : Frame} {accepted : Bool} {u : Session} {more : List Note}
      {r : Option Result} : p.next? = some next → Account next accepted u more r →
      Later (.ok p) (.resumed u accepted::more) r

/-- Where a stretch waits, nothing comes behind it or the task is resumed. -/
theorem Later.waiting {p : Progress} {next : Frame} {rest : List Note} {r : Option Result}
    (h : Later (.ok p) rest r) (hp : p.next? = some next) : rest = [] ∧ r = none ∨
      ∃ u accepted more, rest = .resumed u accepted::more ∧ Account next accepted u more r := by
  cases h with
  | @ends _ y hy =>
      cases y <;> cases hy
      cases hp
  | stops => exact .inl ⟨rfl, rfl⟩
  | waits hnext hmore =>
      obtain rfl := Option.some.inj (hnext.symm.trans hp)
      exact .inr ⟨_, _, _, rfl, hmore⟩

/-- The frames of a submission. -/
inductive Submits (b : BoundForm) : Frame → Prop
  | begins : Submits b (.submit b)
  | onward {data : Fields} {frame : Frame} {L : List Event → Option Result → Prop} :
      Onward b data frame L → Submits b frame

section
variable {b : BoundForm} {frame later : Frame} {answer : Bool} {s t : Session} {log : List Event}
  {notes : List Note} {r : Option Result} {n : Nat} {p : Progress}

theorem Submits.built (h : Submits b frame) : Built Anything (resume frame answer) := by
  cases h with
  | begins => exact built_submit b
  | onward ho => exact built_resume ho.reloads answer

/-- A submission that waits goes on as one. -/
theorem Submits.next (h : Submits b frame) (hr : (resume frame answer).settle n s = some (.ok p, t))
    (hp : p.next? = some later) : Submits b later := by
  cases h with
  | begins =>
      obtain ⟨L, ho, -⟩ := (own_steps (built_submit b) hr (yields_submit (mute_hush _) _ _)).next hp
      exact .onward ho
  | onward ho =>
      obtain ⟨L, ho, -⟩ := (own_steps (built_resume ho.reloads answer) hr
        (yields_resume (mute_hush _) ho _ _ _)).next hp
      exact .onward ho

/-- Every course of a submission has its notes, which show what is recorded along it. -/
theorem Course.account (h : Course frame answer s log r) (hf : Submits b frame) :
    ∃ notes, Account frame answer s notes r ∧ Note.events notes = log := by
  induction h with
  | ends n hr =>
      obtain ⟨notes, hnotes⟩ := noted_of_built hf.built hr
      exact ⟨notes, .ends n hr hnotes, hnotes.own.symm⟩
  | stops n hr hp =>
      obtain ⟨notes, hnotes⟩ := noted_of_built hf.built hr
      exact ⟨notes, .stops n hr hnotes hp, hnotes.own.symm⟩
  | waits n hr hp _ ih =>
      obtain ⟨notes, hnotes⟩ := noted_of_built hf.built hr
      obtain ⟨more, hmore, rfl⟩ := ih (hf.next hr hp)
      refine ⟨_, .waits n hr hnotes hp hmore, ?_⟩
      rw [Note.events_append, hnotes.own]
      rfl

/-- A course begins with a stretch. -/
theorem Account.first (h : Account frame answer s notes r) : ∃ n x t own rest,
    (resume frame answer).settle n s = some (x, t) ∧ Notes n (resume frame answer) s own x t ∧
    Later x rest r ∧ notes = own ++ rest := by
  cases h with
  | ends n hr hnotes => exact ⟨n, _, _, _, _, hr, hnotes, .ends rfl, (List.append_nil _).symm⟩
  | stops n hr hnotes hp => exact ⟨n, _, _, _, _, hr, hnotes, .stops hp, (List.append_nil _).symm⟩
  | waits n hr hnotes hp hmore => exact ⟨n, _, _, _, _, hr, hnotes, .waits hp hmore, rfl⟩

/-- Where it is known what a stretch tells, a course begins with that. -/
theorem Account.told {G : List Note → Except Fault Progress → Prop}
    (h : Account frame answer s notes r)
    (hg : ∀ n x t, (resume frame answer).settle n s = some (x, t) →
      ∃ own, Notes n (resume frame answer) s own x t ∧ G own x) :
    ∃ x own rest, G own x ∧ Later x rest r ∧ notes = own ++ rest := by
  obtain ⟨n, x, t, own, rest, hr, hnotes, hlater, rfl⟩ := h.first
  obtain ⟨own', hown', hgoal⟩ := hg n x t hr
  obtain rfl := hnotes.unique hown'
  exact ⟨x, own, rest, hgoal, hlater, rfl⟩

end

section
variable {b : BoundForm} {data : Fields} {frame : Frame} {answer : Bool} {s : Session}
  {notes own rest : List Note} {r : Option Result} {x : Except Fault Progress}

/-- From where the answer to a request is awaited. -/
theorem Account.closes (h : Account frame answer s notes r) (hf : b.Awaits frame) :
    b.Closes (r.bind Except.toOption) notes := by
  have hstretch {frame : Frame} {answer : Bool} {s t : Session} {notes : List Note}
      {x : Except Fault Progress} {n : Nat} (hf : b.Awaits frame)
      (hr : (resume frame answer).settle n s = some (x, t))
      (hnotes : Notes n (resume frame answer) s notes x t) : b.Concludes notes x := by
    obtain ⟨method, options, reply, rfl⟩ := hf
    obtain ⟨own, hown, hlast⟩ := completes_reply method options reply s x t hr
    rw [hnotes.unique hown]
    cases x <;> exact hlast
  induction h with
  | ends n hr hnotes => exact (hstretch hf hr hnotes).ended
  | stops n hr hnotes hp => exact .of_aside ((hstretch hf hr hnotes).waiting hp)
  | waits n hr hnotes hp _ ih =>
      have hconcludes := hstretch hf hr hnotes
      exact ((ih (hconcludes.next _ _ rfl hp)).behind .resumed).behind (hconcludes.waiting hp)

/-- What comes behind a stretch that concludes. -/
theorem BoundForm.Concludes.later (h : b.Concludes own x) (hlater : Later x rest r) :
    b.Closes (r.bind Except.toOption) (own ++ rest) := by
  cases hlater with
  | ends hx =>
      subst hx
      exact (List.append_nil own).symm ▸ h.ended
  | stops hp => exact (List.append_nil own).symm ▸ .of_aside (h.waiting hp)
  | waits hp hmore =>
      exact ((hmore.closes (h.next _ _ rfl hp)).behind .resumed).behind (h.waiting hp)

end

/-- What a hook says: yes or no, or it leaves this to whoever answers. -/
inductive Verdict where
  | ruled (accepted : Bool)
  | awaits (ticket : Ticket)

/-- What comes of asking for a confirmation in `s`. One that cannot be asked for counts as no. -/
inductive Confirms (modal : String) (previous next : Json) (s : Session) : Verdict → Prop
  | fails {t : Session} {why : Fault} (n : Nat) :
      (askConfirm modal previous next).settle n s = some (.error why, t) →
      Confirms modal previous next s (.ruled false)
  | answered {t : Session} {ticket : Ticket} {answer : Ticket × Bool} (n : Nat) :
      (askConfirm modal previous next).settle n s = some (.ok ticket, t) →
      t.answers.find? (·.1 = ticket) = some answer →
      Confirms modal previous next s (.ruled answer.2)
  | awaits {t : Session} {ticket : Ticket} (n : Nat) :
      (askConfirm modal previous next).settle n s = some (.ok ticket, t) →
      t.answers.find? (·.1 = ticket) = none → Confirms modal previous next s (.awaits ticket)

/-- What a hook called in `s` says of `data`. Its commands are run to their end; then it answers, or
asks for a confirmation of the change from what the state holds now to the data. -/
inductive Consults (data : Fields) (hook : Inject Command) (s : Session) : Verdict → Prop
  | answers {accepted : Bool} {t : Session} {x : Except Fault Unit} (n : Nat) :
      (runAll hook.actions).settle n s = some (x, t) → hook.decision = .answer accepted →
      Consults data hook s (.ruled accepted)
  | confirms {modal key field : String} {t : Session} {x : Except Fault Unit} {verdict : Verdict}
      (n : Nat) :
      (runAll hook.actions).settle n s = some (x, t) → hook.decision = .confirm modal key field →
      Confirms modal ((Table.find? t.values key).getD .null)
        ((Table.find? data field).getD .null) t verdict →
      Consults data hook s verdict

namespace BoundForm

/-- What is noted behind what a hook says: the submission is ruled by it, or by the answer that it
is resumed with, and goes on from there. -/
inductive Ruled (b : BoundForm) : Verdict → List Note → Option Result → Prop
  | told {accepted : Bool} {l : List Note} {r : Option Result} :
      b.Closes (r.bind Except.toOption) l →
      Ruled b (.ruled accepted) (.event (.ruled accepted)::l) r
  | unanswered {ticket : Ticket} : Ruled b (.awaits ticket) [] none
  | answered {ticket : Ticket} {accepted : Bool} {u : Session} {l : List Note}
      {r : Option Result} : b.Closes (r.bind Except.toOption) l →
      Ruled b (.awaits ticket) (.resumed u accepted::.event (.ruled accepted)::l) r

/-- The notes of a submission from where its hook is called in `s`. -/
def Consulted (b : BoundForm) (data : Fields) (hook : Inject Command) (s : Session)
    (notes : List Note) (r : Option Result) : Prop :=
  ∃ verdict q l, Consults data hook s verdict ∧ Aside q ∧ b.Ruled verdict l r ∧
    notes = .called hook.actions (s.retrace [])::(q ++ l)

/-- The notes of a submission of valid data with a hook, which takes its time or is called at
once. -/
inductive Hooked (b : BoundForm) (data : Fields) (hook : Inject Command) (s : Session) :
    List Note → Option Result → Prop
  | atOnce {t : Session} {notes : List Note} {r : Option Result} (n : Nat) : hook.delay = 0 →
      (do clearMarks b; emit (.injected data) : Act Unit).settle n s = some (.ok (), t) →
      b.Consulted data hook t notes r → Hooked b data hook s (.event (.injected data)::notes) r
  | delayed : hook.delay ≠ 0 → Hooked b data hook s [.event (.injected data)] none
  | later {u : Session} {answer : Bool} {notes : List Note} {r : Option Result} :
      hook.delay ≠ 0 → b.Consulted data hook u notes r →
      Hooked b data hook s (.event (.injected data)::.resumed u answer::notes) r

/-- The end of a stretch in which a hook was called. -/
inductive Rules (b : BoundForm) (data : Fields) :
    Verdict → List Note → Except Fault Progress → Prop
  | told {accepted : Bool} {l : List Note} {x : Except Fault Progress} :
      b.Concludes l x → Rules b data (.ruled accepted) (.event (.ruled accepted)::l) x
  | awaits {ticket : Ticket} :
      Rules b data (.awaits ticket) [] (.ok (.await ticket (.deciding b data)))

end BoundForm

section
variable {b : BoundForm} {data : Fields} {hook : Inject Command} {answer accepted : Bool}
  {s t : Session} {notes l rest : List Note} {r : Option Result} {x : Except Fault Progress}
  {n : Nat} {verdict : Verdict}

/-- Where an answer was awaited, the submission is ruled by it. -/
theorem Account.ruled (h : Account (.deciding b data) answer s notes r) :
    ∃ l, notes = .event (.ruled answer)::l ∧ b.Closes (r.bind Except.toOption) l := by
  obtain ⟨x, own, rest, ⟨more, rfl, hmore⟩, hlater, rfl⟩ :=
    h.told fun n => tells_decided data answer s
  exact ⟨more ++ rest, rfl, hmore.later hlater⟩

theorem BoundForm.Rules.later (h : b.Rules data verdict l x) (hlater : Later x rest r) :
    b.Ruled verdict (l ++ rest) r := by
  cases h with
  | told hl => exact .told (hl.later hlater)
  | awaits =>
      obtain ⟨rfl, rfl⟩ | ⟨_, _, _, rfl, hmore⟩ := hlater.waiting rfl
      · exact .unanswered
      · obtain ⟨l, rfl, hl⟩ := hmore.ruled
        exact .answered hl

/-- What comes behind the stretch in which the hook was called. -/
theorem BoundForm.Rules.consulted {q : List Note} (h : b.Rules data verdict l x)
    (hlater : Later x rest r) (hconsults : Consults data hook s verdict) (hq : Aside q) :
    b.Consulted data hook s (.called hook.actions (s.retrace [])::(q ++ l) ++ rest) r :=
  ⟨verdict, q, l ++ rest, hconsults, hq, h.later hlater, congrArg (_::·) (List.append_assoc ..)⟩

theorem notes_ruled (h : (decided b data accepted).settle n s = some (x, t)) :
    ∃ l, Notes n (decided b data accepted) s l x t ∧ b.Rules data (.ruled accepted) l x := by
  obtain ⟨own, hown, more, rfl, hmore⟩ := tells_decided data accepted s x t h
  exact ⟨_, hown, .told hmore⟩

/-- The question of a hook, with what is done about its answer. -/
def BoundForm.question (b : BoundForm) (data : Fields) (modal : String) (previous next : Json) :
    Act Progress := do
  match ← outcome (askConfirm modal previous next) with
  | .ok ticket => awaitAnswer ticket (.deciding b data) (decided b data)
  | .error _ => decided b data false

/-- What is done behind the commands of a hook. -/
def BoundForm.saying (b : BoundForm) (data : Fields) (hook : Inject Command) : Act Progress :=
  match hook.decision with
  | .answer accepted => decided b data accepted
  | .confirm modal key field => do
      let values ← gets Session.values
      b.question data modal ((Table.find? values key).getD .null)
        ((Table.find? data field).getD .null)

theorem inject_eq : inject b data hook = (do
    attempt (react (.hook hook.actions))
    b.saying data hook) := by
  unfold inject BoundForm.saying
  cases hook.decision <;> rfl

/-- An answer that is already there rules at once. -/
theorem notes_awaitAnswer {ticket : Ticket}
    (h : (awaitAnswer ticket (.deciding b data) (decided b data)).settle n s = some (x, t)) :
    ∃ l, Notes n (awaitAnswer ticket (.deciding b data) (decided b data)) s l x t ∧
      b.Rules data (match s.answers.find? (·.1 = ticket) with
        | some answer => .ruled answer.2
        | none => .awaits ticket) l x := by
  unfold awaitAnswer at h ⊢
  rw [Act.settle, run_bind_ok (run_gets _)] at h
  cases hfind : s.answers.find? (·.1 = ticket) with
  | none =>
      rw [hfind] at h
      cases h
      refine ⟨[], .looked (fun _ _ => rfl) ?_, .awaits⟩
      rw [hfind]
      exact .pure _
  | some answer =>
      rw [hfind] at h
      obtain ⟨l, hl, hrules⟩ := notes_ruled h
      refine ⟨l, .looked (fun _ _ => rfl) ?_, hrules⟩
      rw [hfind]
      exact .changed (.apart fun _ _ => rfl) hl

theorem notes_question {modal : String} {previous next : Json}
    (h : (b.question data modal previous next).settle n s = some (x, t)) :
    ∃ verdict q l, Confirms modal previous next s verdict ∧ Aside q ∧ b.Rules data verdict l x ∧
      Notes n (b.question data modal previous next) s (q ++ l) x t := by
  have hquestion : Built (·.concludes = false) (askConfirm modal previous next) :=
    built_askConfirm _ _ _
  obtain ⟨z, u, hz, hrest⟩ := (Faultless.outcome _).goes_on h
  obtain ⟨_, hasks, hok⟩ := outcome_cases hz
  obtain rfl := Except.ok.inj hok
  obtain ⟨q, hq, hasked⟩ := Hookless.notes inferInstance hquestion hasks
  cases z with
  | error why =>
      obtain ⟨l, hl, hrules⟩ := notes_ruled hrest
      exact ⟨_, _, l, .fails n hasks, .of_events hq, hrules, hasked.outcome.bind hl⟩
  | ok ticket =>
      obtain ⟨l, hl, hrules⟩ := notes_awaitAnswer hrest
      refine ⟨_, _, l, ?_, .of_events hq, hrules, hasked.outcome.bind hl⟩
      split
      · exact .answered n hasks ‹_›
      · exact .awaits n hasks ‹_›

/-- What is done behind the commands is what the hook says. -/
theorem notes_saying {m : Nat} {y : Except Fault Unit} {u : Session}
    (hrun : (runAll hook.actions).settle m s = some (y, u))
    (h : (b.saying data hook).settle n u = some (x, t)) :
    ∃ verdict q l, Consults data hook s verdict ∧ Aside q ∧ b.Rules data verdict l x ∧
      Notes n (b.saying data hook) u (q ++ l) x t := by
  unfold BoundForm.saying at h ⊢
  cases hdecision : hook.decision with
  | answer accepted =>
      rw [hdecision] at h
      obtain ⟨l, hl, hrules⟩ := notes_ruled h
      exact ⟨_, [], l, .answers m hrun hdecision, .nil, hrules, hl⟩
  | confirm modal key field =>
      rw [hdecision] at h
      dsimp only [Act.settle] at h
      rw [run_bind_ok (run_gets _)] at h
      obtain ⟨verdict, q, l, hconfirms, hq, hrules, hl⟩ := notes_question h
      exact ⟨verdict, q, l, .confirms m hrun hdecision hconfirms, hq, hrules,
        .looked (fun _ _ => rfl) hl⟩

/-- The stretch in which the hook is called. -/
theorem notes_inject (h : (inject b data hook).settle n s = some (x, t)) :
    ∃ verdict q l, Consults data hook s verdict ∧ Aside q ∧ b.Rules data verdict l x ∧
      Notes n (inject b data hook) s (.called hook.actions (s.retrace [])::(q ++ l)) x t := by
  rw [inject_eq] at h ⊢
  obtain ⟨_, u, hu, hrest⟩ := (Faultless.attempt _).goes_on h
  obtain ⟨y, hy, -⟩ := attempt_cases hu
  obtain ⟨m, hm⟩ := settle_hook hy
  obtain ⟨verdict, q, l, hconsults, hq, hrules, hl⟩ := notes_saying hm hrest
  exact ⟨verdict, q, l, hconsults, hq, hrules, (Notes.hook hy).attempt.bind hl⟩

theorem Account.consulted (h : Account (.injecting b data hook) answer s notes r) :
    b.Consulted data hook s notes r := by
  obtain ⟨n, x, t, own, rest, hr, hown, hlater, rfl⟩ := h.first
  obtain ⟨verdict, q, l, hconsults, hq, hrules, hnotes⟩ := notes_inject hr
  obtain rfl := hown.unique hnotes
  exact hrules.consulted hlater hconsults hq

/-- A course of a submission begins with the judgement of the data that the form holds. -/
theorem Account.judged (h : Account (.submit b) answer s notes r) : ∃ n x t rest,
    (judged b (b.form.data s) (b.invalid s)).settle n s = some (x, t) ∧ Later x rest r ∧
    ∀ l, Notes n (judged b (b.form.data s) (b.invalid s)) s l x t → notes = l ++ rest := by
  obtain ⟨n, x, t, own, rest, hr, hown, hlater, rfl⟩ := h.first
  change (submit b).settle n s = _ at hr
  rw [submit, Act.settle, run_bind_ok (run_gets _), separators, run_bind_ok (run_gets _)] at hr
  refine ⟨n, x, t, rest, hr, hlater, fun l hl => ?_⟩
  rw [hown.unique (.looked (fun _ _ => rfl) (.looked (fun _ _ => rfl) hl))]

theorem judged_refused {bad : List String} (h : bad ≠ []) : judged b data bad = (do
    rejectFields b bad
    return .done (.submitted (.invalid bad))) := by
  simp [judged, h]

theorem judged_none (h : b.options.inject = none) : judged b data [] = (do
    clearMarks b
    sendForm b data) := by
  simp [judged, h]

theorem judged_some (h : b.options.inject = some hook) : judged b data [] = (do
    (do clearMarks b; emit (.injected data) : Act Unit)
    after hook.delay (.injecting b data hook) (inject b data hook)) := by
  simp [judged, h]

/-- The marks are cleared, and nothing but the call of the hook is told. -/
theorem notes_clearing
    (h : (do clearMarks b; emit (.injected data) : Act Unit).settle n s = some (.ok (), t)) :
    Notes n (do clearMarks b; emit (.injected data) : Act Unit) s
      [.event (.injected data)] (.ok ()) t := by
  obtain ⟨_, u, hu, hrest⟩ := faultless_clearMarks.goes_on h
  obtain ⟨notes, hcleared, rfl⟩ := Tells.silent (built_clearMarks b) s _ u hu
  cases hrest
  exact hcleared.bind (.emit _)

/-- A submission that is refused calls no hook, and does not wait. -/
theorem tells_refused {bad : List String} (h : bad ≠ []) :
    Tells n (judged b data bad) fun own x => Aside own ∧ ∀ p, x = .ok p → p.next? = none := by
  rw [judged_refused h]
  refine (Tells.of_hookless (P := (·.concludes = false)) (built_rejectFields b _)).bind
    (fun own _ hown => Tells.pure ?_) fun own e hown => ?_
  · obtain ⟨l, hl, rfl⟩ := hown
    rw [List.append_nil]
    refine ⟨.of_events hl, fun p hp => ?_⟩
    cases hp
    rfl
  · obtain ⟨l, hl, rfl⟩ := hown
    exact ⟨.of_events hl, fun p hp => nomatch hp⟩

theorem Account.refused (h : Account (.submit b) answer s notes r) (hb : b.invalid s ≠ []) :
    Aside notes := by
  obtain ⟨n, x, t, rest, hr, hlater, hnotes⟩ := h.judged
  obtain ⟨l, hl, haside, hends⟩ := tells_refused hb s x t hr
  obtain rfl := hnotes l hl
  cases hlater with
  | ends => exact (List.append_nil l).symm ▸ haside
  | stops hp => exact absurd (hends _ rfl) (by simp [hp])
  | waits hp => exact absurd (hends _ rfl) (by simp [hp])

theorem Account.hooked (h : Account (.submit b) answer s notes r) (hb : b.invalid s = [])
    (hi : b.options.inject = some hook) : b.Hooked (b.form.data s) hook s notes r := by
  obtain ⟨n, x, t, rest, hr, hlater, hnotes⟩ := h.judged
  rw [hb, judged_some hi] at hr hnotes
  have hclearing : Faultless (cascade n)
      (do clearMarks b; emit (.injected (b.form.data s)) : Act Unit) :=
    .bind faultless_clearMarks fun _ => .of_run fun _ => run_emit _
  obtain ⟨_, u, hu, hrest⟩ := hclearing.goes_on hr
  have hcleared := notes_clearing hu
  unfold after at hrest hnotes
  by_cases hdelay : hook.delay = 0
  · rw [if_pos hdelay] at hrest hnotes
    obtain ⟨verdict, q, l, hconsults, hq, hrules, hl⟩ := notes_inject hrest
    obtain rfl := hnotes _ (hcleared.bind hl)
    exact .atOnce n hdelay hu (hrules.consulted hlater hconsults hq)
  · rw [if_neg hdelay] at hrest hnotes
    cases hrest
    obtain rfl := hnotes _ (hcleared.bind (.pure _))
    obtain ⟨rfl, rfl⟩ | ⟨_, _, _, rfl, hmore⟩ := hlater.waiting rfl
    · exact .delayed hdelay
    · exact .later hdelay hmore.consulted

theorem Account.unasked (h : Account (.submit b) answer s notes r) (hb : b.invalid s = [])
    (hi : b.options.inject = none) : b.Closes (r.bind Except.toOption) notes := by
  obtain ⟨n, x, t, rest, hr, hlater, hnotes⟩ := h.judged
  rw [hb, judged_none hi] at hr hnotes
  have hconcludes : Completes n b id (do clearMarks b; sendForm b (b.form.data s)) :=
    .behind (built_clearMarks b) fun _ => completes_sendForm _
  obtain ⟨l, hl, hlast⟩ := hconcludes s x t hr
  obtain rfl := hnotes l hl
  rw [Except.map_id] at hlast
  exact BoundForm.Concludes.later hlast hlater

end
end ScreenBinding
