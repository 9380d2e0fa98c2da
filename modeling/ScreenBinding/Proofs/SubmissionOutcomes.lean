import ScreenBinding.Proofs.SubmissionOrder

/-!
# The outcome of a submission

What a submission does last depends on its answer alone: behind a success the modals are closed and
the hook for a success is called, behind a failure the hook for a failure. The call is the last
thing noted, and besides it only the hook before the submission is called. So the hook that goes
with the outcome is called once, behind every write, and its commands are run; it is not called if a
fault comes in between.
-/
namespace ScreenBinding
open Act

/-- Whether a submission with this outcome calls a hook at its end. -/
def SubmitOutcome.concludes : SubmitOutcome → Bool
  | .submitted _ | .native _ | .failed _ => true
  | _ => false

/-- What the steps of a submission of `data` tell of its outcome. -/
def SubmitOutcome.Evident (data : Fields) (l : List Event) : SubmitOutcome → Prop
  | .submitted v => ∀ a, .answered a ∈ l ↔ a = .ok v
  | .native d => d = data
  | .failed _ => ∀ key v source, .stored key v source ∉ l
  | _ => True

section
variable {b : BoundForm} {data : Fields} {bad : List String} {l : List Event} {r : Option Result}
  {o : SubmitOutcome}

theorem EndsIn.outcome {o' : SubmitOutcome} {x : Result} (h : EndsIn o' x)
    (hx : some x = some (.ok (.submitted o))) : o = o' := by
  cases hx
  cases h _ rfl
  rfl

/-- Steps that are neither answers nor writes tell nothing. -/
theorem SubmitOutcome.Evident.behind {e : Event} (h : o.Evident data l)
    (ha : ∀ a, e ≠ .answered a) (hw : e.write? = none) : o.Evident data (e::l) := by
  cases o with
  | submitted v =>
      refine fun a => ⟨fun hm => ?_, fun hv => List.mem_cons_of_mem e ((h a).mpr hv)⟩
      exact (h a).mp (List.mem_of_ne_of_mem (ha a).symm hm)
  | native d => exact h
  | failed why =>
      intro key v source hm
      rcases List.mem_cons.mp hm with rfl | hm
      · cases hw
      · exact h key v source hm
  | _ => trivial

theorem Replied.evident (h : Replied b l r) (hr : r = some (.ok (.submitted o))) :
    o.Evident data l := by
  cases h with
  | waiting => cases hr
  | denied why o' hx =>
      obtain rfl := hx.outcome hr
      simp [SubmitOutcome.Evident]
  | @granted v l x hw hx =>
      obtain rfl := hx.outcome hr
      intro a
      have hnone : .answered a ∉ l := fun hm => by
        obtain ⟨_, _, he⟩ := hw _ hm
        cases he
      simp [hnone]

theorem Delivered.evident (h : Delivered b data l r) (hr : r = some (.ok (.submitted o))) :
    o.Evident data l := by
  cases h with
  | native _ _ hx =>
      obtain rfl := hx.outcome hr
      rfl
  | unsent o' _ hx =>
      obtain rfl := hx.outcome hr
      exact nofun
  | sent scripted verb url _ hl => exact (hl.evident hr).behind nofun rfl

theorem Asked.evident (h : Asked b data l r) (hr : r = some (.ok (.submitted o))) :
    o.Evident data l := by
  cases h with
  | waiting => cases hr
  | refused _ hx =>
      obtain rfl := hx.outcome hr
      trivial
  | allowed hl => exact (hl.evident hr).behind nofun rfl

theorem Conducted.evident (h : Conducted b data bad l r) (hr : r = some (.ok (.submitted o))) :
    o.Evident data l := by
  cases h with
  | invalid _ hx =>
      obtain rfl := hx.outcome hr
      trivial
  | asked _ _ hl => exact (hl.evident hr).behind nofun rfl
  | unasked _ _ hl => exact hl.evident hr

/-- Answers and writes are steps, so the whole record tells the same. -/
theorem SubmitOutcome.Evident.of_filter {log : List Event}
    (h : o.Evident data (log.filter Event.isStep)) : o.Evident data log := by
  cases o with
  | submitted v => exact fun a => by simpa [Event.isStep] using h a
  | native d => exact h
  | failed why => exact fun key v source => by simpa [Event.isStep] using h key v source
  | _ => trivial

end

/-- No hook is called here but the one before the submission, and none is told of that is called at
its end. -/
structure BoundForm.Leads (b : BoundForm) (notes : List Note) : Prop where
  unconcluded : Unconcluded (Note.events notes)
  asked : Note.calls notes <+: b.options.inject.toList.map (·.actions)

section
variable {b : BoundForm} {data : Fields} {hook : Inject Command} {answer : Bool} {s : Session}
  {notes k p : List Note} {log : List Event} {r : Option Result} {verdict : Verdict}

theorem Aside.leads (h : Aside notes) : b.Leads notes where
  unconcluded := h.unconcluded
  asked := h.uncalled ▸ List.nil_prefix

/-- The call of the hook before the submission, among what is aside. -/
theorem BoundForm.Leads.asking {u : Session} (hi : b.options.inject = some hook) (hp : Aside p)
    (hk : Aside k) : b.Leads (p ++ .called hook.actions u::k) where
  unconcluded := by
    rw [Note.events_append]
    exact hp.unconcluded.append hk.unconcluded
  asked := by
    have hcalls : Note.calls (.called hook.actions u::k) = hook.actions::Note.calls k := rfl
    rw [Note.calls_append, hcalls, hp.uncalled, hk.uncalled, hi]
    exact List.prefix_rfl

theorem BoundForm.Ruled.closes (h : b.Ruled verdict notes r) :
    b.Closes (r.bind Except.toOption) notes := by
  have hruled (accepted : Bool) : Aside [.event (.ruled accepted)] :=
    .of_events (l := [.ruled accepted]) (by simp [Unconcluded, Event.concludes])
  cases h with
  | told hl => exact hl.behind (hruled _)
  | unanswered => exact .of_aside .nil
  | answered hl => exact (hl.behind (hruled _)).behind .resumed

theorem BoundForm.Consulted.closes (h : b.Consulted data hook s notes r) : ∃ u l,
    notes = .called hook.actions u::l ∧ b.Closes (r.bind Except.toOption) l := by
  obtain ⟨verdict, q, l, -, hq, hruled, rfl⟩ := h
  exact ⟨_, _, rfl, hruled.closes.behind hq⟩

theorem BoundForm.Hooked.concluded (h : b.Hooked data hook s notes r)
    (hi : b.options.inject = some hook) :
    ∃ k l, b.Leads k ∧ b.Completed (r.bind Except.toOption) l ∧ notes = k ++ l := by
  have htold : Aside [.event (.injected data)] :=
    .of_events (l := [.injected data]) (by simp [Unconcluded, Event.concludes])
  cases h with
  | atOnce n hdelay hcleared hasked =>
      obtain ⟨u, _, rfl, k, l, hk, hl, rfl⟩ := hasked.closes
      exact ⟨_, l, .asking hi htold hk, hl, rfl⟩
  | delayed hdelay => exact ⟨_, [], htold.leads, rfl, rfl⟩
  | later hdelay hasked =>
      obtain ⟨u, _, rfl, k, l, hk, hl, rfl⟩ := hasked.closes
      exact ⟨_, l, .asking hi (htold.append .resumed) hk, hl, rfl⟩

theorem BoundForm.Closes.concluded {a : Option Answer} (h : b.Closes a notes) :
    ∃ k l, b.Leads k ∧ b.Completed a l ∧ notes = k ++ l := by
  obtain ⟨k, l, hk, hl, rfl⟩ := h
  exact ⟨k, l, hk.leads, hl, rfl⟩

/-- Along each course a submission does last what goes with its answer. -/
theorem Course.concluded (h : Course (.submit b) answer s log r)
    (hnotes : Account (.submit b) answer s notes r) :
    ∃ k l, b.Leads k ∧ b.Completed (r.bind Except.toOption) l ∧ notes = k ++ l := by
  by_cases hb : b.invalid s = []
  · cases hi : b.options.inject with
    | none => exact (hnotes.unasked hb hi).concluded
    | some hook => exact (hnotes.hooked hb hi).concluded hi
  · obtain ⟨⟨x, rfl, hx⟩, -⟩ := h.invalid hb
    refine ⟨notes, [], (hnotes.refused hb).leads, ?_, (List.append_nil _).symm⟩
    cases x with
    | error f => rfl
    | ok a =>
        obtain rfl := hx a rfl
        rfl

/-- Along each course, whatever happens while a submission waits. If it ends as submitted, or as
native, the hook for a success is called once, with the only answer that was heard or with the data
of the form; this is behind all its writes and, where asked for, behind the closing of the modals.
If it ends as failed, the hook for a failure is called once and nothing was written. If it ends in
any other way, in a fault, or not at all, neither is called. -/
theorem hook_called_once (h : Course (.submit b) answer s log r) :
    ∃ notes, Account (.submit b) answer s notes r ∧ Note.events notes = log ∧
    (∀ v, r = some (.ok (.submitted (.submitted v))) →
      (∀ a, .answered a ∈ log ↔ a = .ok v) ∧ ∃ k l, b.Leads k ∧
        Calling (.succeeded v) b.options.onSuccess l ∧ notes = k ++ (b.closing ++ l)) ∧
    (∀ data, r = some (.ok (.submitted (.native data))) →
      data = b.form.data s ∧ ∃ k l, b.Leads k ∧
        Calling (.succeeded (.object data)) b.options.onSuccess l ∧
        notes = k ++ (b.closing ++ l)) ∧
    (∀ why, r = some (.ok (.submitted (.failed why))) →
      (∀ key v source, .stored key v source ∉ log) ∧ ∃ k l, b.Leads k ∧
        Calling .failed b.options.onFailure l ∧ notes = k ++ l) ∧
    ((∀ o, r = some (.ok (.submitted o)) → o.concludes = false) → b.Leads notes) := by
  obtain ⟨notes, hnotes, hlog⟩ := h.account .begins
  obtain ⟨k, l, hk, hl, hlast⟩ := h.concluded hnotes
  have hevident {o : SubmitOutcome} (hr : r = some (.ok (.submitted o))) :
      o.Evident (b.form.data s) log := (h.conducted.evident hr).of_filter
  refine ⟨notes, hnotes, hlog, fun v hr => ⟨hevident hr, ?_⟩, fun data hr => ⟨hevident hr, ?_⟩,
    fun why hr => ⟨hevident hr, ?_⟩, fun hnone => ?_⟩
  · subst hr
    obtain ⟨j, hj, rfl⟩ := hl
    exact ⟨k, j, hk, hj, hlast⟩
  · subst hr
    obtain ⟨j, hj, rfl⟩ := hl
    exact ⟨k, j, hk, hj, hlast⟩
  · subst hr
    exact ⟨k, l, hk, hl, hlast⟩
  · have hempty : l = [] := by
      rcases r with _ | (f | (_ | _ | _ | (_ | _ | _ | _ | _) | _ | _))
      all_goals first | exact hl | cases hnone _ rfl
    rw [hlast, hempty, List.append_nil]
    exact hk

end

/-- The form of one field with a hook before and a hook after the submission, which closes the
modals. -/
def thankingForm : BoundForm :=
  { notingForm with options :=
    { method := some "put", modal := true, inject := some notingHook,
      onSuccess := some [.state (.set "thanks" (.bool true) none)] } }

/-- The modals are closed, and then the hook is called with the response. -/
theorem hook_called_once_submitted : ∃ notes log k l, Course (.submit thankingForm) true
      { ageSession "7" with renderer := true } log
      (some (.ok (.submitted (.submitted .null)))) ∧
    Note.events notes = log ∧ thankingForm.Leads k ∧
    Calling (.succeeded .null) (some [.state (.set "thanks" (.bool true) none)]) l ∧
    notes = k ++ .event .modalsClosed::l := by
  have h₁ : Course (.replying ⟨"put", {}, .submission thankingForm⟩ (.settled (.ok .null))) true
      { ageSession "7" with renderer := true } _ _ :=
    .ends (x := .ok (.submitted (.submitted .null))) 5 rfl
  have h₂ : Course (.injecting thankingForm [("age", .string "7")] notingHook) true
      { ageSession "7" with renderer := true } _ _ :=
    .waits 5 rfl rfl h₁
  have h : Course (.submit thankingForm) true { ageSession "7" with renderer := true } _ _ :=
    .waits 5 rfl rfl h₂
  obtain ⟨notes, -, hlog, hsubmitted, -⟩ := hook_called_once h
  obtain ⟨-, k, l, hk, hl, hlast⟩ := hsubmitted .null rfl
  exact ⟨notes, _, k, l, h, hlog, hk, hl, hlast⟩

end ScreenBinding
