import ScreenBinding.Proofs.OwnEvents
import ScreenBinding.Proofs.Reloads

/-!
# Acts that want a capability

The host supplies a renderer, a notifier and a transport, and an act that finds one of them missing
ends in a fault. `Wants R` bounds such ends: the capability is missing in the end, and `R` holds of
it and of what was recorded before.

Evaluators that the host has registered may end in any fault, also in this one, and what they are
called for does not tell it apart. So an act that calls one of them is left out where this can be;
the call is recorded. Without them, saving a form and loading it want nothing.
-/
namespace ScreenBinding

/-- Whether the host has not supplied something; an element is nothing it supplies. -/
def Session.lacks (s : Session) : Requirement → Bool
  | .renderer => !s.renderer
  | .notifier => !s.notifier
  | .transport => s.transport.isNone
  | .modalElement => false

/-- Whether an evaluator of the host is called. -/
def Event.isEvaluation : Event → Bool
  | .evaluated .. => true
  | _ => false

namespace Act
variable {α β : Type} {carry : React} {hosted : Bool} {R : Requirement → List Event → Prop}

/-- If the act ends for want of a capability, this is missing then and `R` holds of what the act
has recorded, unless it is one that may call evaluators of the host, and has called one. -/
def Wants (carry : React) (hosted : Bool) (a : Act α) (R : Requirement → List Event → Prop) :
    Prop :=
  ∀ s c t, a carry s = some (.error (.requirementMissing c), t) →
    ∃ l : List Event, t.trace = l.reverse ++ s.trace ∧
      ((t.lacks c = true ∧ R c l) ∨ hosted = true ∧ ∃ e ∈ l, e.isEvaluation = true)

/-- The act itself wants nothing. -/
abbrev WantsNothing (carry : React) (a : Act α) : Prop := Wants carry true a fun _ _ => False

/-- Neither listeners nor handlers fail. -/
def Lenient (carry : React) : Prop :=
  ∀ r, (∀ commands, r ≠ .script commands ∧ r ≠ .hook commands) → Faultless carry (react r)

theorem faultless_mark (good : Bool) (e : ElementRef) : Faultless carry (mark good e) := by
  refine .bind (.gets _) fun _ => ?_
  split
  · exact .of_run fun _ => run_change _
  · exact .of_run fun _ => run_change _

theorem faultless_checkField (b : BoundForm) (e : ElementRef) :
    Faultless carry (checkField b e) := by
  refine .bind (.gets _) fun x => ?_
  split
  · exact .pure true
  · exact .bind (.gets _) fun _ => .bind (.gets _) fun _ => .bind (faultless_mark _ e) fun _ =>
      .pure _

/-- The faults of what a handler does go nowhere. -/
theorem faultless_handle (x : Handler) (e : ElementRef) : Faultless carry (handle x e) := by
  cases x with
  | save directive source =>
      refine .bind (.gets _) fun depth => ?_
      split
      · exact .attempt _
      · exact .pure ()
  | watch label actions =>
      exact .bind (.gets _) fun _ => .bind (.gets _) fun _ =>
        .bind (.of_run fun _ => run_emit _) fun _ => .attempt _
  | restore b => exact .attempt _
  | submit b =>
      refine .bind (.gets _) fun x => ?_
      split
      · exact .bind (.of_run fun _ => run_change _) fun _ => .of_run fun _ => run_change _
      · exact .pure ()
  | check b => exact .bind (faultless_checkField b e) fun _ => .pure ()

theorem lenient_cascade (n : Nat) : Lenient (cascade n) := by
  intro r hr
  cases r with
  | listener l key v source => exact faultless_listener n l key v source
  | handler x e =>
      cases n with
      | zero => exact fun s x t h => nomatch h
      | succ n => exact faultless_handle x e
  | script commands => exact ((hr commands).1 rfl).elim
  | hook commands => exact ((hr commands).2 rfl).elim

theorem Lenient.hush (h : Lenient carry) : Lenient (hush carry) := by
  intro r hr s x t hx
  obtain ⟨⟨y, u⟩, hy, hp⟩ := Option.map_eq_some_iff.mp hx
  cases hp
  exact h r hr s y u hy

namespace Wants

theorem faultless {a : Act α} (h : Faultless carry a) : Wants carry hosted a R := by
  intro s c t ha
  obtain ⟨y, hy⟩ := h s _ t ha
  cases hy

theorem ofExcept {x : Except Fault α} (h : ∀ c, x ≠ .error (.requirementMissing c)) :
    Wants carry hosted (ofExcept x) R := by
  intro s c t ha
  rw [run_ofExcept] at ha
  exact (h c (Prod.mk.inj (Option.some.inj ha)).1).elim

theorem mono {Q : Requirement → List Event → Prop} {a : Act α} (h : Wants carry hosted a R)
    (hR : ∀ c l, R c l → Q c l) : Wants carry hosted a Q := by
  intro s c t ha
  obtain ⟨l, hl, ⟨hc, hr⟩ | he⟩ := h s c t ha
  · exact ⟨l, hl, .inl ⟨hc, hR c l hr⟩⟩
  · exact ⟨l, hl, .inr he⟩

/-- Behind a part that ends for want of nothing but what the whole may want. -/
theorem bind {P : Event → Prop} {a : Act α} {f : α → Act β}
    {Q : Requirement → List Event → Prop} (hm : Mute carry) (hb : Built P a)
    (ha : Wants carry hosted a R) (hf : ∀ x, Wants carry hosted (f x) Q)
    (hR : ∀ c l k, (∀ e ∈ l, P e) → Q c k → R c (l ++ k)) : Wants carry hosted (a >>= f) R := by
  intro s c t h
  obtain ⟨x, u, hu, ht⟩ | ⟨e, he, hx⟩ := bind_cases h
  · obtain ⟨l, hl, hp⟩ := built_adds hb hm hu
    obtain ⟨k, hk, hends⟩ := hf x u c t ht
    refine ⟨l ++ k, trace_append hl hk, ?_⟩
    obtain ⟨hc, hr⟩ | ⟨ho, e, hek, he⟩ := hends
    · exact .inl ⟨hc, hR c l k hp hr⟩
    · exact .inr ⟨ho, e, List.mem_append_right l hek, he⟩
  · cases hx
    exact ha s c t he

/-- Before a part that cannot fail. -/
theorem ahead {a : Act α} {f : α → Act β} (ha : Wants carry hosted a R)
    (hf : ∀ x, Faultless carry (f x)) : Wants carry hosted (a >>= f) R := by
  intro s c t h
  obtain ⟨x, u, -, ht⟩ | ⟨e, he, hx⟩ := bind_cases h
  · obtain ⟨_, hno⟩ := hf x u _ t ht
    cases hno
  · cases hx
    exact ha s c t he

/-- What an act may record bounds what it has recorded when it ends for want of something. -/
theorem built {P : Event → Prop} {a : Act α} (h : Wants carry hosted a R) (hm : Mute carry)
    (hb : Built P a) : Wants carry hosted a fun c l => R c l ∧ ∀ e ∈ l, P e := by
  intro s c t ha
  obtain ⟨l, hl, hp⟩ := built_adds hb hm ha
  obtain ⟨k, hk, ⟨hc, hr⟩ | he⟩ := h s c t ha
  · have heq : k.reverse ++ s.trace = l.reverse ++ s.trace := hk.symm.trans hl
    obtain rfl : k = l := by simpa using heq
    exact ⟨k, hk, .inl ⟨hc, hr, hp⟩⟩
  · exact ⟨k, hk, .inr he⟩

theorem ite (p : Prop) [Decidable p] {a b : Act α} (ha : Wants carry hosted a R)
    (hb : Wants carry hosted b R) : Wants carry hosted (if p then a else b) R := by
  split
  · exact ha
  · exact hb

end Wants

theorem WantsNothing.bind {a : Act α} {f : α → Act β} (hm : Mute carry) (hb : Built Anything a)
    (ha : WantsNothing carry a) (hf : ∀ x, WantsNothing carry (f x)) :
    WantsNothing carry (a >>= f) :=
  Wants.bind hm hb ha hf fun _ _ _ _ h => h

/-- Before a part that wants something, one that wants nothing and cannot fail. -/
theorem WantsNothing.after {a : Act α} {f : α → Act β} (ha : Faultless carry a)
    (hm : Mute carry) (hb : Built Anything a) (hf : ∀ x, WantsNothing carry (f x)) :
    WantsNothing carry (a >>= f) := .bind hm hb (.faultless ha) hf

theorem WantsNothing.ending {a : Act α} {f : Session → Session} (h : WantsNothing carry a)
    (hf : Unseen f) : WantsNothing carry (a.ending f) := by
  intro s c t ha
  obtain ⟨u, hu, rfl⟩ := ending_cases ha
  obtain ⟨l, hl, ⟨-, hno⟩ | he⟩ := h s c u hu
  · exact hno.elim
  · exact ⟨l, (hf.trace_eq u).trans hl, .inr he⟩

section
variable (hm : Mute carry) (hl : Lenient carry)

theorem faultless_separators : Faultless carry separators := .gets _

include hl

theorem faultless_write_of_lenient (key : String) (v : Json) (source : Option Source) :
    Faultless carry (write key v source) :=
  faultless_write fun l => hl (.listener l key v source) fun _ => ⟨nofun, nofun⟩

theorem faultless_merge (key : String) (v : Json) (source : Option Source) :
    Faultless carry (merge key v source) := by
  have hwrite (w : Json) : Faultless carry (discard (write key w source)) :=
    .bind (faultless_write_of_lenient hl key w source) fun _ => .pure ()
  refine .bind (.gets _) fun old => ?_
  split
  · exact hwrite _
  · exact .bind faultless_separators fun _ => hwrite _

theorem faultless_put (e : ElementRef) (v : Json) : Faultless carry (put e v) :=
  .bind faultless_separators fun _ => .bind (.of_run fun _ => run_change _) fun _ =>
    .bind (.gets _) fun _ => .forEach fun h _ => hl (.handler h e) fun _ => ⟨nofun, nofun⟩

omit hl in
theorem faultless_carriedOr (x : Evaluation) {other : Act Json} (h : Faultless carry other) :
    Faultless carry (carriedOr x other) := by
  unfold carriedOr
  split
  · split
    · exact .pure _
    · exact h
  · exact h

omit hl in
theorem faultless_fieldValue (x : Evaluation) : Faultless carry (fieldValue x) :=
  faultless_carriedOr x (.bind (.gets _) fun _ => .pure _)

omit hl in
theorem faultless_stateValue (x : Evaluation) (unset : Json) :
    Faultless carry (stateValue x unset) := faultless_carriedOr x (.gets _)

include hm

omit hl in
theorem wantsNothing_stateList (x : Evaluation) : WantsNothing carry (stateList x) := by
  have hlist (sep : Separators) (v : Json) (c : Requirement) :
      sep.listOf v ≠ .error (.requirementMissing c) := by
    cases v <;> exact nofun
  refine .after (faultless_stateValue x _) hm (built_stateValue x _) fun v => ?_
  split
  · exact .faultless (.pure _)
  · exact .after faultless_separators hm built_separators fun sep => .ofExcept (hlist sep _)

theorem wantsNothing_evaluate (x : Evaluation) (v : Evaluator) :
    WantsNothing carry (evaluate x v) := by
  have hput (w : Json) : Faultless carry (put x.field w) := faultless_put hl x.field w
  cases v with
  | saveAssign =>
      exact .faultless (.bind (faultless_fieldValue x) fun w =>
        .bind (faultless_write_of_lenient hl x.key w x.source) fun _ => .pure ())
  | saveMerge =>
      exact .faultless (.bind (faultless_fieldValue x) fun w => faultless_merge hl x.key w _)
  | loadAssign => exact .faultless (.bind (faultless_stateValue x _) hput)
  | loadCount =>
      exact .bind hm (built_stateList x) (wantsNothing_stateList hm x) fun items =>
        .faultless (hput _)
  | loadFirst =>
      refine .bind hm (built_stateList x) (wantsNothing_stateList hm x) fun items => ?_
      cases items with
      | nil => exact .faultless (.pure ())
      | cons a items => exact .faultless (hput _)
  | loadDefault =>
      refine .faultless (.bind (.bind faultless_separators fun _ => .bind (.gets _) fun _ =>
        .pure _) fun text => ?_)
      split
      · exact .bind (faultless_stateValue x _) hput
      · exact .pure ()
  | scripted label actions =>
      intro s c t h
      exact ⟨[_], hm _ _ _ _ h, .inr ⟨rfl, _, List.mem_singleton_self _, rfl⟩⟩

theorem wantsNothing_evaluateAll (trigger : Trigger) (x : Evaluation) (operators : List Operator) :
    WantsNothing carry (evaluateAll trigger x operators) := by
  induction operators with
  | nil => exact .faultless (.pure ())
  | cons o operators ih =>
      rw [evaluateAll_cons]
      refine .after (.gets _) hm (.gets fun _ _ => rfl) fun v => ?_
      cases v with
      | none => exact ih
      | some v =>
          exact .bind hm (built_evaluate x v fun _ _ => trivial) (wantsNothing_evaluate hm hl x v)
            fun _ => ih

theorem wantsNothing_execute (trigger : Trigger) (directive : String) (carried : Option Json)
    (field : ElementRef) (source : Option Source) :
    WantsNothing carry (execute trigger directive carried field source) := by
  have hpass := wantsNothing_evaluateAll hm hl trigger
  refine .ite _ ?_ (.faultless (.pure ()))
  cases trigger with
  | save => exact hpass _ _
  | load =>
      exact WantsNothing.after (.of_run fun _ => run_change _) hm (.change (.apart fun _ _ => rfl))
        fun _ => WantsNothing.ending (hpass _ _) (.apart fun _ _ => rfl)

omit hm hl in
/-- All directives are executed, and the first fault counts. -/
theorem executeAll_cases {trigger : Trigger} {carried : Option Json} {field : ElementRef}
    {source : Option Source} {d : String} {ds : List String} {s t : Session}
    {x : Except Fault Unit}
    (h : executeAll trigger carried field source (d::ds) carry s = some (x, t)) :
    ∃ first u rest, execute trigger d carried field source carry s = some (first, u) ∧
      executeAll trigger carried field source ds carry u = some (rest, t) ∧
      x = match first with
        | .error f => .error f
        | .ok () => rest := by
  obtain ⟨first, u, hu, h⟩ | ⟨e, he, -⟩ := bind_cases h
  · obtain ⟨_, hfirst, hok⟩ := outcome_cases hu
    cases hok
    obtain ⟨rest, v, hv, h⟩ | ⟨e, he, -⟩ := bind_cases h
    · obtain ⟨_, hrest, hok⟩ := outcome_cases hv
      cases hok
      rw [run_ofExcept] at h
      obtain ⟨hx, rfl⟩ := Prod.mk.inj (Option.some.inj h)
      exact ⟨first, u, rest, hfirst, hrest, hx.symm⟩
    · obtain ⟨_, hno⟩ := Faultless.outcome _ _ _ _ he
      cases hno
  · obtain ⟨_, hno⟩ := Faultless.outcome _ _ _ _ he
    cases hno

theorem wantsNothing_executeAll (trigger : Trigger) (carried : Option Json) (field : ElementRef)
    (source : Option Source) (directives : List String) :
    WantsNothing carry (executeAll trigger carried field source directives) := by
  induction directives with
  | nil => exact .faultless (.pure ())
  | cons d ds ih =>
      intro s c t h
      obtain ⟨first, u, rest, hfirst, hrest, hx⟩ := executeAll_cases h
      have hds : Built Anything (executeAll trigger carried field source ds) :=
        built_executeAll trigger carried field ds fun _ _ => trivial
      have hd : Built Anything (execute trigger d carried field source) :=
        built_execute trigger d carried field fun _ _ => trivial
      cases first with
      | error f =>
          cases hx
          obtain ⟨l, hl, ⟨-, hno⟩ | ⟨-, e, hel, he⟩⟩ :=
            wantsNothing_execute hm hl trigger d carried field source s c u hfirst
          · exact hno.elim
          · obtain ⟨k, hk, -⟩ := built_adds hds hm hrest
            exact ⟨l ++ k, trace_append hl hk, .inr ⟨rfl, e, List.mem_append_left k hel, he⟩⟩
      | ok _ =>
          cases hx
          obtain ⟨l, hl, -⟩ := built_adds hd hm hfirst
          obtain ⟨k, hk, ⟨-, hno⟩ | ⟨-, e, hek, he⟩⟩ := ih u c t hrest
          · exact hno.elim
          · exact ⟨l ++ k, trace_append hl hk, .inr ⟨rfl, e, List.mem_append_right l hek, he⟩⟩

omit hl in
theorem wantsNothing_eachField (f : Form) (spec : Table (List String))
    {act : List String → ElementRef → Act Unit} (hb : ∀ ds e, Built Anything (act ds e))
    (h : ∀ ds e, WantsNothing carry (act ds e)) : WantsNothing carry (eachField f spec act) := by
  induction spec with
  | nil => exact .faultless (.pure ())
  | cons entry spec ih =>
      rw [eachField_cons]
      refine .after (.gets _) hm (.gets fun _ _ => rfl) fun e => ?_
      cases e with
      | none => exact ih
      | some e => exact WantsNothing.bind hm (hb entry.2 e) (h entry.2 e) fun _ => ih

theorem wantsNothing_saveForm (f : Form) (spec : Table (List String)) :
    WantsNothing carry (saveForm f spec) :=
  wantsNothing_eachField hm f spec
    (fun ds e => .bind (built_element e) fun _ =>
      built_executeAll .save _ e ds fun _ _ => trivial)
    fun ds e => WantsNothing.after (.gets _) hm (built_element e) fun _ =>
      wantsNothing_executeAll hm hl .save _ e _ ds

theorem wantsNothing_restoreForm (b : BoundForm) : WantsNothing carry (restoreForm b) :=
  .ite _ (wantsNothing_eachField hm b.form b.state
    (fun ds e => built_executeAll .load none e ds fun _ _ => trivial)
    fun ds e => wantsNothing_executeAll hm hl .load none e none ds) (.faultless (.pure ()))

end
end Act
end ScreenBinding
