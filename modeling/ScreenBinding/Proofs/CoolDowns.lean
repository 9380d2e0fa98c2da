import ScreenBinding.Proofs.Buttons
import ScreenBinding.Proofs.Wants

/-!
# Clicks on a save button

A click on a save button that is enabled starts exactly one submission, whatever else is called at
the click, and a click on one that is disabled starts none. With what is known of the button between
clicks this holds along a run: the submissions that the button starts keep their distance.
-/
namespace ScreenBinding
open Act

variable {e : ElementRef}

section
variable {s t u v : Session} {n bound : Nat} {b : BoundForm}

/-- The button is enabled only by its own cool-down. -/
theorem Queued.stays_disabled (h : Queued (· ≠ e) s t) (hs : (s.element e).disabled = true) :
    (t.element e).disabled = true := by
  induction h with
  | refl => exact hs
  | tail _ hstep ih =>
      obtain hbeside | ⟨b, -, hon, -⟩ := hstep.undisturbed
      · exact hbeside.disabled.trans ih
      · cases hon.symm.trans ih

theorem faultless_handler (n : Nat) (h : Handler) (e : ElementRef) (withheld : Command → Bool) :
    Faultless (withholding withheld n) (react (.handler h e)) := by
  cases n with
  | zero => exact fun s x t hr => nomatch hr
  | succ n => exact faultless_handle h e

/-- What the callback does that submits a form. -/
theorem submit_called {withheld : Command → Bool} {x : Except Fault Unit}
    (h : react (.handler (.submit b) e) (withholding withheld n) s = some (x, t)) :
    t = if (s.element e).disabled then s else s.press b e := by
  cases n with
  | zero => cases h
  | succ n => exact (Prod.mk.inj (Option.some.inj ((clickSubmit_eq b e _ s).symm.trans h))).2.symm

theorem Queued.stands (h : Queued (· ≠ e) s t) (hs : s.Button e bound) :
    ∃ bound, t.Button e bound := by
  obtain ⟨-, ht⟩ | ⟨-, -, -, -, -, -, -, -, ht⟩ := h.button hs
  · exact ⟨_, ht⟩
  · exact ⟨_, ht⟩

/-- Whoever is called beside it, the callback that submits the form leaves the button disabled. -/
theorem disabled_of_calls {l : List Handler} {x : Except Fault Unit} (hb : .submit b ∈ l)
    (hl : ∀ h ∈ l, h.Registered e s) (hs : s.Button e bound)
    (hr : (do for h in l do react (.handler h e)) (withholding (Command.meddles e) n) s =
      some (x, t)) : (t.element e).disabled = true := by
  have hc : OnQueue (· ≠ e) (withholding (Command.meddles e) n) := onQueue_unmeddled n
  obtain ⟨pre, post, rfl⟩ := List.append_of_mem hb
  rw [forEach_append] at hr
  obtain ⟨_, u, hu, hr⟩ := Faultless.goes_on (.forEach fun h _ => faultless_handler n h e _) hr
  have hsu : Queued (· ≠ e) s u :=
    queued_calls hc e (fun h hh => hl h (List.mem_append_left _ hh)) hu
  have hlater : ∀ h ∈ .submit b::post, h.Registered e u := fun h hh =>
    (hl h (List.mem_append_right _ hh)).mono hsu.handlers
  rw [forEach_cons] at hr
  obtain ⟨_, v, hv, hr⟩ := (faultless_handler n (.submit b) e _).goes_on hr
  have huv : Queued (· ≠ e) u v := by
    refine hc (.handler (.submit b) e) u _ v (fun h e' heq => ?_) hv
    cases heq
    exact hlater _ (List.mem_cons_self ..)
  have hoff : (v.element e).disabled = true := by
    rw [submit_called hv]
    split
    · assumption
    · obtain ⟨_, hstands⟩ := hsu.stands hs
      exact congrArg Element.disabled (u.element_modify hstands.known _)
  have hvt : Queued (· ≠ e) v t := queued_calls hc e (fun h hh =>
    (hlater h (List.mem_cons_of_mem _ hh)).mono huv.handlers) hr
  exact hvt.stays_disabled hoff

/-- Who clicks on a button that is disabled calls nobody. -/
theorem click_cases {carry : React} {r : Except Fault Unit}
    (h : click e carry u = some (r, v)) :
    (u.element e).disabled = true ∧ r = .ok () ∧ v = u ∨
      (u.element e).disabled = false ∧
        (do for h in u.handlersOf e .click do react (.handler h e)) carry u = some (r, v) := by
  have hraise : click e carry u = if (u.element e).disabled then some (.ok (), u)
      else (do for h in u.handlersOf e .click do react (.handler h e)) carry u := by
    refine (run_bind_ok (x := u.element e) rfl).trans ?_
    cases (u.element e).disabled <;> rfl
  rw [hraise] at h
  split at h
  · rename_i hoff
    cases h
    exact .inl ⟨hoff, rfl, rfl⟩
  · rename_i hon
    exact .inr ⟨by simpa using hon, h⟩

/-- A click on a button that is enabled starts exactly one submission, which nobody takes back. -/
theorem Session.Button.clicked {r : Except Fault Unit} (hu : u.Button e bound) (ht : u.Tidy)
    (hb : .submit b ∈ u.handlersOf e .click) (hon : (u.element e).disabled = false)
    (h : click e (withholding (Command.meddles e) n) u = some (r, v))
    (hv : Queued (· ≠ e) v t) : r = .ok () ∧
      (∃ k c, u.StartsOnly v e k c ∧ u.Starts t e k c ∧ (Handler.submit c).Registered e v) ∧
      (u.handlersOf e .click = [.submit b] → v = u.press b e) := by
  have hq : Queued (· ≠ e) u v :=
    Queues.queued (a := click e) (onQueue_unmeddled n) u r v h
  obtain ⟨hoff, -⟩ | ⟨-, hcalls⟩ := click_cases h
  · cases hon.symm.trans hoff
  · have hoff : (v.element e).disabled = true :=
      disabled_of_calls hb (fun _ => registered_of_mem) hu hcalls
    obtain ⟨_, hok⟩ := Faultless.forEach (fun h _ => faultless_handler n h e _) u _ _ hcalls
    refine ⟨hok, ?_, fun hall => ?_⟩
    · obtain ⟨hbeside, -⟩ | ⟨c, w, hw, hc, -, -, hwv, hbeside, hstands⟩ := hq.button hu
      · cases (hbeside.disabled.trans hon).symm.trans hoff
      · obtain ⟨hleft, -⟩ | ⟨-, -, -, -, hon', -⟩ := hv.button hstands
        · exact ⟨w.nextTask, c, hw.starts_only hbeside (hw.button hu) ht (ht.grows hq.grows),
            (hbeside.trans hleft).starts_pressed (hw.button hu).drawn hw.spares.nextTask,
            hc.mono hwv.handlers⟩
        · cases hon'.symm.trans hoff
    · rw [hall, forEach_cons, forEach_nil] at hcalls
      obtain ⟨_, w, hw, hv⟩ := (faultless_handler n (.submit b) e _).goes_on hcalls
      cases hv
      rw [submit_called hw, hon]
      rfl

end
/-- A session in order, in which a button is enabled, nobody cools it down, and a click on it
submits a form. -/
structure Session.Saves (s : Session) (e : ElementRef) (b : BoundForm) : Prop where
  tidy : s.Tidy
  drawn : ∀ i, s.Claims i → i < s.nextTask
  known : e < s.elements.length
  enabled : (s.element e).disabled = false
  cool : s.coolDowns e = []
  submits : .submit b ∈ s.handlersOf e .click

/-- A run so far: the button is not to be pressed again before a time, and its submissions are
apart. -/
structure CoolRun (e : ElementRef) (s : Session) (log : List Stretch) (bound : Nat) : Prop where
  tidy : s.Tidy
  button : s.Button e bound
  last : ∀ x ∈ log, x.Presses e → x.before.now+1500 ≤ bound
  apart : log.Pairwise fun x y =>
    x.Presses e → y.Presses e → x.before.now+1500 ≤ y.before.now
  once : ∀ x ∈ log, x.Presses e → ∃ k b, x.before.StartsOnly x.stopped e k b
  stretches : ∀ x ∈ log, x.task.frame.cools e = false →
    x.before.Tidy ∧ ∃ bound, x.before.Button e bound

section
variable {s₀ s : Session} {log : List Stretch} {x : Stretch} {bound : Nat} {b : BoundForm}

theorem CoolRun.extended (h : CoolRun e s log bound) (ht : x.after.Tidy) (hx : x.Effect e bound)
    (hb : x.task.frame.cools e = false → x.before.Tidy ∧ ∃ bound, x.before.Button e bound) :
    ∃ bound, CoolRun e x.after (log ++ [x]) bound := by
  have hlast {P : Stretch → Prop} (hlog : ∀ y ∈ log, P y) (hx : P x) : ∀ y ∈ log ++ [x], P y :=
    List.forall_mem_append.mpr ⟨hlog, List.forall_mem_singleton.mpr hx⟩
  have hapart (hlater : ∀ y ∈ log, y.Presses e → x.Presses e →
      y.before.now+1500 ≤ x.before.now) : (log ++ [x]).Pairwise fun x y =>
        x.Presses e → y.Presses e → x.before.now+1500 ≤ y.before.now :=
    List.pairwise_append.mpr ⟨h.apart, List.pairwise_singleton .., fun y hy z hz =>
      List.mem_singleton.mp hz ▸ hlater y hy⟩
  cases hx with
  | leaves hstands hno =>
      exact ⟨bound, ht, hstands, hlast h.last fun hp => (hno hp).elim,
        hapart fun _ _ _ hp => (hno hp).elim, hlast h.once fun hp => (hno hp).elim,
        hlast h.stretches hb⟩
  | @presses k b honly hbound hstands =>
      have hearlier : ∀ y ∈ log, y.Presses e → y.before.now+1500 ≤ x.before.now :=
        fun y hy hp => Nat.le_trans (h.last y hy hp) hbound
      refine ⟨x.before.now+1500, ht, hstands, hlast (fun y hy hp => ?_) fun _ => Nat.le_refl _,
        hapart fun y hy hp _ => hearlier y hy hp, hlast h.once fun _ => ⟨k, b, honly⟩,
        hlast h.stretches hb⟩
      exact Nat.le_trans (hearlier y hy hp) (Nat.le_add_right ..)

/-- Drawing a number disturbs nobody. -/
theorem Session.Undisturbed.drawn (s : Session) :
    s.Undisturbed e { s with nextTask := s.nextTask+1 } :=
  .queued (.appended [] (List.append_nil _).symm (Nat.le_succ _) rfl rfl fun _ hi => .inl hi) rfl
    fun _ hw _ => hw

/-- However tasks take turns, a button that nobody else switches cools down in time. -/
theorem Clocked.cools (h : Clocked (withholding (Command.meddles e)) s₀ s log)
    (h₀ : s₀.Saves e b)
    (hf : ∀ x ∈ log, x.task.frame.switches = some e → x.task.frame.cools e = true) :
    ∃ bound, CoolRun e s log bound := by
  induction h with
  | start =>
      refine ⟨0, h₀.tidy, ⟨h₀.known, h₀.drawn, .idle h₀.enabled (fun w hw => ?_) (Nat.zero_le _)⟩,
        List.forall_mem_nil _, .nil, List.forall_mem_nil _, List.forall_mem_nil _⟩
      simpa using List.filter_eq_nil_iff.mp h₀.cool w hw
  | @began s x log step n h hid hframe hb hx ih =>
      obtain ⟨bound, hrun⟩ := ih fun y hy => hf y (List.mem_append_left _ hy)
      have hc : x.task.frame.cools e = false := by rw [hframe]; rfl
      have hfree : x.task.frame.switches ≠ some e := fun hs =>
        nomatch hc.symm.trans (hf x (List.mem_append_right _ (.head _)) hs)
      obtain ⟨htidy, hne⟩ := hrun.tidy.begun hid
      have hstands : x.before.Button e bound :=
        hb ▸ (Session.Undisturbed.drawn s).button hrun.button
      have ht : x.before.Tidy := hb ▸ htidy
      have hothers : ∀ v ∈ x.before.queue, v.id ≠ x.task.id := hb ▸ hne
      have hlt : x.task.id < x.before.nextTask := by
        rw [hb, hid]
        exact Nat.lt_succ_self _
      exact hrun.extended (ht.ran hx.of_withholding hothers hlt) (hx.button hstands ht hc hfree)
        fun _ => ⟨ht, bound, hstands⟩
  | @woken s x log n h hw hb hx ih =>
      obtain ⟨bound, hrun⟩ := ih fun y hy => hf y (List.mem_append_left _ hy)
      obtain ⟨htidy, hne, hdrawn⟩ := hrun.tidy.released (Session.ready_releases hw)
      rw [← hb] at htidy hne hdrawn
      have hafter : x.after.Tidy := htidy.ran hx.of_withholding hne hdrawn
      cases hc : x.task.frame.cools e with
      | true =>
          exact hrun.extended hafter (hrun.button.cooled hw hb htidy hne hx hc) fun hno =>
            nomatch hc.symm.trans hno
      | false =>
          have hfree : x.task.frame.switches ≠ some e := fun hs =>
            nomatch hc.symm.trans (hf x (List.mem_append_right _ (.head _)) hs)
          have hstands : x.before.Button e bound := hb ▸ hrun.button.released hw hrun.tidy hc
          exact hrun.extended hafter (hx.button hstands htidy hc hfree) fun _ =>
            ⟨htidy, bound, hstands⟩
  | elapsed time h hle ih =>
      obtain ⟨bound, hrun⟩ := ih hf
      exact ⟨bound, hrun.tidy.rested (Session.elapse_rests _ time), hrun.button.elapsed hle,
        hrun.last, hrun.apart, hrun.once, hrun.stretches⟩

/-- A button is disabled exactly while it cools down, and it cools down once at a time. -/
theorem Session.Button.steady (h : s.Button e bound) (ht : s.Tidy) :
    (s.coolDowns e).length ≤ 1 ∧ ((s.element e).disabled = true ↔ s.coolDowns e ≠ []) := by
  have hnodup : (s.coolDowns e).Nodup := (List.Nodup.of_map _ ht.distinct).filter _
  cases h.phase with
  | idle hon hnone =>
      have hempty : s.coolDowns e = [] :=
        List.filter_eq_nil_iff.mpr fun w hw => by simp [hnone w hw]
      simp [hempty, hon]
  | @cooling w time hoff huntil hb hsole hi hc =>
      have hmem : w ∈ s.coolDowns e := List.mem_filter.mpr huntil.mem
      have hall : ∀ v ∈ s.coolDowns e, v = w := fun v hv =>
        hsole v (List.mem_filter.mp hv).1 (List.mem_filter.mp hv).2
      have hone : s.coolDowns e = [w] := by
        refine List.perm_singleton.mp ((List.perm_ext_iff_of_nodup hnodup
          (List.nodup_singleton w)).mpr fun v => ⟨fun hv => ?_, fun hv => ?_⟩)
        · exact List.mem_singleton.mpr (hall v hv)
        · exact List.mem_singleton.mp hv ▸ hmem
      simp [hone, hoff]

theorem Session.handlersOf_mono {s t : Session} (h : s.handlers ⊆ t.handlers) (e : ElementRef)
    (event : EventKind) : s.handlersOf e event ⊆ t.handlersOf e event :=
  List.map_subset _ (List.filter_subset _ h)

/-- In every run, a save button that nobody else switches is disabled exactly while a cool-down of
it is pending, and one is pending at most. The submissions that it starts are at least 1500 ms
apart. At a click, which may come at any point of a stretch, nothing happens while a cool-down is
pending; otherwise exactly one submission of its form is started. The one stretch that is left out
is that of the cool-down itself, in which nobody clicks. -/
theorem save_button_cools_down (h : Clocked (withholding (Command.meddles e)) s₀ s log)
    (h₀ : s₀.Saves e b)
    (hbegin : ∀ x ∈ log, ∀ c, x.task.frame = .begin (.now c) → c.meddles e = false)
    (hform : ∀ c, (Handler.submit c).Registered e s → c = b) :
    ((s.coolDowns e).length ≤ 1 ∧ ((s.element e).disabled = true ↔ s.coolDowns e ≠ [])) ∧
    log.Pairwise (fun x y => x.Presses e → y.Presses e → x.before.now+1500 ≤ y.before.now) ∧
    ∀ x ∈ log, (x.Presses e → ∃ k c, x.before.StartsOnly x.stopped e k c) ∧
      (x.task.frame.cools e = false → ∀ u r v,
        x.Calls (· ≠ e) (withholding (Command.meddles e)) (click e) u r v →
          r = .ok () ∧
          ((u.coolDowns e).length ≤ 1 ∧ ((u.element e).disabled = true ↔ u.coolDowns e ≠ [])) ∧
          ((∃ k c, u.Starts v e k c) ↔ u.coolDowns e = []) ∧
          (u.coolDowns e ≠ [] → v = u) ∧
          (u.coolDowns e = [] → x.Presses e ∧ (∃ k, u.StartsOnly v e k b) ∧
            (u.handlersOf e .click = [.submit b] → v = u.press b e))) := by
  have hf (x : Stretch) (hx : x ∈ log) (hs : x.task.frame.switches = some e) :
      x.task.frame.cools e = true := by
    obtain ⟨⟨id, role, frame⟩, answer, before, result, stopped⟩ := x
    cases frame with
    | begin step =>
        cases step with
        | now c =>
            have hc : c.switches = some e := hs
            simpa [Command.meddles, hc] using hbegin _ hx c rfl
        | _ => cases hs
    | cool e' => simpa [Frame.cools, Frame.switches] using hs
    | _ => cases hs
  obtain ⟨bound, hrun⟩ := h.cools h₀ hf
  have hhandlers := h.of_withholding.scheduled.interleaved.handlers.2
  refine ⟨hrun.button.steady hrun.tidy, hrun.apart, fun x hx => ⟨hrun.once x hx, ?_⟩⟩
  intro hc u r v hcall
  obtain ⟨n, hcalled⟩ := hcall.called
  obtain ⟨htidy, bound, hbefore⟩ := hrun.stretches x hx hc
  obtain ⟨bound, hu⟩ := hcall.reached.stands hbefore
  have ht : u.Tidy := htidy.grows hcall.reached.grows
  have hsteady := hu.steady ht
  have hsaves : .submit b ∈ u.handlersOf e .click :=
    Session.handlersOf_mono (List.Subset.trans (hhandlers x hx).1 hcall.reached.handlers) e _
      h₀.submits
  by_cases hpending : u.coolDowns e = []
  · have hon : (u.element e).disabled = false := by
      by_contra hoff
      exact hsteady.2.mp (by simpa using hoff) hpending
    obtain ⟨hok, ⟨k, c, honly, hstarts, hc⟩, hexact⟩ :=
      hu.clicked ht hsaves hon hcalled hcall.left
    obtain rfl : c = b :=
      hform c (hc.mono (List.Subset.trans hcall.left.handlers (hhandlers x hx).2))
    have hpresses : x.Presses e :=
      ⟨k, c, Nat.le_trans hcall.reached.grows.nextTask hstarts.since, hstarts.cooldown,
        hstarts.submission⟩
    have hstarted : ∃ k c, u.Starts v e k c := ⟨k, c, (honly k c).mpr ⟨rfl, rfl⟩⟩
    exact ⟨hok, hsteady, iff_of_true hstarted hpending, fun hne => (hne hpending).elim,
      fun _ => ⟨hpresses, ⟨k, honly⟩, hexact⟩⟩
  · obtain ⟨-, rfl, rfl⟩ | ⟨hon, -⟩ := click_cases hcalled
    · have hidle : ¬∃ k c, v.Starts v e k c := by
        rintro ⟨k, c, hk⟩
        exact (Session.Undisturbed.refl v).starts_nothing ht k c hk
      exact ⟨rfl, hsteady, iff_of_false hidle hpending, fun _ => rfl,
        fun hnone => (hpending hnone).elim⟩
    · cases hon.symm.trans (hsteady.2.mpr hpending)

end

/-- Two submissions, as early as can be. A click between them does nothing. -/
theorem save_button_cools_down_twice : ∃ s₀ s b x x' y z' z k,
    Clocked (withholding (Command.meddles 0)) s₀ s [x, x', y, z', z] ∧ s₀.Saves 0 b ∧
    y.task.frame = .begin (.now (.element (.click 0))) ∧ y.before.coolDowns 0 ≠ [] ∧
    y.stopped = y.before ∧ z.before.StartsOnly z.stopped 0 k b ∧ x.Presses 0 ∧ z.Presses 0 ∧
    x.before.now+1500 ≤ z.before.now ∧ z.before.now = 1500 ∧ (s.coolDowns 0).length ≤ 1 := by
  let b : BoundForm := default
  let s₀ : Session := { elements := [{}], handlers := [⟨0, .click, .submit b⟩] }
  let clicked (s : Session) (t : Session) : Stretch :=
    ⟨⟨s.nextTask, .script, .begin (.now (.element (.click 0)))⟩, true,
      { s with nextTask := s.nextTask+1 }, .ok (.done .nothing), t⟩
  let x := clicked s₀ ({ s₀ with nextTask := 1 }.press b 0)
  let cooldown : Stretch := ⟨⟨1, .detached, .cooldown 0⟩, true,
    { x.after with ready := x.after.ready.filter (·.1.id ≠ 1) }, .ok (.sleep 1500 (.cool 0)),
    { x.after with ready := x.after.ready.filter (·.1.id ≠ 1) }⟩
  let y := clicked cooldown.after { cooldown.after with nextTask := 4 }
  let due := y.after.elapse 1500
  let cool : Stretch := ⟨⟨1, .detached, .cool 0⟩, true,
    { due with ready := due.ready.filter (·.1.id ≠ 1) }, .ok (.done .nothing),
    { due with ready := due.ready.filter (·.1.id ≠ 1) }.switch 0 false⟩
  let z := clicked cool.after ({ cool.after with nextTask := 5 }.press b 0)
  have h₁ : Clocked (withholding (Command.meddles 0)) s₀ x.after [x] :=
    Clocked.start.began 3 rfl rfl rfl rfl
  have h₂ : Clocked (withholding (Command.meddles 0)) s₀ cooldown.after [x, cooldown] :=
    h₁.woken 3 (.head _) rfl rfl
  have h₃ : Clocked (withholding (Command.meddles 0)) s₀ y.after [x, cooldown, y] :=
    h₂.began 3 rfl rfl rfl rfl
  have h₄ : Clocked (withholding (Command.meddles 0)) s₀ cool.after [x, cooldown, y, cool] :=
    (h₃.elapsed 1500 (by decide)).woken 3 (List.mem_append_right _ (List.mem_map.mpr
      ⟨(1500, ⟨1, .detached, .cool 0⟩), List.mem_filter.mpr ⟨.head _, by decide⟩, rfl⟩)) rfl rfl
  have h₅ : Clocked (withholding (Command.meddles 0)) s₀ z.after [x, cooldown, y, cool, z] :=
    h₄.began 3 rfl rfl rfl rfl
  have hsaves : s₀.Saves 0 b := by
    refine ⟨⟨.nil, List.forall_mem_nil _⟩, fun i hi => ?_, Nat.one_pos, rfl, rfl, .head _⟩
    rcases hi with hlive | hcancelled | ⟨name, hnamed⟩
    · cases hlive
    · cases hcancelled
    · cases hnamed
  have hbegin : ∀ w ∈ [x, cooldown, y, cool, z], ∀ c, w.task.frame = .begin (.now c) →
      c.meddles 0 = false := by
    intro w hw c hc
    simp only [List.mem_cons, List.not_mem_nil, or_false] at hw
    rcases hw with rfl | rfl | rfl | rfl | rfl <;> cases hc <;> rfl
  have hform : ∀ c, (Handler.submit c).Registered 0 z.after → c = b := by
    rintro c ⟨event, hc⟩
    obtain heq := List.mem_singleton.mp hc
    cases heq
    rfl
  obtain ⟨⟨hone, -⟩, hapart, hclicks⟩ := save_button_cools_down h₅ hsaves hbegin hform
  have hcalls {s t : Session} (h : click 0 (withholding (Command.meddles 0) 3)
      { s with nextTask := s.nextTask+1 } = some (.ok (), t)) :
      (clicked s t).Calls (· ≠ 0) (withholding (Command.meddles 0)) (click 0)
        { s with nextTask := s.nextTask+1 } (.ok ()) t := ⟨.refl, ⟨3, h⟩, .refl⟩
  have hx := (hclicks x (.head _)).2 rfl _ _ _ (hcalls rfl)
  have hy := (hclicks y (.tail _ (.tail _ (.head _)))).2 rfl _ _ _ (hcalls rfl)
  have hlast : z ∈ [cooldown, y, cool, z] := .tail _ (.tail _ (.tail _ (.head _)))
  have hz := (hclicks z (.tail _ hlast)).2 rfl _ _ _ (hcalls rfl)
  have hpending : y.before.coolDowns 0 ≠ [] := hy.2.1.2.mp rfl
  have hidle : z.before.coolDowns 0 = [] := by
    by_contra hne
    cases hz.2.1.2.mpr hne
  obtain ⟨hfirst, -⟩ := hx.2.2.2.2 rfl
  obtain ⟨hagain, ⟨k, honly⟩, -⟩ := hz.2.2.2.2 hidle
  exact ⟨s₀, z.after, b, x, cooldown, y, cool, z, k, h₅, hsaves, rfl, hpending, hy.2.2.2.1 hpending,
    honly, hfirst, hagain, (List.pairwise_cons.mp hapart).1 z hlast hfirst hagain, rfl, hone⟩

end ScreenBinding
