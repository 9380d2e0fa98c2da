import ScreenBinding.Proofs.Clock
import ScreenBinding.Proofs.LoadedFields
import ScreenBinding.Proofs.Waits

/-!
# Buttons that cool down

A click on a save button disables it and spawns two tasks: one submits the form, the other enables
the button 1500 ms later. The timer knows nothing of later clicks, and the click looks at the flag
only. That the two agree is an invariant: as long as nobody else switches the button, it is enabled
and no cool-down waits, or it is disabled and exactly one waits, which nobody can abort. A button
that is not to be pressed again before a time stays so in every stretch, and when time passes; only
a stretch that starts a submission moves that time 1500 ms ahead.

That nobody else switches the button is said of the callbacks, which give up at a command that
disables or enables it.
-/
namespace ScreenBinding
open Act

variable {e : ElementRef}

/-- Whether a task that waits there is to enable the button. -/
def Frame.cools (e : ElementRef) : Frame → Bool
  | .cooldown button | .cool button => button = e
  | _ => false

/-- The cool-downs of a button that are pending. -/
def Session.coolDowns (s : Session) (e : ElementRef) : List Task :=
  s.queue.filter (·.frame.cools e)

theorem Frame.cools_of_enlists {frame : Frame} (h : frame.enlists = true) :
    frame.cools e = false := by
  cases frame with
  | begin | subscribe => rfl
  | _ => cases h

/-- Whether a command disables or enables the element. -/
def Command.meddles (e : ElementRef) (c : Command) : Bool := c.switches = some e

/-- A task enables the button at this time at the earliest. -/
inductive Session.Until (s : Session) (e : ElementRef) (w : Task) : Nat → Prop
  | pressed : (w, true) ∈ s.ready → w.frame = .cooldown e → Until s e w (s.now+1500)
  | asleep {time : Nat} : (time, w) ∈ s.sleeping → w.frame = .cool e → Until s e w time
  | due : (w, true) ∈ s.ready → w.frame = .cool e → Until s e w s.now

/-- How a button stands that is not to be pressed again before a time: it is enabled and nobody
cools it down, or it is disabled and one task will enable it, which nobody can abort. -/
inductive Session.Phase (s : Session) (e : ElementRef) (bound : Nat) : Prop
  | idle : (s.element e).disabled = false → (∀ w ∈ s.queue, w.frame.cools e = false) →
      bound ≤ s.now → Phase s e bound
  | cooling {w : Task} {time : Nat} : (s.element e).disabled = true → s.Until e w time →
      bound ≤ time → (∀ v ∈ s.queue, v.frame.cools e = true → v = w) → w.id < s.nextTask →
      ¬s.Claims w.id → Phase s e bound

/-- What is known of a button. -/
structure Session.Button (s : Session) (e : ElementRef) (bound : Nat) : Prop where
  known : e < s.elements.length
  drawn : ∀ i, s.Claims i → i < s.nextTask
  phase : s.Phase e bound

/-- Since the first session the button has started a submission of the form: its cool-down waits
under this number, and the submission under the next. -/
structure Session.Starts (s t : Session) (e : ElementRef) (k : Nat) (b : BoundForm) : Prop where
  since : s.nextTask ≤ k
  cooldown : ⟨k, .detached, .cooldown e⟩ ∈ t.queue
  submission : ⟨k+1, .detached, .submit b⟩ ∈ t.queue

/-- The button starts this submission and no other. -/
def Session.StartsOnly (s t : Session) (e : ElementRef) (k : Nat) (b : BoundForm) : Prop :=
  ∀ j c, s.Starts t e j c ↔ j = k ∧ c = b

/-- Nobody presses the button, or switches it, or is kept from cooling it down. -/
structure Session.Undisturbed (s : Session) (e : ElementRef) (t : Session) : Prop where
  spares : s.Spares t
  elements : t.elements.length = s.elements.length
  disabled : (t.element e).disabled = (s.element e).disabled
  coolDowns : ∀ w ∈ t.queue, w.frame.cools e = true → w ∈ s.queue

namespace Session
variable {s t u : Session} {bound : Nat}

theorem Undisturbed.refl (s : Session) : s.Undisturbed e s :=
  ⟨.refl s, rfl, rfl, fun _ hw _ => hw⟩

theorem Undisturbed.trans (h : s.Undisturbed e t) (k : t.Undisturbed e u) : s.Undisturbed e u :=
  ⟨h.spares.trans k.spares, k.elements.trans h.elements, k.disabled.trans h.disabled,
    fun w hw hc => h.coolDowns w (k.coolDowns w hw hc) hc⟩

theorem Until.mem {w : Task} {time : Nat} (h : s.Until e w time) :
    w ∈ s.queue ∧ w.frame.cools e = true := by
  cases h with
  | pressed hw hf => exact ⟨mem_queue_of_ready hw, by simp [hf, Frame.cools]⟩
  | asleep hw hf => exact ⟨mem_queue_of_sleeping hw, by simp [hf, Frame.cools]⟩
  | due hw hf => exact ⟨mem_queue_of_ready hw, by simp [hf, Frame.cools]⟩

theorem Until.spared {w : Task} {time : Nat} (h : s.Until e w time) (k : s.Spares t)
    (hi : w.id < s.nextTask) (hc : ¬s.Claims w.id) : t.Until e w time := by
  cases h with
  | pressed hw hf => exact k.now ▸ .pressed (k.ready _ hw hi hc) hf
  | asleep hw hf => exact .asleep (k.asleep _ hw hi hc) hf
  | due hw hf => exact k.now ▸ .due (k.ready _ hw hi hc) hf

theorem Undisturbed.button (h : s.Undisturbed e t) (hs : s.Button e bound) : t.Button e bound where
  known := h.elements ▸ hs.known
  drawn := h.spares.drawn hs.drawn
  phase := by
    cases hs.phase with
    | idle hon hnone hb =>
        refine .idle (h.disabled.trans hon) (fun w hw => ?_) (h.spares.now ▸ hb)
        by_contra hc
        have hcools : w.frame.cools e = true := by simpa using hc
        exact hc (hnone w (h.coolDowns w hw hcools))
    | cooling hoff huntil hb hsole hi hc =>
        obtain ⟨hi', hc'⟩ := h.spares.unclaimed hi hc
        exact .cooling (h.disabled.trans hoff) (huntil.spared h.spares hi hc) hb
          (fun v hv hcools => hsole v (h.coolDowns v hv hcools) hcools) hi' hc'

theorem disabled_of_map (h : t.elements.map Element.disabled = s.elements.map Element.disabled)
    (e : ElementRef) : (t.element e).disabled = (s.element e).disabled := by
  have hread (u : Session) :
      (u.element e).disabled = ((u.elements.map Element.disabled)[e]?).getD false := by
    rw [element, List.getD_eq_getElem?_getD, List.getElem?_map]
    cases u.elements[e]? <;> rfl
  rw [hread, hread, h]

/-- What goes on in the queue, without a cool-down of the button. -/
theorem Undisturbed.queued (h : s.Spares t)
    (he : t.elements.map Element.disabled = s.elements.map Element.disabled)
    (hq : ∀ w ∈ t.queue, w.frame.cools e = true → w ∈ s.queue) : s.Undisturbed e t where
  spares := h
  elements := by simpa using congrArg List.length he
  disabled := disabled_of_map he e
  coolDowns := hq

/-- Another button is switched. -/
theorem switch_disabled {e' : ElementRef} (h : e' ≠ e) (s : Session) (v : Bool) :
    ((s.switch e' v).element e).disabled = (s.element e).disabled :=
  congrArg Element.disabled (s.element_modify_ne h _)

end Session

section
variable {s t u : Session} {bound : Nat}

/-- One step presses the button, or leaves it alone. -/
theorem QueueStep.undisturbed (h : QueueStep (· ≠ e) s t) : s.Undisturbed e t ∨
    ∃ b, (Handler.submit b).Registered e s ∧ (s.element e).disabled = false ∧ t = s.press b e := by
  have hspares := h.spares
  cases h with
  | aside h => exact .inl (.queued hspares h.disabled fun w hw _ => h.queue ▸ hw)
  | enlisted name role hf =>
      refine .inl (.queued hspares rfl fun w hw hc => ?_)
      rcases List.mem_cons.mp ((s.spawn_queue role _).subset hw) with rfl | hw
      · cases (Frame.cools_of_enlists hf).symm.trans hc
      · exact hw
  | @pressed b e' hb hon =>
      by_cases he : e' = e
      · exact .inr ⟨b, he ▸ hb, he ▸ hon, he ▸ rfl⟩
      · refine .inl ⟨hspares, List.length_modify .., s.switch_disabled he true, fun w hw hc => ?_⟩
        rcases List.mem_append.mp ((s.press_queue b e').subset hw) with hnew | hw
        · rcases List.mem_pair.mp hnew with rfl | rfl
          · cases hc
          · exact (he (by simpa [Frame.cools] using hc)).elim
        · exact hw
  | @followed sub _ =>
      have helements : (s.follow sub).elements = s.elements := by
        unfold Session.follow Session.dismiss
        cases s.live <;> rfl
      refine .inl (.queued hspares (congrArg _ helements) fun w hw hc => ?_)
      rcases List.mem_cons.mp ((s.follow_queue sub).subset hw) with rfl | hw
      · cases hc
      · exact hw
  | resolved k b =>
      refine .inl (.queued hspares ?_ fun w hw _ => (s.resolve_queue k b).subset hw)
      unfold Session.resolve
      split <;> rfl
  | aborted => exact .inl (.queued hspares rfl fun w hw _ => (s.abort_queue _).subset hw)
  | switched v he =>
      exact .inl ⟨hspares, List.length_modify .., s.switch_disabled he v, fun w hw _ => hw⟩

/-- A button that is pressed cools down from now on. -/
theorem Session.Button.pressed (h : s.Button e bound) (hon : (s.element e).disabled = false)
    (b : BoundForm) : (s.press b e).Button e (s.now+1500) ∧ bound ≤ s.now := by
  cases h.phase with
  | cooling hoff => cases hon.symm.trans hoff
  | idle _ hnone hb =>
      have hclaims : ∀ i, (s.press b e).Claims i → i < s.nextTask := fun i hi => h.drawn i hi
      have hready : ((⟨s.nextTask, .detached, .cooldown e⟩ : Task), true) ∈ (s.press b e).ready :=
        List.mem_append_left _ (List.mem_append_right _ (List.mem_singleton_self _))
      refine ⟨⟨?_, fun i hi => Nat.lt_add_right 2 (hclaims i hi), ?_⟩, hb⟩
      · exact (List.length_modify ..).symm ▸ h.known
      · refine .cooling ?_ (.pressed hready rfl) (Nat.le_refl _) (fun v hv hc => ?_)
          (Nat.lt_add_of_pos_right Nat.two_pos) fun hi => Nat.lt_irrefl _ (hclaims _ hi)
        · exact congrArg Element.disabled (s.element_modify h.known _)
        · rcases List.mem_append.mp ((s.press_queue b e).subset hv) with hnew | hv
          · rcases List.mem_pair.mp hnew with rfl | rfl
            · cases hc
            · rfl
          · cases (hnone v hv).symm.trans hc

/-- Any number of steps leave the button alone, or press it once. -/
theorem Queued.button (h : Queued (· ≠ e) s t) (hs : s.Button e bound) :
    s.Undisturbed e t ∧ t.Button e bound ∨
      ∃ b u, s.Undisturbed e u ∧ (Handler.submit b).Registered e u ∧
        (s.element e).disabled = false ∧ bound ≤ s.now ∧ Queued (· ≠ e) (u.press b e) t ∧
        (u.press b e).Undisturbed e t ∧ t.Button e (s.now+1500) := by
  induction h with
  | refl => exact .inl ⟨.refl s, hs⟩
  | @tail u t _ hstep ih =>
      obtain ⟨hbeside, hu⟩ | ⟨b, v, hv, hb, hon, hbound, hq, hbeside, hu⟩ := ih
      · obtain hbeside' | ⟨b, hb, hon, rfl⟩ := hstep.undisturbed
        · exact .inl ⟨hbeside.trans hbeside', hbeside'.button hu⟩
        · obtain ⟨hpressed, hbound⟩ := hu.pressed hon b
          rw [hbeside.spares.now] at hpressed hbound
          exact .inr ⟨b, u, hbeside, hb, hbeside.disabled ▸ hon, hbound, .refl, .refl _, hpressed⟩
      · obtain hbeside' | ⟨c, -, hon', -⟩ := hstep.undisturbed
        · exact .inr ⟨b, v, hv, hb, hon, hbound, hq.tail hstep, hbeside.trans hbeside',
            hbeside'.button hu⟩
        · -- it is disabled since it was pressed
          have hoff : ((v.press b e).element e).disabled = true :=
            congrArg Element.disabled (v.element_modify (hv.elements ▸ hs.known) _)
          cases (hbeside.disabled.trans hoff).symm.trans hon'

theorem Session.Undisturbed.starts_nothing (h : s.Undisturbed e t) (ht : s.Tidy) (k : Nat)
    (b : BoundForm) : ¬s.Starts t e k b := by
  intro hstarts
  have hold := h.coolDowns _ hstarts.cooldown (by simp [Frame.cools])
  exact Nat.not_lt.mpr hstarts.since (ht.drawn _ hold)

/-- Whoever was to be pressed is, and nobody takes that back. -/
theorem Session.Undisturbed.starts_pressed {b : BoundForm} (h : (u.press b e).Undisturbed e t)
    (hdrawn : ∀ i, u.Claims i → i < u.nextTask) (hle : s.nextTask ≤ u.nextTask) :
    s.Starts t e u.nextTask b := by
  have hready {p : Task × Bool} (hp : p ∈ (u.press b e).ready) (hge : u.nextTask ≤ p.1.id)
      (hlt : p.1.id < (u.press b e).nextTask) : p.1 ∈ t.queue := by
    have hkept := h.spares.ready p hp hlt fun hc => Nat.not_lt.mpr hge (hdrawn _ hc)
    exact mem_queue_of_ready hkept
  refine ⟨hle, ?_, ?_⟩
  · exact hready (p := (_, true)) (List.mem_append_left _ (List.mem_append_right _ (.head _)))
      (Nat.le_refl _) (Nat.lt_add_of_pos_right Nat.two_pos)
  · exact hready (p := (_, true)) (List.mem_append_right _ (.head _)) (Nat.le_succ _)
      (Nat.lt_succ_self _)

/-- Beside the one that was to be pressed, nobody starts a submission with the button. -/
theorem Session.Undisturbed.starts_only {b : BoundForm} (hu : s.Undisturbed e u)
    (ht : (u.press b e).Undisturbed e t) (hstands : u.Button e bound) (hs : s.Tidy)
    (htidy : t.Tidy) : s.StartsOnly t e u.nextTask b := by
  have hstarts := ht.starts_pressed hstands.drawn hu.spares.nextTask
  refine fun j c => ⟨fun hj => ?_, ?_⟩
  · have hcooldown := ht.coolDowns _ hj.cooldown (by simp [Frame.cools])
    obtain rfl : j = u.nextTask := by
      rcases List.mem_append.mp ((u.press_queue b e).subset hcooldown) with hnew | hold
      · rcases List.mem_pair.mp hnew with h | h <;> cases h
        rfl
      · have hdrawn := hs.drawn _ (hu.coolDowns _ hold (by simp [Frame.cools]))
        exact (Nat.not_lt.mpr hj.since hdrawn).elim
    have hsame := List.inj_on_of_nodup_map htidy.distinct hj.submission hstarts.submission rfl
    cases hsame
    exact ⟨rfl, rfl⟩
  · rintro ⟨rfl, rfl⟩
    exact hstarts

end
/-- During the stretch the button starts a submission. -/
def Stretch.Presses (x : Stretch) (e : ElementRef) : Prop :=
  ∃ k b, x.before.Starts x.stopped e k b

/-- What a stretch may do with a button that is not to be pressed before a time. -/
inductive Stretch.Effect (x : Stretch) (e : ElementRef) (bound : Nat) : Prop
  | leaves : x.after.Button e bound → ¬x.Presses e → Effect x e bound
  | presses {k : Nat} {b : BoundForm} : x.before.StartsOnly x.stopped e k b →
      bound ≤ x.before.now → x.after.Button e (x.before.now+1500) → Effect x e bound

/-- Callbacks that may not meddle with the button leave it to its clicks. -/
theorem onQueue_unmeddled (n : Nat) :
    OnQueue (· ≠ e) (withholding (Command.meddles e) n) := by
  refine onQueue_withholding (fun c e' hc he' => ?_) n
  rintro rfl
  simp [Command.meddles, he'] at hc

section
variable {s : Session} {x : Stretch} {n bound : Nat} {w : Task} {answer : Bool}

theorem Session.Until.released {v : Task} {time : Nat} (h : s.Until e v time) (hne : v.id ≠ w.id) :
    { s with ready := s.ready.filter (·.1.id ≠ w.id) }.Until e v time := by
  have hkept (hv : (v, true) ∈ s.ready) : (v, true) ∈ s.ready.filter (·.1.id ≠ w.id) :=
    List.mem_filter.mpr ⟨hv, by simpa using hne⟩
  cases h with
  | pressed hv hf => exact .pressed (hkept hv) hf
  | asleep hv hf => exact .asleep hv hf
  | due hv hf => exact .due (hkept hv) hf

/-- A task goes on that has nothing to do with the button. -/
theorem Session.Button.released (h : s.Button e bound) (hw : (w, answer) ∈ s.ready) (ht : s.Tidy)
    (hc : w.frame.cools e = false) :
    { s with ready := s.ready.filter (·.1.id ≠ w.id) }.Button e bound := by
  have hqueue := (ready_releases hw).queue.subset
  refine ⟨h.known, h.drawn, ?_⟩
  cases h.phase with
  | idle hon hnone hb => exact .idle hon (fun v hv => hnone v (hqueue (.tail _ hv))) hb
  | @cooling v time hoff huntil hb hsole hi hclaims =>
      refine .cooling hoff (huntil.released fun hid => ?_) hb
        (fun u hu => hsole u (hqueue (.tail _ hu))) hi hclaims
      have hsame : v = w :=
        List.inj_on_of_nodup_map ht.distinct huntil.mem.1 (hqueue (.head _)) hid
      cases (hsame ▸ huntil.mem.2).symm.trans hc

/-- Where a task is put that does not cool the button down, the button is left alone. -/
theorem Stretch.after_undisturbed (h : ∀ next, x.next? = some next → next.cools e = false) :
    x.stopped.Undisturbed e x.after := by
  refine .queued x.after_spares ?_ fun v hv hc => ?_
  · rw [Stretch.after, x.stopped.record_eq]
  · rcases List.mem_append.mp (x.after_queue.subset hv) with hv | hv
    · obtain ⟨-, next, hnext, rfl⟩ := Stretch.mem_waits.mp hv
      cases (h next hnext).symm.trans hc
    · exact hv

/-- A task that is about to cool a button down goes to sleep. -/
theorem Stretch.Runs.cooldown {carry : React} (hx : x.Runs carry) (hf : x.task.frame = .cooldown e)
    (hn : x.task.id ∉ x.before.cancelled) : x.stopped = x.before ∧
      x.after = { x.before with sleeping := x.before.sleeping ++
        [(x.before.now+1500, { x.task with frame := .cool e })] } := by
  rw [Stretch.Runs, hf] at hx
  obtain ⟨hresult, hstopped⟩ := Prod.mk.inj (Option.some.inj hx)
  refine ⟨hstopped.symm, ?_⟩
  rw [Stretch.after, ← hresult, ← hstopped]
  exact if_neg fun hcancelled => hn (List.contains_iff_mem.mp hcancelled)

/-- When it wakes, it enables the button. -/
theorem Stretch.Runs.cool {carry : React} (hx : x.Runs carry) (hf : x.task.frame = .cool e) :
    x.stopped = x.before.switch e false ∧ x.next? = none := by
  rw [Stretch.Runs, hf] at hx
  obtain ⟨hresult, hstopped⟩ := Prod.mk.inj (Option.some.inj hx)
  refine ⟨hstopped.symm, ?_⟩
  rw [Stretch.next?, ← hresult]
  rfl

/-- Nobody who waited before has only begun to cool the button down. -/
theorem Stretch.unpressed (ht : x.before.Tidy) (hq : x.stopped.queue = x.before.queue) :
    ¬x.Presses e := fun ⟨_, _, hk⟩ =>
  Nat.not_lt.mpr hk.since (ht.drawn _ (hq ▸ hk.cooldown))

/-- The one task that cools the button down goes to sleep, or enables the button when it is due. -/
theorem Session.Button.cooled {carry : React} (h : s.Button e bound)
    (hw : (x.task, x.answer) ∈ s.ready)
    (hb : x.before = { s with ready := s.ready.filter (·.1.id ≠ x.task.id) })
    (ht : x.before.Tidy) (hothers : ∀ v ∈ x.before.queue, v.id ≠ x.task.id) (hx : x.Runs carry)
    (hc : x.task.frame.cools e = true) : x.Effect e bound := by
  have hqueue : ∀ v ∈ x.task::x.before.queue, v ∈ s.queue :=
    hb ▸ (ready_releases hw).queue.subset
  cases h.phase with
  | idle _ hnone => cases (hnone x.task (hqueue _ (.head _))).symm.trans hc
  | @cooling w time hoff huntil hbound hsole hi hclaims =>
      obtain rfl := hsole x.task (hqueue _ (.head _)) hc
      have hnone (v : Task) (hv : v ∈ x.before.queue) : v.frame.cools e = false := by
        by_contra hcv
        have hcools : v.frame.cools e = true := by simpa using hcv
        exact hothers v hv (congrArg Task.id (hsole v (hqueue v (.tail _ hv)) hcools))
      cases huntil with
      | pressed _ hf =>
          obtain ⟨hstopped, hafter⟩ := hx.cooldown hf fun hcancelled =>
            hclaims (.inr (.inl (by rwa [hb] at hcancelled)))
          have hsole' (v : Task) (hv : v ∈ x.after.queue) (hcv : v.frame.cools e = true) :
              v = { x.task with frame := .cool e } := by
            rw [hafter] at hv
            rcases List.mem_cons.mp ((x.before.sleeping_queue _ _).subset hv) with rfl | hv
            · rfl
            · cases (hnone v hv).symm.trans hcv
          have hasleep : (s.now+1500, { x.task with frame := .cool e }) ∈ x.after.sleeping := by
            rw [hafter, hb]
            exact List.mem_append_right _ (List.mem_singleton_self _)
          rw [hb] at hafter
          exact .leaves ⟨hafter ▸ h.known, hafter ▸ h.drawn, .cooling (hafter ▸ hoff)
            (.asleep hasleep rfl) hbound hsole' (hafter ▸ hi) (hafter ▸ hclaims)⟩
            (Stretch.unpressed ht (hstopped ▸ rfl))
      | asleep hasleep _ =>
          have hstill : (time, x.task) ∈ x.before.sleeping := hb ▸ hasleep
          exact (hothers x.task (mem_queue_of_sleeping hstill) rfl).elim
      | due _ hf =>
          obtain ⟨hstopped, hends⟩ := hx.cool hf
          have hstands : x.stopped.Button e bound := by
            rw [hstopped, hb]
            refine ⟨?_, h.drawn, .idle ?_ (fun v hv => hnone v (hb ▸ hv)) hbound⟩
            · exact (List.length_modify ..).symm ▸ h.known
            · exact congrArg Element.disabled (s.element_modify h.known _)
          have hafter : x.stopped.Undisturbed e x.after :=
            Stretch.after_undisturbed fun next hnext => nomatch hends.symm.trans hnext
          exact .leaves (hafter.button hstands) (Stretch.unpressed ht (hstopped ▸ rfl))

/-- Time passes. -/
theorem Session.Button.elapsed {time : Nat} (h : s.Button e bound) (hle : s.now ≤ time) :
    (s.elapse time).Button e bound := by
  have hqueue := (s.elapse_rests time).queue.subset
  refine ⟨h.known, h.drawn, ?_⟩
  cases h.phase with
  | idle hon hnone hb => exact .idle hon (fun w hw => hnone w (hqueue hw)) (Nat.le_trans hb hle)
  | @cooling w wake hoff huntil hb hsole hi hc =>
      have hcooling {later : Nat} (hlater : (s.elapse time).Until e w later) (hl : bound ≤ later) :
          (s.elapse time).Phase e bound :=
        .cooling hoff hlater hl (fun v hv => hsole v (hqueue hv)) hi hc
      cases huntil with
      | pressed hw hf =>
          exact hcooling (.pressed (List.mem_append_left _ hw) hf)
            (Nat.le_trans hb (Nat.add_le_add_right hle _))
      | due hw hf => exact hcooling (.due (List.mem_append_left _ hw) hf) (Nat.le_trans hb hle)
      | asleep hw hf =>
          by_cases hdue : wake ≤ time
          · have hready : (w, true) ∈ (s.elapse time).ready :=
              List.mem_append_right _ (List.mem_map.mpr
                ⟨(wake, w), List.mem_filter.mpr ⟨hw, by simpa using hdue⟩, rfl⟩)
            exact hcooling (.due hready hf) (Nat.le_trans hb hdue)
          · refine hcooling (.asleep (List.mem_filter.mpr ⟨hw, ?_⟩) hf) hb
            simpa using hdue

/-- Any other stretch leaves the button alone, or starts one submission with it. -/
theorem Stretch.Runs.button (hx : x.Runs (withholding (Command.meddles e) n))
    (hs : x.before.Button e bound) (ht : x.before.Tidy) (hc : x.task.frame.cools e = false)
    (hf : x.task.frame.switches ≠ some e) :
    x.Effect e bound := by
  have hq : Queued (· ≠ e) x.before x.stopped :=
    (queues_resume x.task.frame x.answer fun e' he' he => hf (he' ▸ congrArg some he)).queued
      (onQueue_unmeddled n) _ _ _ hx
  have hafter : x.stopped.Undisturbed e x.after := by
    refine Stretch.after_undisturbed fun next hnext => ?_
    obtain hleft | ⟨e', hfrom, rfl⟩ := hx.left hnext
    · cases hleft with
      | plain hp => cases next <;> first | rfl | cases hp
      | asked => rfl
      | rests => rfl
    · rw [hfrom] at hc
      exact hc
  obtain ⟨hbeside, hstands⟩ | ⟨b, u, hu, -, -, hbound, -, hbeside, hstands⟩ := hq.button hs
  · exact .leaves (hafter.button hstands) fun ⟨k, b, hk⟩ => hbeside.starts_nothing ht k b hk
  · have honly := hu.starts_only hbeside (hu.button hs) ht (ht.grows hq.grows)
    exact .presses honly hbound (hafter.button hstands)

end

end ScreenBinding
