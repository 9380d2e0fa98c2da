import ScreenBinding.Proofs.Schedule

/-!
# Runs on the clock

A task that sleeps goes on when its time has come and not before: a run on the clock lets time pass
forwards only, wakes whoever is due, and resumes tasks that are ready. How much time passes between
two stretches and which ready task is next stays open. Such a run is one of those in which tasks
that wait go on at any time.

A task that nobody can abort is left alone: only tasks are aborted that the script knows by a name
and the one that keeps the state in step. So the others stay where they wait, whatever all the
stretches do that run meanwhile.
-/
namespace ScreenBinding
open Act

namespace Session

/-- A task with this number can be aborted, or was. -/
def Claims (s : Session) (i : Nat) : Prop :=
  s.live = some i ∨ i ∈ s.cancelled ∨ ∃ name, Table.find? s.taskIds name = some i

/-- The clock stands, and those who cannot be aborted stay where they are. Only new tasks become
known. -/
structure Spares (s t : Session) : Prop where
  now : t.now = s.now
  nextTask : s.nextTask ≤ t.nextTask
  claims : ∀ i, t.Claims i → s.Claims i ∨ s.nextTask ≤ i ∧ i < t.nextTask
  ready : ∀ p ∈ s.ready, p.1.id < s.nextTask → ¬s.Claims p.1.id → p ∈ t.ready
  asleep : ∀ p ∈ s.sleeping, p.2.id < s.nextTask → ¬s.Claims p.2.id → p ∈ t.sleeping

variable {s t u : Session}

theorem Spares.refl (s : Session) : s.Spares s :=
  ⟨rfl, Nat.le_refl _, fun _ h => .inl h, fun _ hp _ _ => hp, fun _ hp _ _ => hp⟩

/-- A number that is drawn and not claimed stays so. -/
theorem Spares.unclaimed (h : s.Spares t) {i : Nat} (hi : i < s.nextTask) (hs : ¬s.Claims i) :
    i < t.nextTask ∧ ¬t.Claims i := by
  refine ⟨Nat.lt_of_lt_of_le hi h.nextTask, fun ht => ?_⟩
  obtain hc | ⟨hge, -⟩ := h.claims i ht
  · exact hs hc
  · omega

/-- Where only tasks with a number can be aborted, this stays so. -/
theorem Spares.drawn (h : s.Spares t) (hs : ∀ i, s.Claims i → i < s.nextTask) :
    ∀ i, t.Claims i → i < t.nextTask := by
  intro i hi
  obtain hc | ⟨-, hlt⟩ := h.claims i hi
  · exact Nat.lt_of_lt_of_le (hs i hc) h.nextTask
  · exact hlt

theorem Spares.trans (h : s.Spares t) (k : t.Spares u) : s.Spares u where
  now := k.now.trans h.now
  nextTask := Nat.le_trans h.nextTask k.nextTask
  claims i hi := by
    have hs := h.nextTask
    have ht := k.nextTask
    obtain hc | hnew := k.claims i hi
    · obtain hc | hnew := h.claims i hc
      · exact .inl hc
      · exact .inr (by omega)
    · exact .inr (by omega)
  ready p hp hi hc := by
    obtain ⟨hi', hc'⟩ := h.unclaimed hi hc
    exact k.ready p (h.ready p hp hi hc) hi' hc'
  asleep p hp hi hc := by
    obtain ⟨hi', hc'⟩ := h.unclaimed hi hc
    exact k.asleep p (h.asleep p hp hi hc) hi' hc'

/-- New tasks stand behind those that are ready. -/
theorem Spares.appended (l : List (Task × Bool)) (hr : t.ready = s.ready ++ l)
    (hn : s.nextTask ≤ t.nextTask) (hnow : t.now = s.now) (hsleeping : t.sleeping = s.sleeping)
    (hc : ∀ i, t.Claims i → s.Claims i ∨ s.nextTask ≤ i ∧ i < t.nextTask) : s.Spares t where
  now := hnow
  nextTask := hn
  claims := hc
  ready _ hp _ _ := hr ▸ List.mem_append_left _ hp
  asleep _ hp _ _ := hsleeping ▸ hp

/-- Only a task that is claimed is aborted. -/
theorem Spares.aborted {i : Nat} (hi : s.Claims i) : s.Spares (s.abort i) where
  now := rfl
  nextTask := Nat.le_refl _
  claims j hj := by
    rcases hj with hlive | hcancelled | hnamed
    · exact .inl (.inl hlive)
    · rcases List.mem_cons.mp hcancelled with rfl | hcancelled
      · exact .inl hi
      · exact .inl (.inr (.inl hcancelled))
    · exact .inl (.inr (.inr hnamed))
  ready p hp _ hc := by
    refine List.mem_filter.mpr ⟨hp, decide_eq_true fun hid => hc ?_⟩
    rw [hid]
    exact hi
  asleep p hp _ hc := by
    refine List.mem_filter.mpr ⟨hp, decide_eq_true fun hid => hc ?_⟩
    rw [hid]
    exact hi

end Session

section
variable {free : ElementRef → Prop} {s t : Session}

theorem QueueStep.spares (h : QueueStep free s t) : s.Spares t := by
  cases h with
  | aside h =>
      refine .appended [] (h.ready.trans (List.append_nil _).symm) (Nat.le_of_eq h.nextTask.symm)
        h.now h.sleeping fun i hi => .inl ?_
      rw [Session.Claims, h.live, h.cancelled, h.taskIds] at hi
      exact hi
  | enlisted name role hf =>
      refine .appended _ rfl (Nat.le_succ _) rfl rfl fun i hi => ?_
      rcases hi with hlive | hcancelled | ⟨other, hnamed⟩
      · exact .inl (.inl hlive)
      · exact .inl (.inr (.inl hcancelled))
      · rw [Session.enlist, Table.find?_put] at hnamed
        split at hnamed
        · cases hnamed
          exact .inr ⟨Nat.le_refl _, Nat.lt_succ_self _⟩
        · exact .inl (.inr (.inr ⟨other, hnamed⟩))
  | @pressed b e =>
      refine .appended _ (List.append_assoc _ _ _) (Nat.le_add_right _ 2) rfl rfl fun i hi => ?_
      exact .inl hi
  | @followed sub hsub =>
      have hspawn : s.Spares (s.spawn .detached (.subscribe sub)) :=
        .appended _ rfl (Nat.le_succ _) rfl rfl fun i hi => .inl hi
      have hdismiss : s.Spares ((s.spawn .detached (.subscribe sub)).dismiss s.live) := by
        cases hl : s.live with
        | none => exact hspawn
        | some old => exact hspawn.trans (.aborted (.inl hl))
      -- the number that the session holds now is that of the new task
      refine ⟨hdismiss.now, hdismiss.nextTask, fun i hi => ?_, hdismiss.ready, hdismiss.asleep⟩
      rcases hi with hlive | hi
      · cases hlive
        exact .inr ⟨Nat.le_refl _, s.follow_nextTask sub ▸ Nat.lt_succ_self _⟩
      · exact hdismiss.claims i (.inr hi)
  | resolved k b =>
      unfold Session.resolve
      split
      · exact .appended _ rfl (Nat.le_refl _) rfl rfl fun i hi => .inl hi
      · exact .appended [] (List.append_nil _).symm (Nat.le_refl _) rfl rfl fun i hi => .inl hi
  | aborted name hfound => exact .aborted (.inr (.inr ⟨name, hfound⟩))
  | switched =>
      exact .appended [] (List.append_nil _).symm (Nat.le_refl _) rfl rfl fun i hi => .inl hi

theorem Queued.spares (h : Queued free s t) : s.Spares t := by
  induction h with
  | refl => exact .refl s
  | tail _ hstep ih => exact ih.trans hstep.spares

/-- Nobody falls asleep before his stretch is over. -/
theorem QueueStep.slept (h : QueueStep free s t) : t.sleeping ⊆ s.sleeping := by
  cases h with
  | aside h => exact h.sleeping ▸ List.Subset.refl _
  | followed =>
      unfold Session.follow Session.dismiss
      cases s.live with
      | none => exact List.Subset.refl _
      | some old => exact List.filter_subset_self _
  | resolved k b =>
      unfold Session.resolve
      split <;> exact List.Subset.refl _
  | aborted => exact List.filter_subset_self _
  | _ => exact List.Subset.refl _

theorem Queued.slept (h : Queued free s t) : t.sleeping ⊆ s.sleeping := by
  induction h with
  | refl => exact List.Subset.refl _
  | tail _ hstep ih => exact List.Subset.trans hstep.slept ih

end
/-- The runs from a session in which time only goes forwards, and a task goes on that is ready, or a
new one begins. -/
inductive Clocked (carry : Nat → React) (s₀ : Session) : Session → List Stretch → Prop
  | start : Clocked carry s₀ s₀ []
  | began {s : Session} {x : Stretch} {log : List Stretch} {step : Step} (n : Nat) :
      Clocked carry s₀ s log → x.task.id = s.nextTask → x.task.frame = .begin step →
      x.before = { s with nextTask := s.nextTask+1 } → x.Runs (carry n) →
      Clocked carry s₀ x.after (log ++ [x])
  | woken {s : Session} {x : Stretch} {log : List Stretch} (n : Nat) : Clocked carry s₀ s log →
      (x.task, x.answer) ∈ s.ready →
      x.before = { s with ready := s.ready.filter (·.1.id ≠ x.task.id) } → x.Runs (carry n) →
      Clocked carry s₀ x.after (log ++ [x])
  | elapsed {s : Session} {log : List Stretch} (time : Nat) : Clocked carry s₀ s log →
      s.now ≤ time → Clocked carry s₀ (s.elapse time) log

/-- Nobody sleeps beyond his time. -/
def Session.Punctual (s : Session) : Prop := ∀ p ∈ s.sleeping, s.now ≤ p.1

section
variable {s₀ s t : Session} {log : List Stretch} {x : Stretch}

theorem Clocked.of_withholding {withheld : Command → Bool}
    (h : Clocked (withholding withheld) s₀ s log) : Clocked cascade s₀ s log := by
  induction h with
  | start => exact .start
  | began n _ hid hf hb hx ih => exact ih.began n hid hf hb hx.of_withholding
  | woken n _ hw hb hx ih => exact ih.woken n hw hb hx.of_withholding
  | elapsed time _ hle ih => exact ih.elapsed time hle

theorem Clocked.scheduled (h : Clocked cascade s₀ s log) : Scheduled s₀ s log := by
  induction h with
  | start => exact .start
  | began n _ hid hf hb hx ih => exact ih.began n hid hf hb hx
  | woken n _ hw hb hx ih => exact ih.resumed n (hb ▸ Session.ready_releases hw) hx
  | elapsed time _ _ ih => exact ih.rested (Session.elapse_rests _ time)

/-- Whoever falls asleep where a task is put sleeps from now on. -/
theorem Session.record_sleeping (s : Session) (task : Task) (r : Except Fault Progress) :
    (s.record task r).2.sleeping = s.sleeping ∨ ∃ ms next, r = .ok (.sleep ms next) ∧
      (s.record task r).2.sleeping = s.sleeping ++ [(s.now+ms, { task with frame := next })] := by
  obtain ⟨id, role, frame⟩ := task
  rcases r with f | (a | ⟨ms, next⟩ | ⟨k, next⟩)
  · cases role <;> exact .inl rfl
  · cases role <;> exact .inl rfl
  · simp only [record, suspend]
    split
    · exact .inl rfl
    · exact .inr ⟨ms, next, rfl, rfl⟩
  · simp only [record, suspend]
    split <;> exact .inl rfl

/-- Where a task is put those who are ready stay so. -/
theorem Stretch.after_ready (x : Stretch) : x.after.ready = x.stopped.ready := by
  rw [after, x.stopped.record_eq]

/-- Nobody else wakes where a task is put. -/
theorem Stretch.after_sleeping (x : Stretch) : x.stopped.sleeping ⊆ x.after.sleeping := by
  obtain hsame | ⟨ms, next, -, hmore⟩ := x.stopped.record_sleeping x.task x.result
  · exact hsame ▸ List.Subset.refl _
  · exact hmore ▸ List.subset_append_left _ _

/-- Where a task is put nobody else is disturbed. -/
theorem Stretch.after_spares (x : Stretch) : x.stopped.Spares x.after where
  now := by rw [after, x.stopped.record_eq]
  nextTask := Nat.le_of_eq x.after_nextTask.symm
  claims i hi := by
    rw [after, x.stopped.record_eq] at hi
    exact .inl hi
  ready _ hp _ _ := x.after_ready ▸ hp
  asleep _ hp _ _ := x.after_sleeping hp

theorem Session.Punctual.ran {n : Nat} (h : x.before.Punctual) (hx : x.Runs (cascade n)) :
    x.after.Punctual := by
  have hstopped : x.stopped.Punctual := fun p hp => hx.queued.spares.now ▸ h p (hx.queued.slept hp)
  intro p hp
  rw [x.after_spares.now]
  obtain hsame | ⟨ms, next, -, hmore⟩ := x.stopped.record_sleeping x.task x.result
  · exact hstopped p (hsame ▸ hp)
  · rcases List.mem_append.mp (hmore ▸ hp) with hp | hp
    · exact hstopped p hp
    · obtain rfl := List.mem_singleton.mp hp
      exact Nat.le_add_right _ _

theorem Clocked.punctual (h : Clocked cascade s₀ s log) (h₀ : s₀.Punctual) : s.Punctual := by
  induction h with
  | start => exact h₀
  | began n _ _ _ hb hx ih => exact .ran (hb ▸ ih) hx
  | woken n _ _ hb hx ih => exact .ran (hb ▸ ih) hx
  | elapsed time _ _ _ =>
      intro p hp
      have hlater : time < p.1 := by simpa using (List.mem_filter.mp hp).2
      exact Nat.le_of_lt hlater

end

end ScreenBinding
