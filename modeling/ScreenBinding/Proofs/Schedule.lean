import ScreenBinding.Proofs.QueueActs
import ScreenBinding.Proofs.Stretches
import ScreenBinding.Proofs.SubmissionCourse

/-!
# Runs of tasks that wait

A run lets any task go on at any time, also one that nobody spawned. Here it is a task that waits,
which leaves the queue when it goes on, or a new one that begins under the next number. Which one is
next stays open, so that all orders of replies and wake-ups are covered; what the engine plays is
one of these runs.

Since nobody waits twice and no number is drawn twice, the stretches of a task hang together: each
begins the task, or goes on where the stretch before has come to wait.
-/
namespace ScreenBinding
open Act

/-- Where a stretch leaves its task waiting. -/
def Stretch.next? (x : Stretch) : Option Frame :=
  match x.result with
  | .ok p => p.next?
  | .error _ => none

namespace Session

/-- Time passes, and those who wait may change their places. -/
structure Rests (s t : Session) : Prop where
  idles : s.Idles t
  nextTask : t.nextTask = s.nextTask
  queue : t.queue.Perm s.queue

/-- A task that waits leaves the queue. -/
structure Releases (s : Session) (task : Task) (t : Session) : Prop where
  idles : s.Idles t
  nextTask : t.nextTask = s.nextTask
  queue : (task::t.queue).Subperm s.queue

end Session

/-- The runs from a session in which a task goes on that waits, or a new one begins. -/
inductive Scheduled (s₀ : Session) : Session → List Stretch → Prop
  | start : Scheduled s₀ s₀ []
  | began {s : Session} {x : Stretch} {log : List Stretch} {step : Step} (n : Nat) :
      Scheduled s₀ s log → x.task.id = s.nextTask → x.task.frame = .begin step →
      x.before = { s with nextTask := s.nextTask+1 } → x.Runs (cascade n) →
      Scheduled s₀ x.after (log ++ [x])
  | resumed {s : Session} {x : Stretch} {log : List Stretch} (n : Nat) : Scheduled s₀ s log →
      s.Releases x.task x.before → x.Runs (cascade n) → Scheduled s₀ x.after (log ++ [x])
  | rested {s t : Session} {log : List Stretch} : Scheduled s₀ s log → s.Rests t →
      Scheduled s₀ t log

section
variable {s₀ s t u : Session} {log : List Stretch} {x : Stretch} {w : Task}

/-- A run goes on with a new task. -/
theorem Scheduled.begun {r : Except Fault Progress} (h : Scheduled s₀ s log) (step : Step) (n : Nat)
    (role : Role) (answer : Bool) (hr : resume (.begin step) answer (cascade n)
      { s with nextTask := s.nextTask+1 } = some (r, t)) :
    Scheduled s₀ (t.record ⟨s.nextTask, role, .begin step⟩ r).2 (log ++ [⟨⟨s.nextTask, role,
      .begin step⟩, answer, { s with nextTask := s.nextTask+1 }, r, t⟩]) :=
  h.began (x := ⟨⟨s.nextTask, role, .begin step⟩, answer, { s with nextTask := s.nextTask+1 }, r,
    t⟩) n rfl rfl rfl hr

/-- A task is taken off those that are ready. -/
theorem Session.ready_releases {answer : Bool} (h : (w, answer) ∈ s.ready) :
    s.Releases w { s with ready := s.ready.filter (·.1.id ≠ w.id) } := by
  have htaken : ((w, answer)::s.ready.filter (·.1.id ≠ w.id)).Subperm s.ready :=
    cons_filter_subperm h (by simp)
  refine ⟨rfl, rfl, ?_⟩
  simp only [queue, List.append_assoc]
  exact (List.subperm_append_right _).mpr (subperm_map htaken Prod.fst)

/-- A run goes on with a task that is ready. -/
theorem Scheduled.woken {r : Except Fault Progress} (h : Scheduled s₀ s log) (w : Task)
    (answer : Bool) (n : Nat) (hw : (w, answer) ∈ s.ready) (hr : resume w.frame answer (cascade n)
      { s with ready := s.ready.filter (·.1.id ≠ w.id) } = some (r, t)) :
    Scheduled s₀ (t.record w r).2 (log ++ [⟨w, answer,
      { s with ready := s.ready.filter (·.1.id ≠ w.id) }, r, t⟩]) :=
  h.resumed (x := ⟨w, answer, { s with ready := s.ready.filter (·.1.id ≠ w.id) }, r, t⟩) n
    (Session.ready_releases hw) hr

/-- Whatever a stretch does, the queue admits it. -/
theorem Stretch.Runs.queued {n : Nat} (hx : x.Runs (cascade n)) :
    Queued (fun _ => True) x.before x.stopped :=
  (queues_resume x.task.frame x.answer fun _ _ => trivial).queued (onQueue_cascade n) _ _ _ hx

/-- Somewhere in a stretch an act is called: in a session that the stretch has reached, and it goes
on from where the act ends. -/
structure Stretch.Calls {α : Type} (free : ElementRef → Prop) (carry : Nat → React) (x : Stretch)
    (a : Act α) (u : Session) (r : Except Fault α) (v : Session) : Prop where
  reached : Queued free x.before u
  called : ∃ n, a (carry n) u = some (r, v)
  left : Queued free v x.stopped

theorem Session.record_supplies (s : Session) (task : Task) (r : Except Fault Progress) :
    s.Supplies (s.record task r).2 := by
  rw [s.record_eq task r]
  exact ⟨id, id, id⟩

/-- Such a run is one of the runs of any tasks. -/
theorem Scheduled.interleaved (h : Scheduled s₀ s log) : Interleaved cascade s₀ s log := by
  induction h with
  | start => exact .start
  | @began s x log step n _ _ _ hb hx ih =>
      have hidles : s.Idles x.before := by rw [hb]; rfl
      exact (ih.idle hidles).ran n hx
  | resumed n _ hb hx ih => exact (ih.idle hb.idles).ran n hx
  | rested _ ht ih => exact ih.idle ht.idles

/-- Whatever tasks do, nothing is taken back that the host has supplied. -/
theorem Interleaved.supplies (h : Interleaved cascade s₀ s log) : s₀.Supplies s := by
  refine h.inv (.refl s₀) (fun x n _ hs hx => ?_) fun s t hs ht => ?_
  · have hrun : x.before.Supplies x.stopped := hx.queued.supplies
    exact (hs.trans hrun).trans (x.stopped.record_supplies x.task x.result)
  · have hidle : s.Supplies t := by
      rw [ht]
      exact ⟨id, id, id⟩
    exact hs.trans hidle

/-- Callbacks that are registered stay so. -/
theorem Interleaved.handlers (h : Interleaved cascade s₀ s log) : s₀.handlers ⊆ s.handlers ∧
    ∀ x ∈ log, s₀.handlers ⊆ x.before.handlers ∧ x.stopped.handlers ⊆ s.handlers := by
  induction h with
  | start => exact ⟨List.Subset.refl _, List.forall_mem_nil _⟩
  | @ran x log n _ hx ih =>
      have hrun : x.before.handlers ⊆ x.stopped.handlers := hx.queued.handlers
      have hafter : x.after.handlers = x.stopped.handlers := by
        rw [Stretch.after, x.stopped.record_eq]
      rw [hafter]
      refine ⟨List.Subset.trans ih.1 hrun, fun y hy => ?_⟩
      rcases List.mem_append.mp hy with hy | hy
      · exact ⟨(ih.2 y hy).1, List.Subset.trans (ih.2 y hy).2 hrun⟩
      · obtain rfl := List.mem_singleton.mp hy
        exact ⟨ih.1, List.Subset.refl _⟩
  | idle _ ht ih =>
      rw [ht]
      exact ih

/-- The task of a stretch as it waits behind it, unless it was aborted meanwhile. -/
def Stretch.waits (x : Stretch) : List Task :=
  if x.stopped.cancelled.contains x.task.id then []
  else x.next?.toList.map fun next => { x.task with frame := next }

theorem Stretch.mem_waits {w : Task} : w ∈ x.waits ↔ x.task.id ∉ x.stopped.cancelled ∧
    ∃ next, x.next? = some next ∧ w = { x.task with frame := next } := by
  unfold waits
  split <;> simp_all [eq_comm]

/-- Nobody else begins to wait where a task is put. -/
theorem Stretch.after_queue (x : Stretch) : x.after.queue.Perm (x.waits ++ x.stopped.queue) := by
  obtain ⟨task, answer, before, result, s⟩ := x
  have hfinish (r : Result) : (s.finish task.role r).queue = s.queue := by
    unfold Session.finish
    split <;> rfl
  have hsuspend {next : Frame} {u : Session}
      (hu : u.queue.Perm ({ task with frame := next }::s.queue)) :
      (s.suspend task u).queue.Perm ((if s.cancelled.contains task.id then []
        else [{ task with frame := next }]) ++ s.queue) := by
    unfold Session.suspend
    split
    · exact .refl _
    · exact hu
  rcases result with f | (a | ⟨ms, next⟩ | ⟨k, next⟩)
  · exact .of_eq ((hfinish _).trans (by simp [waits, next?]))
  · exact .of_eq ((hfinish _).trans (by simp [waits, next?, Progress.next?]))
  · exact hsuspend (s.sleeping_queue _ _)
  · exact hsuspend (s.awaiting_queue _ _)

theorem Stretch.after_nextTask (x : Stretch) : x.after.nextTask = x.stopped.nextTask := by
  rw [after, x.stopped.record_eq]

/-- Those who wait have numbers of their own, also behind a stretch of somebody else. -/
theorem Session.Tidy.ran {n : Nat} (h : x.before.Tidy) (hx : x.Runs (cascade n))
    (hid : ∀ v ∈ x.before.queue, v.id ≠ x.task.id) (hlt : x.task.id < x.before.nextTask) :
    x.after.Tidy := by
  have hgrows : x.before.Grows x.stopped := hx.queued.grows
  have htidy : x.stopped.Tidy := h.grows hgrows
  have hafter := x.after_queue
  refine ⟨(hafter.map Task.id).nodup_iff.mpr ?_, fun v hv => ?_⟩
  · rw [List.map_append]
    refine List.Nodup.append ?_ htidy.distinct fun i hi hj => ?_
    · unfold Stretch.waits
      split
      · exact .nil
      · cases x.next? <;> simp
    · obtain ⟨v, hv, rfl⟩ := List.mem_map.mp hi
      obtain ⟨-, next, -, rfl⟩ := Stretch.mem_waits.mp hv
      obtain ⟨v, hv, he⟩ := List.mem_map.mp hj
      rcases hgrows.mem hv with hv | ⟨hge, -⟩
      · exact hid v hv he
      · exact Nat.not_lt.mpr hge (he ▸ hlt)
  · rw [x.after_nextTask]
    rcases List.mem_append.mp (hafter.subset hv) with hv | hv
    · obtain ⟨-, next, -, rfl⟩ := Stretch.mem_waits.mp hv
      exact Nat.lt_of_lt_of_le hlt hgrows.nextTask
    · exact htidy.drawn v hv

/-- A task that goes on has left the others its number. -/
theorem Session.Tidy.released (h : s.Tidy) (hw : s.Releases w t) :
    t.Tidy ∧ (∀ v ∈ t.queue, v.id ≠ w.id) ∧ w.id < t.nextTask := by
  have hmem : ∀ v ∈ w::t.queue, v ∈ s.queue := hw.queue.subset
  have hids := nodup_of_subperm (subperm_map hw.queue Task.id) h.distinct
  rw [List.map_cons, List.nodup_cons] at hids
  obtain ⟨hnone, hdistinct⟩ := hids
  refine ⟨⟨hdistinct, fun v hv => ?_⟩, fun v hv he => hnone (he ▸ List.mem_map_of_mem hv), ?_⟩
  · exact hw.nextTask ▸ h.drawn v (hmem v (List.mem_cons_of_mem _ hv))
  · exact hw.nextTask ▸ h.drawn w (hmem w (List.mem_cons_self ..))

/-- A new task draws a number that nobody has. -/
theorem Session.Tidy.begun (h : s.Tidy) (hid : w.id = s.nextTask) :
    { s with nextTask := s.nextTask+1 }.Tidy ∧ ∀ v ∈ s.queue, v.id ≠ w.id :=
  ⟨⟨h.distinct, fun v hv => Nat.lt_succ_of_lt (h.drawn v hv)⟩,
    fun v hv => hid ▸ Nat.ne_of_lt (h.drawn v hv)⟩

theorem Session.Tidy.rested (h : s.Tidy) (ht : s.Rests t) : t.Tidy :=
  ⟨((ht.queue.map Task.id).nodup_iff).mpr h.distinct,
    fun v hv => ht.nextTask ▸ h.drawn v (ht.queue.subset hv)⟩

/-- A task begins behind a log, or goes on where its last stretch has come to wait. -/
inductive Continues (log : List Stretch) (w : Task) : Prop
  | begins : w.frame.starts = true → (∀ x ∈ log, x.task.id ≠ w.id) → Continues log w
  | resumes (pre mid : List Stretch) (z : Stretch) : log = pre ++ z::mid → z.task.id = w.id →
      (∀ x ∈ mid, x.task.id ≠ w.id) → z.next? = some w.frame → Continues log w

/-- The stretches of each task hang together. -/
def Threaded (log : List Stretch) : Prop :=
  ∀ pre x post, log = pre ++ x::post → Continues pre x.task

theorem Continues.extend (h : Continues log w) (hx : x.task.id ≠ w.id) :
    Continues (log ++ [x]) w := by
  have hlast {l : List Stretch} (hl : ∀ y ∈ l, y.task.id ≠ w.id) :
      ∀ y ∈ l ++ [x], y.task.id ≠ w.id := by
    intro y hy
    rcases List.mem_append.mp hy with hy | hy
    · exact hl y hy
    · obtain rfl := List.mem_singleton.mp hy
      exact hx
  cases h with
  | begins hstarts hnew => exact .begins hstarts (hlast hnew)
  | resumes pre mid z hlog hid hmid hnext =>
      refine .resumes pre (mid ++ [x]) z ?_ hid (hlast hmid) hnext
      rw [hlog, List.append_assoc, List.cons_append]

theorem Threaded.extend (h : Threaded log) (hx : Continues log x.task) :
    Threaded (log ++ [x]) := by
  intro pre y post hl
  obtain ⟨rfl, rfl, -⟩ | ⟨c, -, hlog⟩ := split_last hl
  · exact hx
  · exact h pre y c hlog

/-- Those who wait have numbers of their own, and each goes on from its last stretch. -/
structure Woven (s : Session) (log : List Stretch) : Prop where
  tidy : s.Tidy
  seen : ∀ x ∈ log, x.task.id < s.nextTask
  waiting : ∀ w ∈ s.queue, Continues log w
  threaded : Threaded log

theorem Woven.released (h : Woven s log) (hw : s.Releases w t) : Woven t log ∧
    (∀ v ∈ t.queue, v.id ≠ w.id) ∧ w.id < t.nextTask ∧ Continues log w := by
  have hmem : ∀ v ∈ w::t.queue, v ∈ s.queue := hw.queue.subset
  obtain ⟨htidy, hid, hlt⟩ := h.tidy.released hw
  refine ⟨⟨htidy, fun x hx => ?_, fun v hv => ?_, h.threaded⟩, hid, hlt, ?_⟩
  · exact hw.nextTask ▸ h.seen x hx
  · exact h.waiting v (hmem v (List.mem_cons_of_mem _ hv))
  · exact h.waiting w (hmem w (List.mem_cons_self ..))

/-- A stretch of a task that is not among those who wait leaves them in order. -/
theorem Woven.ran {n : Nat} (h : Woven x.before log) (hx : x.Runs (cascade n))
    (hid : ∀ v ∈ x.before.queue, v.id ≠ x.task.id) (hlt : x.task.id < x.before.nextTask)
    (hc : Continues log x.task) : Woven x.after (log ++ [x]) := by
  have hgrows : x.before.Grows x.stopped := hx.queued.grows
  have hstopped : ∀ v ∈ x.stopped.queue, v.id ≠ x.task.id ∧ Continues log v := by
    intro v hv
    rcases hgrows.mem hv with hv | ⟨hge, hstarts⟩
    · exact ⟨hid v hv, h.waiting v hv⟩
    · refine ⟨by omega, .begins hstarts fun y hy => ?_⟩
      have := h.seen y hy
      omega
  refine ⟨h.tidy.ran hx hid hlt, fun y hy => ?_, fun v hv => ?_, h.threaded.extend hc⟩
  · rw [x.after_nextTask]
    rcases List.mem_append.mp hy with hy | hy
    · exact Nat.lt_of_lt_of_le (h.seen y hy) hgrows.nextTask
    · obtain rfl := List.mem_singleton.mp hy
      exact Nat.lt_of_lt_of_le hlt hgrows.nextTask
  · rcases List.mem_append.mp (x.after_queue.subset hv) with hv | hv
    · obtain ⟨-, next, hn, rfl⟩ := Stretch.mem_waits.mp hv
      exact .resumes log [] x rfl rfl (List.forall_mem_nil _) hn
    · obtain ⟨hne, hcont⟩ := hstopped v hv
      exact hcont.extend hne.symm

/-- A new task begins behind all others. -/
theorem Woven.begun (h : Woven s log) (hid : w.id = s.nextTask) (hf : w.frame.starts = true) :
    Woven { s with nextTask := s.nextTask+1 } log ∧ (∀ v ∈ s.queue, v.id ≠ w.id) ∧
      Continues log w := by
  obtain ⟨htidy, hne⟩ := h.tidy.begun hid
  refine ⟨⟨htidy, fun y hy => ?_, h.waiting, h.threaded⟩, hne, .begins hf fun y hy => ?_⟩
  · exact Nat.lt_succ_of_lt (h.seen y hy)
  · exact hid ▸ Nat.ne_of_lt (h.seen y hy)

theorem Scheduled.woven (h : Scheduled s₀ s log) (h₀ : s₀.queue = []) : Woven s log := by
  induction h with
  | start =>
      refine ⟨⟨by rw [h₀]; exact .nil, by rw [h₀]; exact List.forall_mem_nil _⟩,
        List.forall_mem_nil _, by rw [h₀]; exact List.forall_mem_nil _, ?_⟩
      intro pre x post hl
      cases pre <;> cases hl
  | @began s x log step n _ hid hf hb hx ih =>
      obtain ⟨hbefore, hne, hc⟩ := ih.begun hid (by rw [hf]; rfl)
      rw [← hb] at hbefore
      refine hbefore.ran hx (fun v hv => ?_) ?_ hc
      · rw [hb] at hv
        exact hne v hv
      · rw [hb, hid]
        exact Nat.lt_succ_self _
  | resumed n _ hb hx ih =>
      obtain ⟨hbefore, hid, hlt, hc⟩ := ih.released hb
      exact hbefore.ran hx hid hlt hc
  | rested _ ht ih =>
      exact ⟨ih.tidy.rested ht, fun y hy => ht.nextTask ▸ ih.seen y hy,
        fun v hv => ih.waiting v (ht.queue.subset hv), ih.threaded⟩

/-- Where a stretch begins, nobody else has the number of its task. -/
theorem Scheduled.parted (h : Scheduled s₀ s log) (h₀ : s₀.queue = []) {pre post : List Stretch}
    (hlog : log = pre ++ x::post) : Woven x.before pre ∧
      (∀ v ∈ x.before.queue, v.id ≠ x.task.id) ∧ x.task.id < x.before.nextTask := by
  induction h generalizing post with
  | start => cases List.append_eq_nil_iff.mp hlog.symm |>.2
  | began n hs hid hf hb _ ih =>
      obtain ⟨rfl, rfl, -⟩ | ⟨c, -, hpre⟩ := split_last hlog
      · obtain ⟨hbefore, hne, -⟩ := (hs.woven h₀).begun hid (by rw [hf]; rfl)
        rw [hb, hid]
        exact ⟨hbefore, hid ▸ hne, Nat.lt_succ_self _⟩
      · exact ih hpre
  | resumed n hs hb _ ih =>
      obtain ⟨rfl, rfl, -⟩ | ⟨c, -, hpre⟩ := split_last hlog
      · obtain ⟨hbefore, hne, hlt, -⟩ := (hs.woven h₀).released hb
        exact ⟨hbefore, hne, hlt⟩
      · exact ih hpre
  | rested _ _ ih => exact ih hlog

/-- What follows a stretch is a run of its own. -/
theorem Scheduled.since (h : Scheduled s₀ s log) {pre post : List Stretch}
    (hlog : log = pre ++ x::post) : Scheduled x.after s post := by
  induction h generalizing post with
  | start => cases List.append_eq_nil_iff.mp hlog.symm |>.2
  | began n _ hid hf hb hx ih =>
      obtain ⟨rfl, rfl, rfl⟩ | ⟨c, rfl, hpre⟩ := split_last hlog
      · exact .start
      · exact (ih hpre).began n hid hf hb hx
  | resumed n _ hb hx ih =>
      obtain ⟨rfl, rfl, rfl⟩ | ⟨c, rfl, hpre⟩ := split_last hlog
      · exact .start
      · exact (ih hpre).resumed n hb hx
  | rested _ ht ih => exact (ih hlog).rested ht

/-- Where nobody waits at first, each stretch begins its task or goes on where the stretch before
has come to wait. -/
theorem Scheduled.threaded (h : Scheduled s₀ s log) (h₀ : s₀.queue = []) : Threaded log :=
  (h.woven h₀).threaded

end

/-- Time passes for everybody alike. -/
theorem Session.elapse_rests (s : Session) (time : Nat) : s.Rests (s.elapse time) := by
  refine ⟨rfl, rfl, ?_⟩
  have hwoken : ((s.sleeping.filter fun x => decide (x.1 ≤ time)).map Prod.snd ++
      (s.sleeping.filter fun x => decide (time < x.1)).map Prod.snd).Perm
        (s.sleeping.map Prod.snd) := by
    rw [← List.map_append]
    have hnot : (fun x : Nat × Task => decide (time < x.1)) = fun x => !decide (x.1 ≤ time) := by
      funext x
      rw [← decide_not]
      exact decide_eq_decide.mpr Nat.not_le.symm
    rw [hnot]
    exact (List.filter_append_perm _ _).map _
  simp only [queue, elapse, List.map_append, List.map_map, List.append_assoc]
  refine List.Perm.append_left _ ?_
  rw [← List.append_assoc]
  exact hwoken.append_right _

end ScreenBinding
