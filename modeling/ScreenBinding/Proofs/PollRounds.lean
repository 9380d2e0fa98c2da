import ScreenBinding.Proofs.LiveTasks
import ScreenBinding.Proofs.Pace

/-!
# Rounds of a poll

A poll is a task that asks for its method again and again. Its turns make up rounds: it sends a
request, hears the reply when this has arrived, and rests for its interval. The first request is
sent at the time at which the poll was started. The time of each turn is settled by the turn before,
and nothing but an abort keeps the task from it, whatever the others do: a failed reply does not,
and neither does anything that a value brings about.

An abort may come at any point of a round, also from what the poll itself has handed on. The turn
that has begun is brought to its end then, and there is no other.
-/
namespace ScreenBinding
open Act

namespace Session

/-- Who is not aborted stays where he waits. -/
structure Stays (s t : Session) : Prop where
  cancelled : s.cancelled ⊆ t.cancelled
  ready : ∀ p ∈ s.ready, p.1.id ∉ t.cancelled → p ∈ t.ready
  asleep : ∀ p ∈ s.sleeping, p.2.id ∉ t.cancelled → p ∈ t.sleeping

/-- Those who wait have numbers of their own, nobody is aborted before he has a number, and who was
aborted waits no more. -/
structure Orderly (s : Session) : Prop where
  tidy : s.Tidy
  drawn : ∀ i, s.Claims i → i < s.nextTask
  gone : ∀ w ∈ s.queue, w.id ∉ s.cancelled

variable {s t u : Session} {sub : Subscription}

theorem Stays.refl (s : Session) : s.Stays s :=
  ⟨List.Subset.refl _, fun _ hp _ => hp, fun _ hp _ => hp⟩

theorem Stays.trans (h : s.Stays t) (k : t.Stays u) : s.Stays u where
  cancelled := List.Subset.trans h.cancelled k.cancelled
  ready p hp hi := k.ready p (h.ready p hp fun hc => hi (k.cancelled hc)) hi
  asleep p hp hi := k.asleep p (h.asleep p hp fun hc => hi (k.cancelled hc)) hi

/-- New tasks stand behind those that are ready. -/
theorem Stays.appended (l : List (Task × Bool)) (hr : t.ready = s.ready ++ l)
    (hsleeping : t.sleeping = s.sleeping) (hc : t.cancelled = s.cancelled) : s.Stays t where
  cancelled := hc ▸ List.Subset.refl _
  ready _ hp _ := hr ▸ List.mem_append_left _ hp
  asleep _ hp _ := hsleeping ▸ hp

theorem Stays.aborted (s : Session) (i : Nat) : s.Stays (s.abort i) where
  cancelled := List.subset_cons_self _ _
  ready p hp hi := by
    refine List.mem_filter.mpr ⟨hp, decide_eq_true fun hid => hi ?_⟩
    exact hid ▸ List.mem_cons_self ..
  asleep p hp hi := by
    refine List.mem_filter.mpr ⟨hp, decide_eq_true fun hid => hi ?_⟩
    exact hid ▸ List.mem_cons_self ..

theorem Stays.followed (s : Session) (sub : Subscription) : s.Stays (s.follow sub) := by
  have hspawn : s.Stays (s.spawn .detached (.subscribe sub)) := .appended _ rfl rfl rfl
  have hdismiss : s.Stays ((s.spawn .detached (.subscribe sub)).dismiss s.live) := by
    cases s.live with
    | none => exact hspawn
    | some old => exact hspawn.trans (.aborted _ old)
  exact ⟨hdismiss.cancelled, hdismiss.ready, hdismiss.asleep⟩

end Session

section
variable {free : ElementRef → Prop} {s t : Session}

theorem QueueStep.stays (h : QueueStep free s t) : s.Stays t := by
  cases h with
  | aside h => exact .appended [] (h.ready.trans (List.append_nil _).symm) h.sleeping h.cancelled
  | enlisted => exact .appended _ rfl rfl rfl
  | pressed => exact .appended _ (List.append_assoc _ _ _) rfl rfl
  | followed => exact .followed s _
  | resolved k b =>
      unfold Session.resolve
      split
      · exact .appended _ rfl rfl rfl
      · exact .appended [] (List.append_nil _).symm rfl rfl
  | aborted name _ => exact .aborted s _
  | switched => exact .appended [] (List.append_nil _).symm rfl rfl

theorem Queued.stays (h : Queued free s t) : s.Stays t := by
  induction h with
  | refl => exact .refl s
  | tail _ hstep ih => exact ih.trans hstep.stays

/-- At most one task is aborted at a time, and it waits nowhere then. -/
theorem QueueStep.cancels (h : QueueStep free s t) : t.cancelled = s.cancelled ∨
    ∃ i, t.cancelled = i::s.cancelled ∧ ∀ w ∈ t.queue, w.id ≠ i := by
  cases h with
  | aside h => exact .inl h.cancelled
  | @followed sub =>
      cases hl : s.live with
      | none => exact .inl (by rw [s.follow_cancelled, hl]; rfl)
      | some i =>
          refine .inr ⟨i, by rw [s.follow_cancelled, hl]; rfl, fun w hw hid => ?_⟩
          exact (Session.mem_follow.mp hw).2 (hid ▸ hl)
  | resolved k b =>
      unfold Session.resolve
      split <;> exact .inl rfl
  | aborted => exact .inr ⟨_, rfl, fun w hw => (Session.mem_abort.mp hw).2⟩
  | _ => exact .inl rfl

theorem QueueStep.orderly (h : QueueStep free s t) (hs : s.Orderly) : t.Orderly where
  tidy := hs.tidy.grows h.grows
  drawn := h.spares.drawn hs.drawn
  gone w hw hc := by
    have hbefore : w.id ∉ s.cancelled := by
      intro hc
      rcases h.grows.mem hw with hw | ⟨hnew, -⟩
      · exact hs.gone w hw hc
      · exact Nat.not_lt.mpr hnew (hs.drawn _ (.inr (.inl hc)))
    obtain hsame | ⟨i, hmore, hnone⟩ := h.cancels
    · exact hbefore (hsame ▸ hc)
    · rcases List.mem_cons.mp (hmore ▸ hc) with hid | hc
      · exact hnone w hw hid
      · exact hbefore hc

theorem Queued.orderly (h : Queued free s t) (hs : s.Orderly) : t.Orderly := by
  induction h with
  | refl => exact hs
  | tail _ hstep ih => exact hstep.orderly ih

end

section
variable {n i : Nat} {s₀ s t : Session} {log pre post : List Stretch} {x : Stretch}

theorem Stretch.after_stays (x : Stretch) : x.stopped.Stays x.after where
  cancelled := by
    rw [after, x.stopped.record_eq]
    exact List.Subset.refl _
  ready _ hp _ := x.after_ready ▸ hp
  asleep _ hp _ := x.after_sleeping hp

/-- A task that was aborted in its own turn does not wait behind it. -/
theorem Session.Orderly.ran (h : x.before.Orderly) (hx : x.Runs (cascade n))
    (hid : ∀ v ∈ x.before.queue, v.id ≠ x.task.id) (hlt : x.task.id < x.before.nextTask) :
    x.after.Orderly where
  tidy := h.tidy.ran hx hid hlt
  drawn := x.after_spares.drawn (hx.queued.orderly h).drawn
  gone w hw := by
    have hcancelled : x.after.cancelled = x.stopped.cancelled := by
      rw [Stretch.after, x.stopped.record_eq]
    rw [hcancelled]
    rcases List.mem_append.mp (x.after_queue.subset hw) with hw | hw
    · obtain ⟨hnot, next, -, rfl⟩ := Stretch.mem_waits.mp hw
      exact hnot
    · exact (hx.queued.orderly h).gone w hw

theorem Session.Orderly.idles (h : s.Orderly) (ht : s.Idles t) (htidy : t.Tidy)
    (hn : s.nextTask ≤ t.nextTask) (hq : t.queue ⊆ s.queue) : t.Orderly := by
  refine ⟨htidy, fun i hi => Nat.lt_of_lt_of_le (h.drawn i ?_) hn, fun w hw => ?_⟩
  · rw [ht] at hi
    exact hi
  · have hcancelled : t.cancelled = s.cancelled := by rw [ht]
    exact hcancelled ▸ h.gone w (hq hw)

/-- A stretch that keeps order, of a task that was not aborted. -/
structure Stretch.InOrder (x : Stretch) : Prop where
  before : x.before.Orderly
  after : x.after.Orderly
  drawn : x.task.id < x.before.nextTask
  allowed : x.task.id ∉ x.before.cancelled

/-- In every run, order is kept, and nobody has a turn who was aborted. -/
theorem Scheduled.orderly (h : Scheduled s₀ s log) (h₀ : s₀.Orderly) :
    s.Orderly ∧ ∀ x ∈ log, x.InOrder := by
  have hextend {log : List Stretch} {x : Stretch} (hlog : ∀ y ∈ log, y.InOrder)
      (hx : x.InOrder) : x.after.Orderly ∧ ∀ y ∈ log ++ [x], y.InOrder :=
    ⟨hx.after, List.forall_mem_append.mpr ⟨hlog, List.forall_mem_singleton.mpr hx⟩⟩
  induction h with
  | start => exact ⟨h₀, List.forall_mem_nil _⟩
  | @began s x log step n _ hid _ hb hx ih =>
      obtain ⟨hs, hlog⟩ := ih
      obtain ⟨htidy, hne⟩ := hs.tidy.begun hid
      have hbefore : { s with nextTask := s.nextTask+1 }.Orderly :=
        hs.idles rfl htidy (Nat.le_succ _) (List.Subset.refl _)
      have hothers : ∀ v ∈ x.before.queue, v.id ≠ x.task.id := by
        rw [hb]
        exact hne
      have hlt : x.task.id < x.before.nextTask := by
        rw [hb, hid]
        exact Nat.lt_succ_self _
      have hnot : x.task.id ∉ x.before.cancelled := by
        rw [hb, hid]
        exact fun hc => Nat.lt_irrefl _ (hs.drawn _ (.inr (.inl hc)))
      rw [← hb] at hbefore
      exact hextend hlog ⟨hbefore, hbefore.ran hx hothers hlt, hlt, hnot⟩
  | @resumed s x log n _ hb hx ih =>
      obtain ⟨hs, hlog⟩ := ih
      obtain ⟨htidy, hne, hlt⟩ := hs.tidy.released hb
      have hmem := hb.queue.subset
      have hbefore : x.before.Orderly := hs.idles hb.idles htidy (Nat.le_of_eq hb.nextTask.symm)
        fun v hv => hmem (List.mem_cons_of_mem _ hv)
      have hcancelled : x.before.cancelled = s.cancelled := by rw [hb.idles]
      exact hextend hlog ⟨hbefore, hbefore.ran hx hne hlt, hlt,
        hcancelled ▸ hs.gone x.task (hmem (List.mem_cons_self ..))⟩
  | rested _ ht ih =>
      exact ⟨ih.1.idles ht.idles (ih.1.tidy.rested ht) (Nat.le_of_eq ht.nextTask.symm)
        ht.queue.subset, ih.2⟩

/-- Once a task is aborted, it has no other turn. -/
theorem Scheduled.silent (h : Scheduled s₀ s log) (h₀ : s₀.Orderly) (hlog : log = pre ++ x::post)
    (hi : i ∈ x.stopped.cancelled) : ∀ z ∈ post, z.task.id ≠ i := by
  intro z hz hid
  have hmem : z ∈ log := hlog ▸ List.mem_append_right _ (List.mem_cons_of_mem _ hz)
  have hlater : x.after.Forward z.before := (h.since hlog).forward.2 z hz
  exact ((h.orderly h₀).2 z hmem).allowed (hid ▸ hlater.cancelled (x.after_stays.cancelled hi))

/-- A number that is drawn in a stretch has had no turn before. -/
theorem Scheduled.unseen (h : Scheduled s₀ s log) (h₀ : s₀.Orderly) (hlog : log = pre ++ x::post)
    (hi : x.before.nextTask ≤ i) : ∀ y ∈ pre ++ [x], y.task.id ≠ i := by
  have hdrawn {y : Stretch} (hy : y ∈ log) : y.task.id < y.before.nextTask :=
    ((h.orderly h₀).2 y hy).drawn
  refine List.forall_mem_append.mpr ⟨fun y hy => ?_, List.forall_mem_singleton.mpr ?_⟩
  · obtain ⟨a, b, rfl⟩ := List.append_of_mem hy
    have hcut : log = a ++ y::(b ++ x::post) := by
      rw [hlog, List.append_assoc, List.cons_append]
    have hmem : y ∈ log := hcut ▸ List.mem_append_right _ (List.mem_cons_self ..)
    obtain ⟨m, hy⟩ := h.interleaved.runs hmem
    have hturn : y.before.nextTask ≤ y.after.nextTask :=
      y.after_nextTask ▸ hy.queued.grows.nextTask
    have hlater : y.after.nextTask ≤ x.before.nextTask :=
      ((h.since hcut).forward.2 x (List.mem_append_right _ (List.mem_cons_self ..))).nextTask
    have hlt := hdrawn hmem
    omega
  · have hlt := hdrawn (hlog ▸ List.mem_append_right _ (List.mem_cons_self ..) : x ∈ log)
    omega

end

/-- A task goes on at a time and in a place, unless it is aborted. -/
inductive Session.Due (i time : Nat) (frame : Frame) (s : Session) : Prop
  | aborted : i ∈ s.cancelled → Due i time frame s
  | ready : (⟨i, .detached, frame⟩, true) ∈ s.ready → s.now = time → Due i time frame s
  | asleep : (time, ⟨i, .detached, frame⟩) ∈ s.sleeping → s.now ≤ time → Due i time frame s

namespace Session.Due
variable {i time : Nat} {frame : Frame} {s t : Session} {w : Task} {answer : Bool}

theorem stays (h : s.Due i time frame) (hs : s.Stays t) (hnow : t.now = s.now) :
    t.Due i time frame := by
  by_cases hi : i ∈ t.cancelled
  · exact .aborted hi
  · cases h with
    | aborted hc => exact .aborted (hs.cancelled hc)
    | ready hp ht => exact .ready (hs.ready _ hp hi) (hnow.trans ht)
    | asleep hp ht => exact .asleep (hs.asleep _ hp hi) (hnow ▸ ht)

/-- Somebody else goes on. -/
theorem released (h : s.Due i time frame) (hw : w.id ≠ i) :
    { s with ready := s.ready.filter (·.1.id ≠ w.id) }.Due i time frame := by
  cases h with
  | aborted hc => exact .aborted hc
  | ready hp ht =>
      exact .ready (List.mem_filter.mpr ⟨hp, decide_eq_true fun hid => hw hid.symm⟩) ht
  | asleep hp ht => exact .asleep hp ht

/-- Nobody oversleeps. -/
theorem elapsed {wake : Nat} (h : s.Due i time frame) (hready : s.ready = [])
    (hwake : s.nextWake = some wake) : (s.elapse wake).Due i time frame := by
  cases h with
  | aborted hc => exact .aborted hc
  | ready hp _ =>
      rw [hready] at hp
      cases hp
  | asleep hp _ =>
      have hle : wake ≤ time := Session.nextWake_le hwake hp
      rcases Nat.lt_or_eq_of_le hle with hlt | rfl
      · exact .asleep (List.mem_filter.mpr ⟨hp, decide_eq_true hlt⟩) hle
      · exact .ready (List.mem_append_right _ (List.mem_map.mpr ⟨_,
          List.mem_filter.mpr ⟨hp, decide_eq_true (Nat.le_refl _)⟩, rfl⟩)) rfl

/-- When the task itself goes on, it is its time and its place. -/
theorem woken (h : s.Due w.id time frame) (hs : s.Orderly) (hw : (w, answer) ∈ s.ready) :
    w = ⟨w.id, .detached, frame⟩ ∧ s.now = time := by
  have hmem : w ∈ s.queue := mem_queue_of_ready hw
  cases h with
  | aborted hc => exact (hs.gone w hmem hc).elim
  | ready hp ht =>
      exact ⟨List.inj_on_of_nodup_map hs.tidy.distinct hmem (mem_queue_of_ready hp) rfl, ht⟩
  | asleep hp _ =>
      have hids : ((s.ready.map Prod.fst).map Task.id ++ (s.sleeping.map Prod.snd).map
          Task.id).Nodup := by
        have hall := hs.tidy.distinct
        rw [queue, List.map_append, List.map_append] at hall
        exact hall.of_append_left
      have hready : w.id ∈ (s.ready.map Prod.fst).map Task.id :=
        List.mem_map_of_mem (List.mem_map_of_mem hw)
      have hsleeping : w.id ∈ (s.sleeping.map Prod.snd).map Task.id :=
        List.mem_map.mpr ⟨_, List.mem_map_of_mem hp, rfl⟩
      exact (List.disjoint_of_nodup_append hids hready hsleeping).elim

end Session.Due

/-- A detached task that falls asleep goes on when its time has come. -/
theorem Stretch.due {x : Stretch} {ms i : Nat} {next frame : Frame}
    (hx : x.result = .ok (.sleep ms next)) (htask : x.task = ⟨i, .detached, frame⟩) :
    x.after.Due i (x.stopped.now+ms) next := by
  rw [after, hx, htask]
  simp only [Session.record, Session.suspend]
  split
  · rename_i hc
    exact .aborted (by simpa using hc)
  · exact .asleep (List.mem_append_right _ (List.mem_singleton_self _)) (Nat.le_add_right _ _)

namespace Stretch

/-- The stretch sends a request of a subscription, to which the reply takes some time. -/
structure Requests (x : Stretch) (sub : Subscription) (delay : Nat) (reply : Pending) : Prop where
  sends : ∃ n, (send sub.transport .get sub.url sub.data).settle n x.before =
    some (.ok (delay, reply), x.stopped)
  waits : x.result = .ok (.sleep delay (.receiving sub reply))

/-- The stretch hears the reply to a request: a value is handed on, a failure is passed over. -/
structure Replies (x : Stretch) (sub : Subscription) (reply : Pending) : Prop where
  delivers : ∃ n, Delivers (cascade n) sub.sink reply x.before x.stopped
  rests : x.result = .ok (.sleep sub.interval (.resting sub))

/-- The stretch sends a request and hears the reply to it, which is there at once. -/
structure Exchanges (x : Stretch) (sub : Subscription) : Prop where
  delivers : ∃ n reply u, (send sub.transport .get sub.url sub.data).settle n x.before =
    some (.ok (0, reply), u) ∧ Delivers (cascade n) sub.sink reply u x.stopped
  rests : x.result = .ok (.sleep sub.interval (.resting sub))

end Stretch

/-- The turns of a subscription from the time and place of a request, and when and where it goes on
then. A request is followed by the reply to it, this by the next request one interval later. -/
inductive Rounds (sub : Subscription) : Nat → Frame → List Stretch → Nat → Frame → Prop
  | idle (time : Nat) (frame : Frame) : Rounds sub time frame [] time frame
  | asked {time delay : Nat} {frame : Frame} {x : Stretch} {reply : Pending} :
      x.before.now = time → x.Requests sub delay reply →
      Rounds sub time frame [x] (time+delay) (.receiving sub reply)
  | heard {time delay time' : Nat} {frame frame' : Frame} {x y : Stretch} {reply : Pending}
      {log : List Stretch} : x.before.now = time → x.Requests sub delay reply →
      y.before.now = time+delay → y.Replies sub reply →
      Rounds sub (time+delay+sub.interval) (.resting sub) log time' frame' →
      Rounds sub time frame (x::y::log) time' frame'
  | atOnce {time time' : Nat} {frame frame' : Frame} {x : Stretch} {log : List Stretch} :
      x.before.now = time → x.Exchanges sub →
      Rounds sub (time+sub.interval) (.resting sub) log time' frame' →
      Rounds sub time frame (x::log) time' frame'

section
variable {n i start time time' : Nat} {sub : Subscription} {frame frame' : Frame}
  {s₀ s u v : Session} {log pre post : List Stretch} {x : Stretch}
  {method : String} {data : Json} {sink : Sink}

theorem Rounds.serves (h : Rounds sub time frame log time' frame') (hf : frame.Serves sub) :
    frame'.Serves sub := by
  induction h with
  | idle => exact hf
  | asked => exact .receiving _
  | heard _ _ _ _ _ ih => exact ih .resting
  | atOnce _ _ _ ih => exact ih .resting

/-- The next turn of a subscription goes on with the round. -/
theorem Rounds.extended (h : Rounds sub time frame log time' frame')
    (hf : frame = .subscribe sub ∨ frame = .resting sub) (hs : sub.sink.isEndless = true)
    (hi : sub.interval ≠ 0) (hx : x.Runs (cascade n)) (hframe : x.task.frame = frame')
    (hnow : x.before.now = time') : ∃ ms next, x.result = .ok (.sleep ms next) ∧
      Rounds sub time frame (log ++ [x]) (time'+ms) next := by
  rw [Stretch.Runs, hframe] at hx
  induction h with
  | idle time frame =>
      have hask : resume frame x.answer = ask sub := by
        rcases hf with rfl | rfl <;> rfl
      rw [hask] at hx
      obtain ⟨p, hp, hinquires⟩ := ask_paced hs hi hx
      cases hinquires with
      | waits _ hsent => exact ⟨_, _, hp, .asked hnow ⟨⟨n, hsent⟩, hp⟩⟩
      | hears hsent hheard =>
          exact ⟨_, _, hp, .atOnce hnow ⟨⟨n, _, _, hsent, hheard⟩, hp⟩ (.idle _ _)⟩
  | asked hthen hrequest =>
      obtain ⟨hp, hheard⟩ := arrive_paced hs hi hx
      exact ⟨_, _, hp, .heard hthen hrequest hnow ⟨⟨n, hheard⟩, hp⟩ (.idle _ _)⟩
  | heard hthen hrequest hlater hreply _ ih =>
      obtain ⟨ms, next, hp, hrounds⟩ := ih (.inr rfl) hx hframe hnow
      exact ⟨ms, next, hp, .heard hthen hrequest hlater hreply hrounds⟩
  | atOnce hthen hexchange _ ih =>
      obtain ⟨ms, next, hp, hrounds⟩ := ih (.inr rfl) hx hframe hnow
      exact ⟨ms, next, hp, .atOnce hthen hexchange hrounds⟩

/-- Whatever the others do, a subscription makes its rounds until it is aborted. -/
theorem Paced.rounds (h : Paced s₀ s log) (h₀ : s₀.Orderly) (hs : sub.sink.isEndless = true)
    (hpos : sub.interval ≠ 0) (hlt : i < s₀.nextTask) (hdue : s₀.Due i start (.subscribe sub)) :
    ∃ time frame, Rounds sub start (.subscribe sub) (log.filter (·.task.id = i)) time frame ∧
      s.Due i time frame := by
  have hothers {log : List Stretch} {x : Stretch} (hne : x.task.id ≠ i) :
      (log ++ [x]).filter (·.task.id = i) = log.filter (·.task.id = i) := by
    simp [hne]
  have hran {x : Stretch} {n time : Nat} {frame : Frame} (hx : x.Runs (cascade n))
      (hbefore : x.before.Due i time frame) : x.after.Due i time frame :=
    hbefore.stays (hx.queued.stays.trans x.after_stays)
      (x.after_spares.now.trans hx.queued.spares.now)
  induction h with
  | start => exact ⟨_, _, .idle _ _, hdue⟩
  | @began s x log step n h hid _ hb hx ih =>
      obtain ⟨time, frame, hrounds, hd⟩ := ih
      have hne : x.task.id ≠ i := by
        have hlater := h.scheduled.forward.1.nextTask
        omega
      have hdrawn : x.before.Due i time frame := hd.stays
        (by rw [hb]; exact .appended [] (List.append_nil _).symm rfl rfl) (by rw [hb])
      exact ⟨time, frame, by rwa [hothers hne], hran hx hdrawn⟩
  | @woken s x log n h hw hb hx ih =>
      obtain ⟨time, frame, hrounds, hd⟩ := ih
      by_cases hid : x.task.id = i
      · subst hid
        obtain ⟨htask, hnow⟩ := hd.woken (h.scheduled.orderly h₀).1 hw
        have hbefore : x.before.now = time := by
          rw [hb]
          exact hnow
        obtain ⟨ms, next, hp, hmore⟩ := hrounds.extended (.inl rfl) hs hpos hx
          (congrArg Task.frame htask) hbefore
        refine ⟨time+ms, next, ?_, ?_⟩
        · rw [List.filter_append]
          simpa using hmore
        · rw [← hbefore, ← hx.queued.spares.now]
          exact Stretch.due hp htask
      · exact ⟨time, frame, by rwa [hothers hid], hran hx (hb ▸ hd.released hid)⟩
  | elapsed _ _ hready hwake ih =>
      obtain ⟨time, frame, hrounds, hd⟩ := ih
      exact ⟨time, frame, hrounds, hd.elapsed hready hwake⟩

/-- Somewhere in the stretch a poll is started that reports under a name, or one that keeps the
state in step. -/
inductive Stretch.Subscribes (x : Stretch) (u : Session) : String → Json → Sink → Prop
  | polls {name method : String} {data : Json} {a : Answer} {v : Session} :
      x.Calls (fun _ => True) cascade (runHost (.poll name method data)) u (.ok a) v →
      Subscribes x u method data (.log name)
  | follows {v : Session} : x.Calls (fun _ => True) cascade live u (.ok ()) v →
      Subscribes x u "state.load" (.object []) .state

/-- Somewhere in the stretch a task is aborted: by a name that stands for it, or because another one
is to keep the state in step. -/
inductive Stretch.Aborts (x : Stretch) (i : Nat) : Prop
  | named {name : String} {r : Except Fault Answer} {u v : Session} :
      x.Calls (fun _ => True) cascade (runHost (.abort name)) u r v →
      Table.find? u.taskIds name = some i → Aborts x i
  | replaced {u v : Session} : x.Calls (fun _ => True) cascade live u (.ok ()) v →
      u.live = some i → Aborts x i

theorem Stretch.Aborts.cancelled (h : x.Aborts i) : i ∈ x.stopped.cancelled := by
  cases h with
  | @named name r u v hcall hname =>
      obtain ⟨n, hcalled⟩ := hcall.called
      have hrun : runHost (.abort name) (cascade n) u = some (.ok .nothing, u.abort i) := by
        refine (run_bind_ok (run_change _)).trans ?_
        rw [hname]
        rfl
      cases hrun.symm.trans hcalled
      exact hcall.left.stays.cancelled (List.mem_cons_self ..)
  | @replaced u v hcall hlive =>
      obtain ⟨n, hcalled⟩ := hcall.called
      obtain ⟨f, hf, -⟩ | ⟨sub, -, -, rfl⟩ := live_follows hcalled
      · cases hf
      · refine hcall.left.stays.cancelled ?_
        rw [u.follow_cancelled, hlive]
        exact List.mem_cons_self ..

/-- A poll is started: its task is to ask at once, under the next number. -/
theorem Stretch.Subscribes.due (h : x.Subscribes u method data sink) (hx : x.before.Orderly) :
    x.before.nextTask ≤ u.nextTask ∧ u.nextTask < x.after.nextTask ∧ sink.isEndless = true ∧
      ∃ sub : Subscription, sub.Made u method data sink ∧
        x.after.Due u.nextTask u.now (.subscribe sub) := by
  have hleft {v : Session} {sub : Subscription} (hv : Queued (fun _ => True) v x.stopped)
      (hnow : v.now = u.now) (hd : v.Due u.nextTask u.now (.subscribe sub)) :
      x.after.Due u.nextTask u.now (.subscribe sub) :=
    hd.stays (hv.stays.trans x.after_stays)
      (x.after_spares.now.trans hv.spares.now)
  rw [x.after_nextTask]
  cases h with
  | @polls name method data a v hcall =>
      obtain ⟨n, hcalled⟩ := hcall.called
      obtain ⟨id, w, hw, hv⟩ | ⟨f, -, hf⟩ := bind_cases hcalled
      · obtain ⟨f, hf, -⟩ | ⟨sub, hmade, hid, rfl⟩ := poll_cases hw
        · cases hf
        · cases hid
          cases hv
          refine ⟨hcall.reached.grows.nextTask, hcall.left.grows.nextTask, rfl, sub, hmade, ?_⟩
          exact hleft hcall.left rfl
            (.ready (List.mem_append_right _ (List.mem_singleton_self _)) rfl)
      · cases hf
  | @follows v hcall =>
      obtain ⟨n, hcalled⟩ := hcall.called
      obtain ⟨f, hf, -⟩ | ⟨sub, hmade, -, rfl⟩ := live_follows hcalled
      · cases hf
      · have hstep : QueueStep (fun _ => True) u (u.follow sub) :=
          .followed (by rw [Subscription.isLive, hmade.sink])
        refine ⟨hcall.reached.grows.nextTask, ?_, rfl, sub, hmade,
          hleft hcall.left hstep.spares.now (.ready ?_ hstep.spares.now)⟩
        · exact Nat.lt_of_lt_of_le (u.follow_nextTask sub ▸ Nat.lt_succ_self _)
            hcall.left.grows.nextTask
        · have hnew : (⟨u.nextTask, .detached, .subscribe sub⟩, true) ∈
              (u.spawn .detached (.subscribe sub)).ready :=
            List.mem_append_right _ (List.mem_singleton_self _)
          unfold Session.follow Session.dismiss
          cases hl : u.live with
          | none => exact hnew
          | some old =>
              -- the subscription before has a smaller number
              have hlt : old < u.nextTask := (hcall.reached.orderly hx).drawn old (.inl hl)
              exact List.mem_filter.mpr ⟨hnew, decide_eq_true (Nat.ne_of_gt hlt)⟩

/-- A poll with an interval makes its rounds in every run at the pace of the engine: its first
request is sent at the time at which it is started, and every other one interval after the reply to
the one before was heard. So one request is under way at most. Each value that arrives is handed on
once, where it arrives, and a failure is passed over. At the end of the run the task goes on where
it has come to, unless it was aborted; if it reports what it hears, its next turn always comes to
an end. Whoever aborts the task, in whatever stretch this happens, it has no other turn. -/
theorem poll_makes_rounds (h : Paced s₀ s log) (h₀ : s₀.Orderly) (hmem : x ∈ log)
    (hx : x.Subscribes u method data sink) (hpos : 0 < u.settings.network.pollMs) :
    ∃ sub : Subscription, sub.Made u method data sink ∧
      (∃ time frame,
        Rounds sub u.now (.subscribe sub) (log.filter (·.task.id = u.nextTask)) time frame ∧
        s.Due u.nextTask time frame ∧
        ∀ name, sink = .log name → ∀ n answer v, ∃ ms next t,
          (resume frame answer).settle n v = some (.ok (.sleep ms next), t)) ∧
      ∀ a y b, log = a ++ y::b → (y.Aborts u.nextTask → u.nextTask ∈ y.stopped.cancelled) ∧
        (u.nextTask ∈ y.stopped.cancelled → ∀ z ∈ b, z.task.id ≠ u.nextTask) := by
  have hscheduled := h.scheduled
  have horder := (hscheduled.orderly h₀).2 x hmem
  obtain ⟨pre, post, hlog⟩ := List.append_of_mem hmem
  obtain ⟨hfresh, hdrawn, hendless, sub, hmade, hdue⟩ := hx.due horder.before
  have hinterval : sub.interval ≠ 0 := hmade.interval ▸ Nat.ne_of_gt hpos
  obtain ⟨time, frame, hrounds, hend⟩ := (h.since hlog).rounds horder.after
    (hmade.sink ▸ hendless) hinterval hdrawn hdue
  refine ⟨sub, hmade, ⟨time, frame, ?_, hend, fun name hname n answer v => ?_⟩,
    fun a y b hcut => ⟨fun hy => hy.cancelled, fun hi => hscheduled.silent h₀ hcut hi⟩⟩
  · -- before and where the poll is started, its task has no turn
    have hearlier : (pre ++ [x]).filter (·.task.id = u.nextTask) = [] :=
      List.filter_eq_nil_iff.mpr fun y hy => by
        simpa using hscheduled.unseen h₀ hlog hfresh y hy
    have hcut : log = (pre ++ [x]) ++ post := by
      rw [hlog, List.append_assoc]
      rfl
    rw [hcut, List.filter_append, hearlier]
    exact hrounds
  · exact runs_resume (hmade.sink.trans hname) (hrounds.serves .subscribe) answer

end

/-- The first reply fails after 5 ms. The next request is sent one interval later, and its reply is
there at once; then the poll is aborted. -/
theorem poll_makes_rounds_twice : ∃ s₀ s x y z w v u sub, Paced s₀ s [x, y, z, w, v] ∧
    s₀.Orderly ∧ x.Subscribes u "feed.get" (.object []) (.log "p") ∧
    sub.Made u "feed.get" (.object []) (.log "p") ∧ u.nextTask = 1 ∧
    (∃ time frame, Rounds sub 0 (.subscribe sub) [y, z, w] time frame ∧ s.Due 1 time frame) ∧
    (y.before.now, z.before.now, w.before.now) = (0, 5, 25) ∧
    w.stopped.trace.head? = some (.polled "p" (.bool true)) ∧
    v.Aborts 1 ∧ 1 ∈ v.stopped.cancelled ∧ s.queue = [] := by
  let failed : Except TransportFault Json := .error (.status 500 "")
  let s₀ : Session :=
    { settings := { network := { pollMs := 20 } }, transport := some .scripted,
      values := [("methods", MethodTable.single "feed.get" .get "u")],
      replies := [("u", [⟨5, failed⟩, ⟨0, .ok (.bool true)⟩])] }
  let sub : Subscription := ⟨.scripted, "u", .object [], 20, .log "p"⟩
  let task (frame : Frame) : Task := ⟨1, .detached, frame⟩
  let u : Session := { s₀ with nextTask := 1 }
  let started : Session := { (u.spawn .detached (.subscribe sub)) with taskIds := [("p", 1)] }
  let x : Stretch := ⟨⟨0, .script, .begin (.now (.host (.poll "p" "feed.get" (.object []))))⟩, true,
    u, .ok (.done .nothing), started⟩
  let sent : Session := { started with
    ready := [], replies := [("u", [⟨0, .ok (.bool true)⟩])],
    trace := [.sent true .get "u" (.object [])] }
  let y : Stretch := ⟨task (.subscribe sub), true, { started with ready := [] },
    .ok (.sleep 5 (.receiving sub (.settled failed))), sent⟩
  let z : Stretch := ⟨task (.receiving sub (.settled failed)), true, { sent with now := 5 },
    .ok (.sleep 20 (.resting sub)), { sent with now := 5, trace := .answered failed::sent.trace }⟩
  let heard : Session := { z.stopped with
    now := 25, trace := .polled "p" (.bool true)::.answered (.ok (.bool true))::
      .sent true .get "u" (.object [])::z.stopped.trace }
  let w : Stretch := ⟨task (.resting sub), true, { z.stopped with now := 25 },
    .ok (.sleep 20 (.resting sub)), heard⟩
  let v : Stretch := ⟨⟨2, .script, .begin (.now (.host (.abort "p")))⟩, true,
    { w.after with nextTask := 3 }, .ok (.done .nothing),
    { w.after with nextTask := 3 }.abort 1⟩
  have h₁ : Paced s₀ x.after [x] := Paced.start.began 3 rfl rfl rfl rfl
  have h₂ : Paced s₀ y.after [x, y] := h₁.woken 3 (.head _) rfl rfl
  have h₃ : Paced s₀ z.after [x, y, z] := (h₂.elapsed 5 rfl rfl).woken 3 (.head _) rfl rfl
  have h₄ : Paced s₀ w.after [x, y, z, w] :=
    (h₃.elapsed 25 rfl rfl).woken 3 (.head _) rfl rfl
  have h₅ : Paced s₀ v.after [x, y, z, w, v] := h₄.began 3 rfl rfl rfl rfl
  have horderly : s₀.Orderly := by
    refine ⟨⟨.nil, List.forall_mem_nil _⟩, fun i hi => ?_, List.forall_mem_nil _⟩
    rcases hi with hlive | hcancelled | ⟨name, hnamed⟩
    · cases hlive
    · cases hcancelled
    · cases hnamed
  have hx : x.Subscribes u "feed.get" (.object []) (.log "p") := .polls ⟨.refl, ⟨3, rfl⟩, .refl⟩
  have hcall : v.Calls (fun _ => True) cascade (runHost (.abort "p")) v.before (.ok .nothing)
      v.stopped := ⟨.refl, ⟨3, rfl⟩, .refl⟩
  have hv : v.Aborts 1 := .named hcall rfl
  obtain ⟨sub', hmade, ⟨time, frame, hrounds, hdue, -⟩, haborts⟩ :=
    poll_makes_rounds h₅ horderly (.head _) hx (by decide)
  exact ⟨s₀, v.after, x, y, z, w, v, u, sub', h₅, horderly, hx, hmade, rfl,
    ⟨time, frame, hrounds, hdue⟩, rfl, rfl, hv, (haborts [x, y, z, w] v [] rfl).1 hv, rfl⟩

end ScreenBinding
