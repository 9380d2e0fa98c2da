import ScreenBinding.Proofs.LiveResponses

/-!
# One subscription that keeps the state in step

A call for the state to be kept in step spawns a new subscription and aborts the one before. The
session holds the number of the last one, and every task that waits in the place of such a
subscription has this number: a step that spawns another one takes the earlier out of the queue,
wherever it waits, and what runs at that time is kept from waiting again. So at most one
subscription is active at any time, over any number of calls and answers of any delay.

What an abort does not do is to stop a turn that has begun. If a listener makes the call while an
earlier subscription delivers its response, the rest of this response is still written, and a
subscription without an interval goes on to ask, and to take over what is answered without delay,
until its task comes to wait.
-/
namespace ScreenBinding
open Act

namespace Session

/-- Whoever waits to keep the state in step is the one that the application knows. -/
structure Followed (s : Session) : Prop where
  drawn : ∀ i, s.live = some i → i < s.nextTask
  sole : ∀ w ∈ s.queue, w.frame.isLive = true → s.live = some w.id

/-- Who keeps the state in step is replaced only by somebody new, and is cancelled then. -/
structure Forward (s t : Session) : Prop where
  nextTask : s.nextTask ≤ t.nextTask
  cancelled : s.cancelled ⊆ t.cancelled
  live : t.live = s.live ∨
    (∃ j, t.live = some j ∧ s.nextTask ≤ j) ∧ ∀ i, s.live = some i → i ∈ t.cancelled

variable {s t u : Session} {sub : Subscription}

theorem Forward.kept (hn : t.nextTask = s.nextTask) (hc : s.cancelled ⊆ t.cancelled)
    (hl : t.live = s.live) : s.Forward t := ⟨Nat.le_of_eq hn.symm, hc, .inl hl⟩

theorem Forward.trans (h : s.Forward t) (k : t.Forward u) : s.Forward u where
  nextTask := Nat.le_trans h.nextTask k.nextTask
  cancelled := List.Subset.trans h.cancelled k.cancelled
  live := by
    rcases h.live with hsame | ⟨⟨j, hj, hge⟩, hc⟩ <;>
      rcases k.live with ksame | ⟨⟨l, hl, kge⟩, kc⟩
    · exact .inl (ksame.trans hsame)
    · exact .inr ⟨⟨l, hl, Nat.le_trans h.nextTask kge⟩, fun i hi => kc i (hsame.trans hi)⟩
    · exact .inr ⟨⟨j, ksame.trans hj, hge⟩, fun i hi => k.cancelled (hc i hi)⟩
    · exact .inr ⟨⟨l, hl, Nat.le_trans h.nextTask kge⟩, fun i hi => k.cancelled (hc i hi)⟩

theorem follow_cancelled (s : Session) (sub : Subscription) :
    (s.follow sub).cancelled = s.live.toList ++ s.cancelled := by
  unfold follow dismiss
  cases s.live <;> rfl

/-- The new subscription waits, and the one before does not. -/
theorem mem_follow {w : Task} : w ∈ (s.follow sub).queue ↔
    (w = ⟨s.nextTask, .detached, .subscribe sub⟩ ∨ w ∈ s.queue) ∧ s.live ≠ some w.id := by
  have hspawn := (s.spawn_queue .detached (.subscribe sub)).mem_iff (a := w)
  rw [List.mem_cons] at hspawn
  cases hl : s.live with
  | none =>
      have hq : (s.follow sub).queue = (s.spawn .detached (.subscribe sub)).queue := by
        rw [follow, hl]
        rfl
      rw [hq, hspawn]
      simp
  | some i =>
      have hq : (s.follow sub).queue = ((s.spawn .detached (.subscribe sub)).abort i).queue := by
        rw [follow, hl]
        rfl
      rw [hq, mem_abort, hspawn]
      simp [eq_comm]

theorem Followed.subset (h : s.Followed) (hq : ∀ w ∈ t.queue, w.frame.isLive = true → w ∈ s.queue)
    (hn : s.nextTask ≤ t.nextTask) (hl : t.live = s.live) : t.Followed where
  drawn i hi := Nat.lt_of_lt_of_le (h.drawn i (hl ▸ hi)) hn
  sole w hw hf := hl ▸ h.sole w (hq w hw hf) hf

end Session

section
variable {free : ElementRef → Prop} {s t : Session}

theorem QueueStep.forward (h : QueueStep free s t) : s.Forward t := by
  cases h with
  | aside h => exact .kept h.nextTask (h.cancelled ▸ List.Subset.refl _) h.live
  | enlisted name role _ => exact ⟨Nat.le_succ _, List.Subset.refl _, .inl rfl⟩
  | pressed => exact ⟨Nat.le_add_right _ 2, List.Subset.refl _, .inl rfl⟩
  | @followed sub _ =>
      refine ⟨s.follow_nextTask sub ▸ Nat.le_succ _, ?_, .inr ⟨⟨_, rfl, Nat.le_refl _⟩, ?_⟩⟩
      · exact s.follow_cancelled sub ▸ List.subset_append_right _ _
      · intro i hi
        rw [s.follow_cancelled sub, hi]
        exact List.mem_cons_self ..
  | resolved k b =>
      unfold Session.resolve
      split <;> exact .kept rfl (List.Subset.refl _) rfl
  | aborted => exact .kept rfl (List.subset_cons_self _ _) rfl
  | switched => exact .kept rfl (List.Subset.refl _) rfl

theorem Queued.forward (h : Queued free s t) : s.Forward t := by
  induction h with
  | refl => exact .kept rfl (List.Subset.refl _) rfl
  | tail _ hstep ih => exact ih.trans hstep.forward

theorem QueueStep.keeps_followed (h : QueueStep free s t) (hs : s.Followed) : t.Followed := by
  have hforward := h.forward
  cases h with
  | aside h => exact hs.subset (fun w hw _ => h.queue ▸ hw) hforward.nextTask h.live
  | enlisted name role hf =>
      refine hs.subset (fun w hw hlive => ?_) hforward.nextTask rfl
      rcases List.mem_cons.mp ((s.spawn_queue role _).subset hw) with rfl | hw
      · cases (Frame.isLive_of_enlists hf).symm.trans hlive
      · exact hw
  | @pressed b e =>
      refine hs.subset (fun w hw hlive => ?_) hforward.nextTask rfl
      rcases List.mem_append.mp ((s.press_queue b _).subset hw) with hnew | hw
      · rcases List.mem_pair.mp hnew with rfl | rfl <;> cases hlive
      · exact hw
  | @followed sub _ =>
      refine ⟨fun i hi => ?_, fun w hw hlive => ?_⟩
      · cases hi
        exact s.follow_nextTask sub ▸ Nat.lt_succ_self _
      · obtain ⟨rfl | hw, hne⟩ := Session.mem_follow.mp hw
        · rfl
        · exact (hne (hs.sole w hw hlive)).elim
  | resolved k b =>
      refine hs.subset (fun w hw _ => (s.resolve_queue k b).subset hw) hforward.nextTask ?_
      unfold Session.resolve
      split <;> rfl
  | aborted => exact hs.subset (fun w hw _ => (s.abort_queue _).subset hw) hforward.nextTask rfl
  | switched => exact hs.subset (fun w hw _ => hw) hforward.nextTask rfl

theorem Queued.keeps_followed (h : Queued free s t) (hs : s.Followed) : t.Followed := by
  induction h with
  | refl => exact hs
  | tail _ hstep ih => exact hstep.keeps_followed ih

end

namespace Stretch
variable {n : Nat} {x : Stretch}

theorem after_live (x : Stretch) : x.after.live = x.stopped.live := by
  rw [after, x.stopped.record_eq]

theorem after_forward (x : Stretch) : x.stopped.Forward x.after :=
  .kept x.after_nextTask (by rw [after, x.stopped.record_eq]; exact List.Subset.refl _) x.after_live

/-- A task that keeps the state in step is still the one when it waits again, or it was cancelled
in its own turn and waits no more. -/
theorem Runs.followed (hx : x.Runs (cascade n)) (hs : x.before.Followed)
    (hl : x.task.frame.isLive = true → x.before.live = some x.task.id) : x.after.Followed := by
  have hstopped : x.stopped.Followed := hx.queued.keeps_followed hs
  refine ⟨fun i hi => ?_, fun w hw hlive => ?_⟩
  · exact x.after_nextTask ▸ hstopped.drawn i (x.after_live ▸ hi)
  · rw [x.after_live]
    rcases List.mem_append.mp (x.after_queue.subset hw) with hw | hw
    · obtain ⟨hkept, next, hnext, rfl⟩ := mem_waits.mp hw
      obtain hleft | ⟨e, -, rfl⟩ := hx.left hnext
      · have hbefore := hl (hleft.isLive hlive)
        rcases hx.queued.forward.live with hsame | ⟨-, hcancelled⟩
        · exact hsame.trans hbefore
        · exact (hkept (hcancelled _ hbefore)).elim
      · cases hlive
    · exact hstopped.sole w hw hlive

end Stretch

section
variable {s₀ s t v : Session} {log pre post : List Stretch} {x : Stretch} {i k : Nat}

theorem Session.Idles.live (h : s.Idles t) : t.live = s.live := by rw [h]

theorem Session.Idles.forward (h : s.Idles t) (hn : s.nextTask ≤ t.nextTask) : s.Forward t := by
  refine ⟨hn, ?_, .inl h.live⟩
  rw [h]
  exact List.Subset.refl _

theorem Session.Followed.idles (h : s.Followed) (ht : s.Idles t) (hn : s.nextTask ≤ t.nextTask)
    (hq : t.queue ⊆ s.queue) : t.Followed :=
  h.subset (fun _ hw _ => hq hw) hn ht.live

/-- In every run, one task at most keeps the state in step, and it is the one that is known. -/
theorem Scheduled.followed (h : Scheduled s₀ s log) (h₀ : s₀.queue = []) (hlive : s₀.live = none) :
    s.Followed ∧ ∀ x ∈ log, x.before.Followed ∧
      (x.task.frame.isLive = true → x.before.live = some x.task.id) := by
  have hextend {log : List Stretch} {x : Stretch} {n : Nat} (hx : x.Runs (cascade n))
      (hlog : ∀ y ∈ log, y.before.Followed ∧
        (y.task.frame.isLive = true → y.before.live = some y.task.id))
      (hbefore : x.before.Followed)
      (hl : x.task.frame.isLive = true → x.before.live = some x.task.id) :
      x.after.Followed ∧ ∀ y ∈ log ++ [x], y.before.Followed ∧
        (y.task.frame.isLive = true → y.before.live = some y.task.id) := by
    refine ⟨hx.followed hbefore hl, fun y hy => ?_⟩
    rcases List.mem_append.mp hy with hy | hy
    · exact hlog y hy
    · obtain rfl := List.mem_singleton.mp hy
      exact ⟨hbefore, hl⟩
  induction h with
  | start =>
      refine ⟨⟨fun i hi => ?_, fun w hw => ?_⟩, List.forall_mem_nil _⟩
      · cases hlive.symm.trans hi
      · cases h₀ ▸ hw
  | @began s x log step n _ hid hf hb hx ih =>
      have hidles : s.Idles x.before := by rw [hb]; rfl
      refine hextend hx ih.2 (ih.1.idles hidles ?_ ?_) fun hl => ?_
      · rw [hb]
        exact Nat.le_succ _
      · rw [hb]
        exact List.Subset.refl _
      · rw [hf] at hl
        cases hl
  | resumed n _ hb hx ih =>
      have hmem := hb.queue.subset
      refine hextend hx ih.2 (ih.1.idles hb.idles (Nat.le_of_eq hb.nextTask.symm) ?_) fun hl => ?_
      · exact fun w hw => hmem (List.mem_cons_of_mem _ hw)
      · exact hb.idles.live.trans (ih.1.sole _ (hmem (List.mem_cons_self ..)) hl)
  | rested _ ht ih =>
      exact ⟨ih.1.idles ht.idles (Nat.le_of_eq ht.nextTask.symm) ht.queue.subset, ih.2⟩

theorem Scheduled.forward (h : Scheduled s t log) :
    s.Forward t ∧ ∀ y ∈ log, s.Forward y.before := by
  have hextend {log : List Stretch} {x : Stretch} {n : Nat} (hx : x.Runs (cascade n))
      (hlog : ∀ y ∈ log, s.Forward y.before) (hbefore : s.Forward x.before) :
      s.Forward x.after ∧ ∀ y ∈ log ++ [x], s.Forward y.before := by
    refine ⟨(hbefore.trans hx.queued.forward).trans x.after_forward, fun y hy => ?_⟩
    rcases List.mem_append.mp hy with hy | hy
    · exact hlog y hy
    · obtain rfl := List.mem_singleton.mp hy
      exact hbefore
  induction h with
  | start => exact ⟨.kept rfl (List.Subset.refl _) rfl, List.forall_mem_nil _⟩
  | @began u x log step n _ hid hf hb hx ih =>
      have hidles : u.Idles x.before := by rw [hb]; rfl
      have hnext : u.nextTask ≤ x.before.nextTask := by
        rw [hb]
        exact Nat.le_succ _
      exact hextend hx ih.2 (ih.1.trans (hidles.forward hnext))
  | resumed n _ hb hx ih =>
      exact hextend hx ih.2 (ih.1.trans (hb.idles.forward (Nat.le_of_eq hb.nextTask.symm)))
  | rested _ ht ih =>
      exact ⟨ih.1.trans (ht.idles.forward (Nat.le_of_eq ht.nextTask.symm)), ih.2⟩

/-- Who keeps the state in step later is no older. -/
theorem Session.Forward.newer (h : v.Forward t) (hv : v.live = some k) (hk : k ≤ v.nextTask)
    (ht : t.live = some i) : k ≤ i := by
  obtain hsame | ⟨⟨j, hj, hge⟩, -⟩ := h.live
  · cases (hsame.trans hv).symm.trans ht
    exact Nat.le_refl _
  · cases hj.symm.trans ht
    exact Nat.le_trans hk hge

/-- The turn of a task that keeps the state in step: it asks, or first takes over an answer. -/
inductive Stretch.Turn (carry : React) (x : Stretch) : Prop
  | asks {sub : Subscription} {p : Progress} : sub.sink = .state →
      x.task.frame = .subscribe sub ∨ x.task.frame = .resting sub → x.result = .ok p →
      Polls carry sub x.before p x.stopped → Turn carry x
  | hears {sub : Subscription} {reply : Pending} {p : Progress} : sub.sink = .state →
      x.task.frame = .receiving sub reply → x.result = .ok p →
      Arrives carry sub reply x.before p x.stopped → Turn carry x

theorem Subscription.isLive_iff {sub : Subscription} : sub.isLive = true ↔ sub.sink = .state := by
  unfold isLive
  cases sub.sink <;> simp

theorem Stretch.Runs.turn {n : Nat} (hx : x.Runs (cascade n)) (hf : x.task.frame.isLive = true) :
    x.Turn (cascade n) := by
  obtain ⟨⟨id, role, frame⟩, answer, before, result, stopped⟩ := x
  cases frame with
  | subscribe sub =>
      have hs := Subscription.isLive_iff.mp hf
      obtain ⟨p, hp, hpolls⟩ := ask_cases hs hx
      exact .asks hs (.inl rfl) hp hpolls
  | resting sub =>
      have hs := Subscription.isLive_iff.mp hf
      obtain ⟨p, hp, hpolls⟩ := ask_cases hs hx
      exact .asks hs (.inr rfl) hp hpolls
  | receiving sub reply =>
      have hs := Subscription.isLive_iff.mp hf
      obtain ⟨p, hp, harrives⟩ := arrive_cases hs hx
      exact .hears hs rfl hp harrives
  | _ => cases hf

/-- In every run, one task at most keeps the state in step at any time. A call that fails changes
nothing. After a call that succeeds a new subscription waits to ask, and none that was there before
the call goes on: neither is it among those who wait, nor has it another turn. Only if the call is
made in the turn of the earlier subscription itself, this turn is brought to its end. -/
theorem earlier_subscriptions_end (h : Scheduled s₀ s log) (h₀ : s₀.queue = [])
    (hlive : s₀.live = none) :
    (∀ w ∈ s.queue, ∀ w' ∈ s.queue, w.frame.isLive = true → w'.frame.isLive = true → w = w') ∧
    ∀ pre x post, log = pre ++ x::post →
      (x.task.frame.isLive = true →
        (∀ w ∈ x.before.queue, w.frame.isLive = false) ∧ ∃ n, x.Turn (cascade n)) ∧
      ∀ u r v, x.Calls (fun _ => True) cascade live u r v →
        (∀ f, r = .error f → v = u) ∧
        (r = .ok () →
          (x.task.id < u.nextTask ∧ ∀ w ∈ u.queue, w.id < u.nextTask) ∧
          (∃ sub : Subscription, sub.isLive = true ∧
            ⟨u.nextTask, .detached, .subscribe sub⟩ ∈ v.queue) ∧
          (∀ w ∈ v.queue ++ x.after.queue ++ s.queue, w.frame.isLive = true →
            u.nextTask ≤ w.id) ∧
          ∀ y ∈ post, y.task.frame.isLive = true → u.nextTask ≤ y.task.id) := by
  obtain ⟨hs, hstretches⟩ := h.followed h₀ hlive
  refine ⟨fun w hw w' hw' hl hl' => ?_, fun pre x post hlog => ?_⟩
  · have hid : w.id = w'.id := Option.some.inj ((hs.sole w hw hl).symm.trans (hs.sole w' hw' hl'))
    exact List.inj_on_of_nodup_map (h.woven h₀).tidy.distinct hw hw' hid
  · have hmem : x ∈ log := hlog ▸ List.mem_append_right _ (List.mem_cons_self ..)
    obtain ⟨hbefore, hrunning⟩ := hstretches x hmem
    obtain ⟨hwoven, hothers, hdrawn⟩ := h.parted h₀ hlog
    obtain ⟨n, hx⟩ := h.interleaved.runs hmem
    refine ⟨fun hf => ⟨fun w hw => ?_, n, hx.turn hf⟩, fun u r v hcall => ?_⟩
    · by_contra hl
      have hknown := hbefore.sole w hw (by simpa using hl)
      exact hothers w hw (Option.some.inj (hknown.symm.trans (hrunning hf)))
    · obtain ⟨hreached, ⟨m, hcalled⟩, hleft⟩ := hcall
      obtain ⟨f, rfl, rfl⟩ | ⟨sub, hsub, rfl, rfl⟩ := live_cases hcalled
      · exact ⟨fun _ _ => rfl, fun hok => nomatch hok⟩
      · refine ⟨fun _ hf => (nomatch hf), fun _ => ?_⟩
        have hu : u.Followed := hreached.keeps_followed hbefore
        have htidy : u.Tidy := hwoven.tidy.grows hreached.grows
        have hcurrent : (u.follow sub).live = some u.nextTask := rfl
        have hknown : u.nextTask ≤ (u.follow sub).nextTask :=
          u.follow_nextTask sub ▸ Nat.le_succ _
        have hstep : QueueStep (fun _ => True) u (u.follow sub) := .followed hsub
        have hv : (u.follow sub).Followed := hstep.keeps_followed hu
        have hafter : (u.follow sub).Forward x.after := hleft.forward.trans x.after_forward
        obtain ⟨hend, hlater⟩ := (h.since hlog).forward
        refine ⟨⟨?_, htidy.drawn⟩, ⟨sub, hsub, ?_⟩, fun w hw hl => ?_, fun y hy hl => ?_⟩
        · exact Nat.lt_of_lt_of_le hdrawn hreached.forward.nextTask
        · exact Session.mem_follow.mpr ⟨.inl rfl, fun hi => Nat.lt_irrefl _ (hu.drawn _ hi)⟩
        · rw [List.append_assoc, List.mem_append, List.mem_append] at hw
          rcases hw with hw | hw | hw
          · exact Nat.le_of_eq (Option.some.inj (hcurrent.symm.trans (hv.sole w hw hl)))
          · exact hafter.newer hcurrent hknown ((hx.followed hbefore hrunning).sole w hw hl)
          · exact (hafter.trans hend).newer hcurrent hknown (hs.sole w hw hl)
        · have hy' : y ∈ log := hlog ▸ List.mem_append_right _ (List.mem_cons_of_mem _ hy)
          exact (hafter.trans (hlater y hy)).newer hcurrent hknown ((hstretches y hy').2 hl)

end

/-- A subscription waits for its answer when a second call is made. The second one then asks, and
it waits alone. -/
theorem earlier_subscriptions_end_waiting : ∃ s₀ s x z y w u v, Scheduled s₀ s [x, z, y, w] ∧
    z.next?.any Frame.isLive = true ∧ z.task.id = 1 ∧
    y.Calls (fun _ => True) cascade live u (.ok ()) v ∧ u.nextTask = 3 ∧
    (∀ t ∈ s.queue, t.frame.isLive = true → 3 ≤ t.id) ∧ w.task.frame.isLive = true ∧
    3 ≤ w.task.id ∧ s.queue.map Task.id = [3] := by
  let answer : Except TransportFault Json := .ok (.object [("user", .string "old")])
  let s₀ : Session :=
    { transport := some .scripted, replies := [("u", [⟨9, answer⟩])],
      values := [("methods", MethodTable.single "state.load" .get "u")] }
  let sub : Subscription := ⟨.scripted, "u", .object [], 30000, .state⟩
  let asked : Session := { s₀ with
    live := some 1, nextTask := 2,
    sleeping := [(9, ⟨1, .detached, .receiving sub (.settled answer)⟩)],
    trace := [.sent true .get "u" (.object [])] }
  let u : Session := { asked with nextTask := 3 }
  let y : Stretch := ⟨⟨2, .script, .begin (.now (.host .live))⟩, true, u, .ok (.done .nothing),
    u.follow sub⟩
  have h₀ : Scheduled s₀ s₀ [] := .start
  have h₁ := h₀.begun (.now (.host .live)) 3 .script true rfl
  have h₂ : Scheduled s₀ asked _ := h₁.woken ⟨1, .detached, .subscribe sub⟩ true 3 (.head _) rfl
  have h₃ : Scheduled s₀ y.after _ := h₂.began (x := y) 3 rfl rfl rfl rfl
  have h₄ := h₃.woken ⟨3, .detached, .subscribe sub⟩ true 3 (.head _) rfl
  have hcalls : y.Calls (fun _ => True) cascade live u (.ok ()) (u.follow sub) :=
    ⟨.refl, ⟨3, rfl⟩, .refl⟩
  have hends := ((earlier_subscriptions_end h₄ rfl rfl).2 [_, _] _ [_] rfl).2 _ _ _ hcalls
  obtain ⟨-, -, hwaiting, hlater⟩ := hends.2 rfl
  refine ⟨s₀, _, _, _, _, _, _, _, h₄, rfl, rfl, hcalls, rfl, fun t ht hl => ?_,
    rfl, hlater _ (List.mem_singleton_self _) rfl, rfl⟩
  exact hwaiting t (List.mem_append_right _ ht) hl

/-- A subscription with no interval delivers a response, and a listener makes the next call, which
succeeds. Before its turn is over, the subscription asks again, hears the answer, which is there at
once, and asks once more. -/
theorem replaced_subscription_asks_again : ∃ s₀ s x z y u v sub reply next,
    Scheduled s₀ s [x, z, y] ∧ s₀.queue = [] ∧ s₀.live = none ∧
    y.task.frame = .receiving sub reply ∧ y.before.live = some y.task.id ∧
    y.Calls (fun _ => True) cascade live u (.ok ()) v ∧ v.live ≠ some y.task.id ∧
    y.next? = some (.receiving sub next) ∧
    y.stopped.trace = .sent true .get sub.url sub.data::.answered (.ok .null)::
      .sent true .get sub.url sub.data::v.trace := by
  let answer : Except TransportFault Json := .ok (.object [("k", .bool true)])
  let s₀ : Session :=
    { settings := { network := { pollMs := 0 } }, transport := some .scripted,
      values := [("methods", MethodTable.single "state.load" .get "u")],
      listeners := [("k", .report "L" [.host .live])],
      replies := [("u", [⟨9, answer⟩, ⟨0, .ok .null⟩, ⟨1000, .ok .null⟩])] }
  let sub : Subscription := ⟨.scripted, "u", .object [], 0, .state⟩
  let heard : Session := { s₀ with
    replies := [("u", [⟨0, .ok .null⟩, ⟨1000, .ok .null⟩])], live := some 1, nextTask := 2,
    now := 9, values := s₀.values ++ [("k", .bool true)],
    trace := [.heard "L" "k" (.bool true) none, .stored "k" (.bool true) none, .answered answer,
      .sent true .get "u" (.object [])] }
  have h₀ : Scheduled s₀ s₀ [] := .start
  have h₁ := h₀.begun (.now (.host .live)) 5 .script true rfl
  have h₂ := h₁.woken ⟨1, .detached, .subscribe sub⟩ true 5 (.head _) rfl
  have hturn : resume (.receiving sub (.settled answer)) true (cascade 5)
      { heard with values := s₀.values, trace := [.sent true .get "u" (.object [])] } =
    some (.ok (.sleep 1000 (.receiving sub (.settled (.ok .null)))),
      { heard.follow sub with
        replies := [("u", [⟨1000, .ok .null⟩])]
        trace := .sent true .get "u" (.object [])::.answered (.ok .null)::
          .sent true .get "u" (.object [])::heard.trace }) := rfl
  have h₃ := (h₂.rested (Session.elapse_rests _ 9)).woken
    ⟨1, .detached, .receiving sub (.settled answer)⟩ true 5 (.head _) hturn
  refine ⟨s₀, _, _, _, _, heard, heard.follow sub, sub, _, _, h₃, rfl, rfl, rfl, rfl,
    ⟨.single (.aside (.apart rfl)), ⟨5, rfl⟩, .single (.aside (.apart rfl))⟩, ?_, rfl,
    rfl⟩
  exact fun h => nomatch h

end ScreenBinding
