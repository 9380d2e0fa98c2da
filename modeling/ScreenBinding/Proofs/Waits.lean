import ScreenBinding.Proofs.Schedule

/-!
# Where tasks come to wait

A task that does not end waits at a place from which it goes on later. Most of these places are
plain: they concern the task alone. A task comes to wait for an answer to a subscription only where
it has just sent the request, and then it belonged to this kind of subscription before: nobody else
begins to keep the state in step.
-/
namespace ScreenBinding
open Act

/-- Whether a task that waits there belongs to no subscription and cools no button down. -/
def Frame.plain : Frame → Bool
  | .paused | .swapping .. | .replying .. | .injecting .. | .deciding .. | .confirming
  | .alerting => true
  | _ => false

/-- Where a task is left waiting that keeps the state in step, or one that does not. -/
inductive Frame.Left (live : Bool) (carry : React) (t : Session) : Frame → Prop
  | plain {frame : Frame} : frame.plain = true → Left live carry t frame
  | asked {sub : Subscription} {reply : Pending} {w : Session} {delay : Nat} : sub.isLive = live →
      send sub.transport .get sub.url sub.data carry w = some (.ok (delay, reply), t) →
      Left live carry t (.receiving sub reply)
  | rests {sub : Subscription} : sub.isLive = live → Left live carry t (.resting sub)

/-- Nobody else keeps the state in step. -/
theorem Frame.Left.isLive {live : Bool} {carry : React} {t : Session} {frame : Frame}
    (h : frame.Left live carry t) (hf : frame.isLive = true) : live = true := by
  cases h with
  | plain hp => cases frame <;> first | cases hf | cases hp
  | asked hs _ => exact hs.symm.trans hf
  | rests hs => exact hs.symm.trans hf

namespace Act
variable {α : Type} {live : Bool}

/-- An act leaves its task waiting at such places only. -/
class Leaves (live : Bool) (a : Act Progress) : Prop where
  left : ∀ {carry : React} {s t : Session} {p : Progress} {frame : Frame},
    a carry s = some (.ok p, t) → p.next? = some frame → frame.Left live carry t

namespace Leaves

theorem waits {p : Progress} (h : ∀ carry t frame, p.next? = some frame →
    frame.Left live carry t) : Leaves live (pure p) where
  left ha hp := by
    cases ha
    exact h _ _ _ hp

instance done (a : Answer) : Leaves live (pure (.done a)) := waits fun _ _ _ h => nomatch h

instance throw (e : Fault) : Leaves live (throw e) where
  left h _ := by cases h

/-- The act goes on according to a value, of which something may be known. -/
theorem seq {a : Act α} {f : α → Act Progress} (P : α → Prop)
    (ha : ∀ {carry s x t}, a carry s = some (.ok x, t) → P x) (hf : ∀ x, P x → Leaves live (f x)) :
    Leaves live (a >>= f) where
  left h hp := by
    obtain ⟨x, u, hx, hu⟩ | ⟨e, -, he⟩ := bind_cases h
    · exact (hf x (ha hx)).left hu hp
    · cases he

instance bind (a : Act α) (f : α → Act Progress) [hf : ∀ x, Leaves live (f x)] :
    Leaves live (a >>= f) := seq (fun _ => True) (fun _ => trivial) fun x _ => hf x

instance ite (c : Prop) [Decidable c] (a b : Act Progress) [ha : Leaves live a]
    [hb : Leaves live b] : Leaves live (if c then a else b) := by
  split
  · exact ha
  · exact hb

theorem after {ms : Nat} {frame : Frame} {go : Act Progress}
    (h : ∀ carry t, frame.Left live carry t) [hgo : Leaves live go] :
    Leaves live (after ms frame go) := by
  unfold Act.after
  split
  · exact hgo
  · refine .waits fun carry t f hf => ?_
    cases hf
    exact h carry t

theorem awaitAnswer {k : Ticket} {frame : Frame} {go : Bool → Act Progress}
    (h : frame.plain = true) [hgo : ∀ b, Leaves live (go b)] :
    Leaves live (awaitAnswer k frame go) := by
  unfold Act.awaitAnswer
  refine @bind _ _ _ _ fun answers => ?_
  split
  · infer_instance
  · refine .waits fun carry t f hf => ?_
    cases hf
    exact .plain h

end Leaves

instance (method : String) (data : Json) (options : RemoteOptions) (next : AfterCall) :
    Leaves live (call method data options next) := by
  unfold call
  refine @Leaves.bind _ _ _ _ fun _ => @Leaves.bind _ _ _ _ fun x => ?_
  split
  · infer_instance
  · exact @Leaves.bind _ _ _ _ fun _ => .after fun _ _ => .plain rfl

instance (next : AfterReload) : Leaves live (reload next) := by unfold reload; infer_instance

instance (name : String) (remote : Bool) : Leaves live (setMode name remote) := by
  unfold setMode; infer_instance

instance (view : String) (seed : Seed) (options : StartOptions) :
    Leaves live (start view seed options) := by
  unfold start
  cases seed <;> infer_instance

instance (b : BoundForm) (data : Fields) : Leaves live (sendForm b data) := by
  unfold sendForm
  split <;> infer_instance

instance (b : BoundForm) (data : Fields) (accepted : Bool) :
    Leaves live (decided b data accepted) := by
  unfold decided; infer_instance

instance (b : BoundForm) (data : Fields) (hook : Inject Command) :
    Leaves live (inject b data hook) := by
  unfold inject
  refine @Leaves.bind _ _ _ _ fun _ => ?_
  split
  · infer_instance
  · refine @Leaves.bind _ _ _ _ fun _ => @Leaves.bind _ _ _ _ fun x => ?_
    split
    · exact .awaitAnswer rfl
    · infer_instance

instance (b : BoundForm) : Leaves live (submit b) := by
  unfold submit judged
  refine @Leaves.bind _ _ _ _ fun _ => @Leaves.bind _ _ _ _ fun _ => ?_
  refine @Leaves.ite _ _ _ _ _ inferInstance (@Leaves.bind _ _ _ _ fun _ => ?_)
  split
  · exact @Leaves.bind _ _ _ _ fun _ => .after fun _ _ => .plain rfl
  · infer_instance

/-- A subscription stays what it is when an item is handed on. -/
theorem deliver_isLive {sub sub' : Subscription} {item : Except TransportFault Json}
    {carry : React} {s t : Session}
    (h : deliver sub item carry s = some (.ok (.inr sub'), t)) : sub'.isLive = sub.isLive := by
  have hsame {a : Act Unit} (ha : (do a; return .inr sub : Act (Sum Answer Subscription)) carry s =
      some (.ok (.inr sub'), t)) : sub' = sub := by
    obtain ⟨_, u, -, hu⟩ | ⟨e, -, he⟩ := bind_cases ha
    · cases hu
      rfl
    · cases he
  unfold deliver at h
  cases hsink : sub.sink with
  | collect missing items =>
      rw [hsink] at h
      dsimp only at h
      split at h
      · cases h
      · cases h
        simp [Subscription.isLive, hsink]
  | _ =>
      rw [hsink] at h
      cases item with
      | ok v => rw [hsame h]
      | error why =>
          cases h
          rfl

/-- A subscription goes on and comes to wait somewhere: there is its request, if it has just been
sent. -/
theorem onward_left {carry : React} {k ms : Nat} {s t : Session} {p : Progress} {frame next : Frame}
    (hf : (∃ sub : Subscription, sub.isLive = live ∧ frame = .resting sub) ∨
      ∃ sub : Subscription, sub.isLive = live ∧ ∃ reply, frame = .receiving sub reply)
    (hw : k = 0 ∨ ms ≠ 0 → frame.Left live carry s)
    (h : onward k ms frame carry s = some (.ok p, t)) (hp : p.next? = some next) :
    next.Left live carry t := by
  induction k generalizing ms frame s with
  | zero =>
      cases h
      cases hp
      exact hw (.inl rfl)
  | succ k ih =>
      by_cases hms : ms = 0
      · subst hms
        obtain ⟨sub, hsub, rfl⟩ | ⟨sub, hsub, reply, rfl⟩ := hf
        · obtain ⟨⟨delay, reply⟩, u, hu, ht⟩ | ⟨e, -, he⟩ := bind_cases h
          · exact ih (.inr ⟨sub, hsub, reply, rfl⟩) (fun _ => .asked hsub hu) ht
          · cases he
        · obtain ⟨item, u, -, ht⟩ | ⟨e, -, he⟩ := bind_cases h
          · obtain ⟨x, w, hx, ht⟩ | ⟨e, -, he⟩ := bind_cases ht
            · cases x with
              | inl a =>
                  cases ht
                  cases hp
              | inr sub' =>
                  have hsub' := (deliver_isLive hx).trans hsub
                  exact ih (.inl ⟨sub', hsub', rfl⟩) (fun _ => .rests hsub') ht
            · cases he
          · cases he
      · rw [onward_wait (.inr hms)] at h
        cases h
        cases hp
        exact hw (.inr hms)

theorem leaves_proceed {frame : Frame}
    (hf : (∃ sub : Subscription, sub.isLive = live ∧ frame = .resting sub) ∨
      ∃ sub : Subscription, sub.isLive = live ∧ ∃ reply, frame = .receiving sub reply) :
    Leaves live (proceed frame) where
  left h hp := by
    refine onward_left hf (fun hw => ?_) ((run_bind_ok (run_gets _)).symm.trans h) hp
    exact (hw.elim (Nat.succ_ne_zero _) fun h => h rfl).elim

theorem leaves_ask (sub : Subscription) : Leaves sub.isLive (ask sub) := by
  unfold ask
  split
  · infer_instance
  · exact leaves_proceed (.inl ⟨sub, rfl, rfl⟩)

theorem leaves_arrive (sub : Subscription) (reply : Pending) :
    Leaves sub.isLive (arrive sub reply) :=
  leaves_proceed (.inr ⟨sub, rfl, reply, rfl⟩)

instance (step : Step) : Leaves false (begin step) := by
  cases step with
  | wait ms => exact .after fun _ _ => .plain rfl
  | swap name args =>
      refine @Leaves.bind _ _ _ _ fun _ => .waits fun carry t frame h => ?_
      cases h
      exact .plain rfl
  | confirm name previous next => exact @Leaves.bind _ _ _ _ fun _ => .awaitAnswer rfl
  | alert name title message => exact @Leaves.bind _ _ _ _ fun _ => .awaitAnswer rfl
  | socket method url data interval take =>
      unfold begin
      have hask : Leaves false (do ask (← subscribe url data interval (.collect take []))) := by
        refine .seq (fun sub => sub.isLive = false) (fun {carry s sub t} h => ?_) fun sub hsub =>
          hsub ▸ leaves_ask sub
        obtain ⟨way, -, rfl⟩ := (subscribe_cases h).2 sub rfl
        rfl
      exact @Leaves.ite _ _ _ _ _ (.bind _ _) hask
  | _ => unfold begin; infer_instance

/-- A task keeps the state in step only if it did so before; and only a button that is about to
cool down leaves its task waiting for it. -/
theorem leaves_resume (frame : Frame) (answer : Bool) (h : ∀ e, frame ≠ .cooldown e) :
    Leaves frame.isLive (resume frame answer) := by
  cases frame with
  | begin step => exact inferInstanceAs (Leaves false (begin step))
  | cooldown e => exact (h e rfl).elim
  | subscribe sub => exact leaves_ask sub
  | receiving sub reply => exact leaves_arrive sub reply
  | resting sub => exact leaves_ask sub
  | _ => unfold resume; infer_instance

end Act

/-- Where a stretch leaves its task. -/
theorem Stretch.Runs.left {carry : React} {x : Stretch} {next : Frame} (hx : x.Runs carry)
    (hnext : x.next? = some next) : next.Left x.task.frame.isLive carry x.stopped ∨
      ∃ e, x.task.frame = .cooldown e ∧ next = .cool e := by
  obtain ⟨task, answer, before, result, stopped⟩ := x
  rcases result with f | p
  · cases hnext
  · by_cases hf : ∃ e, task.frame = .cooldown e
    · obtain ⟨e, hf⟩ := hf
      rw [Runs, hf] at hx
      cases hx
      cases hnext
      exact .inr ⟨e, hf, rfl⟩
    · exact .inl ((leaves_resume task.frame answer fun e he => hf ⟨e, he⟩).left hx hnext)
end ScreenBinding
