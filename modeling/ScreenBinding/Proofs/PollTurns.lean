import ScreenBinding.Proofs.CallActs
import ScreenBinding.Proofs.Reloads

/-!
# Turns of a subscription

A subscription that does not collect its items has no end of its own. In a turn it sends a request,
or hears the reply to the one that it has sent: a value is handed on, a failure is passed over. Then
it rests for its interval before it asks again. A reply without a delay is heard in the turn in
which it was asked for, and without an interval the next request is sent in this turn as well. So a
turn goes on until there is a time to wait, or until it has passed so many waits of no time that
others come first.

A turn that ends has no fault. What a value brings about may not end if it is laid over the state,
where listeners are called; a value that is only reported always lets the turn end.
-/
namespace ScreenBinding

/-- The items are handed on one by one, without an end. -/
def Sink.isEndless : Sink → Bool
  | .collect .. => false
  | _ => true

/-- A subscription goes on there. -/
inductive Frame.Serves (sub : Subscription) : Frame → Prop
  | subscribe : Serves sub (.subscribe sub)
  | receiving (reply : Pending) : Serves sub (.receiving sub reply)
  | resting : Serves sub (.resting sub)

namespace Act

/-- Hands a value on. -/
def handOn : Sink → Json → Act Unit
  | .log id, v => emit (.polled id v)
  | .state, v => applyState v
  | .collect .., _ => return ()

/-- Hears a reply and hands on a value. -/
def passOn (sink : Sink) (reply : Pending) : Act Unit := do
  match ← receive reply with
  | .ok v => handOn sink v
  | .error _ => return ()

/-- A reply is heard: a value is handed on once, a failure is passed over. -/
inductive Delivers (carry : React) (sink : Sink) (reply : Pending) (s : Session) : Session → Prop
  | handed {v : Json} {t : Session} : reply.answer s = .ok v →
      handOn sink v carry (s.retrace (.answered (.ok v)::s.trace)) = some (.ok (), t) →
      Delivers carry sink reply s t
  | passed {why : TransportFault} : reply.answer s = .error why →
      Delivers carry sink reply s (s.retrace (.answered (.error why)::s.trace))

/-- A subscription goes on from where it waits: a reply without a delay is heard, and without an
interval the next request is sent. It comes to wait where there is a time to wait, or after `n`
steps. -/
inductive RunsOn (carry : React) (sub : Subscription) (Hears : Pending → Session → Session → Prop) :
    Nat → Nat → Frame → Session → Progress → Session → Prop
  | waits {n ms : Nat} {frame : Frame} {s : Session} : n = 0 ∨ ms ≠ 0 →
      RunsOn carry sub Hears n ms frame s (.sleep ms frame) s
  | hears {n : Nat} {reply : Pending} {p : Progress} {s t u : Session} : Hears reply s t →
      RunsOn carry sub Hears n sub.interval (.resting sub) t p u →
      RunsOn carry sub Hears (n+1) 0 (.receiving sub reply) s p u
  | asks {n delay : Nat} {reply : Pending} {p : Progress} {s t u : Session} :
      send sub.transport .get sub.url sub.data carry s = some (.ok (delay, reply), t) →
      RunsOn carry sub Hears n delay (.receiving sub reply) t p u →
      RunsOn carry sub Hears (n+1) 0 (.resting sub) s p u

/-- A subscription with an interval inquires: it waits for the reply to its request, or hears it at
once. -/
inductive Inquires (carry : React) (sub : Subscription) (s : Session) : Progress → Session → Prop
  | waits {delay : Nat} {reply : Pending} {t : Session} : delay ≠ 0 →
      send sub.transport .get sub.url sub.data carry s = some (.ok (delay, reply), t) →
      Inquires carry sub s (.sleep delay (.receiving sub reply)) t
  | hears {reply : Pending} {t u : Session} :
      send sub.transport .get sub.url sub.data carry s = some (.ok (0, reply), t) →
      Delivers carry sub.sink reply t u →
      Inquires carry sub s (.sleep sub.interval (.resting sub)) u

section
variable {k n ms : Nat} {carry : React} {sub : Subscription} {reply : Pending} {s t u : Session}
  {x : Except Fault Progress} {p : Progress} {frame : Frame} {answer : Bool}
  {Hears Hears' : Pending → Session → Session → Prop}

/-- What is delivered is handed on, and the subscription goes on as before. -/
theorem deliver_endless (h : sub.sink.isEndless = true) (go : Subscription → Act Progress) : (do
    match ← deliver sub (← receive reply) with
    | .inl a => return .done a
    | .inr sub => go sub) = (do
      passOn sub.sink reply
      go sub) := by
  unfold passOn
  rw [bind_assoc]
  refine bind_congr fun item => ?_
  cases hs : sub.sink with
  | collect missing items =>
      rw [hs] at h
      cases h
  | _ => cases item <;> simp [deliver, handOn, hs]

theorem onward_receiving (h : sub.sink.isEndless = true) :
    onward (k+1) 0 (.receiving sub reply) = (do
      passOn sub.sink reply
      onward k sub.interval (.resting sub)) :=
  deliver_endless h fun sub => onward k sub.interval (.resting sub)

theorem run_proceed : proceed frame carry s = onward (s.leeway+2) 0 frame carry s :=
  run_bind_ok (run_gets _)

theorem ask_endless (h : sub.sink.isEndless = true) : ask sub = proceed (.resting sub) := by
  unfold ask
  cases hs : sub.sink with
  | collect missing items =>
      rw [hs] at h
      cases h
  | _ => rfl

theorem RunsOn.imp (hears : ∀ reply s t, Hears reply s t → Hears' reply s t)
    (h : RunsOn carry sub Hears k ms frame s p t) : RunsOn carry sub Hears' k ms frame s p t := by
  induction h with
  | waits hw => exact .waits hw
  | hears hr _ ih => exact .hears (hears _ _ _ hr) ih
  | asks hsent _ ih => exact .asks hsent ih

/-- There is a time to wait. -/
theorem RunsOn.waited (h : RunsOn carry sub Hears k ms frame s p t) (hms : ms ≠ 0) :
    p = .sleep ms frame ∧ t = s := by
  cases h with
  | waits => exact ⟨rfl, rfl⟩
  | hears => exact (hms rfl).elim
  | asks => exact (hms rfl).elim

theorem faultless_handOn (n : Nat) (sink : Sink) (v : Json) :
    Faultless (cascade n) (handOn sink v) := by
  cases sink with
  | log id => exact .of_run fun _ => run_emit _
  | state => exact faultless_applyState n v
  | collect missing items => exact .pure ()

theorem passOn_cases (sink : Sink) {y : Except Fault Unit}
    (h : (passOn sink reply).settle n s = some (y, t)) :
    y = .ok () ∧ Delivers (cascade n) sink reply s t := by
  replace h := (run_bind_ok (run_receive reply)).symm.trans h
  cases ha : reply.answer s with
  | ok v =>
      rw [ha] at h
      obtain ⟨_, rfl⟩ := faultless_handOn n sink v _ _ _ h
      exact ⟨rfl, .handed ha h⟩
  | error why =>
      rw [ha] at h
      cases h
      exact ⟨rfl, .passed ha⟩

theorem onward_turn (hs : sub.sink.isEndless = true)
    (hf : frame = .resting sub ∨ ∃ reply, frame = .receiving sub reply)
    (h : (onward k ms frame).settle n s = some (x, t)) : ∃ p, x = .ok p ∧
      RunsOn (cascade n) sub (Delivers (cascade n) sub.sink) k ms frame s p t := by
  induction k generalizing ms frame s with
  | zero =>
      cases h
      exact ⟨_, rfl, .waits (.inl rfl)⟩
  | succ k ih =>
      by_cases hms : ms = 0
      · subst hms
        obtain rfl | ⟨reply, rfl⟩ := hf
        · obtain ⟨⟨delay, reply⟩, u, hu, ht⟩ := (faultless_send _ _ _ _).goes_on h
          obtain ⟨p, hp, honward⟩ := ih (.inr ⟨reply, rfl⟩) ht
          exact ⟨p, hp, .asks hu honward⟩
        · rw [settle, onward_receiving hs] at h
          obtain ⟨_, u, hu, ht⟩ | ⟨e, he, -⟩ := bind_cases h
          · obtain ⟨p, hp, honward⟩ := ih (.inl rfl) ht
            exact ⟨p, hp, .hears (passOn_cases _ hu).2 honward⟩
          · cases (passOn_cases _ he).1
      · rw [onward_wait (.inr hms)] at h
        cases h
        exact ⟨_, rfl, .waits (.inr hms)⟩

/-- A turn that begins with a request. -/
theorem ask_turn (hs : sub.sink.isEndless = true) (h : (ask sub).settle n s = some (x, t)) :
    ∃ p delay reply u, x = .ok p ∧
      send sub.transport .get sub.url sub.data (cascade n) s = some (.ok (delay, reply), u) ∧
      RunsOn (cascade n) sub (Delivers (cascade n) sub.sink) (s.leeway+1) delay
        (.receiving sub reply) u p t := by
  rw [settle, ask_endless hs, run_proceed] at h
  obtain ⟨p, hp, honward⟩ := onward_turn hs (.inl rfl) h
  cases honward with
  | waits hw => exact (hw.elim (Nat.succ_ne_zero _) fun h => h rfl).elim
  | asks hsent honward => exact ⟨p, _, _, _, hp, hsent, honward⟩

/-- A turn that begins with a reply. -/
theorem arrive_turn (hs : sub.sink.isEndless = true)
    (h : (arrive sub reply).settle n s = some (x, t)) :
    ∃ p u, x = .ok p ∧ Delivers (cascade n) sub.sink reply s u ∧
      RunsOn (cascade n) sub (Delivers (cascade n) sub.sink) (s.leeway+1) sub.interval
        (.resting sub) u p t := by
  rw [settle, arrive, run_proceed] at h
  obtain ⟨p, hp, honward⟩ := onward_turn hs (.inr ⟨reply, rfl⟩) h
  cases honward with
  | waits hw => exact (hw.elim (Nat.succ_ne_zero _) fun h => h rfl).elim
  | hears hheard honward => exact ⟨p, _, hp, hheard, honward⟩

/-- With an interval, one reply at most is heard in the turn of its request. -/
theorem ask_paced (hs : sub.sink.isEndless = true) (hi : sub.interval ≠ 0)
    (h : (ask sub).settle n s = some (x, t)) :
    ∃ p, x = .ok p ∧ Inquires (cascade n) sub s p t := by
  obtain ⟨p, delay, reply, u, hp, hsent, honward⟩ := ask_turn hs h
  refine ⟨p, hp, ?_⟩
  cases honward with
  | waits hd => exact .waits (hd.resolve_left (Nat.succ_ne_zero _)) hsent
  | hears hheard hrest =>
      obtain ⟨rfl, rfl⟩ := hrest.waited hi
      exact .hears hsent hheard

/-- A subscription with an interval rests when it has heard a reply. -/
theorem arrive_paced (hs : sub.sink.isEndless = true) (hi : sub.interval ≠ 0)
    (h : (arrive sub reply).settle n s = some (x, t)) :
    x = .ok (.sleep sub.interval (.resting sub)) ∧ Delivers (cascade n) sub.sink reply s t := by
  obtain ⟨p, u, rfl, hheard, honward⟩ := arrive_turn hs h
  obtain ⟨rfl, rfl⟩ := honward.waited hi
  exact ⟨rfl, hheard⟩

/-- Where requests and the replies to them end, a subscription comes to wait. -/
theorem runs_onward {I : Session → Prop} {D : Pending → Prop} (hs : sub.sink.isEndless = true)
    (hask : ∀ s, I s → ∃ delay reply t, D reply ∧ I t ∧
      send sub.transport .get sub.url sub.data carry s = some (.ok (delay, reply), t))
    (hhear : ∀ reply s, D reply → I s → ∃ t, I t ∧
      passOn sub.sink reply carry s = some (.ok (), t))
    (hf : frame = .resting sub ∨ ∃ reply, D reply ∧ frame = .receiving sub reply) (h : I s) :
    ∃ ms' next t, I t ∧ onward k ms frame carry s = some (.ok (.sleep ms' next), t) := by
  induction k generalizing ms frame s with
  | zero => exact ⟨ms, frame, s, h, rfl⟩
  | succ k ih =>
      by_cases hms : ms = 0
      · subst hms
        obtain rfl | ⟨reply, hdue, rfl⟩ := hf
        · obtain ⟨delay, reply, u, hdue, hu, hsent⟩ := hask s h
          obtain ⟨ms', next, t, ht, hrun⟩ := ih (.inr ⟨reply, hdue, rfl⟩) hu
          exact ⟨ms', next, t, ht, (run_bind_ok hsent).trans hrun⟩
        · obtain ⟨u, hu, hheard⟩ := hhear reply s hdue h
          obtain ⟨ms', next, t, ht, hrun⟩ := ih (.inl rfl) hu
          refine ⟨ms', next, t, ht, ?_⟩
          rw [onward_receiving hs]
          exact (run_bind_ok hheard).trans hrun
      · exact ⟨ms, frame, s, h, by rw [onward_wait (.inr hms)]; rfl⟩

/-- So does each of its turns. -/
theorem runs_serving {I : Session → Prop} {D : Pending → Prop} (hs : sub.sink.isEndless = true)
    (hask : ∀ s, I s → ∃ delay reply t, D reply ∧ I t ∧
      send sub.transport .get sub.url sub.data carry s = some (.ok (delay, reply), t))
    (hhear : ∀ reply s, D reply → I s → ∃ t, I t ∧
      passOn sub.sink reply carry s = some (.ok (), t))
    (hf : frame.Serves sub) (hdue : ∀ reply, frame = .receiving sub reply → D reply)
    (answer : Bool) (h : I s) : ∃ ms next t, I t ∧
      resume frame answer carry s = some (.ok (.sleep ms next), t) := by
  have hproceed {place : Frame}
      (hplace : place = .resting sub ∨ ∃ reply, D reply ∧ place = .receiving sub reply) :
      ∃ ms next t, I t ∧ proceed place carry s = some (.ok (.sleep ms next), t) := by
    rw [run_proceed]
    exact runs_onward hs hask hhear hplace h
  have hasks : ∃ ms next t, I t ∧ ask sub carry s = some (.ok (.sleep ms next), t) := by
    rw [ask_endless hs]
    exact hproceed (.inl rfl)
  cases hf with
  | subscribe => exact hasks
  | resting => exact hasks
  | receiving reply => exact hproceed (.inr ⟨reply, hdue reply rfl, rfl⟩)

theorem runs_takeReply (url : String) (carry : React) (s : Session) :
    ∃ r t, takeReply url carry s = some (.ok r, t) := by
  unfold takeReply
  rw [run_bind_ok (run_gets _)]
  rcases Table.find? s.replies url with - | (- | ⟨r, - | ⟨r', rs⟩⟩) <;> exact ⟨_, _, rfl⟩

theorem runs_send (way : Transport) (verb : Verb) (url : String) (data : Json) (carry : React)
    (s : Session) :
    ∃ delay reply t, send way verb url data carry s = some (.ok (delay, reply), t) := by
  cases way with
  | scripted =>
      obtain ⟨r, t, h⟩ := runs_takeReply url carry (s.retrace (.sent true verb url data::s.trace))
      exact ⟨r.delay, .settled r.answer, t, (run_bind_ok (run_emit _)).trans (run_bind_ok h)⟩
  | offline | http => exact ⟨_, _, _, run_bind_ok (run_emit _)⟩

theorem runs_passOn (id : String) (reply : Pending) (carry : React) (s : Session) :
    ∃ t, passOn (.log id) reply carry s = some (.ok (), t) := by
  unfold passOn
  rw [run_bind_ok (run_receive reply)]
  cases reply.answer s <;> exact ⟨_, rfl⟩

/-- A subscription that reports its values always goes on. -/
theorem runs_resume {id : String} (hs : sub.sink = .log id) (hf : frame.Serves sub)
    (answer : Bool) :
    ∃ ms next t, resume frame answer carry s = some (.ok (.sleep ms next), t) := by
  have hask (s : Session) (_ : True) : ∃ delay reply t, True ∧ True ∧
      send sub.transport .get sub.url sub.data carry s = some (.ok (delay, reply), t) := by
    obtain ⟨delay, reply, t, h⟩ := runs_send sub.transport .get sub.url sub.data carry s
    exact ⟨delay, reply, t, trivial, trivial, h⟩
  have hhear (reply : Pending) (s : Session) (_ _ : True) : ∃ t, True ∧
      passOn sub.sink reply carry s = some (.ok (), t) := by
    obtain ⟨t, h⟩ := runs_passOn id reply carry s
    exact ⟨t, trivial, hs ▸ h⟩
  obtain ⟨ms, next, t, -, hrun⟩ := runs_serving (I := fun _ => True) (D := fun _ => True)
    (by rw [hs]; rfl) hask hhear hf (fun _ _ => trivial) answer (s := s) trivial
  exact ⟨ms, next, t, hrun⟩

end
end Act
end ScreenBinding
