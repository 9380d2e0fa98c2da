import ScreenBinding.Proofs.CallStages

/-!
# Overlapping calls

Any number of remote calls are under way, each in a stage of its own, and between two stages of a
call the others go on and anything else may happen that leaves the lock and the notifier alone.
What a call puts on the trace is kept apart from the rest, so that its order can be told: it is the
course of the call, whichever way the stages interleave.

The lock is counted over all calls together. Every stage changes the count as it changes whether its
own call holds the lock, which is all that the run lemma needs.
-/
namespace ScreenBinding
open Act

/-- How far a call has come: with the session in which it asked, and that in which it ended. -/
inductive CallStage where
  | shown
  | waiting (asked : Session) (reply : Pending)
  | unlocked (asked : Session) (attempt : Attempt)
  | ended (asked : Session) (attempt : Attempt) (closed : Session)
      (result : Except Fault RemoteOutcome)

/-- A call that is under way, with the events that it has put on the trace. -/
structure CallRun where
  call : Call
  data : Json
  stage : CallStage
  events : List Event

namespace Session

/-- What was put on the trace between two sessions. -/
def since (s t : Session) : List Event := (t.trace.take (t.trace.length-s.trace.length)).reverse

theorem since_eq {s t : Session} {new : List Event} (h : t.trace = new ++ s.trace) :
    s.since t = new.reverse := by
  have hl : t.trace.length-s.trace.length = new.length := by
    rw [h, List.length_append]
    omega
  rw [since, hl, h, List.take_left]

end Session

namespace Event

def showsLock : Event → Bool
  | lockShown => true
  | _ => false

def releasesLock : Event → Bool
  | lockReleased => true
  | _ => false

/-- How many more times the lock was shown than taken away. -/
def balance (l : List Event) : Int := (l.countP showsLock : Int)-l.countP releasesLock

theorem balance_append (l r : List Event) : balance (l ++ r) = balance l+balance r := by
  simp only [balance, List.countP_append]
  omega

theorem balance_reverse (l : List Event) : balance l.reverse = balance l := by
  simp [balance]

end Event

def Session.lockBalance (s : Session) : Int := Event.balance s.trace

/-- Whether the lock that a call has shown is still there. -/
def CallRun.holdsLock (c : CallRun) : Bool :=
  match c.stage with
  | .shown | .waiting .. => !c.call.options.background
  | .unlocked .. | .ended .. => false

/-- How a call was answered. -/
def Attempt.answers : Attempt → List Event
  | .ok a => [.answered a]
  | .error _ => []

namespace CallRun

/-- What a call puts on the trace up to its stage, in order: the lock unless it keeps in the
background, the request if there is a route and a transport, the answer to the request, the end of
the lock, and a message unless it is silent. -/
def course (c : CallRun) : List Event :=
  let o := c.call.options
  let request := fun asked : Session => asked.request c.call.method c.data
  match c.stage with
  | .shown => o.locking .lockShown
  | .waiting asked _ => o.locking .lockShown ++ request asked
  | .unlocked asked attempt =>
      o.locking .lockShown ++ request asked ++ attempt.answers ++ o.locking .lockReleased
  | .ended asked attempt closed _ =>
      o.locking .lockShown ++ request asked ++ attempt.answers ++ o.locking .lockReleased ++
        o.telling (attempt.message closed.settings o)

/-- A request was made exactly if there was a route and a transport. -/
def Heard (c : CallRun) (asked : Session) (attempt : Attempt) : Prop :=
  match asked.dispatched c.call.method with
  | .ok _ => ∃ a, attempt = .ok a
  | .error why => attempt = .error why

/-- What a call waits for, has heard and has come to is what its sessions say. -/
def Attributed (c : CallRun) : Prop :=
  match c.stage with
  | .shown => True
  | .waiting asked reply => ∃ delay, asked.requested c.call.method c.data = .ok (delay, reply)
  | .unlocked asked attempt => c.Heard asked attempt
  | .ended asked attempt closed r => c.Heard asked attempt ∧ r = attempt.result closed.debugMode

/-- A call that has kept its course so far. -/
structure Sound (c : CallRun) : Prop where
  events : c.events = c.course
  attributed : c.Attributed

/-- The call in its next stage, with what was put on the trace meanwhile. -/
def moved (c : CallRun) (stage : CallStage) (s t : Session) : CallRun :=
  { c with stage, events := c.events ++ s.since t }

/-- One stage of a call, as the acts of the engine carry it out. -/
inductive Step (s t : Session) : CallRun → CallRun → Prop
  | asked {c : CallRun} {delay : Nat} {reply : Pending} (n : Nat) : c.stage = .shown →
      (askServer c.call.method c.data c.call.options).settle n s =
        some (.ok (.ok (delay, reply)), t) →
      Step s t c (c.moved (.waiting s reply) s t)
  | refused {c : CallRun} {why : Fault} (n : Nat) : c.stage = .shown →
      (askServer c.call.method c.data c.call.options).settle n s = some (.ok (.error why), t) →
      Step s t c (c.moved (.unlocked s (.error why)) s t)
  | heard {c : CallRun} {asked : Session} {reply : Pending} {a : Except TransportFault Json}
      (n : Nat) : c.stage = .waiting asked reply →
      (hearServer c.call.options reply).settle n s = some (.ok a, t) →
      Step s t c (c.moved (.unlocked asked (.ok a)) s t)
  | concluded {c : CallRun} {asked : Session} {attempt : Attempt}
      {r : Except Fault RemoteOutcome} (n : Nat) : c.stage = .unlocked asked attempt →
      (concludeCall c.call.options attempt).settle n s = some (r, t) →
      Step s t c (c.moved (.ended asked attempt s r) s t)

end CallRun

/-- The runs: from a session to another with the calls so far, the latest first. -/
inductive Overlap (s₀ : Session) : Session → List CallRun → Prop
  | start : Overlap s₀ s₀ []
  | opened {s t : Session} {runs : List CallRun} (n : Nat) (call : Call) (data : Json) :
      Overlap s₀ s runs → (lock call.options .lockShown).settle n s = some (.ok (), t) →
      Overlap s₀ t (⟨call, data, .shown, s.since t⟩::runs)
  | moved {s t : Session} {l r : List CallRun} {c c' : CallRun} : Overlap s₀ s (l ++ c::r) →
      c.Step s t c' → Overlap s₀ t (l ++ c'::r)
  | other {s t : Session} {runs : List CallRun} : Overlap s₀ s runs → t.notifier = s.notifier →
      t.lockBalance = s.lockBalance → Overlap s₀ t runs

section
variable {s t : Session}

theorem Session.lockBalance_since {new : List Event} (h : t.trace = new ++ s.trace) :
    t.lockBalance = s.lockBalance+Event.balance (s.since t) := by
  rw [Session.since_eq h, Event.balance_reverse, Session.lockBalance, h, Event.balance_append,
    Int.add_comm]
  rfl

theorem balance_request (method : String) (data : Json) :
    Event.balance (s.request method data) = 0 := by
  unfold Session.request
  split <;> rfl

theorem balance_answers (attempt : Attempt) : Event.balance attempt.answers = 0 := by
  cases attempt <;> rfl

theorem balance_telling (o : RemoteOptions) (attempt : Attempt) :
    Event.balance (o.telling (attempt.message s.settings o)) = 0 := by
  unfold RemoteOptions.telling
  split
  · rfl
  · rcases attempt with _ | _ | _ <;> rfl

theorem balance_shown (o : RemoteOptions) :
    Event.balance (o.locking .lockShown) = (!o.background).toNat := by
  unfold RemoteOptions.locking
  cases o.background <;> rfl

theorem balance_released (o : RemoteOptions) :
    Event.balance (o.locking .lockReleased) = -((!o.background).toNat : Int) := by
  unfold RemoteOptions.locking
  cases o.background <;> rfl

/-- On its course a call counts exactly while it holds the lock. -/
theorem CallRun.balance_course (c : CallRun) :
    Event.balance c.course = (c.holdsLock.toNat : Int) := by
  obtain ⟨call, data, stage, events⟩ := c
  cases stage with
  | shown => exact balance_shown call.options
  | waiting asked reply =>
      have hb := balance_shown call.options
      simp only [course, holdsLock, Event.balance_append, balance_request]
      omega
  | unlocked asked attempt =>
      have hb := balance_shown call.options
      have hr := balance_released call.options
      simp only [course, holdsLock, Event.balance_append, balance_request, balance_answers,
        Bool.toNat_false]
      omega
  | ended asked attempt closed r =>
      have hb := balance_shown call.options
      have hr := balance_released call.options
      simp only [course, holdsLock, Event.balance_append, balance_request, balance_answers,
        balance_telling, Bool.toNat_false]
      omega

end

section
variable {s t : Session} {c c' : CallRun}

@[simp] theorem locking_reverse (o : RemoteOptions) (e : Event) :
    (o.locking e).reverse = o.locking e := by
  unfold RemoteOptions.locking
  split <;> rfl

@[simp] theorem telling_reverse (o : RemoteOptions) (e : Event) :
    (o.telling e).reverse = o.telling e := by
  unfold RemoteOptions.telling
  split <;> rfl

@[simp] theorem request_reverse (method : String) (data : Json) :
    (s.request method data).reverse = s.request method data := by
  unfold Session.request
  split <;> rfl

/-- Asking ends in what the session has requested, and nothing else. -/
theorem asked_eq {n : Nat} {method : String} {data : Json} {o : RemoteOptions}
    {x : Except Fault (Nat × Pending)} (hn : s.notifier = true)
    (h : (askServer method data o).settle n s = some (.ok x, t)) :
    s.requested method data = x ∧ t.notifier = true ∧
      t.trace = s.dismissal method o ++ s.request method data ++ s.trace := by
  obtain ⟨u, hu, ht⟩ := run_askServer (cascade n) (.inr hn) method data
  have hnot : t.notifier = s.notifier := (beside_askServer method data o s _ t h).notifier
  cases hu.symm.trans h
  exact ⟨rfl, hnot.trans hn, ht⟩

theorem dispatched_of_requested {method : String} {data : Json} {delay : Nat} {reply : Pending}
    (h : s.requested method data = .ok (delay, reply)) : ∃ p, s.dispatched method = .ok p := by
  unfold Session.requested at h
  cases hd : s.dispatched method with
  | error why => rw [hd] at h; cases h
  | ok p => exact ⟨p, rfl⟩

theorem dispatched_of_refused {method : String} {data : Json} {why : Fault}
    (h : s.requested method data = .error why) : s.dispatched method = .error why := by
  unfold Session.requested at h
  cases hd : s.dispatched method with
  | error e => rw [hd] at h; cases h; rfl
  | ok p => rw [hd] at h; cases h

/-- A call that moves on adds what its course has between the two stages. -/
theorem CallRun.Sound.moved {stage : CallStage} {new : List Event} (h : c.Sound)
    (ht : t.trace = new ++ s.trace)
    (hcourse : (c.moved stage s t).course = c.course ++ new.reverse)
    (ha : (c.moved stage s t).Attributed) : (c.moved stage s t).Sound where
  events := by
    rw [hcourse, ← h.events, ← Session.since_eq ht]
    rfl
  attributed := ha

/-- A stage keeps a call on its course. -/
theorem CallRun.Step.sound (h : c.Step s t c') (hn : s.notifier = true) (hc : c.Sound) :
    c'.Sound ∧ t.notifier = true ∧ ∃ new, t.trace = new ++ s.trace := by
  obtain ⟨call, data, stage, events⟩ := c
  cases h with
  | @asked delay reply n hs hr =>
      obtain rfl : stage = .shown := hs
      obtain ⟨hq, hnot, ht⟩ := asked_eq hn hr
      obtain ⟨p, hp⟩ := dispatched_of_requested hq
      have hdismiss : s.dismissal call.method call.options = [] := by
        rw [Session.dismissal, hp]
      rw [hdismiss, List.nil_append] at ht
      refine ⟨hc.moved ht ?_ ⟨delay, hq⟩, hnot, _, ht⟩
      simp [CallRun.course, CallRun.moved]
  | @refused why n hs hr =>
      obtain rfl : stage = .shown := hs
      obtain ⟨hq, hnot, ht⟩ := asked_eq hn hr
      have hp := dispatched_of_refused hq
      have hdismiss : s.dismissal call.method call.options =
          call.options.locking .lockReleased := by
        rw [Session.dismissal, hp]
      have hrequest : s.request call.method data = [] := by
        rw [Session.request, hp]
      rw [hdismiss, hrequest, List.append_nil] at ht
      have heard : CallRun.Heard ⟨call, data, .shown, events⟩ s (.error why) := by
        rw [CallRun.Heard, hp]
      refine ⟨hc.moved ht ?_ heard, hnot, _, ht⟩
      simp [CallRun.course, CallRun.moved, hrequest, Attempt.answers]
  | @heard asked reply a n hs hr =>
      obtain rfl : stage = .waiting asked reply := hs
      obtain ⟨delay, hq⟩ := hc.attributed
      obtain ⟨p, hp⟩ := dispatched_of_requested hq
      cases (run_hearServer (.inr hn) reply).symm.trans hr
      have heard : CallRun.Heard ⟨call, data, .waiting asked reply, events⟩ asked
          (.ok (reply.answer s)) := by
        rw [CallRun.Heard, hp]
        exact ⟨_, rfl⟩
      have ht := (List.append_assoc (call.options.locking .lockReleased)
        [.answered (reply.answer s)] s.trace).symm
      refine ⟨hc.moved ht ?_ heard, hn, _, ht⟩
      simp [CallRun.course, CallRun.moved, Attempt.answers]
  | @concluded asked attempt r n hs hr =>
      obtain rfl : stage = .unlocked asked attempt := hs
      cases (run_concludeCall (.inr hn) attempt).symm.trans hr
      refine ⟨hc.moved rfl ?_ ⟨hc.attributed, rfl⟩, hn, _, rfl⟩
      simp [CallRun.course, CallRun.moved]

theorem CallRun.Sound.balance (h : c.Sound) :
    Event.balance c.events = (c.holdsLock.toNat : Int) := by
  rw [h.events, c.balance_course]

theorem CallRun.countP_cons (c : CallRun) (runs : List CallRun) :
    (c::runs).countP holdsLock = runs.countP holdsLock+c.holdsLock.toNat := by
  rw [List.countP_cons]
  cases c.holdsLock <;> rfl

/-- Of the balance of the lock, a call accounts for what it has put on the trace itself. -/
theorem CallRun.Step.balance (h : c.Step s t c') :
    Event.balance c'.events = Event.balance c.events+Event.balance (s.since t) := by
  cases h with
  | asked => exact Event.balance_append _ _
  | refused => exact Event.balance_append _ _
  | heard => exact Event.balance_append _ _
  | concluded => exact Event.balance_append _ _

end

/-- Every call is on its course, and those that hold the lock account for it. -/
structure Accounted (s₀ s : Session) (runs : List CallRun) : Prop where
  notifier : s.notifier = true
  sound : ∀ c ∈ runs, c.Sound
  balance : s.lockBalance = s₀.lockBalance+runs.countP CallRun.holdsLock

section
variable {s₀ s t : Session} {runs l r : List CallRun} {c c' : CallRun}

theorem Accounted.opened {n : Nat} {call : Call} {data : Json} (h : Accounted s₀ s runs)
    (hr : (lock call.options .lockShown).settle n s = some (.ok (), t)) :
    Accounted s₀ t (⟨call, data, .shown, s.since t⟩::runs) := by
  cases (run_lock (.inr h.notifier) .lockShown).symm.trans hr
  have hnew : (s.retrace (call.options.locking .lockShown ++ s.trace)).trace =
    call.options.locking .lockShown ++ s.trace := rfl
  have hfirst : CallRun.Sound ⟨call, data, .shown,
      s.since (s.retrace (call.options.locking .lockShown ++ s.trace))⟩ :=
    ⟨by rw [Session.since_eq hnew, locking_reverse]; rfl, trivial⟩
  refine ⟨h.notifier, fun c hc => ?_, ?_⟩
  · rcases List.mem_cons.mp hc with rfl | hc
    · exact hfirst
    · exact h.sound c hc
  · have hb := hfirst.balance
    dsimp only at hb
    rw [Session.lockBalance_since hnew, h.balance, hb, CallRun.countP_cons]
    omega

theorem Accounted.moved (h : Accounted s₀ s (l ++ c::r)) (hstep : c.Step s t c') :
    Accounted s₀ t (l ++ c'::r) := by
  have hc : c ∈ l ++ c::r := List.mem_append_right l (List.mem_cons_self ..)
  obtain ⟨hsound, hn, new, ht⟩ := hstep.sound h.notifier (h.sound c hc)
  have hb := (h.sound c hc).balance
  have hb' := hsound.balance
  have hadded := hstep.balance
  refine ⟨hn, fun d hd => ?_, ?_⟩
  · rcases List.mem_append.mp hd with hd | hd
    · exact h.sound d (List.mem_append_left _ hd)
    · rcases List.mem_cons.mp hd with rfl | hd
      · exact hsound
      · exact h.sound d (List.mem_append_right _ (List.mem_cons_of_mem c hd))
  · rw [Session.lockBalance_since ht, h.balance]
    simp only [List.countP_append, CallRun.countP_cons]
    omega

theorem Overlap.accounted (h : Overlap s₀ s runs) (hn : s₀.notifier = true) :
    Accounted s₀ s runs := by
  induction h with
  | start => exact ⟨hn, List.forall_mem_nil _, (Int.add_zero _).symm⟩
  | opened n call data _ hr ih => exact ih.opened hr
  | moved _ hstep ih => exact ih.moved hstep
  | other _ hnot hlock ih =>
      exact ⟨hnot.trans ih.notifier, ih.sound, hlock.trans ih.balance⟩

end

namespace CallRun

/-- The next stage of a call ends, with what the session has for it. -/
def GoesOn (c : CallRun) (s : Session) : Prop :=
  ∀ n, match c.stage with
  | .shown => ∃ t, (askServer c.call.method c.data c.call.options).settle n s =
      some (.ok (s.requested c.call.method c.data), t)
  | .waiting _ reply => ∃ t, (hearServer c.call.options reply).settle n s =
      some (.ok (reply.answer s), t)
  | .unlocked _ attempt => ∃ t, (concludeCall c.call.options attempt).settle n s =
      some (attempt.result s.debugMode, t)
  | .ended .. => True

theorem goesOn {s : Session} (hn : s.notifier = true) (c : CallRun) : c.GoesOn s := by
  obtain ⟨call, data, stage, events⟩ := c
  intro n
  cases stage with
  | shown =>
      obtain ⟨t, ht, -⟩ := run_askServer (cascade n) (.inr hn) call.method data
      exact ⟨t, ht⟩
  | waiting asked reply => exact ⟨_, run_hearServer (.inr hn) reply⟩
  | unlocked asked attempt => exact ⟨_, run_concludeCall (.inr hn) attempt⟩
  | ended asked attempt closed r => trivial

/-- The result of a call that has ended: a success is what the server has answered, a failure of
the transport stays one, and what kept the request from being made is a fault in debug mode. -/
structure Resulted (c : CallRun) (asked : Session) (attempt : Attempt) (closed : Session)
    (result : Except Fault RemoteOutcome) : Prop where
  success : ∀ v, result = .ok (.success v) ↔ attempt = .ok (.ok v)
  refused : ∀ why, attempt = .ok (.error why) → result = .ok (.failure (.transport why))
  answered : ∀ p, asked.dispatched c.call.method = .ok p → ∃ a, attempt = .ok a
  unmade : ∀ why, asked.dispatched c.call.method = .error why →
    attempt = .error why ∧
      result = if closed.debugMode = .off then .ok (.failure why) else .error why

theorem resulted {c : CallRun} {asked closed : Session} {attempt : Attempt}
    {result : Except Fault RemoteOutcome} (h : c.Heard asked attempt)
    (hr : result = attempt.result closed.debugMode) : c.Resulted asked attempt closed result := by
  subst hr
  rw [Heard] at h
  constructor
  · intro v
    rcases attempt with why | (why | w)
    · rw [Attempt.result]
      split <;> simp
    · simp [Attempt.result]
    · simp [Attempt.result]
  · rintro why rfl
    rfl
  · intro p hp
    rw [hp] at h
    exact h
  · intro why hw
    rw [hw] at h
    obtain rfl : attempt = .error why := h
    exact ⟨rfl, rfl⟩

end CallRun

/-- Whichever way remote calls overlap, each puts on the trace the events of its course and comes to
the result that its answer stands for, none is stuck, and the lock was shown as many more times than
taken away as there are calls that hold it. -/
theorem calls_keep_their_course {s₀ s : Session} {runs : List CallRun}
    (hn : s₀.notifier = true) (h : Overlap s₀ s runs) :
    (∀ c ∈ runs, c.events = c.course ∧ c.GoesOn s) ∧
    (∀ c ∈ runs, ∀ asked reply, c.stage = .waiting asked reply →
      ∃ delay, asked.requested c.call.method c.data = .ok (delay, reply)) ∧
    (∀ c ∈ runs, ∀ asked attempt closed result, c.stage = .ended asked attempt closed result →
      c.Resulted asked attempt closed result) ∧
    s.lockBalance = s₀.lockBalance+runs.countP CallRun.holdsLock ∧
    ∀ (c : Call) (data : Json), call c.method data c.options c.next = stagedCall c data ∧
      ∀ reply b, resume (.replying c reply) b = answerCall c reply := by
  have ha := h.accounted hn
  refine ⟨fun c hc => ⟨(ha.sound c hc).events, c.goesOn ha.notifier⟩, ?_, ?_, ?_, ?_⟩
  · intro c hc asked reply hs
    have hw := (ha.sound c hc).attributed
    rw [CallRun.Attributed, hs] at hw
    exact hw
  · intro c hc asked attempt closed result hs
    have hw := (ha.sound c hc).attributed
    rw [CallRun.Attributed, hs] at hw
    exact CallRun.resulted hw.1 hw.2
  · exact ha.balance
  · exact fun c data => ⟨call_eq c data, resume_replying c⟩

/-- Two calls overlap in debug mode: the second has no route and faults, while the first still holds
the lock. -/
theorem calls_keep_their_course_unrouted : ∃ s₀ s a b asked closed result,
    s₀.notifier = true ∧ Overlap s₀ s [b, a] ∧
    b.stage = .ended asked (.error (.unknownMethod "b")) closed result ∧
    result = .error (.unknownMethod "b") ∧ s.lockBalance = 1 ∧
    a.events = [.lockShown, .sent true .get "u" .null] := by
  let s₀ : Session :=
    { notifier := true, transport := some .scripted, debugMode := .debug,
      values := [("methods", MethodTable.single "a" .get "u")],
      replies := [("u", [⟨5, .ok (.bool true)⟩])] }
  have h₀ : Overlap s₀ s₀ [] := .start
  have h₁ := h₀.opened 0 ⟨"a", {}, .answer⟩ .null rfl
  have h₂ := h₁.opened 0 ⟨"b", {}, .answer⟩ .null rfl
  have h₃ := Overlap.moved (l := [_]) h₂ (.asked 0 rfl rfl)
  have h₄ := Overlap.moved (l := []) h₃ (.refused 0 rfl rfl)
  have h₅ := Overlap.moved (l := []) h₄ (.concluded 0 rfl rfl)
  obtain ⟨hcourse, -, hresult, hbalance, -⟩ := calls_keep_their_course rfl h₅
  have hb := (hresult _ (.head _) _ _ _ _ rfl).unmade _ rfl
  exact ⟨s₀, _, _, _, _, _, _, rfl, h₅, rfl, hb.2, hbalance, (hcourse _ (.tail _ (.head _))).1⟩

end ScreenBinding
