import ScreenBinding.Engine.Transport

/-!
# Subscriptions

A subscription asks at once and then again one interval after each reply. Failed replies are
passed over, except where all items are collected. Its task waits where there is a time to wait;
waits of no time are passed in the same turn, so many of them at most that others come to theirs.
-/
namespace ScreenBinding.Act

/-- Hands on one item. A collection that is complete is the result. -/
def deliver (sub : Subscription) (item : Except TransportFault Json) :
    Act (Sum Answer Subscription) := do
  match sub.sink, item with
  | .log id, .ok v => do
      emit (.polled id v)
      return .inr sub
  | .state, .ok v => do
      applyState v
      return .inr sub
  | .collect missing items, item =>
      let v := match item with
        | .ok v => v
        | .error e => .string e.message
      if missing ≤ 1 then return .inl (.value (.array (v::items).reverse))
      else return .inr { sub with sink := .collect (missing-1) (v::items) }
  | _, .error _ => return .inr sub

/-- Goes on where a subscription waits for a reply or for its interval, if there is no time to wait;
up to `n` times in a row. -/
def onward : Nat → Nat → Frame → Act Progress
  | 0, ms, frame => return .sleep ms frame
  | n+1, ms, frame => after ms frame <|
    match frame with
    | .receiving sub reply => do
        match ← deliver sub (← receive reply) with
        | .inl a => return .done a
        | .inr sub => onward n sub.interval (.resting sub)
    | .resting sub => do
        let (delay, reply) ← send sub.transport .get sub.url sub.data
        onward n delay (.receiving sub reply)
    | _ => return .sleep ms frame

theorem onward_wait {n ms : Nat} {frame : Frame} (h : n = 0 ∨ ms ≠ 0) :
    onward n ms frame = pure (.sleep ms frame) := by
  cases n with
  | zero => rfl
  | succ n => exact if_neg (h.resolve_left (Nat.succ_ne_zero n))

/-- Goes on when the wait is over, until others are to come first. -/
def proceed (frame : Frame) : Act Progress := do
  onward ((← gets (·.leeway)) + 2) 0 frame

/-- Starts or continues to ask. -/
def ask (sub : Subscription) : Act Progress :=
  match sub.sink with
  | .collect 0 items => return .done (.value (.array items.reverse))
  | _ => proceed (.resting sub)

/-- A reply has arrived. -/
def arrive (sub : Subscription) (reply : Pending) : Act Progress :=
  proceed (.receiving sub reply)

def subscribe (url : String) (data : Json) (interval : Nat) (sink : Sink) : Act Subscription := do
  return ⟨← needTransport, url, data, interval, sink⟩

/-- Polls a method in a task of its own; its id stands for the subscription. -/
def poll (method : String) (data : Json) (sink : Sink) : Act Nat := do
  let r ← route method
  let sub ← subscribe r.url data (← gets (·.settings.network.pollMs)) sink
  let id ← gets (·.nextTask)
  change (·.spawn .detached (.subscribe sub))
  return id

/-- Keeps the state in step with `state.load`; an earlier subscription ends. -/
def live : Act Unit := do
  let id ← poll "state.load" (.object []) .state
  change fun s =>
    let s := match s.live with
      | some old => s.abort old
      | none => s
    { s with live := some id }

end ScreenBinding.Act
