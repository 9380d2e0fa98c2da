import ScreenBinding.Engine.Cascade

/-!
# Tasks

Steps and their continuations. A task runs until it is done or has to wait; tasks that are ready
run in the order in which they became ready, and time passes only when no task is ready. The script
itself goes on when every ready task has run.
-/
namespace ScreenBinding

namespace Act

/-- The first part of a step. -/
def begin : Step → Act Progress
  | .now c => do return .done (← run c)
  | .wait ms => after ms .paused (return .done .nothing)
  | .spawn id step => do
      change fun s =>
        { s.spawn (.spawned id) (.begin step) with taskIds := Table.put s.taskIds id s.nextTask }
      return .done .nothing
  | .submit form => do submit (← boundForm form)
  | .swap name args => do
      hideAll .modal
      return .sleep 100 (.swapping name args)
  | .confirm name previous next => do
      awaitAnswer (← askConfirm name previous next) .confirming fun b =>
        return .done (.value (.bool b))
  | .alert name title message => do
      awaitAnswer (← askAlert name title message) .alerting fun _ => return .done .nothing
  | .setMode name remote => setMode name remote
  | .call method data options => call method data options .answer
  | .reload => reload .answer
  | .start view seed options => start view seed options
  | .socket method url data interval take => do
      if method ≠ "await" then throw (.unknownSocketCommand method)
      ask (← subscribe url data interval (.collect take []))

/-- Goes on where a task stopped. -/
def resume (frame : Frame) (answer : Bool) : Act Progress :=
  match frame with
  | .begin step => begin step
  | .cooldown button => return .sleep 1500 (.cool button)
  | .cool button => do
      modify button fun x => { x with disabled := false }
      return .done .nothing
  | .submit b => submit b
  | .subscribe sub => ask sub
  | .paused => return .done .nothing
  | .swapping name args => do return .done (.value (.bool (← showSurface .modal name args none)))
  | .replying c reply => do return .done (← finishCall c (.ok (← receive reply)))
  | .injecting b data hook => inject b data hook
  | .deciding b data => decided b data answer
  | .confirming => return .done (.value (.bool answer))
  | .alerting => return .done .nothing
  | .receiving sub reply => arrive sub reply
  | .resting sub => ask sub

end Act

abbrev Result := Except Fault Answer

def Role.isScript : Role → Bool
  | script => true
  | _ => false

namespace Session

/-- Reports the end of a task. -/
def finish (s : Session) (role : Role) (r : Result) : Session :=
  match role with
  | .spawned id => { s with trace := .finished id r::s.trace }
  | .asking modal =>
      let text := match r with
        | .ok (.value (.bool b)) => if b then "true" else "false"
        | .ok _ => ""
        | .error f => f.message
      { s with trace := .said ("confirm " ++ modal ++ ": " ++ text)::s.trace }
  | .script | .detached => s

/-- Suspends a task, unless it was aborted while it ran. -/
def suspend (s : Session) (task : Task) (wait : Session) : Session :=
  if s.cancelled.contains task.id then s else wait

/-- Where a task stands after it ran: suspended, or at its end. -/
def record (s : Session) (task : Task) : Except Fault Progress → Option Result × Session
  | .ok (.sleep ms frame) =>
      (none, s.suspend task { s with sleeping := s.sleeping ++ [(s.now+ms, { task with frame })] })
  | .ok (.await ticket frame) =>
      (none, s.suspend task
        { s with awaiting := s.awaiting ++ [(ticket, { task with frame })] })
  | .ok (.done a) => (some (.ok a), s.finish task.role (.ok a))
  | .error f => (some (.error f), s.finish task.role (.error f))

/-- Runs a task until it stops. -/
def advance (depth : Nat) (s : Session) (task : Task) (answer : Bool) :
    Option (Option Result × Session) := do
  let (r, s) ← (Act.resume task.frame answer).settle depth s
  return s.record task r

/-- Runs all ready tasks but the script. -/
def drain (depth : Nat) : Nat → Session → Option Session
  | 0, _ => none
  | n+1, s =>
      match s.ready.find? (!·.1.role.isScript) with
      | none => some s
      | some (task, answer) => do
          let s := { s with ready := s.ready.filter (·.1.id ≠ task.id) }
          drain depth n (← s.advance depth task answer).2

/-- The earliest time at which a task wakes. -/
def nextWake (s : Session) : Option Nat := (s.sleeping.map Prod.fst).min?

/-- Lets time pass until `t`; who wakes then is ready. -/
def elapse (s : Session) (t : Nat) : Session :=
  { s with now := t, sleeping := s.sleeping.filter (t < ·.1),
           ready := s.ready ++ (s.sleeping.filter (·.1 ≤ t)).map fun x => (x.2, true) }

/-- The script, if it can go on. -/
def takeScript (s : Session) : Option (Task × Bool × Session) :=
  match s.ready.find? (·.1.role.isScript) with
  | some (task, answer) =>
      some (task, answer, { s with ready := s.ready.filter (·.1.id ≠ task.id) })
  | none => none

/-- Runs everything until the script has finished its step. A script that wakes goes first, one
that is answered goes last. -/
def untilScript (depth : Nat) : Nat → Session → Option (Result × Session)
  | 0, _ => none
  | n+1, s =>
      match s.takeScript with
      | some (task, answer, s) => do
          match ← s.advance depth task answer with
          | (some r, s) => return (r, s)
          | (none, s) => untilScript depth n (← drain depth n s)
      | none =>
          match s.nextWake with
          | none => none
          | some t =>
              let s := s.elapse t
              if s.takeScript.isSome then untilScript depth n s
              else do untilScript depth n (← drain depth n s)

/-- Carries out one step of the script. -/
def perform (depth patience : Nat) (s : Session) (step : Step) : Option (Result × Session) := do
  let task : Task := ⟨s.nextTask, .script, .begin step⟩
  let s := { s with nextTask := s.nextTask+1 }
  match ← s.advance depth task true with
  | (some r, s) =>
      match step with
      | .spawn .. => return (r, ← drain depth patience s)
      | _ => return (r, s)
  | (none, s) => untilScript depth patience (← drain depth patience s)

/-- How deeply reactions may nest before a run is given up. -/
def depthLimit : Nat := 2000

/-- How many times tasks may go on during one step before a run is given up. -/
def patienceLimit : Nat := 1000000

/-- Carries out steps in order; each with its result and the events it brought about. -/
def play : List Step → Session → Option (List (Result × List Event) × Session)
  | [], s => some ([], s)
  | step::steps, s => do
      let (r, s') ← s.perform depthLimit patienceLimit step
      let events := (s'.trace.take (s'.trace.length-s.trace.length)).reverse
      let (rest, s') ← play steps s'
      return ((r, events)::rest, s')

end Session
end ScreenBinding
