import ScreenBinding.Engine.Store
import ScreenBinding.Url

/-!
# Requests

Sending a request and receiving its answer are two acts with time between them. What a task has
come to is its `Progress`.
-/
namespace ScreenBinding

inductive Progress where
  | done (a : Answer)
  | sleep (ms : Nat) (frame : Frame)
  | await (ticket : Ticket) (frame : Frame)

/-- A canned response: that of the URL, or the one for all others; the sentinel stands for the
state at this moment. -/
def Session.canned (s : Session) (responses : Fields) (url : String) : Json :=
  match (Table.find? responses url <|> Table.find? responses "*").getD .null with
  | .string "%state%" => .object s.values
  | v => v

namespace Act

/-- Goes on after a time; without waiting if there is none. -/
def after (ms : Nat) (frame : Frame) (go : Act Progress) : Act Progress :=
  if ms = 0 then go else return .sleep ms frame

/-- Goes on with the answer to a question, which may already be there. -/
def awaitAnswer (ticket : Ticket) (frame : Frame) (go : Bool → Act Progress) : Act Progress := do
  match (← gets (·.answers)).find? (·.1 = ticket) with
  | some (_, b) =>
      change fun s => { s with answers := s.answers.filter (·.1 ≠ ticket) }
      go b
  | none => return .await ticket frame

/-- The next prepared reply; the last one repeats, and without any the answer is `null`. -/
def takeReply (url : String) : Act Reply := do
  match Table.find? (← gets (·.replies)) url with
  | none | some [] => return { answer := .ok .null }
  | some [r] => return r
  | some (r::rs) =>
      change fun s => { s with replies := Table.put s.replies url rs }
      return r

/-- Sends a request; says how long its answer takes. -/
def send (t : Transport) (verb : Verb) (url : String) (data : Json) : Act (Nat × Pending) := do
  match t with
  | .scripted =>
      emit (.sent true verb url data)
      let r ← takeReply url
      return (r.delay, .settled r.answer)
  | .offline responses latency =>
      emit (.sent false verb url data)
      return (latency, .canned responses url)
  | .http base =>
      emit (.sent false verb url data)
      return (0, .settled (.error (Url.refusal base verb url data)))

/-- What has arrived. -/
def arrived : Pending → Act (Except TransportFault Json)
  | .settled a => return a
  | .canned responses url => do return .ok (← gets (·.canned responses url))

def receive (reply : Pending) : Act (Except TransportFault Json) := do
  let a ← arrived reply
  emit (.answered a)
  return a

/-- The route of a method in the table that the state holds. -/
def route (method : String) : Act Route := do
  let t ← ofExcept (MethodTable.ofValue (← gets fun s => Table.find? s.values "methods"))
  ofExcept (t.route method)

/-- Takes over a whole state: `null` and what is no mapping changes nothing. -/
def applyState : Json → Act Unit
  | .object values => writeAll values none
  | _ => return ()

end Act
end ScreenBinding
