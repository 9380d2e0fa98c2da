import ScreenBinding.Proofs.Running

/-!
# The acts of a call

A remote call shows the lock, finds its route, sends its request, hears the answer and reports to
the user. All of this leaves the session as it is but for the trace and the prepared replies; only
what the call was made for does more.
-/
namespace ScreenBinding

/-- Nothing differs but the trace and the prepared replies. -/
def Session.Beside (s t : Session) : Prop := t = { s with replies := t.replies, trace := t.trace }

namespace Session

theorem Beside.refl (s : Session) : s.Beside s := rfl

theorem Beside.trans {s t u : Session} (h : s.Beside t) (k : t.Beside u) : s.Beside u := by
  rw [Beside] at h k ⊢
  rw [k, h]

theorem Beside.elements {s t : Session} (h : s.Beside t) : t.elements = s.elements := by
  rw [h]

theorem Beside.notifier {s t : Session} (h : s.Beside t) : t.notifier = s.notifier := by
  rw [h]

end Session

namespace Act
variable {α β : Type} {carry : React}

/-- Whether it ends in a fault or not, it leaves a session beside the one it began in. -/
def StaysBeside (carry : React) (a : Act α) : Prop :=
  ∀ s x t, a carry s = some (x, t) → s.Beside t

theorem StaysBeside.pure (x : α) : StaysBeside carry (Pure.pure x) := by
  intro s y t h
  cases h
  exact .refl s

theorem StaysBeside.throw (e : Fault) : StaysBeside carry (throw e : Act α) := by
  intro s y t h
  cases h
  exact .refl s

theorem StaysBeside.gets (g : Session → α) : StaysBeside carry (Act.gets g) := by
  intro s y t h
  cases h
  exact .refl s

theorem StaysBeside.emit (e : Event) : StaysBeside carry (Act.emit e) := by
  intro s y t h
  cases h
  rfl

theorem StaysBeside.bind {a : Act α} {g : α → Act β} (ha : StaysBeside carry a)
    (hg : ∀ x, StaysBeside carry (g x)) : StaysBeside carry (a >>= g) := by
  intro s y u h
  obtain ⟨x, t, ht, hu⟩ | ⟨e, he, -⟩ := bind_cases h
  · have hs := ha s _ t ht
    exact hs.trans (hg x t y u hu)
  · exact ha s _ u he

theorem StaysBeside.outcome {a : Act α} (h : StaysBeside carry a) :
    StaysBeside carry (Act.outcome a) := by
  intro s y t ha
  obtain ⟨x, hx, -⟩ := outcome_cases ha
  exact h s x t hx

theorem beside_ofExcept (x : Except Fault α) : StaysBeside carry (ofExcept x) := by
  cases x with
  | ok a => exact .pure a
  | error e => exact .throw e

theorem beside_needNotifier : StaysBeside carry needNotifier := by
  refine .bind (.gets _) fun installed => ?_
  split
  · exact .throw _
  · exact .pure _

theorem beside_lock (options : RemoteOptions) (e : Event) :
    StaysBeside carry (lock options e) := by
  unfold lock
  split
  · exact .bind beside_needNotifier fun _ => .emit e
  · exact .pure _

theorem beside_reportSuccess (options : RemoteOptions) :
    StaysBeside carry (reportSuccess options) := by
  unfold reportSuccess
  split
  · exact .bind beside_needNotifier fun _ => .bind (.gets _) fun _ => .emit _
  · exact .pure _

theorem beside_reportFailure (options : RemoteOptions) :
    StaysBeside carry (reportFailure options) := by
  unfold reportFailure
  split
  · exact .bind beside_needNotifier fun _ => .bind (.gets _) fun _ => .emit _
  · exact .pure _

theorem beside_route (method : String) : StaysBeside carry (route method) :=
  .bind (.gets _) fun _ => .bind (beside_ofExcept _) fun _ => beside_ofExcept _

theorem beside_dispatch (method : String) : StaysBeside carry (dispatch method) := by
  refine .bind (beside_route method) fun _ => .bind (.bind (.gets _) fun transport => ?_)
    fun _ => .pure _
  split
  · exact .pure _
  · exact .throw _

theorem beside_takeReply (url : String) : StaysBeside carry (takeReply url) := by
  refine .bind (.gets _) fun replies => ?_
  split
  · exact .pure _
  · exact .pure _
  · exact .pure _
  · refine .bind ?_ fun _ => .pure _
    intro s x t h
    cases h
    rfl

theorem beside_send (t : Transport) (verb : Verb) (url : String) (payload : Json) :
    StaysBeside carry (send t verb url payload) := by
  cases t with
  | scripted => exact .bind (.emit _) fun _ => .bind (beside_takeReply url) fun _ => .pure _
  | offline responses latency => exact .bind (.emit _) fun _ => .pure _
  | http base => exact .bind (.emit _) fun _ => .pure _

theorem beside_receive (p : Pending) : StaysBeside carry (receive p) := by
  refine .bind ?_ fun _ => .bind (.emit _) fun _ => .pure _
  intro s x t h
  cases (run_arrived p).symm.trans h
  exact .refl s

theorem faultless_takeReply (url : String) : Faultless carry (takeReply url) := by
  refine .bind (.gets _) fun replies => ?_
  split
  · exact .pure _
  · exact .pure _
  · exact .pure _
  · exact .bind (.of_run fun _ => run_change _) fun _ => .pure _

theorem faultless_send (t : Transport) (verb : Verb) (url : String) (payload : Json) :
    Faultless carry (send t verb url payload) := by
  cases t with
  | scripted =>
      exact .bind (.of_run fun _ => run_emit _) fun _ =>
        .bind (faultless_takeReply url) fun _ => .pure _
  | offline responses latency => exact .bind (.of_run fun _ => run_emit _) fun _ => .pure _
  | http base => exact .bind (.of_run fun _ => run_emit _) fun _ => .pure _

end Act
end ScreenBinding
