import ScreenBinding.Proofs.PollTurns
import ScreenBinding.Proofs.ReloadReports
import ScreenBinding.Proofs.Waits

/-!
# Responses to a live subscription

A live subscription asks for the state again and again, and takes over every response as it comes:
no issue number is drawn, and none is compared. So a response is written even if a reload was issued
and written while it was on its way.

How many such responses there can be is limited by the task behind a subscription. It has one
request under way at most: a request is sent where the task comes to wait for its answer, and the
next one is not sent before this has arrived. Of each subscription, then, only the first answer that
is heard after some moment can belong to a request sent before it.
-/
namespace ScreenBinding
open Act

namespace Act

/-- Hears an answer and lays a success over the state. -/
def takeOver (reply : Pending) : Act Unit := do
  match ← receive reply with
  | .ok v => applyState v
  | .error _ => pure ()

/-- An answer is taken over: a success is laid over the state, a failure is passed over. -/
inductive Takes (carry : React) (reply : Pending) (s : Session) : Session → Prop
  | laid {v : Json} {calls : List Notice} {t : Session} : reply.answer s = .ok v →
      LaidOver carry (s.retrace (.answered (.ok v)::s.trace)) (Table.writesBy v.mapping none)
        calls t → Takes carry reply s t
  | passed {why : TransportFault} : reply.answer s = .error why →
      Takes carry reply s (s.retrace (.answered (.error why)::s.trace))

/-- A subscription asks, and goes on until it waits for an answer or for its interval. -/
inductive Polls (carry : React) (sub : Subscription) (s : Session) : Progress → Session → Prop
  | sent {delay : Nat} {reply : Pending} {p : Progress} {t u : Session} :
      send sub.transport .get sub.url sub.data carry s = some (.ok (delay, reply), t) →
      RunsOn carry sub (Takes carry) (s.leeway+1) delay (.receiving sub reply) t p u →
      Polls carry sub s p u

/-- An answer arrives at a subscription, which then rests, or goes on if its interval is none. -/
inductive Arrives (carry : React) (sub : Subscription) (reply : Pending) (s : Session) :
    Progress → Session → Prop
  | taken {p : Progress} {t u : Session} : Takes carry reply s t →
      RunsOn carry sub (Takes carry) (s.leeway+1) sub.interval (.resting sub) t p u →
      Arrives carry sub reply s p u

section
variable {n : Nat} {sub : Subscription} {reply : Pending} {s t : Session}
  {x : Except Fault Progress}

theorem Delivers.takes (h : Delivers (cascade n) .state reply s t) :
    Takes (cascade n) reply s t := by
  cases h with
  | @handed v t ha hv =>
      rw [handOn, applyState_eq] at hv
      obtain ⟨-, calls, hlaid⟩ := run_writeAll_iff.mp hv
      exact .laid ha hlaid
  | passed ha => exact .passed ha

theorem ask_cases (hs : sub.sink = .state) (h : (ask sub).settle n s = some (x, t)) :
    ∃ p, x = .ok p ∧ Polls (cascade n) sub s p t := by
  obtain ⟨p, delay, reply, u, hp, hsent, honward⟩ := ask_turn (by rw [hs]; rfl) h
  exact ⟨p, hp, .sent hsent (honward.imp fun _ _ _ hheard => (hs ▸ hheard).takes)⟩

theorem arrive_cases (hs : sub.sink = .state) (h : (arrive sub reply).settle n s = some (x, t)) :
    ∃ p, x = .ok p ∧ Arrives (cascade n) sub reply s p t := by
  obtain ⟨p, u, hp, hheard, honward⟩ := arrive_turn (by rw [hs]; rfl) h
  have htaken {reply : Pending} {s t : Session}
      (hheard : Delivers (cascade n) sub.sink reply s t) : Takes (cascade n) reply s t :=
    (hs ▸ hheard).takes
  exact ⟨p, hp, .taken (htaken hheard) (honward.imp fun _ _ _ => htaken)⟩

/-- The caller of a reload is done with its report. -/
theorem Concludes.ended {carry : React} {s t : Session} {next : AfterReload}
    {report : Except Fault ReloadOutcome} {p : Progress}
    (h : Concludes carry s next report (.ok p) t) : p.next? = none := by
  generalize hx : Except.ok p = x at h
  cases h with
  | faulted => cases hx
  | told o =>
      cases hx
      rfl
  | @entered m y t hy =>
      cases y <;> cases hx
      rfl
  | stayed m ho =>
      cases hx
      rfl
  | @opened url view options o y t ho hy =>
      cases y <;> cases hx
      rfl
  | refused => cases hx

end
end Act

namespace Stretch
variable {carry : React} {x : Stretch} {next : AfterReload} {f : Flight} {u : Session}

/-- The stretch sends a request of a subscription, and leaves its task waiting for this answer. -/
def Awaits (x : Stretch) (sub : Subscription) (reply : Pending) : Prop :=
  x.next? = some (.receiving sub reply) ∧ ∃ n s delay,
    (send sub.transport .get sub.url sub.data).settle n s = some (.ok (delay, reply), x.stopped)

theorem Runs.awaits {n : Nat} {sub : Subscription} {reply : Pending} (h : x.Runs (cascade n))
    (hn : x.next? = some (.receiving sub reply)) : x.Awaits sub reply := by
  obtain (hp | ⟨-, hs⟩ | -) | ⟨e, -, he⟩ := h.left hn
  · cases hp
  · exact ⟨hn, n, _, _, hs⟩
  · cases he

/-- Where the answer to a reload is heard, the task ends. -/
theorem Receives.ended (h : x.Receives carry next f u) (hr : x.Runs carry) : x.next? = none := by
  obtain ⟨report, v, -, hend⟩ := concluding_cases (h.concluding hr)
  unfold next?
  cases hp : x.result with
  | error e => rfl
  | ok p => exact Concludes.ended (hp ▸ hend)

end Stretch

section
variable {n : Nat} {s₀ s u v : Session} {log pre post : List Stretch} {r y : Stretch}
  {next : AfterReload} {f : Flight} {sub : Subscription} {reply : Pending}

/-- An answer that arrives at a subscription was asked for where its task stopped last. -/
theorem Scheduled.awaited (h : Scheduled s₀ s log) (h₀ : s₀.queue = [])
    (hlog : log = pre ++ y::post) (hy : y.task.frame = .receiving sub reply) :
    ∃ a z b, pre = a ++ z::b ∧ z.task.id = y.task.id ∧ (∀ x ∈ b, x.task.id ≠ y.task.id) ∧
      z.Awaits sub reply := by
  cases h.threaded h₀ pre y post hlog with
  | begins hstarts _ =>
      rw [hy] at hstarts
      cases hstarts
  | resumes a b z hpre hid hb hnext =>
      have hz : z ∈ log := by
        rw [hlog, hpre]
        exact List.mem_append_left _ (List.mem_append_right _ (List.mem_cons_self ..))
      obtain ⟨m, hm⟩ := h.interleaved.runs hz
      exact ⟨a, z, b, hpre, hid, hb, hm.awaits (hy ▸ hnext)⟩

/-- Behind a reload that was applied, what arrives at a subscription of the state is taken over
whatever the reload was. But its request was sent behind the reload, or else it was the one under
way: no other stretch of the subscription lies in between. So of each subscription one answer at
most that was asked for before the reload was issued is taken over afterwards; a subscription that
asks hears no other answer than its own. -/
theorem stale_response_after_reload (h : Scheduled s₀ s log) (h₀ : s₀.queue = [])
    (hlog : log = pre ++ r::post) (hr : r.Runs (cascade n))
    (hx : r.Receives (cascade n) next f u)
    (happlied : (receipt f).settle n u = some (.ok .applied, v)) :
    (f.issue = u.reloads ∧ ∃ response calls, f.response u = .ok response ∧
      LaidOver (cascade n) (f.heard u) (Table.writesBy response.mapping none) calls v) ∧
    ∀ mid y rest, post = mid ++ y::rest → ∀ sub, sub.sink = .state → ∃ m, y.Runs (cascade m) ∧
      (y.task.frame = .subscribe sub ∨ y.task.frame = .resting sub →
        ∃ p, y.result = .ok p ∧ Polls (cascade m) sub y.before p y.stopped) ∧
      ∀ reply, y.task.frame = .receiving sub reply →
        (∃ p, y.result = .ok p ∧ Arrives (cascade m) sub reply y.before p y.stopped) ∧
        ∃ z, z.task.id = y.task.id ∧ z.Awaits sub reply ∧
          (z ∈ mid ∨ z ∈ pre ∧ ∀ x ∈ mid, x.task.id ≠ y.task.id) := by
  refine ⟨?_, fun mid y rest hpost sub hs => ?_⟩
  · obtain ⟨-, hi, response, hresponse, hw⟩ | ⟨hne, -⟩ := receipt_cases happlied
    · rw [applyState_eq] at hw
      obtain ⟨-, calls, hlaid⟩ := run_writeAll_iff.mp hw
      exact ⟨hi, response, calls, hresponse, hlaid⟩
    · exact (hne rfl).elim
  · have hy : log = (pre ++ r::mid) ++ y::rest := by
      rw [hlog, hpost, List.append_assoc, List.cons_append]
    obtain ⟨m, hm⟩ := h.interleaved.runs
      (hy ▸ List.mem_append_right _ (List.mem_cons_self ..) : y ∈ log)
    refine ⟨m, hm, fun hf => ?_, fun reply hf => ⟨?_, ?_⟩⟩
    · have hask : resume y.task.frame y.answer = ask sub := by
        rcases hf with hf | hf <;> rw [hf] <;> rfl
      rw [Stretch.Runs, hask] at hm
      exact ask_cases hs hm
    · rw [Stretch.Runs, hf] at hm
      exact arrive_cases hs hm
    · obtain ⟨a, z, b, hcut, hid, hb, hz⟩ := h.awaited h₀ hy hf
      refine ⟨z, hid, hz, ?_⟩
      obtain ⟨c, hpre, hb'⟩ | ⟨c, hmid, -⟩ := split_append hcut
      · refine .inr ⟨hpre ▸ List.mem_append_right _ (List.mem_cons_self ..), fun x hx => ?_⟩
        exact hb x (hb' ▸ List.mem_append_right _ (List.mem_cons_of_mem _ hx))
      · rcases List.cons_eq_append_iff.mp hmid with ⟨rfl, hc⟩ | ⟨c, rfl, hc⟩
        · -- the reload itself leaves its task at its end
          cases hc
          cases (hx.ended hr).symm.trans hz.1
        · exact .inl (hc ▸ List.mem_append_right _ (List.mem_cons_self ..))

end

/-- A subscription asks, and its answer takes long. A reload that is issued and answered meanwhile
is applied; then the answer arrives. -/
theorem reload_overtakes_poll : ∃ s₀ s x z r y f u v sub reply,
    Scheduled s₀ s [x, z, r, y] ∧ s₀.queue = [] ∧ r.Runs (cascade 3) ∧
    r.task.frame = .begin .reload ∧ r.Receives (cascade 3) .answer f u ∧
    (receipt f).settle 3 u = some (.ok .applied, v) ∧
    Table.find? v.values "user" = some (.string "new") ∧
    sub.sink = .state ∧ z.task.id = y.task.id ∧ z.task.frame = .subscribe sub ∧
    z.next? = some (.receiving sub reply) ∧ y.task.frame = .receiving sub reply ∧
    y.writes = [⟨"user", .string "old", none⟩] ∧
    Table.find? s.values "user" = some (.string "old") := by
  let answer (user : String) : Except TransportFault Json := .ok (.object [("user", .string user)])
  let s₀ : Session :=
    { notifier := true, transport := some .scripted,
      values := [("methods", MethodTable.single "state.load" .get "u")],
      replies := [("u", [⟨9, answer "old"⟩, ⟨0, answer "new"⟩])] }
  let sub : Subscription := ⟨.scripted, "u", .object [], 30000, .state⟩
  let waiting : Task := ⟨1, .detached, .receiving sub (.settled (answer "old"))⟩
  let asked : Session := { s₀ with
    replies := [("u", [⟨0, answer "new"⟩])], live := some 1, nextTask := 2,
    sleeping := [(9, waiting)],
    trace := [.sent true .get "u" (.object [])] }
  have h₀ : Scheduled s₀ s₀ [] := .start
  have h₁ := h₀.begun (.now (.host .live)) 3 .script true rfl
  have h₂ : Scheduled s₀ asked _ :=
    h₁.woken ⟨1, .detached, .subscribe sub⟩ true 3 (.head _) rfl
  have h₃ := h₂.begun .reload 3 .script true rfl
  have h₄ := (h₃.rested (Session.elapse_rests _ 9)).woken waiting true 3 (.head _) rfl
  have hrun : resume (.begin .reload) true (cascade 3) { asked with nextTask := 3 } =
    some (_, _) := rfl
  exact ⟨s₀, _, _, _, _, _, ⟨1, .ok (.settled (answer "new"))⟩, _, _, sub, _, h₄, rfl, hrun, rfl,
    .atOnce (.reload rfl) rfl, rfl, rfl, rfl, rfl, rfl, rfl, rfl, rfl, rfl⟩

/-- The answer that arrives behind the reload is that of the request under way. -/
theorem stale_response_after_reload_poll : ∃ s₀ s pre r mid y sub reply,
    Scheduled s₀ s (pre ++ r::(mid ++ [y])) ∧ r.task.frame = .begin .reload ∧
    y.task.frame = .receiving sub reply ∧
    (∃ m p, y.result = .ok p ∧ Arrives (cascade m) sub reply y.before p y.stopped) ∧
    ∃ z ∈ pre, z.task.id = y.task.id ∧ z.Awaits sub reply := by
  obtain ⟨s₀, s, x, z, r, y, f, u, v, sub, reply, h, h₀, hr, hf, hx, ha, -, hs, -, -, -, hy, -⟩ :=
    reload_overtakes_poll
  have hlog : [x, z, r, y] = [x, z] ++ r::[y] := rfl
  obtain ⟨m, -, -, harrives⟩ :=
    (stale_response_after_reload h h₀ hlog hr hx ha).2 [] y [] rfl sub hs
  obtain ⟨⟨p, hp, harrives⟩, w, hid, hw, hmem⟩ := harrives reply hy
  have hpre : w ∈ [x, z] := by
    rcases hmem with hmem | ⟨hmem, -⟩
    · cases hmem
    · exact hmem
  exact ⟨s₀, s, [x, z], r, [], y, sub, reply, h, hf, hy, ⟨m, p, hp, harrives⟩, w, hpre, hid, hw⟩

/-- A reload has reported that it was applied, and an answer to a poll that was sent before the
reload was issued is written over it. -/
theorem stale_poll_overwrites_reload : ∃ s₀ s x z r y f u v sub reply,
    Scheduled s₀ s [x, z, r, y] ∧ s₀.queue = [] ∧ z.task.frame = .subscribe sub ∧
    z.Awaits sub reply ∧ r.task.frame = .begin .reload ∧
    r.Receives (cascade 3) .answer f u ∧ (receipt f).settle 3 u = some (.ok .applied, v) ∧
    Table.find? v.values "user" = some (.string "new") ∧ z.task.id = y.task.id ∧
    y.task.frame = .receiving sub reply ∧ y.writes = [⟨"user", .string "old", none⟩] ∧
    Table.find? s.values "user" = some (.string "old") := by
  obtain ⟨s₀, s, x, z, r, y, f, u, v, sub, reply, h, h₀, -, hf, hx, ha, hnew, -, hid, hz, hnext, hy,
    hwrites, hold⟩ := reload_overtakes_poll
  obtain ⟨n, hn⟩ := h.interleaved.runs (x := z) (by simp)
  exact ⟨s₀, s, x, z, r, y, f, u, v, sub, reply, h, h₀, hz, hn.awaits hnext, hf, hx, ha, hnew, hid,
    hy, hwrites, hold⟩

end ScreenBinding
