import ScreenBinding.Proofs.BoundSession
import ScreenBinding.Proofs.LiveResponses
import ScreenBinding.Proofs.Withholding

/-!
# Responses that tell the state itself

Offline, a canned response may stand for the state: it is filled in when the answer arrives, and
written in the same stretch. What is written then stands in the state already, key by key, so that
nothing changes but what the bindings show; it does not matter what other tasks have written since
the request was sent.

The listeners must not write, as load bindings and the journal do not. A response that is told to
others is written entry by entry, and a listener that writes while it hears of one entry would find
its write undone by a later entry.
-/
namespace ScreenBinding
open Act
open Session (Wrote)

theorem Session.record_values (s : Session) (task : Task) (x : Except Fault Progress) :
    (s.record task x).2.values = s.values := by rw [s.record_eq task x]

theorem Table.nodup_written {values : Fields} (h : (Table.keys values).Nodup) (ws : List Write) :
    (Table.keys (Table.written values ws)).Nodup := by
  induction ws generalizing values with
  | nil => exact h
  | cons w ws ih => exact ih (nodup_keys_put h w.key w.value)

/-- A stretch changes the state by its writes. -/
theorem Stretch.values_after {x : Stretch} {n : Nat} (hr : x.Runs (cascade n)) :
    x.after.values = Table.written x.before.values x.writes := by
  have hcallbacks := cascade_respects Session.accounted_respected n
  obtain ⟨ws, hv, hw⟩ := (tallied_resume _ _).respects Session.accounted_respected
    (fun _ => .plain rfl rfl) hcallbacks hr
  have hwrites : x.writes = ws := by
    have hafter : x.after.writes = x.before.writes ++ ws :=
      (Session.record_writes x.stopped x.task x.result).trans hw
    exact List.append_cancel_left ((x.writes_after hr).symm.trans hafter)
  rw [hwrites]
  exact (x.stopped.record_values x.task x.result).trans hv

namespace Interleaved
variable {s₀ s : Session} {log pre post : List Stretch} {x : Stretch}

/-- The run up to a stretch. -/
theorem before {carry : Nat → React} (h : Interleaved carry s₀ s log)
    (hlog : log = pre ++ x::post) : Interleaved carry s₀ x.before pre := by
  induction h generalizing post with
  | start => cases List.append_eq_nil_iff.mp hlog.symm |>.2
  | ran n h _ ih =>
      obtain ⟨rfl, rfl, -⟩ | ⟨c, -, hpre⟩ := split_last hlog
      · exact h
      · exact ih hpre
  | idle _ _ ih => exact ih hlog

/-- The state is what a stretch has left, with the writes of all later stretches. -/
theorem values_since (h : Interleaved cascade s₀ s log) (hlog : log = pre ++ x::post) :
    s.values = Table.written x.after.values (post.flatMap Stretch.writes) := by
  induction h generalizing post with
  | start => cases List.append_eq_nil_iff.mp hlog.symm |>.2
  | @ran y log n _ hy ih =>
      obtain ⟨-, rfl, rfl⟩ | ⟨c, rfl, hpre⟩ := split_last hlog
      · rfl
      · rw [Stretch.values_after hy, ih hpre, List.flatMap_append, List.flatMap_singleton,
          Table.written_append]
  | idle _ ht ih =>
      rw [ht]
      exact ih hlog

/-- No key stands twice in the state. -/
theorem nodup_keys (h : Interleaved cascade s₀ s log) (h₀ : (Table.keys s₀.values).Nodup) :
    (Table.keys s.values).Nodup := by
  refine h.inv (I := fun s => (Table.keys s.values).Nodup) h₀ (fun x n _ hs hx => ?_)
    fun s t hs ht => ?_
  · rw [Stretch.values_after hx]
    exact Table.nodup_written hs _
  · rw [ht]
    exact hs

end Interleaved

/-- A URL is answered with the state as it stands when the answer arrives. -/
def Echoes (responses : Fields) (url : String) : Prop :=
  (Table.find? responses url <|> Table.find? responses "*") = some (.string "%state%")

theorem Echoes.canned {responses : Fields} {url : String} (h : Echoes responses url) (s : Session) :
    s.canned responses url = .object s.values := by
  unfold Session.canned
  rw [h]
  rfl

namespace Act
variable {saves : List Connection} {depth n : Nat} {s t u : Session}

/-- Where listeners are quiet, entries are written one by one, and nothing else is. -/
theorem writeAll_once (h : Linked saves depth s) (values : Fields) (source : Option Source) :
    ∃ t, (writeAll values source).settle (n+3) s = some (.ok (), t) ∧
      Wrote (Table.writesBy values source) s t := by
  induction values generalizing s with
  | nil => exact ⟨s, rfl, .refl s⟩
  | cons entry values ih =>
      obtain ⟨u, hu, hwrote⟩ := write_once (n := n) h entry.1 entry.2 source
      obtain ⟨t, ht, hrest⟩ := ih (h.wrote hwrote)
      refine ⟨t, ?_, hwrote.trans hrest⟩
      rw [settle, writeAll_cons, discard_bind]
      exact (run_bind_ok hu).trans ht

/-- The state that is written over itself stays. -/
theorem applyState_own (h : Linked saves depth s) (hkeys : (Table.keys s.values).Nodup) :
    ∃ t, (applyState (.object s.values)).settle (n+3) s = some (.ok (), t) ∧
      t.values = s.values ∧ Linked saves depth t := by
  obtain ⟨t, ht, hwrote⟩ := writeAll_once (n := n) h s.values none
  refine ⟨t, ht, ?_, h.wrote hwrote⟩
  rw [hwrote.values, Table.written_writesBy]
  exact Table.overlay_of_subset hkeys (List.Subset.refl _)

variable {responses : Fields} {url : String}

/-- A reload that is answered with the state ends, and changes nothing. -/
theorem receipt_own (h : Linked saves depth s) (hkeys : (Table.keys s.values).Nodup)
    (he : Echoes responses url) (issue : Nat) :
    ∃ report t, (receipt ⟨issue, .ok (.canned responses url)⟩).settle (n+3) s = some (report, t) ∧
      t.values = s.values ∧ (s.notifier = true →
        report = .ok (if issue = s.reloads then .applied else .superseded)) := by
  let f : Flight := ⟨issue, .ok (.canned responses url)⟩
  have hanswer : Pending.answer s (.canned responses url) = .ok (.object s.values) :=
    congrArg Except.ok (he.canned s)
  cases hn : s.notifier with
  | false =>
      let heard := s.retrace (.answered (Pending.answer s (.canned responses url))::s.trace)
      have hrun : needNotifier (cascade (n+3)) heard =
          some (.error (.requirementMissing .notifier), heard) := run_needNotifier_missing hn
      exact ⟨_, _, (run_bind_ok (run_receive _)).trans (run_bind_error hrun), rfl, nofun⟩
  | true =>
      have hresponse : f.response s = .ok (.object s.values) := by
        simp only [f, Flight.response, hanswer]
      have hheard : Linked saves depth (f.heard s) := h.wrote (f.wrote_heard s)
      rw [settle, run_receipt_success hn hresponse, concludeReload, run_bind_ok (run_gets _)]
      change ∃ report t, (if issue = s.reloads then _ else _ : Act ReloadOutcome) _ _ = _ ∧ _
      split
      · obtain ⟨t, ht, hv, -⟩ := applyState_own (n := n) hheard hkeys
        exact ⟨_, t, run_bind_ok ht, hv, fun _ => rfl⟩
      · exact ⟨_, _, rfl, rfl, fun _ => rfl⟩

/-- An answer to a live subscription that tells the state changes nothing. -/
theorem takeOver_own (h : Linked saves depth s) (hkeys : (Table.keys s.values).Nodup)
    (he : Echoes responses url) :
    ∃ t, (takeOver (.canned responses url)).settle (n+3) s = some (.ok (), t) ∧
      t.values = s.values ∧ Linked saves depth t := by
  let heard := s.retrace (.answered (.ok (.object s.values))::s.trace)
  have hheard : Linked saves depth heard := h.wrote (.emit s rfl)
  obtain ⟨t, ht, hv, hl⟩ := applyState_own (n := n) hheard hkeys
  refine ⟨t, ?_, hv, hl⟩
  refine (run_bind_ok (run_receive _)).trans ?_
  rw [show Pending.answer s (.canned responses url) = .ok (.object s.values) from
    congrArg Except.ok (he.canned s)]
  exact ht

end Act

/-- A live subscription to canned responses that tell the state. -/
structure Subscription.Echoed (responses : Fields) (sub : Subscription) : Prop where
  sink : sub.sink = .state
  transport : ∃ latency, sub.transport = .offline responses latency
  url : Echoes responses sub.url

/-- Where the task of such a subscription goes on: it asks, or its answer arrives. -/
inductive Frame.Echoed (responses : Fields) : Frame → Prop
  | subscribe {sub : Subscription} : sub.Echoed responses → Frame.Echoed responses (.subscribe sub)
  | resting {sub : Subscription} : sub.Echoed responses → Frame.Echoed responses (.resting sub)
  | receiving {sub : Subscription} : sub.Echoed responses →
      Frame.Echoed responses (.receiving sub (.canned responses sub.url))

namespace Act
variable {saves : List Connection} {depth n : Nat} {s : Session} {responses : Fields}

/-- Wherever the task of such a subscription goes on, it stops again and the state stays. -/
theorem resume_own {frame : Frame} (hf : frame.Echoed responses) (h : Linked saves depth s)
    (hkeys : (Table.keys s.values).Nodup) (answer : Bool) :
    ∃ p t, (resume frame answer).settle (n+3) s = some (.ok p, t) ∧ t.values = s.values := by
  obtain ⟨sub, hsub, hserves, hdue⟩ : ∃ sub : Subscription, sub.Echoed responses ∧
      frame.Serves sub ∧
      ∀ reply, frame = .receiving sub reply → reply = .canned responses sub.url := by
    cases hf with
    | @subscribe sub hsub => exact ⟨sub, hsub, .subscribe, fun reply h => nomatch h⟩
    | @resting sub hsub => exact ⟨sub, hsub, .resting, fun reply h => nomatch h⟩
    | @receiving sub hsub =>
        refine ⟨sub, hsub, .receiving _, fun reply h => ?_⟩
        cases h
        rfl
  obtain ⟨latency, htransport⟩ := hsub.transport
  have hask (u : Session) (hu : u.values = s.values ∧ Linked saves depth u) :
      ∃ delay reply t, reply = .canned responses sub.url ∧
        (t.values = s.values ∧ Linked saves depth t) ∧
        (send sub.transport .get sub.url sub.data).settle (n+3) u = some (.ok (delay, reply), t) := by
    refine ⟨latency, _, u.retrace (.sent false .get sub.url sub.data::u.trace), rfl,
      ⟨hu.1, hu.2.wrote (.emit u rfl)⟩, ?_⟩
    rw [htransport]
    rfl
  have hhear (reply : Pending) (u : Session) (hreply : reply = .canned responses sub.url)
      (hu : u.values = s.values ∧ Linked saves depth u) :
      ∃ t, (t.values = s.values ∧ Linked saves depth t) ∧
        (passOn sub.sink reply).settle (n+3) u = some (.ok (), t) := by
    obtain ⟨t, ht, hv, hl⟩ := takeOver_own (n := n) hu.2 (hu.1 ▸ hkeys) hsub.url
    rw [hreply, hsub.sink]
    exact ⟨t, ⟨hv.trans hu.1, hl⟩, ht⟩
  obtain ⟨ms, next, t, ⟨hv, -⟩, hrun⟩ :=
    runs_serving (by rw [hsub.sink]; rfl) hask hhear hserves hdue answer ⟨rfl, h⟩
  exact ⟨_, t, hrun, hv⟩

/-- So does the task of a reload, which ends with its report. -/
theorem concluding_own {url : String} (he : Echoes responses url) (h : Linked saves depth s)
    (hkeys : (Table.keys s.values).Nodup) (issue : Nat) :
    ∃ r t, (concluding .answer ⟨issue, .ok (.canned responses url)⟩).settle (n+3) s = some (r, t) ∧
      t.values = s.values ∧ (s.notifier = true →
        r = .ok (.done (.reloaded (if issue = s.reloads then .applied else .superseded)))) := by
  obtain ⟨report, t, ht, hv, hreport⟩ := receipt_own (n := n) h hkeys he issue
  cases report with
  | error e => exact ⟨_, t, run_bind_error ht, hv, fun hn => nomatch hreport hn⟩
  | ok o =>
      refine ⟨_, t, run_bind_ok ht, hv, fun hn => ?_⟩
      cases hreport hn
      rfl

theorem built_concluding (next : AfterReload) (f : Flight) : Built Anything (concluding next f) :=
  .bind (built_receipt f) fun o => .bind (built_afterReload next o) fun _ => .pure _

end Act

/-- Between the start of a reload and its answer a stretch writes nothing. -/
theorem Stretch.Receives.unwritten {carry : React} {x : Stretch} {f : Flight} {u : Session}
    (h : x.Receives carry .answer f u) : x.before.Unwritten u := by
  cases h with
  | later _ => exact .refl _
  | atOnce hs hl =>
      cases hs with
      | reload _ => exact launch_unwritten hl
  | unsent hs hl =>
      cases hs with
      | reload _ => exact launch_unwritten hl

/-- In every run, a reload or a live poll that is answered with the state itself leaves every value
and the order of the keys as it finds them, provided that listeners are quiet when the answer is
heard. It finds what the other tasks have written since any earlier stretch, such as the one that
sent the request; so none of these writes is undone. The reload is reported as applied, or as
superseded if a newer one was issued; it ends, and the poll goes on. -/
theorem echo_changes_nothing {s₀ s : Session} {log : List Stretch}
    (h : Interleaved cascade s₀ s log) (hkeys : (Table.keys s₀.values).Nodup) (responses : Fields) :
    (∀ pre x post, log = pre ++ x::post → ∀ saves depth,
      (∀ n issue url u, Echoes responses url → x.Runs (cascade n) →
        x.Receives (cascade n) .answer ⟨issue, .ok (.canned responses url)⟩ u →
        Linked saves depth u → x.after.values = x.before.values ∧
          (u.notifier = true → x.result = .ok (.done (.reloaded
            (if issue = u.reloads then .applied else .superseded))))) ∧
      (x.task.frame.Echoed responses → Linked saves depth x.before →
        x.after.values = x.before.values) ∧
      ∀ a z b, pre = a ++ z::b →
        x.before.values = Table.written z.after.values (b.flatMap Stretch.writes)) ∧
    ∀ saves depth n answer, Linked saves depth s →
      (∀ issue url, Echoes responses url → ∃ r t,
        (resume (.replying (reloadCall issue .answer) (.canned responses url)) answer).settle (n+3)
          s = some (r, t)) ∧
      ∀ frame, Frame.Echoed responses frame → ∃ p t,
        (resume frame answer).settle (n+3) s = some (.ok p, t) := by
  refine ⟨fun pre x post hlog saves depth => ⟨?_, ?_, ?_⟩, fun saves depth n answer hs => ⟨?_, ?_⟩⟩
  · intro n issue url u he hr hx hu
    have hbefore : u.values = x.before.values := hx.unwritten.values
    have hnodup : (Table.keys u.values).Nodup := hbefore ▸ (h.before hlog).nodup_keys hkeys
    obtain ⟨r, t, ht, hv, hreport⟩ := concluding_own (n := n) he hu hnodup issue
    have hdeeper := built_kept (built_concluding .answer _) (faultless_listener n)
      (cascade_deeper (Nat.le_add_right n 3)) _ _ _ (hx.concluding hr)
    obtain ⟨rfl, rfl⟩ := Prod.mk.inj (Option.some.inj (hdeeper.symm.trans ht))
    exact ⟨(x.stopped.record_values x.task x.result).trans (hv.trans hbefore), hreport⟩
  · intro hf hx
    obtain ⟨n, hr⟩ := h.runs (hlog ▸ List.mem_append_right _ (List.mem_cons_self ..) : x ∈ log)
    obtain ⟨p, t, ht, hv⟩ := resume_own (n := n) hf hx ((h.before hlog).nodup_keys hkeys) x.answer
    have hdeeper := resume_deeper (Nat.le_add_right n 3) _ _ _ _ _ hr
    obtain ⟨-, rfl⟩ := Prod.mk.inj (Option.some.inj (hdeeper.symm.trans ht))
    exact (x.stopped.record_values x.task x.result).trans hv
  · intro a z b hpre
    exact (h.before hlog).values_since hpre
  · intro issue url he
    obtain ⟨r, t, ht, -⟩ := concluding_own (n := n) he hs (h.nodup_keys hkeys) issue
    refine ⟨r, t, ?_⟩
    rw [resume_reload]
    exact ht
  · intro frame hf
    obtain ⟨p, t, ht, -⟩ := resume_own (n := n) hf hs (h.nodup_keys hkeys) answer
    exact ⟨p, t, ht⟩

/-- A value is edited while a reload waits for its answer, which is the state at that time; the
edit stays, and is written once more. -/
theorem echo_changes_nothing_edited : ∃ s₀ s x y z, Interleaved cascade s₀ s [x, y, z] ∧
    x.task.frame = .begin .reload ∧ y.writes = [⟨"user", .string "new", none⟩] ∧
    z.task.id = x.task.id ∧ z.writes.length = 2 ∧ z.after.values = z.before.values ∧
    z.before.values = Table.written x.after.values y.writes ∧
    z.result = .ok (.done (.reloaded .applied)) ∧
    Table.find? s.values "user" = some (.string "new") := by
  let responses : Fields := [("u", .string "%state%")]
  let s₀ : Session :=
    { notifier := true, transport := some (.offline responses 5), listeners := [("*", .journal)],
      values := [("methods", MethodTable.single "state.load" .get "u"), ("user", .string "old")] }
  let waiting : Task := ⟨0, .detached, .replying (reloadCall 1 .answer) (.canned responses "u")⟩
  have h₀ : Interleaved cascade s₀ s₀ [] := .start
  have h₁ := h₀.resumed 3 ⟨0, .detached, .begin .reload⟩ true rfl
  have h₂ := h₁.resumed 3
    ⟨1, .detached, .begin (.now (.state (.set "user" (.string "new") none)))⟩ true rfl
  have h₃ := h₂.resumed 3 waiting true rfl
  obtain ⟨hreload, -, hcut⟩ := (echo_changes_nothing h₃ (by decide) responses).1
    [_, _] _ [] rfl [] 0
  have hquiet (p : String × Listener) (hp : p ∈ s₀.listeners) : p.2.Quiet := by
    obtain rfl := List.mem_singleton.mp hp
    trivial
  obtain ⟨hkept, hresult⟩ := hreload 3 1 "u" _ rfl rfl (.later rfl)
    ⟨rfl, rfl, hquiet, (fun r hr => nomatch hr), rfl, rfl⟩
  exact ⟨s₀, _, _, _, _, h₃, rfl, rfl, rfl, rfl, hkept, hcut [] _ [_] rfl, hresult rfl, rfl⟩

end ScreenBinding
