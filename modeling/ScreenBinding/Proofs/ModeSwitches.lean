import ScreenBinding.Proofs.CallStages
import ScreenBinding.Proofs.Notices
import ScreenBinding.Proofs.ReloadTasks
import ScreenBinding.Proofs.Stretches

/-!
# Modes behind a reload

A switch to a mode may ask for the state first. It then launches a reload of its own, and goes on
where the answer is heard: the response is written if no newer reload was issued, and only then the
patch of the mode is written over it and its logic runs.

All of this lies in one stretch of the task, from the answer to the end of the logic. Since every
write of a run lies in one stretch, and the stretches stand one behind the other, no other task
writes in between. What does write in between are the listeners of these very writes; where they
leave the state alone, the logic finds the state at the time of the answer with the response and
the patch laid over it.
-/
namespace ScreenBinding
open Act
open Session (Wrote)

/-- What a response lays over the state; what is no mapping changes nothing. -/
def Json.mapping : Json → Fields
  | .object values => values
  | _ => []

/-- Writes one after the other. Each one stores its value and makes its calls before the next
one begins, and nothing else comes between them. -/
inductive LaidOver (carry : React) : Session → List Write → List Notice → Session → Prop
  | nil (s : Session) : LaidOver carry s [] [] s
  | cons {s t u : Session} {w : Write} {ws : List Write} {calls more : List Notice} :
      Notified carry w.key w.value w.source (s.storing w.key w.value w.source) calls t →
      calls.map Notice.registration = s.callees w.key → LaidOver carry t ws more u →
      LaidOver carry s (w::ws) (calls ++ more) u

/-- The calls leave the state as they find it. -/
def Notice.LeavesState (c : Notice) : Prop := c.after.values = c.before.values

section
variable {carry : React} {s t u : Session} {ws us : List Write} {calls more : List Notice}

theorem LaidOver.append (h : LaidOver carry s ws calls t) (k : LaidOver carry t us more u) :
    LaidOver carry s (ws ++ us) (calls ++ more) u := by
  induction h with
  | nil s => exact k
  | cons hcalls hplaces _ ih =>
      rw [List.append_assoc]
      exact .cons hcalls hplaces (ih k)

theorem Notified.values {key : String} {v : Json} {source : Option Source}
    (h : Notified carry key v source s calls t) (hq : ∀ c ∈ calls, c.LeavesState) :
    t.values = s.values := by
  induction h with
  | nil s => rfl
  | cons _ _ ih =>
      obtain ⟨hfirst, hrest⟩ := List.forall_mem_cons.mp hq
      exact (ih hrest).trans hfirst

/-- If no call changes the state, it holds what was written and nothing else is new. -/
theorem LaidOver.values (h : LaidOver carry s ws calls t) (hq : ∀ c ∈ calls, c.LeavesState) :
    t.values = Table.written s.values ws := by
  induction h with
  | nil s => rfl
  | cons hcalls _ _ ih =>
      obtain ⟨hfirst, hrest⟩ := List.forall_mem_append.mp hq
      rw [ih hrest, hcalls.values hfirst]
      rfl

theorem run_writeAll_iff {n : Nat} {values : Fields} {source : Option Source}
    {x : Except Fault Unit} : (writeAll values source).settle n s = some (x, t) ↔
      x = .ok () ∧ ∃ calls, LaidOver (cascade n) s (Table.writesBy values source) calls t := by
  induction values generalizing s with
  | nil =>
      constructor
      · intro h
        cases h
        exact ⟨rfl, [], .nil _⟩
      · rintro ⟨rfl, calls, h⟩
        cases h
        rfl
  | cons entry values ih =>
      obtain ⟨key, v⟩ := entry
      have hwrite {y : Except Fault (Option Json)} {u : Session} :
          write key v source (cascade n) s = some (y, u) ↔ y = .ok (Table.find? s.values key) ∧
            ∃ calls, Notified (cascade n) key v source (s.storing key v source) calls u ∧
              calls.map Notice.registration = s.callees key :=
        run_write_iff fun l => faultless_listener n l key v source
      rw [settle, writeAll_cons, discard_bind]
      constructor
      · intro h
        obtain ⟨_, u, hu, ht⟩ | ⟨e, he, -⟩ := bind_cases h
        · obtain ⟨-, calls, hcalls, hplaces⟩ := hwrite.mp hu
          obtain ⟨rfl, more, hmore⟩ := ih.mp ht
          exact ⟨rfl, _, .cons (w := ⟨key, v, source⟩) hcalls hplaces hmore⟩
        · -- the faults of listeners go nowhere, so every entry is reached
          cases (hwrite.mp he).1
      · rintro ⟨rfl, calls, h⟩
        cases h with
        | cons hcalls hplaces hmore =>
            exact (run_bind_ok (hwrite.mpr ⟨rfl, _, hcalls, hplaces⟩)).trans
              (ih.mpr ⟨rfl, _, hmore⟩)

end

/-- Nothing is written between two sessions. -/
structure Session.Unwritten (s t : Session) : Prop where
  values : t.values = s.values
  writes : t.writes = s.writes

namespace Session
variable {s t u : Session}

theorem Unwritten.refl (s : Session) : s.Unwritten s := ⟨rfl, rfl⟩

theorem Unwritten.trans (h : s.Unwritten t) (k : t.Unwritten u) : s.Unwritten u :=
  ⟨k.values.trans h.values, k.writes.trans h.writes⟩

theorem Wrote.unwritten (h : Wrote [] s t) : s.Unwritten t :=
  ⟨h.values, h.writes.trans (List.append_nil _)⟩

/-- Whatever a task comes to, putting it where it stands writes nothing. -/
theorem record_writes (s : Session) (task : Task) (x : Except Fault Progress) :
    (s.record task x).2.writes = s.writes := by
  obtain ⟨new, hnew, hplain⟩ := s.record_trace task x
  exact writes_of_plain hnew fun e he => (hplain e he).2

end Session

namespace Act
variable {carry : React} {s t : Session}

/-- A request shows the lock and is sent, as far as it gets. -/
theorem request_plain {x : Except Fault (Except Fault (Nat × Pending))}
    (h : request carry s = some (x, t)) :
    ∃ new : List Event, t.trace = new ++ s.trace ∧ ∀ e ∈ new, e.write? = none := by
  cases hn : s.notifier with
  | false =>
      cases (run_bind_error (run_needNotifier_missing hn)).symm.trans h
      exact ⟨[], rfl, List.forall_mem_nil _⟩
  | true =>
      rw [request, run_bind_ok (run_needNotifier hn), run_bind_ok (run_emit _), tryRequest,
        run_bind_ok (x := s.dispatched "state.load") (t := s.retrace (.lockShown::s.trace))
          (by rw [run_outcome, run_dispatch]; rfl)] at h
      cases hd : s.dispatched "state.load" with
      | error why =>
          rw [hd] at h
          cases h
          exact ⟨[.lockShown], rfl, by simp [Event.write?]⟩
      | ok p =>
          rw [hd] at h
          obtain ⟨u, hu, ht⟩ := run_send carry (s := s.retrace (.lockShown::s.trace)) p.2 p.1.verb
            p.1.url (.object [])
          cases (run_bind_ok hu).symm.trans h
          exact ⟨[_, .lockShown], ht, by simp [Event.write?]⟩

theorem launch_unwritten {x : Except Fault (Nat × Except Fault (Nat × Pending))}
    (h : launch carry s = some (x, t)) : s.Unwritten t := by
  have hrequest {y : Except Fault (Except Fault (Nat × Pending))}
      (hr : request carry { s with reloads := s.reloads+1 } = some (y, t)) : s.Unwritten t := by
    obtain ⟨new, hnew, hplain⟩ := request_plain hr
    exact ⟨by rw [beside_request _ _ _ hr], Session.writes_of_plain hnew hplain⟩
  rw [launch, run_bind_ok (run_change _), run_bind_ok (run_gets _)] at h
  obtain ⟨y, u, hu, ht⟩ | ⟨e, he, -⟩ := bind_cases h
  · cases ht
    exact hrequest hu
  · exact hrequest he

/-- What a mode does once its patch is written: a view arranges its screen, and the logic runs. -/
def runLogic (m : Mode) : Act Unit := do
  match m.screen with
  | some screen => arrange screen
  | none => pure ()
  match m.logic with
  | some actions => react (.script actions)
  | none => pure ()

theorem applyMode_eq (m : Mode) : applyMode m = (do
    writeAll m.patch (some .mode)
    runLogic m) := rfl

theorem applyState_eq (v : Json) : applyState v = writeAll v.mapping none := by
  cases v <;> rfl

/-- Applying a mode never stops before its logic. -/
theorem applyMode_cases {n : Nat} {m : Mode} {x : Except Fault Unit}
    (h : (applyMode m).settle n s = some (x, t)) :
    ∃ calls p, LaidOver (cascade n) s (Table.writesBy m.patch (some .mode)) calls p ∧
      (runLogic m).settle n p = some (x, t) := by
  rw [settle, applyMode_eq] at h
  obtain ⟨_, p, hp, ht⟩ | ⟨e, he, -⟩ := bind_cases h
  · obtain ⟨-, calls, hcalls⟩ := run_writeAll_iff.mp hp
    exact ⟨calls, p, hcalls, ht⟩
  · cases (run_writeAll_iff.mp he).1

/-- Hears the answer of a flight, and enters the mode if it was written. -/
def entering (m : Mode) (f : Flight) : Act Progress := do
  return .done (← afterReload (.enter m) (← receipt f))

theorem afterReload_applied (m : Mode) : (do
    return Progress.done (← afterReload (.enter m) .applied)) = (do
      applyMode m
      return .done .nothing) := by
  simp only [afterReload, if_pos, bind_assoc, pure_bind]

theorem afterReload_dropped (m : Mode) {o : ReloadOutcome} (h : o ≠ .applied) : (do
    return Progress.done (← afterReload (.enter m) o)) = pure (.done .nothing) := by
  simp only [afterReload, if_neg h, pure_bind]

/-- A response that is written is laid over the state together with the patch, and then the logic
runs; after any other answer nothing more is done. -/
theorem entering_cases {n : Nat} {m : Mode} {f : Flight} {x : Except Fault Progress}
    (h : (entering m f).settle n s = some (x, t)) :
    ∃ report u, (receipt f).settle n s = some (report, u) ∧
      ((report = .ok .applied ∧ f.issue = s.reloads ∧ ∃ v calls p logic,
          f.response s = .ok v ∧
          LaidOver (cascade n) (f.heard s)
            (Table.writesBy v.mapping none ++ Table.writesBy m.patch (some .mode)) calls p ∧
          (runLogic m).settle n p = some (logic, t) ∧ x = logic.map fun _ => .done .nothing) ∨
       (report ≠ .ok .applied ∧ t = u ∧ s.Unwritten t ∧
          x = report.map fun _ => .done .nothing)) := by
  obtain ⟨o, u, hu, ht⟩ | ⟨e, he, rfl⟩ := bind_cases h
  · obtain ⟨ho, hi, v, hv, hw⟩ | ⟨ho, hw⟩ := receipt_cases hu
    · cases ho
      rw [applyState_eq] at hw
      obtain ⟨-, calls, hcalls⟩ := run_writeAll_iff.mp hw
      -- the response is in place, and the patch follows in the same act
      rw [afterReload_applied] at ht
      obtain ⟨logic, hl, hx⟩ := map_cases (f := fun _ => Progress.done .nothing) ht
      obtain ⟨more, p, hmore, hp⟩ := applyMode_cases hl
      exact ⟨_, u, hu, .inl ⟨rfl, hi, v, _, p, logic, hv, hcalls.append hmore, hp, hx⟩⟩
    · rw [afterReload_dropped m fun h => ho (congrArg _ h)] at ht
      cases ht
      exact ⟨_, t, hu, .inr ⟨ho, rfl, hw.unwritten, rfl⟩⟩
  · obtain ⟨he, -⟩ | ⟨hne, hw⟩ := receipt_cases he
    · cases he
    · exact ⟨_, t, he, .inr ⟨hne, rfl, hw.unwritten, rfl⟩⟩

end Act

namespace Stretch

/-- What a stretch writes. -/
def writes (x : Stretch) : List Write := x.after.writes.drop x.before.writes.length

/-- In this stretch the answer to the reload behind a mode is heard: when it arrives, or at once if
it takes no time or no request was made. The flight is the reload, and the session the one in which
it is heard. -/
inductive Hears (carry : React) (m : Mode) (x : Stretch) : Flight → Session → Prop
  | later {issue : Nat} {reply : Pending} :
      x.task.frame = .replying (reloadCall issue (.enter m)) reply →
      Hears carry m x ⟨issue, .ok reply⟩ x.before
  | atOnce {name : String} {issue : Nat} {reply : Pending} {u : Session} :
      x.task.frame = .begin (.setMode name true) → Table.find? x.before.modes name = some m →
      launch carry x.before = some (.ok (issue, .ok (0, reply)), u) →
      Hears carry m x ⟨issue, .ok reply⟩ u
  | unsent {name : String} {issue : Nat} {why : Fault} {u : Session} :
      x.task.frame = .begin (.setMode name true) → Table.find? x.before.modes name = some m →
      launch carry x.before = some (.ok (issue, .error why), u) →
      Hears carry m x ⟨issue, .error why⟩ u

variable {carry : React} {x : Stretch} {m : Mode} {f : Flight} {u : Session} {name : String}

theorem writes_eq_nil (h : x.before.Unwritten x.stopped) : x.writes = [] := by
  rw [writes, after, Session.record_writes, h.writes, List.drop_length]

theorem run_setMode (hf : x.task.frame = .begin (.setMode name true))
    (hm : Table.find? x.before.modes name = some m) :
    resume x.task.frame x.answer carry x.before = reload (.enter m) carry x.before := by
  rw [hf]
  change setMode name true carry x.before = _
  rw [setMode, mode, bind_assoc, run_bind_ok (run_gets _), hm]
  refine (run_bind_ok (run_pure m)).trans ?_
  rw [if_pos rfl]

/-- What is done from there on. -/
theorem Hears.entering (h : x.Hears carry m f u) (hr : x.Runs carry) :
    entering m f carry u = some (x.result, x.stopped) := by
  cases h with
  | later hf =>
      rw [Runs, hf, resume_reload] at hr
      exact hr
  | atOnce hf hm hl =>
      rw [Runs, run_setMode hf hm, reload_eq, run_bind_ok hl] at hr
      exact hr
  | unsent hf hm hl =>
      rw [Runs, run_setMode hf hm, reload_eq, run_bind_ok hl] at hr
      exact hr

/-- Nothing is written before. -/
theorem Hears.unwritten (h : x.Hears carry m f u) : x.before.Unwritten u := by
  cases h with
  | later hf => exact .refl _
  | atOnce hf hm hl => exact launch_unwritten hl
  | unsent hf hm hl => exact launch_unwritten hl

/-- A switch that begins hears the answer at once, or writes nothing: it waits for the answer to
its own reload, or there is no such mode, or no reload could be launched. -/
theorem begun_cases (hr : x.Runs carry) (hf : x.task.frame = .begin (.setMode name true)) :
    (∃ m f u, x.Hears carry m f u) ∨ x.before.Unwritten x.stopped ∧
      ((∃ m issue delay reply, Table.find? x.before.modes name = some m ∧
          launch carry x.before = some (.ok (issue, .ok (delay, reply)), x.stopped) ∧
          x.result = .ok (.sleep delay (.replying (reloadCall issue (.enter m)) reply))) ∨
        (Table.find? x.before.modes name = none ∧ x.result = .error (.unknownMode name)) ∨
        ∃ why, launch carry x.before = some (.error why, x.stopped) ∧ x.result = .error why) := by
  cases hm : Table.find? x.before.modes name with
  | none =>
      rw [Runs, hf] at hr
      change setMode name true carry x.before = _ at hr
      rw [setMode, mode, bind_assoc, run_bind_ok (run_gets _), hm] at hr
      have hx := (run_bind_error (e := .unknownMode name) rfl).symm.trans hr
      obtain ⟨hx, hs⟩ := Prod.mk.inj (Option.some.inj hx)
      exact .inr ⟨hs ▸ .refl _, .inr (.inl ⟨rfl, hx.symm⟩)⟩
  | some m =>
      rw [Runs, run_setMode hf hm, reload_eq] at hr
      obtain ⟨⟨issue, y⟩, u, hu, ht⟩ | ⟨e, he, hx⟩ := bind_cases hr
      · rcases y with why | ⟨delay, reply⟩
        · exact .inl ⟨m, _, u, .unsent hf hm hu⟩
        · by_cases hd : delay = 0
          · subst hd
            exact .inl ⟨m, _, u, .atOnce hf hm hu⟩
          · dsimp only [Act.after] at ht
            rw [if_neg hd] at ht
            obtain ⟨hx, hs⟩ := Prod.mk.inj (Option.some.inj ht)
            rw [hs] at hu
            exact .inr ⟨launch_unwritten hu, .inl ⟨m, issue, delay, reply, rfl, hu, hx.symm⟩⟩
      · exact .inr ⟨launch_unwritten he, .inr (.inr ⟨e, he, hx⟩)⟩

/-- The writes of a stretch stand behind all earlier ones. -/
theorem writes_after {n : Nat} (hr : x.Runs (cascade n)) :
    x.after.writes = x.before.writes ++ x.writes := by
  obtain ⟨new, hnew⟩ := (hr.staged (onStage_cascade n) fun _ => rfl).trace
  have hafter := (Session.record_writes x.stopped x.task x.result).trans
    (Session.writes_of_trace hnew)
  rw [writes, after, hafter, List.drop_left]

end Stretch

/-- The writes of a run are those of its stretches, one stretch after the other. -/
theorem Interleaved.writes {s₀ s : Session} {log : List Stretch}
    (h : Interleaved cascade s₀ s log) : s.writes = s₀.writes ++ log.flatMap Stretch.writes := by
  induction h with
  | start => exact (List.append_nil _).symm
  | ran n _ hx ih =>
      rw [Stretch.writes_after hx, ih, List.append_assoc, List.flatMap_append,
        List.flatMap_singleton]
  | idle _ ht ih =>
      rw [ht]
      exact ih

/-- In every run the writes of a stretch stand together. A switch to a mode that begins waits for
its own reload and writes nothing, or hears the answer at once; and it hears the answer in one
stretch. If the response is written, the patch is laid over it at once and the logic runs in the
same stretch; it finds the state at the time of the answer with the response and the patch laid over
it, provided that no listener changes the state when it is told of them. In any other case neither
patch nor logic runs, and the call ends as the reload does: without a fault if this was superseded
or failed. -/
theorem mode_follows_own_reload {s₀ s : Session} {log : List Stretch}
    (h : Interleaved cascade s₀ s log) :
    s.writes = s₀.writes ++ log.flatMap Stretch.writes ∧
    ∀ x ∈ log, ∃ n, x.Runs (cascade n) ∧
      (∀ name, x.task.frame = .begin (.setMode name true) →
        (∃ m f u, x.Hears (cascade n) m f u) ∨ x.writes = [] ∧
          ((∃ m issue delay reply, Table.find? x.before.modes name = some m ∧
              launch.settle n x.before = some (.ok (issue, .ok (delay, reply)), x.stopped) ∧
              x.result = .ok (.sleep delay (.replying (reloadCall issue (.enter m)) reply))) ∨
            (Table.find? x.before.modes name = none ∧ x.result = .error (.unknownMode name)) ∨
            ∃ why, launch.settle n x.before = some (.error why, x.stopped) ∧
              x.result = .error why)) ∧
      ∀ m f u, x.Hears (cascade n) m f u → x.before.Unwritten u ∧
        ∃ report v, (receipt f).settle n u = some (report, v) ∧
          (report = .ok .applied → f.issue = u.reloads ∧ ∃ response calls p logic,
            f.response u = .ok response ∧
            LaidOver (cascade n) (f.heard u)
              (Table.writesBy response.mapping none ++ Table.writesBy m.patch (some .mode))
              calls p ∧
            (runLogic m).settle n p = some (logic, x.stopped) ∧
            x.result = logic.map (fun _ => .done .nothing) ∧
            ((∀ c ∈ calls, c.LeavesState) → p.values =
              Table.overlay (Table.overlay x.before.values response.mapping) m.patch)) ∧
          (report ≠ .ok .applied → x.stopped = v ∧ x.writes = [] ∧
            x.result = report.map fun _ => .done .nothing) ∧
          (u.Online → ∃ o, report = .ok o) := by
  refine ⟨h.writes, fun x hx => ?_⟩
  obtain ⟨n, hr⟩ := h.runs hx
  refine ⟨n, hr, fun name hf => ?_, fun m f u hears => ⟨hears.unwritten, ?_⟩⟩
  · obtain hears | ⟨hquiet, hrest⟩ := Stretch.begun_cases hr hf
    · exact .inl hears
    · exact .inr ⟨Stretch.writes_eq_nil hquiet, hrest⟩
  · obtain ⟨report, v, hv, hcases⟩ := entering_cases (hears.entering hr)
    refine ⟨report, v, hv, fun ho => ?_, fun ho => ?_, fun hs => receipt_outcome hs hv⟩
    · obtain ⟨-, hi, response, calls, p, logic, hresponse, hlaid, hlogic, hx⟩ | ⟨hne, -⟩ := hcases
      · refine ⟨hi, response, calls, p, logic, hresponse, hlaid, hlogic, hx, fun hq => ?_⟩
        have hheard : (f.heard u).values = x.before.values :=
          (f.wrote_heard u).values.trans hears.unwritten.values
        rw [hlaid.values hq, hheard, Table.written_append, Table.written_writesBy,
          Table.written_writesBy]
      · exact (hne ho).elim
    · obtain ⟨ha, -⟩ | ⟨-, hstop, hquiet, hx⟩ := hcases
      · exact (ho ha).elim
      · exact ⟨hstop, Stretch.writes_eq_nil (hears.unwritten.trans hquiet), hx⟩

/-- Two switches overlap. The first one to begin is overtaken and does nothing when its answer
arrives, although this is a success; the other one has entered the mode before. -/
theorem mode_follows_own_reload_overtaken : ∃ s₀ s log x m reply,
    Interleaved cascade s₀ s log ∧ log.length = 4 ∧ x ∈ log ∧
    x.task.frame = .replying (reloadCall 1 (.enter m)) reply ∧
    x.result = .ok (.done .nothing) ∧ x.writes = [] ∧
    Table.find? s.values "mode" = some (.string "editing") := by
  let m : Mode := { name := "edit", patch := [("mode", .string "editing")], logic := some [] }
  let s₀ : Session :=
    { notifier := true, transport := some .scripted, modes := [("edit", m)],
      values := [("methods", MethodTable.single "state.load" .get "u")],
      replies := [("u", [⟨9, .ok (.object [("mode", .string "stale")])⟩,
        ⟨5, .ok (.object [("mode", .string "fresh")])⟩])] }
  let switch (id : Nat) : Task := ⟨id, .detached, .begin (.setMode "edit" true)⟩
  let waiting (id issue : Nat) (value : String) : Task := ⟨id, .detached,
    .replying (reloadCall issue (.enter m)) (.settled (.ok (.object [("mode", .string value)])))⟩
  have h₀ : Interleaved cascade s₀ s₀ [] := .start
  have h₁ := h₀.resumed 3 (switch 0) true rfl
  have h₂ := h₁.resumed 3 (switch 1) true rfl
  -- the later reload is answered first; the counter stands at its number then
  have h₃ := h₂.resumed 3 (waiting 1 2 "fresh") true rfl
  have h₄ := h₃.resumed 3 (waiting 0 1 "stale") true rfl
  obtain ⟨n, -, -, hears⟩ := (mode_follows_own_reload h₄).2 _ (List.mem_append_right _ (.head _))
  obtain ⟨-, report, v, hv, -, hnot, -⟩ := hears m _ _ (.later rfl)
  have hsuperseded : report = .ok .superseded := by
    have hnewer : 1 ≠ 2 := by decide
    have hrun := hv.symm.trans
      (receipt_superseded (v := .object [("mode", .string "stale")]) ⟨rfl, rfl, rfl⟩ rfl hnewer)
    exact (Prod.mk.inj (Option.some.inj hrun)).1
  obtain ⟨-, hwrites, hresult⟩ := hnot (hsuperseded ▸ nofun)
  refine ⟨s₀, _, _, _, m, _, h₄, rfl, List.mem_append_right _ (.head _), rfl, ?_, hwrites, rfl⟩
  rw [hresult, hsuperseded]
  rfl

end ScreenBinding
