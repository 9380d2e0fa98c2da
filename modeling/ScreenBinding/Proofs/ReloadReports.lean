import ScreenBinding.Proofs.ModeSwitches

/-!
# What a reload reports

A reload is reported as applied, superseded or failed, and whoever asked for it goes on with the
report: a switch enters its mode after an applied one, and a start that bootstraps shows its view
unless the reload has failed.

What is reported is that the answer was a success and that no newer reload was issued. A response
that tells a state, `null` or a mapping, is in place by then. Any other response is dropped, and the
report is the same; so the caller goes on as if it had been written.
-/
namespace ScreenBinding
open Act
open Session (Wrote)

/-- Whether a response tells a state; `null` tells that there is nothing to take over. -/
def Json.isState : Json → Bool
  | .null | .object _ => true
  | _ => false

namespace Act

/-- What a start that bootstraps does before it fetches the state. -/
def prepareStart (url : String) (options : StartOptions) : Act Unit := do
  if options.warn then change fun s => { s with warns := true }
  prepareViews
  discard (write "methods" (MethodTable.single "state.load" .get url) none)

theorem start_bootstrap (view url : String) (options : StartOptions) :
    start view (.bootstrap url) options = (do
      prepareStart url options
      reload (.start url view options)) := by
  unfold start prepareStart
  cases options.warn <;> simp

/-- Hears the answer of a flight, and goes on with the report. -/
def concluding (next : AfterReload) (f : Flight) : Act Progress := do
  return .done (← afterReload next (← receipt f))

/-- How the caller of a reload ends, from the session in which the reload is reported. -/
inductive Concludes (carry : React) (s : Session) :
    AfterReload → Except Fault ReloadOutcome → Except Fault Progress → Session → Prop
  | faulted (next : AfterReload) (e : Fault) : Concludes carry s next (.error e) (.error e) s
  | told (o : ReloadOutcome) : Concludes carry s .answer (.ok o) (.ok (.done (.reloaded o))) s
  | entered {m : Mode} {x : Except Fault Unit} {t : Session} : applyMode m carry s = some (x, t) →
      Concludes carry s (.enter m) (.ok .applied) (x.map fun _ => .done .nothing) t
  | stayed (m : Mode) {o : ReloadOutcome} : o ≠ .applied →
      Concludes carry s (.enter m) (.ok o) (.ok (.done .nothing)) s
  | opened {url view : String} {options : StartOptions} {o : ReloadOutcome} {x : Except Fault Unit}
      {t : Session} : o ≠ .failed → openView view options carry s = some (x, t) →
      Concludes carry s (.start url view options) (.ok o) (x.map fun _ => .done .nothing) t
  | refused (url view : String) (options : StartOptions) :
      Concludes carry s (.start url view options) (.ok .failed) (.error (.bootstrapFailed url)) s

section
variable {carry : React} {s t : Session} {next : AfterReload} {f : Flight}
  {x : Except Fault Progress}

theorem concludes_afterReload {o : ReloadOutcome}
    (h : (do return Progress.done (← afterReload next o)) carry s = some (x, t)) :
    Concludes carry s next (.ok o) x t := by
  cases next with
  | answer =>
      cases h
      exact .told o
  | enter m =>
      by_cases ho : o = .applied
      · subst ho
        rw [afterReload_applied] at h
        obtain ⟨y, hy, rfl⟩ := map_cases (f := fun _ => Progress.done .nothing) h
        exact .entered hy
      · rw [afterReload_dropped m ho] at h
        cases h
        exact .stayed m ho
  | start url view options =>
      by_cases ho : o = .failed
      · subst ho
        cases h
        exact .refused url view options
      · simp only [afterReload, if_neg ho, bind_assoc, pure_bind] at h
        obtain ⟨y, hy, rfl⟩ := map_cases (f := fun _ => Progress.done .nothing) h
        exact .opened ho hy

theorem concluding_cases (h : concluding next f carry s = some (x, t)) :
    ∃ report u, receipt f carry s = some (report, u) ∧ Concludes carry u next report x t := by
  obtain ⟨o, u, hu, ht⟩ | ⟨e, he, rfl⟩ := bind_cases h
  · exact ⟨.ok o, u, hu, concludes_afterReload ht⟩
  · exact ⟨.error e, t, he, .faulted next e⟩

/-- A success is heard, and goes where its issue number decides. -/
theorem run_receipt_success {v : Json} (hn : s.notifier = true) (hv : f.response s = .ok v) :
    receipt f carry s = concludeReload f.issue (.success v) carry (f.heard s) := by
  obtain ⟨issue, why | reply⟩ := f
  · cases hv
  · have hanswer : reply.answer s = .ok v := by
      cases ha : reply.answer s with
      | ok w => simpa [Flight.response, ha] using hv
      | error why => simp [Flight.response, ha] at hv
    have hheard : (s.retrace (.answered (reply.answer s)::s.trace)).notifier = true := hn
    refine (run_bind_ok (run_receive reply)).trans ((run_unlock hheard _).trans ?_)
    rw [hanswer]
    simp only [Flight.heard, hanswer]
    rfl

/-- A success that no newer reload has overtaken is reported as applied, whatever it says. -/
theorem report_of_success {n : Nat} {report : Except Fault ReloadOutcome} {v : Json}
    (hn : s.notifier = true) (hv : f.response s = .ok v) (hi : f.issue = s.reloads)
    (h : (receipt f).settle n s = some (report, t)) : report = .ok .applied := by
  have hcurrent : f.issue = (f.heard s).reloads := by
    obtain ⟨issue, why | reply⟩ := f <;> exact hi
  rw [settle, run_receipt_success hn hv, concludeReload, run_bind_ok (run_gets _),
    if_pos hcurrent] at h
  obtain ⟨_, u, -, hu⟩ | ⟨e, he, -⟩ := bind_cases h
  · cases hu
    rfl
  · obtain ⟨_, hy⟩ := faultless_applyState n v _ _ _ he
    cases hy

end
end Act

namespace Stretch
variable {carry : React} {x : Stretch} {next : AfterReload} {f : Flight} {s u : Session}

/-- The stretch begins a step that fetches the state, and comes to do so in this session: a reload,
a switch to a mode that is to be fresh, or a start that bootstraps. -/
inductive Fetches (carry : React) (x : Stretch) : AfterReload → Session → Prop
  | reload : x.task.frame = .begin .reload → Fetches carry x .answer x.before
  | setMode {name : String} {m : Mode} : x.task.frame = .begin (.setMode name true) →
      Table.find? x.before.modes name = some m → Fetches carry x (.enter m) x.before
  | start {url view : String} {options : StartOptions} {s : Session} :
      x.task.frame = .begin (.start view (.bootstrap url) options) →
      prepareStart url options carry x.before = some (.ok (), s) →
      Fetches carry x (.start url view options) s

/-- In this stretch the answer to a reload is heard: when it arrives, or at once if it takes no time
or no request was made. The flight is the reload, and the session the one in which it is heard. -/
inductive Receives (carry : React) (x : Stretch) (next : AfterReload) : Flight → Session → Prop
  | later {issue : Nat} {reply : Pending} :
      x.task.frame = .replying (reloadCall issue next) reply →
      Receives carry x next ⟨issue, .ok reply⟩ x.before
  | atOnce {issue : Nat} {reply : Pending} {s u : Session} : x.Fetches carry next s →
      launch carry s = some (.ok (issue, .ok (0, reply)), u) →
      Receives carry x next ⟨issue, .ok reply⟩ u
  | unsent {issue : Nat} {why : Fault} {s u : Session} : x.Fetches carry next s →
      launch carry s = some (.ok (issue, .error why), u) →
      Receives carry x next ⟨issue, .error why⟩ u

theorem Fetches.reloads (h : x.Fetches carry next s) :
    resume x.task.frame x.answer carry x.before = Act.reload next carry s := by
  cases h with
  | reload hf =>
      rw [hf]
      rfl
  | setMode hf hm => exact run_setMode hf hm
  | @start url view options s hf hp =>
      rw [hf]
      change Act.start view (.bootstrap url) options carry x.before = _
      rw [start_bootstrap, run_bind_ok hp]

/-- What is done from there on. -/
theorem Receives.concluding (h : x.Receives carry next f u) (hr : x.Runs carry) :
    concluding next f carry u = some (x.result, x.stopped) := by
  cases h with
  | later hf =>
      rw [Runs, hf, resume_reload] at hr
      exact hr
  | atOnce hs hl =>
      rw [Runs, hs.reloads, reload_eq, run_bind_ok hl] at hr
      exact hr
  | unsent hs hl =>
      rw [Runs, hs.reloads, reload_eq, run_bind_ok hl] at hr
      exact hr

end Stretch

/-- A reload is reported as applied if its answer is a success that no newer reload has overtaken,
whatever the response is. If this tells a state, each of its entries stands in the state then,
provided that no listener changes the state when it is told of them; if not, nothing is written. Any
other report comes with nothing written. The caller goes on with the report alone: it enters the
mode if the reload was applied, and shows the view unless it failed. -/
theorem reload_report_tells {n : Nat} {x : Stretch} {next : AfterReload} {f : Flight} {u : Session}
    (hr : x.Runs (cascade n)) (hx : x.Receives (cascade n) next f u) :
    ∃ report v, (receipt f).settle n u = some (report, v) ∧
      (u.notifier = true → (report = .ok .applied ↔
        f.issue = u.reloads ∧ ∃ response, f.response u = .ok response)) ∧
      (report = .ok .applied → ∃ response calls, f.response u = .ok response ∧
        LaidOver (cascade n) (f.heard u) (Table.writesBy response.mapping none) calls v ∧
        ((∀ c ∈ calls, c.LeavesState) →
          v.values = Table.overlay u.values response.mapping ∧
          ((Table.keys response.mapping).Nodup → ∀ key value, (key, value) ∈ response.mapping →
            Table.find? v.values key = some value)) ∧
        (response.isState = false → u.Unwritten v)) ∧
      (report ≠ .ok .applied → u.Unwritten v) ∧
      Concludes (cascade n) v next report x.result x.stopped := by
  obtain ⟨report, v, hv, hend⟩ := concluding_cases (hx.concluding hr)
  have hcases := receipt_cases hv
  refine ⟨report, v, hv, fun hn => ⟨fun ho => ?_, ?_⟩, fun ho => ?_, fun ho => ?_, hend⟩
  · obtain ⟨-, hi, response, hresponse, -⟩ | ⟨hne, -⟩ := hcases
    · exact ⟨hi, response, hresponse⟩
    · exact (hne ho).elim
  · rintro ⟨hi, response, hresponse⟩
    exact report_of_success hn hresponse hi hv
  · obtain ⟨-, -, response, hresponse, hw⟩ | ⟨hne, -⟩ := hcases
    · rw [applyState_eq] at hw
      obtain ⟨-, calls, hlaid⟩ := run_writeAll_iff.mp hw
      refine ⟨response, calls, hresponse, hlaid, fun hq => ?_, fun hs => ?_⟩
      · have hvalues : v.values = Table.overlay u.values response.mapping := by
          rw [hlaid.values hq, (f.wrote_heard u).values, Table.written_writesBy]
          rfl
        refine ⟨hvalues, fun hkeys key value hmem => ?_⟩
        rw [hvalues]
        exact Table.find?_overlay_of_mem hkeys hmem
      · have hnone : response.mapping = [] := by cases response <;> first | rfl | cases hs
        rw [hnone] at hlaid
        cases hlaid
        exact (f.wrote_heard u).unwritten
    · exact (hne ho).elim
  · obtain ⟨ha, -⟩ | ⟨-, hw⟩ := hcases
    · exact (ho ha).elim
    · exact hw.unwritten

/-- A start that bootstraps: the response is in place when the reload is reported, and the view is
shown. -/
theorem reload_report_tells_bootstrap : ∃ x next f u v, Stretch.Runs (cascade 3) x ∧
    x.task.frame = .begin (.start "home" (.bootstrap "u") {}) ∧
    x.Receives (cascade 3) next f u ∧ (receipt f).settle 3 u = some (.ok .applied, v) ∧
    Table.find? v.values "user" = some (.string "ann") ∧
    Concludes (cascade 3) v next (.ok .applied) x.result x.stopped := by
  let s : Session :=
    { notifier := true, transport := some .scripted,
      modes := [("home", { name := "home", patch := [("view", .string "home")] })],
      replies := [("u", [⟨0, .ok (.object [("user", .string "ann")])⟩])] }
  have hrun : resume (.begin (.start "home" (.bootstrap "u") {})) true (cascade 3) s =
    some (_, _) := rfl
  have hr : Stretch.Runs (cascade 3) ⟨⟨0, .script, _⟩, true, s, _, _⟩ := hrun
  obtain ⟨report, v, hv, hiff, happlied, -, hend⟩ :=
    reload_report_tells hr (.atOnce (.start rfl rfl) rfl)
  obtain rfl : report = .ok .applied := (hiff rfl).mpr ⟨rfl, _, rfl⟩
  obtain ⟨response, calls, hresponse, hlaid, hquiet, -⟩ := happlied rfl
  cases hresponse
  -- nobody listens, so there are no calls
  have hnobody : calls = [] := by
    cases hlaid with
    | cons _ hplaces hrest =>
        cases hrest
        rw [List.append_nil]
        exact List.map_eq_nil_iff.mp hplaces
  obtain ⟨-, hentries⟩ := hquiet (hnobody ▸ List.forall_mem_nil _)
  have huser := hentries (by decide) "user" (.string "ann") (List.mem_cons_self ..)
  exact ⟨_, _, _, _, v, hr, rfl, .atOnce (.start rfl rfl) rfl, hv, huser, hend⟩

/-- A response that tells no state: nothing is written, the reload is reported as applied, and the
mode is entered. -/
theorem mode_entered_on_dropped_response : ∃ x m f u v, Stretch.Runs (cascade 3) x ∧
    x.task.frame = .begin (.setMode "edit" true) ∧ x.Receives (cascade 3) (.enter m) f u ∧
    f.response u = .ok (.array [.bool true]) ∧
    (receipt f).settle 3 u = some (.ok .applied, v) ∧ v.writes = x.before.writes ∧
    x.stopped.writes = x.before.writes ++ [⟨"mode", .string "editing", some .mode⟩] := by
  let s : Session :=
    { notifier := true, transport := some .scripted,
      values := [("methods", MethodTable.single "state.load" .get "u")],
      modes := [("edit", { name := "edit", patch := [("mode", .string "editing")] })],
      replies := [("u", [⟨0, .ok (.array [.bool true])⟩])] }
  have hrun : resume (.begin (.setMode "edit" true)) true (cascade 3) s = some (_, _) := rfl
  have hr : Stretch.Runs (cascade 3) ⟨⟨0, .script, _⟩, true, s, _, _⟩ := hrun
  exact ⟨_, _, _, _, _, hr, rfl, .atOnce (.setMode rfl rfl) rfl, rfl, rfl, rfl, rfl⟩

end ScreenBinding
