import ScreenBinding.Proofs.Reloads

/-!
# The traffic of reloads

A run launches reloads and receives their answers in any order, between anything else that draws no
issue number. What it leaves behind is a list of marks: a reload was issued, or one ended in an
outcome. Since issue numbers are drawn from a counter and only the current number is written, the
written ones increase, and none is written behind a newer one.

The counter alone decides a receipt. That it stands at the newest number issued in the run is the
invariant which ties the receipt to what was issued before.
-/
namespace ScreenBinding
open Session (Wrote)
open Act

section
variable {n : Nat} {s t : Session} {f : Flight}

/-- The latest reload is written, and ends when its writes do. -/
theorem receipt_current (hs : s.Online) {v : Json} (hv : f.response s = .ok v)
    (hi : f.issue = s.reloads) (r : Except Fault ReloadOutcome) :
    (receipt f).settle n s = some (r, t) ↔
      r = .ok .applied ∧ (applyState v).settle n (f.heard s) = some (.ok (), t) := by
  have hr : (f.heard s).reloads = s.reloads := by cases f with | mk i x => cases x <;> rfl
  rw [settle, run_receipt hs, hv]
  change (concludeReload f.issue (.success v)) (cascade n) (f.heard s) = _ ↔ _
  rw [concludeReload, run_bind_ok (run_gets _), if_pos (hi.trans hr.symm), run_bind]
  constructor
  · intro h
    split at h
    · cases h
    · rename_i x u hu
      cases h
      exact ⟨rfl, hu⟩
    · rename_i e u hu
      obtain ⟨y, hy⟩ := faultless_applyState n v _ _ _ hu
      cases hy
  · rintro ⟨rfl, h⟩
    rw [settle] at h
    rw [h]
    rfl

/-- An overtaken reload is dropped. -/
theorem receipt_superseded (hs : s.Online) {v : Json} (hv : f.response s = .ok v)
    (hi : f.issue ≠ s.reloads) :
    (receipt f).settle n s = some (.ok .superseded, f.heard s) := by
  have hr : (f.heard s).reloads = s.reloads := by cases f with | mk i x => cases x <;> rfl
  rw [settle, run_receipt hs, hv]
  change (concludeReload f.issue (.success v)) (cascade n) (f.heard s) = _
  rw [concludeReload, run_bind_ok (run_gets _), if_neg (fun h => hi (h.trans hr)), run_pure]

theorem receipt_failed (hs : s.Online) {why : Fault} (hv : f.response s = .error why) :
    (receipt f).settle n s = some (.ok .failed, f.heard s) := by
  rw [settle, run_receipt hs, hv]

/-- Only a response whose number is that of the counter is written. Of anything else the lock is
taken away at most. -/
theorem settleReload_cases {issue : Nat} {answer : Except Fault (Except TransportFault Json)}
    {x : Except Fault ReloadOutcome}
    (h : settleReload issue answer (cascade n) s = some (x, t)) :
    (x = .ok .applied ∧ issue = s.reloads ∧ ∃ v, answer = .ok (.ok v) ∧
      (applyState v).settle n (s.retrace (.lockReleased::s.trace)) = some (.ok (), t)) ∨
    (x ≠ .ok .applied ∧ Wrote [] s t) := by
  cases hn : s.notifier with
  | false =>
      cases (run_bind_error (run_needNotifier_missing hn)).symm.trans h
      exact .inr ⟨by simp, .refl s⟩
  | true =>
      have hlock : Wrote [] s (s.retrace (.lockReleased::s.trace)) := .emit s rfl
      replace h := (run_unlock hn _).symm.trans h
      rcases answer with why | (why | v)
      · dsimp only at h
        rw [run_bind_ok (run_gets _)] at h
        split at h
        · cases h
          exact .inr ⟨by simp, hlock⟩
        · cases h
          exact .inr ⟨by simp, hlock⟩
      · cases h
        exact .inr ⟨by simp, hlock⟩
      · dsimp only at h
        rw [concludeReload, run_bind_ok (run_gets _)] at h
        split at h
        · rename_i hi
          obtain ⟨_, u, hu, ht⟩ | ⟨e, he, -⟩ := bind_cases h
          · cases ht
            exact .inl ⟨rfl, hi, v, rfl, hu⟩
          · obtain ⟨_, hy⟩ := faultless_applyState n v _ _ _ he
            cases hy
        · cases h
          exact .inr ⟨by simp, hlock⟩

/-- So it is with a receipt, whatever the host has supplied. -/
theorem receipt_cases {x : Except Fault ReloadOutcome}
    (h : (receipt f).settle n s = some (x, t)) :
    (x = .ok .applied ∧ f.issue = s.reloads ∧ ∃ v, f.response s = .ok v ∧
      (applyState v).settle n (f.heard s) = some (.ok (), t)) ∨
    (x ≠ .ok .applied ∧ Wrote [] s t) := by
  obtain ⟨issue, why | reply⟩ := f
  · have hr : settleReload issue (.error why) (cascade n) s = some (x, t) := h
    obtain ⟨-, -, v, hv, -⟩ | hr := settleReload_cases hr
    · cases hv
    · exact .inr hr
  · have hr := (run_bind_ok (run_receive reply)).symm.trans h
    obtain ⟨rfl, hi, v, hv, ht⟩ | ⟨hx, ht⟩ := settleReload_cases hr
    · exact .inl ⟨rfl, hi, v, by simp [Flight.response, Except.ok.inj hv], ht⟩
    · exact .inr ⟨hx, (Wrote.emit s rfl).trans ht⟩

theorem issue_of_applied (h : (receipt f).settle n s = some (.ok .applied, t)) :
    f.issue = s.reloads := by
  obtain ⟨-, hi, -⟩ | ⟨hx, -⟩ := receipt_cases h
  · exact hi
  · exact (hx rfl).elim

end

/-- What a run leaves behind about its reloads. -/
inductive Mark where
  | issued (issue : Nat)
  | ended (issue : Nat) (outcome : ReloadOutcome)

/-- The issue number of a reload whose response was written. -/
def Mark.applied? : Mark → Option Nat
  | .ended issue .applied => some issue
  | _ => none

/-- The runs: a session, the reloads in flight and the marks so far. -/
inductive Traffic : Session → List Flight → List Mark → Prop
  | start (s : Session) : Traffic s [] []
  | launched {s t : Session} {fl : List Flight} {ms : List Mark} {issue : Nat}
      {x : Except Fault (Nat × Pending)} (n : Nat) : Traffic s fl ms →
      launch.settle n s = some (.ok (issue, x), t) →
      Traffic t (⟨issue, x.map Prod.snd⟩::fl) (ms ++ [.issued issue])
  | received {s t : Session} {f : Flight} {l r : List Flight} {ms : List Mark}
      {o : ReloadOutcome} (n : Nat) : Traffic s (l ++ f::r) ms →
      (receipt f).settle n s = some (.ok o, t) →
      Traffic t (l ++ r) (ms ++ [.ended f.issue o])
  | other {s t : Session} {fl : List Flight} {ms : List Mark} : Traffic s fl ms →
      t.reloads = s.reloads → Traffic t fl ms

/-- What may stand behind an earlier mark: writes of reloads issued no earlier, and of later ones
than any written before. -/
def Mark.Before : Mark → Mark → Prop
  | .issued m, .ended n .applied => m ≤ n
  | .ended m .applied, .ended n .applied => m < n
  | _, _ => True

/-- The counter stands at the newest number issued, reloads in flight have numbers of their own,
and no written number is in flight. -/
structure Tracked (s : Session) (fl : List Flight) (ms : List Mark) : Prop where
  order : ms.Pairwise Mark.Before
  issued : ∀ m, .issued m ∈ ms → m ≤ s.reloads
  latest : ∀ m, .issued m ∈ ms → .issued s.reloads ∈ ms
  flights : ∀ f ∈ fl, .issued f.issue ∈ ms
  distinct : (fl.map Flight.issue).Nodup
  applied : ∀ m, .ended m .applied ∈ ms → m ≤ s.reloads ∧ ∀ f ∈ fl, f.issue ≠ m

theorem Mark.before_issued (a : Mark) (m : Nat) : a.Before (.issued m) := by
  rcases a with _ | ⟨_, _ | _ | _⟩ <;> trivial

theorem Mark.before_ended (a : Mark) (m : Nat) {o : ReloadOutcome} (h : o ≠ .applied) :
    a.Before (.ended m o) := by
  cases o with
  | applied => exact (h rfl).elim
  | _ => rcases a with _ | ⟨_, _ | _ | _⟩ <;> trivial

theorem Tracked.launched {s t : Session} {fl : List Flight} {ms : List Mark} {issue : Nat}
    {x : Except Fault Pending} (h : Tracked s fl ms) (hi : issue = s.reloads+1)
    (ht : t.reloads = s.reloads+1) : Tracked t (⟨issue, x⟩::fl) (ms ++ [.issued issue]) where
  order := List.pairwise_append.mpr ⟨h.order, List.pairwise_singleton _ _, fun a _ b hb => by
    obtain rfl := List.mem_singleton.mp hb
    exact a.before_issued issue⟩
  issued m hm := by
    rcases List.mem_append.mp hm with hm | hm
    · have := h.issued m hm
      omega
    · cases List.mem_singleton.mp hm
      omega
  latest m hm := by
    rw [ht, ← hi]
    exact List.mem_append_right _ (List.mem_singleton_self _)
  flights f hf := by
    rcases List.mem_cons.mp hf with rfl | hf
    · exact List.mem_append_right _ (List.mem_singleton_self _)
    · exact List.mem_append_left _ (h.flights f hf)
  distinct := by
    refine List.nodup_cons.mpr ⟨fun hm => ?_, h.distinct⟩
    obtain ⟨f, hf, he⟩ := List.mem_map.mp hm
    have := h.issued f.issue (h.flights f hf)
    dsimp only at he
    omega
  applied m hm := by
    rcases List.mem_append.mp hm with hm | hm
    · obtain ⟨hle, hne⟩ := h.applied m hm
      refine ⟨by omega, fun f hf => ?_⟩
      rcases List.mem_cons.mp hf with rfl | hf
      · dsimp only
        omega
      · exact hne f hf
    · cases List.mem_singleton.mp hm

theorem Tracked.received {s t : Session} {f : Flight} {l r : List Flight} {ms : List Mark}
    {o : ReloadOutcome} (h : Tracked s (l ++ f::r) ms) (ho : o = .applied → f.issue = s.reloads)
    (ht : t.reloads = s.reloads) : Tracked t (l ++ r) (ms ++ [.ended f.issue o]) where
  order := by
    refine List.pairwise_append.mpr ⟨h.order, List.pairwise_singleton _ _, fun a ha b hb => ?_⟩
    obtain rfl := List.mem_singleton.mp hb
    by_cases hb : o = .applied
    · have hi := ho hb
      subst hb
      rcases a with m | ⟨m, _ | _ | _⟩
      · exact hi ▸ h.issued m ha
      · obtain ⟨hle, hne⟩ := h.applied m ha
        have := hne f (List.mem_append_right _ (List.mem_cons_self ..))
        change m < f.issue
        omega
      · trivial
      · trivial
    · exact a.before_ended f.issue hb
  issued m hm := by
    rcases List.mem_append.mp hm with hm | hm
    · exact ht ▸ h.issued m hm
    · cases List.mem_singleton.mp hm
  latest m hm := by
    rcases List.mem_append.mp hm with hm | hm
    · exact ht ▸ List.mem_append_left _ (h.latest m hm)
    · cases List.mem_singleton.mp hm
  flights g hg :=
    List.mem_append_left _ (h.flights g (((List.sublist_cons_self f r).append_left l).subset hg))
  distinct := (((List.sublist_cons_self f r).append_left l).map Flight.issue).nodup h.distinct
  applied m hm := by
    have hd := ((List.perm_middle (a := f)).map Flight.issue).nodup_iff.mp h.distinct
    have hsub := ((List.sublist_cons_self f r).append_left l).subset
    rcases List.mem_append.mp hm with hm | hm
    · obtain ⟨hle, hne⟩ := h.applied m hm
      exact ⟨ht ▸ hle, fun g hg => hne g (hsub hg)⟩
    · cases List.mem_singleton.mp hm
      refine ⟨Nat.le_of_eq (by rw [ht, ho rfl]), fun g hg he => ?_⟩
      exact (List.nodup_cons.mp hd).1 (he ▸ List.mem_map_of_mem hg)

/-- Every run keeps the counter at the newest issued number. -/
theorem Traffic.tracked {s : Session} {fl : List Flight} {ms : List Mark}
    (h : Traffic s fl ms) : Tracked s fl ms := by
  induction h with
  | start s => exact ⟨.nil, nofun, nofun, nofun, .nil, nofun⟩
  | launched n _ hr ih =>
      obtain ⟨hi, ht⟩ := launch_issue hr
      exact ih.launched hi ht
  | received n _ hr ih =>
      exact ih.received (fun ho => issue_of_applied (ho ▸ hr)) (receipt_reloads hr)
  | other _ ht ih =>
      exact ⟨ih.order, fun m hm => ht ▸ ih.issued m hm, fun m hm => ht ▸ ih.latest m hm, ih.flights,
        ih.distinct, fun m hm => ht ▸ ih.applied m hm⟩

/-- A reload in flight is the newest one exactly if its number is that of the counter. -/
theorem Tracked.newest_iff {s : Session} {fl : List Flight} {ms : List Mark} {f : Flight}
    (h : Tracked s fl ms) (hf : f ∈ fl) :
    (∀ m, .issued m ∈ ms → m ≤ f.issue) ↔ f.issue = s.reloads := by
  have hi := h.flights f hf
  constructor
  · intro hm
    have := hm s.reloads (h.latest f.issue hi)
    have := h.issued f.issue hi
    omega
  · intro he m hm
    rw [he]
    exact h.issued m hm

/-- Of a reload in flight that is not the newest one, the number is not that of the counter. -/
theorem Tracked.overtaken {s : Session} {fl : List Flight} {ms : List Mark} {f : Flight} {m : Nat}
    (h : Tracked s fl ms) (hm : .issued m ∈ ms) (hlt : f.issue < m) : f.issue ≠ s.reloads := by
  intro he
  have := h.issued m hm
  omega

/-- The numbers of the written reloads increase. -/
theorem Tracked.applied_increase {s : Session} {fl : List Flight} {ms : List Mark}
    (h : Tracked s fl ms) : (ms.filterMap Mark.applied?).Pairwise (· < ·) := by
  refine List.pairwise_filterMap.mpr (h.order.imp ?_)
  intro a b hab m hm n hn
  rcases a with _ | ⟨_, _ | _ | _⟩ <;> cases hm
  rcases b with _ | ⟨_, _ | _ | _⟩ <;> cases hn
  exact hab

/-- What is written behind the issue of a reload was issued no earlier. -/
theorem Tracked.applied_later {s : Session} {fl : List Flight} {pre post : List Mark} {m k : Nat}
    (h : Tracked s fl (pre ++ .issued m::post)) (hk : .ended k .applied ∈ post) : m ≤ k := by
  have hp := (List.pairwise_append.mp h.order).2.1
  exact List.rel_of_pairwise_cons hp hk

/-- A success is written if no newer reload was issued, and is dropped otherwise; a failure is
dropped. So the numbers of the written reloads increase, and once a reload is issued none issued
before it is written. -/
theorem latest_reload_wins {s : Session} {fl : List Flight} {ms : List Mark}
    (h : Traffic s fl ms) :
    (∀ f ∈ fl, s.Online → ∀ n,
      (∀ v, f.response s = .ok v → (∀ m, .issued m ∈ ms → m ≤ f.issue) → ∀ r t,
        (receipt f).settle n s = some (r, t) ↔
          r = .ok .applied ∧ (applyState v).settle n (f.heard s) = some (.ok (), t)) ∧
      (∀ v m, f.response s = .ok v → .issued m ∈ ms → f.issue < m →
        ∃ t, (receipt f).settle n s = some (.ok .superseded, t) ∧ Wrote [] s t) ∧
      ∀ why, f.response s = .error why →
        ∃ t, (receipt f).settle n s = some (.ok .failed, t) ∧ Wrote [] s t) ∧
    (ms.filterMap Mark.applied?).Pairwise (· < ·) ∧
    ∀ pre post m k, ms = pre ++ .issued m::post → .ended k .applied ∈ post → m ≤ k := by
  have ht := h.tracked
  refine ⟨fun f hf hs n => ⟨?_, ?_, ?_⟩, ht.applied_increase, ?_⟩
  · intro v hv hm r t
    have hi : f.issue = s.reloads := (ht.newest_iff hf).mp hm
    exact receipt_current hs hv hi r
  · intro v m hv hm hlt
    have hi : f.issue ≠ s.reloads := ht.overtaken hm hlt
    exact ⟨f.heard s, receipt_superseded hs hv hi, f.wrote_heard s⟩
  · intro why hv
    exact ⟨f.heard s, receipt_failed hs hv, f.wrote_heard s⟩
  · rintro pre post m k rfl hk
    exact ht.applied_later hk

/-- Two reloads overlap: the first is dropped although its answer is a success. -/
theorem latest_reload_wins_overlap : ∃ s f g t,
    Traffic s [g, f] [.issued 1, .issued 2] ∧
    (receipt f).settle 3 s = some (.ok .superseded, t) ∧ Wrote [] s t := by
  let s : Session :=
    { notifier := true, transport := some .scripted,
      values := [("methods", MethodTable.single "state.load" .get "u")],
      replies := [("u", [⟨5, .ok (.object [("a", .bool true)])⟩])] }
  have h₁ := (Traffic.start s).launched 0 rfl
  have h₂ := h₁.launched 0 rfl
  obtain ⟨t, hr, ht⟩ := ((latest_reload_wins h₂).1 _ (.tail _ (.head _)) ⟨rfl, rfl, rfl⟩ 3).2.1
    (.object [("a", .bool true)]) 2 rfl (.tail _ (.head _)) (by decide)
  exact ⟨_, _, _, t, h₂, hr, ht⟩

end ScreenBinding
