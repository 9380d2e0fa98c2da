import ScreenBinding.Proofs.Clock

/-!
# Runs at the pace of the engine

A run on the clock may let time pass while somebody is ready, and beyond the time at which somebody
wakes. The engine does neither: time passes only when nobody is ready, and then up to the first who
wakes. So nobody oversleeps in a run at this pace. Which of those who are ready is next stays open
here as well, and so does when the script takes a step. What the engine plays is a run of this kind,
and every such run is one on the clock.
-/
namespace ScreenBinding
open Act

/-- The runs from a session in which time passes only when nobody is ready, up to the time at which
the first of those who sleep wakes. -/
inductive Paced (s₀ : Session) : Session → List Stretch → Prop
  | start : Paced s₀ s₀ []
  | began {s : Session} {x : Stretch} {log : List Stretch} {step : Step} (n : Nat) :
      Paced s₀ s log → x.task.id = s.nextTask → x.task.frame = .begin step →
      x.before = { s with nextTask := s.nextTask+1 } → x.Runs (cascade n) →
      Paced s₀ x.after (log ++ [x])
  | woken {s : Session} {x : Stretch} {log : List Stretch} (n : Nat) : Paced s₀ s log →
      (x.task, x.answer) ∈ s.ready →
      x.before = { s with ready := s.ready.filter (·.1.id ≠ x.task.id) } → x.Runs (cascade n) →
      Paced s₀ x.after (log ++ [x])
  | elapsed {s : Session} {log : List Stretch} (time : Nat) : Paced s₀ s log → s.ready = [] →
      s.nextWake = some time → Paced s₀ (s.elapse time) log

/-- Those who are ready are at a step of the script. -/
def Session.Drained (s : Session) : Prop := ∀ p ∈ s.ready, p.1.role.isScript = true

section
variable {s₀ s t : Session} {log pre post : List Stretch} {x : Stretch}

/-- The earliest time at which somebody wakes is not past. -/
theorem Session.Punctual.nextWake {time : Nat} (h : s.Punctual) (hw : s.nextWake = some time) :
    s.now ≤ time := by
  obtain ⟨p, hp, rfl⟩ := List.mem_map.mp (List.min?_mem hw)
  exact h p hp

/-- Nobody wakes earlier. -/
theorem Session.nextWake_le {time : Nat} {p : Nat × Task} (h : s.nextWake = some time)
    (hp : p ∈ s.sleeping) : time ≤ p.1 :=
  (List.min?_eq_some_iff.mp h).2 _ (List.mem_map_of_mem hp)

theorem Paced.scheduled (h : Paced s₀ s log) : Scheduled s₀ s log := by
  induction h with
  | start => exact .start
  | began n _ hid hf hb hx ih => exact ih.began n hid hf hb hx
  | woken n _ hw hb hx ih => exact ih.resumed n (hb ▸ Session.ready_releases hw) hx
  | elapsed time _ _ _ ih => exact ih.rested (Session.elapse_rests _ time)

theorem Paced.clocked (h : Paced s₀ s log) (h₀ : s₀.Punctual) : Clocked cascade s₀ s log := by
  induction h with
  | start => exact .start
  | began n _ hid hf hb hx ih => exact ih.began n hid hf hb hx
  | woken n _ hw hb hx ih => exact ih.woken n hw hb hx
  | elapsed time _ _ hwake ih => exact ih.elapsed time ((ih.punctual h₀).nextWake hwake)

/-- What follows a stretch is a run of its own. -/
theorem Paced.since (h : Paced s₀ s log) (hlog : log = pre ++ x::post) : Paced x.after s post := by
  induction h generalizing post with
  | start => cases List.append_eq_nil_iff.mp hlog.symm |>.2
  | began n _ hid hf hb hx ih =>
      obtain ⟨rfl, rfl, rfl⟩ | ⟨c, rfl, hpre⟩ := split_last hlog
      · exact .start
      · exact (ih hpre).began n hid hf hb hx
  | woken n _ hw hb hx ih =>
      obtain ⟨rfl, rfl, rfl⟩ | ⟨c, rfl, hpre⟩ := split_last hlog
      · exact .start
      · exact (ih hpre).woken n hw hb hx
  | elapsed time _ hready hwake ih => exact (ih hlog).elapsed time hready hwake

end

/-- From the end of a run, time passes and tasks go on up to a session. -/
def Paced.LeadsTo (s₀ : Session) (log : List Stretch) (t : Session) : Prop :=
  ∃ more, Paced s₀ t (log ++ more)

theorem Paced.leadsTo {s₀ s : Session} {log : List Stretch} (h : Paced s₀ s log) :
    LeadsTo s₀ log s := ⟨[], by rwa [List.append_nil]⟩

theorem Paced.LeadsTo.further {s₀ t : Session} {log more : List Stretch}
    (h : LeadsTo s₀ (log ++ more) t) : LeadsTo s₀ log t := by
  obtain ⟨rest, hrest⟩ := h
  exact ⟨more ++ rest, List.append_assoc log more rest ▸ hrest⟩

namespace Session
variable {s₀ s t : Session} {log : List Stretch} {n depth : Nat} {task : Task} {answer : Bool}
open Paced (LeadsTo)

/-- A task that is ready runs a stretch. -/
theorem advance_paced {r : Option Result} (h : Paced s₀ s log) (hw : (task, answer) ∈ s.ready)
    (ha : advance n { s with ready := s.ready.filter (·.1.id ≠ task.id) } task answer =
      some (r, t)) : ∃ x, Paced s₀ t (log ++ [x]) := by
  obtain ⟨y, v, hy, hr⟩ := advance_cases ha
  obtain rfl : (v.record task y).2 = t := congrArg Prod.snd hr
  exact ⟨_, h.woken (x := ⟨task, answer, _, y, v⟩) n hw rfl hy⟩

theorem drain_paced (h : Paced s₀ s log) (ha : drain depth n s = some t) :
    LeadsTo s₀ log t ∧ t.Drained := by
  induction n generalizing s log with
  | zero => cases ha
  | succ n ih =>
      unfold drain at ha
      split at ha
      · rename_i hnone
        cases ha
        exact ⟨h.leadsTo, fun p hp => by simpa using List.find?_eq_none.mp hnone p hp⟩
      · rename_i hfind
        simp only [bind, Option.bind_eq_some_iff] at ha
        obtain ⟨⟨r, u⟩, hu, ht⟩ := ha
        obtain ⟨x, hx⟩ := advance_paced h (List.mem_of_find?_eq_some hfind) hu
        obtain ⟨hmore, hdrained⟩ := ih hx ht
        exact ⟨hmore.further, hdrained⟩

theorem takeScript_cases (h : s.takeScript = some (task, answer, t)) :
    (task, answer) ∈ s.ready ∧ t = { s with ready := s.ready.filter (·.1.id ≠ task.id) } := by
  unfold takeScript at h
  split at h
  · rename_i hfind
    cases h
    exact ⟨List.mem_of_find?_eq_some hfind, rfl⟩
  · cases h

/-- If all others have run and the script cannot go on, nobody is ready. -/
theorem Drained.ready (h : s.Drained) (hs : s.takeScript = none) : s.ready = [] := by
  refine List.eq_nil_iff_forall_not_mem.mpr fun p hp => ?_
  unfold takeScript at hs
  split at hs
  · cases hs
  · rename_i hnone
    exact List.find?_eq_none.mp hnone p hp (h p hp)

/-- Before time passes, either all others have run, or the script has woken and goes first. -/
theorem untilScript_paced {r : Result} (h : Paced s₀ s log)
    (hs : s.Drained ∨ s.takeScript.isSome) (ha : untilScript depth n s = some (r, t)) :
    LeadsTo s₀ log t := by
  induction n generalizing s log with
  | zero => cases ha
  | succ n ih =>
      unfold untilScript at ha
      split at ha
      · rename_i task answer u hu
        obtain ⟨hw, rfl⟩ := takeScript_cases hu
        simp only [bind, Option.bind_eq_some_iff] at ha
        obtain ⟨⟨r, v⟩, hv, ht⟩ := ha
        obtain ⟨x, hx⟩ := advance_paced h hw hv
        cases r with
        | some a =>
            cases ht
            exact hx.leadsTo.further
        | none =>
            simp only [Option.bind_eq_some_iff] at ht
            obtain ⟨w, hw, ht⟩ := ht
            obtain ⟨⟨more, hmore⟩, hdrained⟩ := drain_paced hx hw
            exact (ih hmore (.inl hdrained) ht).further.further
      · rename_i hnone
        split at ha
        · cases ha
        · rename_i time htime
          have hready : s.ready = [] := by
            rcases hs with hdrained | hsome
            · exact hdrained.ready hnone
            · rw [hnone] at hsome
              cases hsome
          have hslept := h.elapsed time hready htime
          dsimp only at ha
          split at ha
          · rename_i hsome
            exact ih hslept (.inr hsome) ha
          · simp only [bind, Option.bind_eq_some_iff] at ha
            obtain ⟨w, hw, ht⟩ := ha
            obtain ⟨⟨more, hmore⟩, hdrained⟩ := drain_paced hslept hw
            exact (ih hmore (.inl hdrained) ht).further

theorem perform_paced {step : Step} {r : Result} (h : Paced s₀ s log)
    (ha : s.perform depth n step = some (r, t)) : LeadsTo s₀ log t := by
  simp only [perform, bind, Option.bind_eq_some_iff] at ha
  obtain ⟨⟨x, u⟩, hu, ha⟩ := ha
  obtain ⟨y, v, hy, hr⟩ := advance_cases hu
  obtain rfl : (v.record _ y).2 = u := congrArg Prod.snd hr
  have hbegan := h.began (x := ⟨⟨s.nextTask, .script, .begin step⟩, true, _, y, v⟩) depth rfl rfl
    rfl hy
  cases x with
  | none =>
      simp only [Option.bind_eq_some_iff] at ha
      obtain ⟨w, hw, ht⟩ := ha
      obtain ⟨⟨more, hmore⟩, hdrained⟩ := drain_paced hbegan hw
      exact (untilScript_paced hmore (.inl hdrained) ht).further.further
  | some a =>
      dsimp only at ha
      split at ha
      · simp only [Option.bind_eq_some_iff] at ha
        obtain ⟨w, hw, ht⟩ := ha
        cases ht
        exact (drain_paced hbegan hw).1.further
      · cases ha
        exact hbegan.leadsTo.further

/-- Whatever steps a script takes, what the engine plays is a run at this pace. -/
theorem play_paced {steps : List Step} {results : List (Result × List Event)}
    (h : Paced s₀ s log) (ha : play steps s = some (results, t)) : LeadsTo s₀ log t := by
  induction steps generalizing s log results with
  | nil =>
      cases ha
      exact h.leadsTo
  | cons step steps ih =>
      simp only [play, bind, Option.bind_eq_some_iff] at ha
      obtain ⟨⟨r, u⟩, hu, ⟨rest, v⟩, hv, ht⟩ := ha
      cases ht
      obtain ⟨more, hmore⟩ := perform_paced h hu
      exact (ih hmore hv).further

/-- So it is one of the runs of tasks that wait, and where nobody has slept beyond his time at
first, it is a run on the clock. -/
theorem play_clocked {steps : List Step} {results : List (Result × List Event)}
    (ha : play steps s = some (results, t)) :
    ∃ log, Scheduled s t log ∧ (s.Punctual → Clocked cascade s t log) := by
  obtain ⟨log, hlog⟩ := play_paced .start ha
  exact ⟨log, hlog.scheduled, hlog.clocked⟩

end Session
end ScreenBinding
