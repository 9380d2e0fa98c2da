import ScreenBinding.Proofs.Chronicle
import ScreenBinding.Proofs.Stretches
import ScreenBinding.Proofs.TaskActs

/-!
# Callbacks that do less

An act that ends with some callbacks ends likewise with callbacks that do more: callbacks that nest
deeper, or that carry out commands or reactions at which the first ones give up. So every run with
less is one of the runs of the engine, and what can only be said without certain commands is said of
the runs that are given up at the first of them. That certain reactions do not occur is said by a
run that ends although it would be given up at the first of them.
-/
namespace ScreenBinding
open Act

namespace Act

/-- Does not end. -/
def giveUp : Act Unit := fun _ _ => none

/-- Whenever the first act ends with the first callbacks, the second ends likewise with the
second. -/
def Kept {α : Type} (carry carry' : React) (a b : Act α) : Prop :=
  ∀ s x t, a carry s = some (x, t) → b carry' s = some (x, t)

section
variable {α β : Type} {carry carry' : React}

theorem Kept.bind {a b : Act α} {f g : α → Act β} (ha : Kept carry carry' a b)
    (hf : ∀ x, Kept carry carry' (f x) (g x)) : Kept carry carry' (a >>= f) (b >>= g) := by
  intro s y t h
  obtain ⟨x, u, hu, ht⟩ | ⟨e, he, rfl⟩ := bind_cases h
  · exact (run_bind_ok (ha s _ u hu)).trans (hf x u y t ht)
  · exact run_bind_error (ha s _ t he)

/-- Callbacks that do more let an act end wherever it ended before. -/
theorem built_kept {P : Event → Prop} {a : Act α} (h : Built P a)
    (hf : ∀ l key v source, Faultless carry (react (.listener l key v source)))
    (hc : ∀ r s x t, carry r s = some (x, t) → carry' r s = some (x, t)) :
    Kept carry carry' a a := by
  intro s x t ha
  obtain ⟨log, hlog⟩ := h.recorded (R := fun r s _ x t => carry r s = some (x, t))
    (fun r s x t hr => ⟨[], hr⟩) hf ha
  exact hlog.runs fun r s _ x t hr => hc r s x t hr

theorem Tallied.kept {a : Act α} (h : Tallied a)
    (hf : ∀ l key v source, Faultless carry (react (.listener l key v source)))
    (hc : ∀ r s x t, carry r s = some (x, t) → carry' r s = some (x, t)) :
    Kept carry carry' a a := by
  induction h with
  | built h => exact built_kept h hf hc
  | counted => exact fun s x t h => h
  | bind _ _ iha ihf => exact iha.bind ihf

end

theorem cascade_succ (n : Nat) (r : Reaction) (s : Session) (x : Except Fault Unit) (t : Session)
    (h : cascade n r s = some (x, t)) : cascade (n+1) r s = some (x, t) := by
  induction n generalizing r s x t with
  | zero => cases h
  | succ n ih =>
      have hr : Built Anything (reaction r) := built_reaction (fun _ _ _ => trivial) r
      exact built_kept hr (faultless_listener n) ih s x t h

/-- A reaction that ends within a depth ends likewise within a greater one. -/
theorem cascade_deeper {n m : Nat} (hle : n ≤ m) (r : Reaction) (s : Session)
    (x : Except Fault Unit) (t : Session) (h : cascade n r s = some (x, t)) :
    cascade m r s = some (x, t) := by
  induction hle with
  | refl => exact h
  | step _ ih => exact cascade_succ _ r s x t ih

/-- So does any act. -/
theorem settle_deeper {α : Type} {a : Act α} (ha : Built Anything a) {n m : Nat} (hle : n ≤ m)
    {s t : Session} {x : Except Fault α} (h : a.settle n s = some (x, t)) :
    a.settle m s = some (x, t) :=
  built_kept ha (faultless_listener n) (cascade_deeper hle) s x t h

/-- So does a task. -/
theorem resume_deeper {n m : Nat} (hle : n ≤ m) (frame : Frame) (answer : Bool) :
    Kept (cascade n) (cascade m) (resume frame answer) (resume frame answer) :=
  (tallied_resume frame answer).kept (faultless_listener n) (cascade_deeper hle)

/-- Commands in order, up to the first fault, or to the first that is withheld. -/
def runUnless (withheld : Command → Bool) : List Command → Act Unit
  | [] => return ()
  | c::cs =>
      if withheld c then giveUp
      else do
        discard (run c)
        runUnless withheld cs

/-- Carries out reactions nested at most `n` deep, and gives up at a command that is withheld. -/
def withholding (withheld : Command → Bool) : Nat → React
  | 0, _ => fun _ => none
  | n+1, .script commands => runUnless withheld commands (withholding withheld n)
  | n+1, .hook commands => runUnless withheld commands (withholding withheld n)
  | n+1, r => reaction r (withholding withheld n)

/-- Where nothing is withheld, everything is carried out. -/
theorem withholding_none (n : Nat) : withholding (fun _ => false) n = cascade n := by
  have hscript (commands : List Command) :
      runUnless (fun _ => false) commands = runAll commands := by
    induction commands with
    | nil => rfl
    | cons c cs ih =>
        rw [runAll_cons, ← ih]
        rfl
  induction n with
  | zero => rfl
  | succ n ih =>
      funext r
      cases r with
      | listener l key v source => exact congrArg (hear l key v source) ih
      | handler y e => exact congrArg (handle y e) ih
      | script commands | hook commands =>
          exact (congrFun (hscript commands) _).trans (congrArg (runAll commands) ih)

variable {withheld : Command → Bool}

theorem faultless_withholding (n : Nat) (l : Listener) (key : String) (v : Json)
    (writer : Option Source) :
    Faultless (withholding withheld n) (react (.listener l key v writer)) := by
  cases n with
  | zero => exact fun s x t h => nomatch h
  | succ n => exact faultless_hear (withholding withheld n) l key v writer

theorem kept_runUnless {carry carry' : React} (commands : List Command)
    (hk : ∀ {α : Type} {a : Act α}, Built Anything a → Kept carry carry' a a) :
    Kept carry carry' (runUnless withheld commands) (runAll commands) := by
  induction commands with
  | nil => exact hk (.pure ())
  | cons c cs ih =>
      rw [runAll_cons]
      cases hb : withheld c with
      | true =>
          rw [runUnless, if_pos hb]
          exact fun s x t h => nomatch h
      | false =>
          have hc : Built Anything (discard (run c)) :=
            built_discard (built_run (fun _ _ _ => trivial) c)
          rw [runUnless, hb]
          exact (hk hc).bind fun _ => ih

/-- What is carried out without some commands is what is carried out. -/
theorem cascade_of_withholding (n : Nat) (r : Reaction) (s : Session) (x : Except Fault Unit)
    (t : Session) (h : withholding withheld n r s = some (x, t)) : cascade n r s = some (x, t) := by
  induction n generalizing r s x t with
  | zero => cases h
  | succ n ih =>
      have hkept {α : Type} {a : Act α} (ha : Built Anything a) :
          Kept (withholding withheld n) (cascade n) a a :=
        built_kept ha (faultless_withholding n) ih
      cases r with
      | listener l key v source =>
          exact hkept (built_hear (fun _ _ _ => trivial) l key v source) s x t h
      | handler y e => exact hkept (built_handle (fun _ _ _ => trivial) y e) s x t h
      | script commands | hook commands => exact kept_runUnless commands hkept s x t h

/-- Carries out reactions nested at most `n` deep, and gives up at a reaction that is refused. -/
def refusing (refused : Reaction → Bool) : Nat → React
  | 0, _ => fun _ => none
  | n+1, r => fun s => if refused r then none else reaction r (refusing refused n) s

/-- Where nothing is refused, everything is carried out. -/
theorem refusing_none (n : Nat) : refusing (fun _ => false) n = cascade n := by
  induction n with
  | zero => rfl
  | succ n ih =>
      funext r
      exact congrArg (reaction r) ih

section
variable {refused allowed : Reaction → Bool} {n m : Nat}

theorem react_refusing {r : Reaction} (h : refused r = false) (s : Session) :
    react r (refusing refused (n+1)) s = reaction r (refusing refused n) s := by
  change (if refused r then none else _) = _
  rw [h]
  rfl

theorem faultless_refusing (n : Nat) (l : Listener) (key : String) (v : Json)
    (writer : Option Source) :
    Faultless (refusing refused n) (react (.listener l key v writer)) := by
  cases n with
  | zero => exact fun s x t h => nomatch h
  | succ n =>
      intro s x t h
      cases hr : refused (.listener l key v writer) with
      | true =>
          change (if _ then none else _) = _ at h
          rw [hr] at h
          cases h
      | false =>
          rw [react_refusing hr] at h
          exact faultless_hear (refusing refused n) l key v writer s x t h

/-- Whoever refuses less and nests deeper carries out all that was carried out. -/
theorem refusing_kept (h : ∀ r, allowed r = true → refused r = true) (hle : n ≤ m) (r : Reaction)
    (s : Session) (x : Except Fault Unit) (t : Session)
    (hr : refusing refused n r s = some (x, t)) : refusing allowed m r s = some (x, t) := by
  induction n generalizing m r s x t with
  | zero => cases hr
  | succ n ih =>
      obtain ⟨m, rfl⟩ : ∃ k, m = k+1 := ⟨m-1, by omega⟩
      have hbuilt : Built Anything (reaction r) := built_reaction (fun _ _ _ => trivial) r
      cases hrefused : refused r with
      | true =>
          change (if _ then none else _) = _ at hr
          rw [hrefused] at hr
          cases hr
      | false =>
          have hallowed : allowed r = false :=
            Bool.eq_false_iff.mpr fun ha => by simp [h r ha] at hrefused
          have hrun : reaction r (refusing refused n) s = some (x, t) :=
            (react_refusing hrefused s).symm.trans hr
          have hdeeper := ih (Nat.le_of_succ_le_succ hle)
          refine (react_refusing hallowed s).trans ?_
          exact built_kept hbuilt (faultless_refusing n) hdeeper s x t hrun

/-- What is carried out without some reactions is what is carried out. -/
theorem settle_of_refusing {α : Type} {a : Act α} {s t : Session} {x : Except Fault α}
    (ha : Built Anything a) (h : a (refusing refused n) s = some (x, t)) :
    a.settle n s = some (x, t) := by
  let nothing : Reaction → Bool := fun _ => false
  have hfewer : ∀ r, nothing r = true → refused r = true := fun _ hr => nomatch hr
  rw [settle, ← refusing_none n]
  exact built_kept ha (faultless_refusing n) (refusing_kept hfewer (Nat.le_refl n)) s x t h

end

end Act

theorem Stretch.Runs.of_withholding {withheld : Command → Bool} {x : Stretch} {n : Nat}
    (h : x.Runs (withholding withheld n)) : x.Runs (cascade n) :=
  (tallied_resume _ _).kept (faultless_withholding n) (cascade_of_withholding n) _ _ _ h

theorem Interleaved.of_withholding {withheld : Command → Bool} {s₀ s : Session} {log : List Stretch}
    (h : Interleaved (withholding withheld) s₀ s log) : Interleaved cascade s₀ s log := by
  induction h with
  | start => exact .start
  | ran n _ hx ih => exact ih.ran n hx.of_withholding
  | idle _ ht ih => exact ih.idle ht

end ScreenBinding
