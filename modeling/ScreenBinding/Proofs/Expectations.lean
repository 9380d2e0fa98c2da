import ScreenBinding.Scenario.Run
import Mathlib.Data.List.Basic

/-!
# Expectations

An expectation of a scenario looks at the stage and notes a failure if it does not find what it
expects. Everything else that a run does is heedless of the failures: it neither looks at them nor
notes any. So the run without the expectations is the same run, and what the full run has noted in
the end is what each expectation had to complain about when the run came to it.

A run that a fault ends has no report, and what it has noted by then is not described here.
-/
namespace ScreenBinding.Scenario
variable {α β : Type}

namespace Action

/-- Whether an action only looks. -/
def expects : Action → Bool
  | .expect .. | .expectField .. => true
  | _ => false

/-- What an expectation looks at, what it finds there, and what it expects. -/
def finding? (stage : Stage) : Action → Option (String × Json × Json)
  | .expect key v =>
      some ("state " ++ key, (Table.find? stage.session.values key).getD .null, v)
  | .expectField id v =>
      (Table.find? stage.elements id).map fun e =>
        ("element " ++ id, (stage.session.element e).value,
          Stage.expected stage.session.settings.separators v)
  | _ => none

/-- What an expectation at a place of the list has to complain about. -/
def complaint? (index : Nat) (stage : Stage) (a : Action) : Option String :=
  match a.finding? stage with
  | some (place, actual, v) =>
      if actual.same v then none
      else some s!"step {index}: {place} is {actual.compact}, expected {v.compact}"
  | none => none

end Action

namespace Document

/-- The scenario without its expectations. -/
def unchecked (doc : Document) : Document :=
  { doc with actions := doc.actions.filter (!·.expects) }

/-- The scenario that ends before an action. -/
def upTo (doc : Document) (index : Nat) : Document :=
  { doc with actions := doc.actions.take index }

end Document

namespace Stage

/-- The same stage with these failures. -/
def noting (stage : Stage) (failures : List String) : Stage := { stage with failures }

@[simp] theorem noting_noting (stage : Stage) (l m : List String) :
    (stage.noting l).noting m = stage.noting m := rfl

@[simp] theorem noting_session (stage : Stage) (l : List String) :
    (stage.noting l).session = stage.session := rfl

@[simp] theorem noting_elements (stage : Stage) (l : List String) :
    (stage.noting l).elements = stage.elements := rfl

@[simp] theorem noting_failures (stage : Stage) (l : List String) :
    (stage.noting l).failures = l := rfl

@[simp] theorem noting_self (stage : Stage) : stage.noting stage.failures = stage := rfl

theorem run_bind (a : Stage.M α) (f : α → Stage.M β) (stage : Stage) :
    (a >>= f) stage = match a stage with
      | (.ok x, t) => f x t
      | (.error why, t) => (.error why, t) := by
  simp only [Bind.bind, ExceptT.bind, ExceptT.mk, StateT.bind]
  rcases a stage with ⟨_ | _, t⟩ <;> rfl

theorem run_get (stage : Stage) : (get : Stage.M Stage) stage = (.ok stage, stage) := rfl

theorem run_perform (step : Step) (stage : Stage) : perform step stage =
    match stage.session.perform Session.depthLimit Session.patienceLimit step with
    | none => (.error .exhausted, stage)
    | some (.ok a, s) => (.ok a, { stage with session := s })
    | some (.error f, s) => (.error (.fault f), { stage with session := s }) := by
  unfold perform
  rw [run_bind, run_get]
  dsimp only
  rcases stage.session.perform Session.depthLimit Session.patienceLimit step with
    _ | ⟨_ | _, s⟩ <;> rfl

theorem run_askConfirm (modal : String) (previous next : Json) (stage : Stage) :
    askConfirm modal previous next stage =
      match (stage.session.spawn (.asking modal) (.begin (.confirm modal previous next))).drain
        Session.depthLimit Session.patienceLimit with
      | some s => (.ok (), { stage with session := s })
      | none => (.error .exhausted, stage) := by
  unfold askConfirm
  rw [run_bind, run_get]
  dsimp only
  cases (stage.session.spawn (.asking modal) (.begin (.confirm modal previous next))).drain
    Session.depthLimit Session.patienceLimit <;> rfl

end Stage

/-- An act that neither looks at the failures nor notes any. It names no elements either. -/
class Heedless (a : Stage.M α) : Prop where
  noting : ∀ stage failures,
    a (stage.noting failures) = ((a stage).1, (a stage).2.noting failures)
  elements : ∀ stage, (a stage).2.elements = stage.elements

namespace Heedless

/-- The failures stay. -/
theorem failures {a : Stage.M α} (ha : Heedless a) (stage : Stage) :
    (a stage).2.failures = stage.failures :=
  congrArg (·.2.failures) (ha.noting stage stage.failures)

instance pure (x : α) : Heedless (Pure.pure x) := ⟨fun _ _ => rfl, fun _ => rfl⟩

instance throw (why : Problem) : Heedless (throw why : Stage.M α) := ⟨fun _ _ => rfl, fun _ => rfl⟩

theorem seq {a : Stage.M α} {f : α → Stage.M β} (ha : Heedless a) (hf : ∀ x, Heedless (f x)) :
    Heedless (a >>= f) where
  noting stage failures := by
    rw [Stage.run_bind, Stage.run_bind, ha.noting]
    rcases a stage with ⟨_ | x, t⟩
    · rfl
    · exact (hf x).noting t failures
  elements stage := by
    have hkept := ha.elements stage
    rw [Stage.run_bind]
    generalize a stage = p at hkept
    rcases p with ⟨_ | x, t⟩
    · exact hkept
    · exact ((hf x).elements t).trans hkept

instance bind (a : Stage.M α) (f : α → Stage.M β) [Heedless a] [hf : ∀ x, Heedless (f x)] :
    Heedless (a >>= f) := seq inferInstance hf

/-- An act that looks at the stage, but not at the failures. -/
theorem look {f : Stage → Stage.M α} (hf : ∀ stage, Heedless (f stage))
    (blind : ∀ stage failures, f (stage.noting failures) = f stage) :
    Heedless (get >>= f) where
  noting stage failures := by
    have hrun : (get >>= f) (stage.noting failures) = f stage (stage.noting failures) := by
      rw [← blind stage failures]
      rfl
    exact hrun.trans ((hf stage).noting stage failures)
  elements stage := (hf stage).elements stage

/-- A change of the session. -/
theorem modify {f : Stage → Session}
    (blind : ∀ stage failures, f (stage.noting failures) = f stage) :
    Heedless (modify fun stage => { stage with session := f stage }) where
  noting stage failures := by
    have hrun (stage : Stage) :
        (modifyThe Stage fun stage => { stage with session := f stage } : Stage.M PUnit) stage =
          (.ok (), { stage with session := f stage }) := rfl
    exact (hrun _).trans (by rw [blind]; rfl)
  elements _ := rfl

instance discard (a : Stage.M α) [Heedless a] : Heedless (discard a) :=
  inferInstanceAs (Heedless (a >>= fun _ => Pure.pure ()))

instance ite (c : Prop) [Decidable c] (a b : Stage.M α) [ha : Heedless a] [hb : Heedless b] :
    Heedless (if c then a else b) := by
  split
  · exact ha
  · exact hb

instance forIn (l : List β) (u : α) (f : β → α → Stage.M (ForInStep α))
    [hf : ∀ x u, Heedless (f x u)] : Heedless (ForIn.forIn l u f) := by
  induction l generalizing u with
  | nil => exact pure u
  | cons x l ih =>
      rw [List.forIn_cons]
      refine seq inferInstance fun step => ?_
      cases step with
      | done v => exact pure v
      | yield v => exact ih v

instance mapM (l : List β) (f : β → Stage.M α) [hf : ∀ x, Heedless (f x)] :
    Heedless (l.mapM f) := by
  induction l with
  | nil => exact pure []
  | cons x l ih =>
      rw [List.mapM_cons]
      infer_instance

end Heedless

namespace Stage

instance (id : String) : Heedless (element id) :=
  .look (fun stage => by split <;> infer_instance) fun _ _ => rfl

instance (step : Step) : Heedless (perform step) where
  noting stage failures := by
    rw [run_perform, run_perform, noting_session]
    rcases stage.session.perform Session.depthLimit Session.patienceLimit step with
      _ | ⟨_ | _, s⟩ <;> rfl
  elements stage := by
    rw [run_perform]
    rcases stage.session.perform Session.depthLimit Session.patienceLimit step with
      _ | ⟨_ | _, s⟩ <;> rfl

instance (c : Command) : Heedless (command c) := by unfold command; infer_instance

instance (line : String) : Heedless (say line) := .modify fun _ _ => rfl

instance (modal : String) (previous next : Json) : Heedless (askConfirm modal previous next) where
  noting stage failures := by
    rw [run_askConfirm, run_askConfirm, noting_session]
    cases (stage.session.spawn (.asking modal) (.begin (.confirm modal previous next))).drain
      Session.depthLimit Session.patienceLimit <;> rfl
  elements stage := by
    rw [run_askConfirm]
    cases (stage.session.spawn (.asking modal) (.begin (.confirm modal previous next))).drain
      Session.depthLimit Session.patienceLimit <;> rfl

instance (kind : SurfaceKind) (specs : Table SurfaceSpec) :
    Heedless (defineSurfaces kind specs) := by
  unfold defineSurfaces; infer_instance

instance (x : BindingSpec) : Heedless (bind x) := by
  refine .seq inferInstance fun e => .look (fun stage => ?_) fun _ _ => rfl
  exact .seq (.modify fun _ _ => rfl) inferInstance

instance (doc : Document) : Heedless (build doc) := by
  unfold build
  split
  · exact inferInstanceAs (Heedless (throw _))
  · refine .seq inferInstance fun _ => .seq inferInstance fun _ => .seq inferInstance fun _ => ?_
    refine .seq inferInstance fun _ => .seq inferInstance fun _ => ?_
    infer_instance

instance (doc : Document) : Heedless (seed doc) := by
  unfold seed
  split <;> infer_instance

/-- An action that is no expectation. -/
theorem playAction_heedless (index : Nat) {a : Action} (h : a.expects = false) :
    Heedless (playAction index a) := by
  cases a with
  | expect key v => cases h
  | expectField id v => cases h
  | submit form =>
      refine .look (fun stage => ?_) fun _ _ => rfl
      infer_instance
  | modal method id => cases id <;> (unfold playAction; infer_instance)
  | _ => unfold playAction; infer_instance

/-- Only an expectation knows its place. -/
theorem playAction_index (i j : Nat) {a : Action} (h : a.expects = false) :
    playAction i a = playAction j a := by
  cases a with
  | expect key v => cases h
  | expectField id v => cases h
  | _ => rfl

/-- The elements that the expectations among these actions name are declared. -/
def Declares (stage : Stage) (actions : List Action) : Prop :=
  ∀ id v, .expectField id v ∈ actions → (Table.find? stage.elements id).isSome

theorem Declares.tail {stage t : Stage} {a : Action} {as : List Action}
    (h : stage.Declares (a::as)) (elements : t.elements = stage.elements) : t.Declares as := by
  intro id v hmem
  rw [elements]
  exact h id v (List.mem_cons_of_mem a hmem)

theorem run_unless (held : Bool) (failure : String) (stage : Stage) :
    (if !held then fail failure else Pure.pure ()) stage =
      (.ok (), stage.noting (stage.failures ++ if held then [] else [failure])) := by
  cases held with
  | true => exact congrArg _ (congrArg stage.noting (List.append_nil _).symm)
  | false => rfl

theorem run_element {stage : Stage} {id : String} {e : ElementRef}
    (h : Table.find? stage.elements id = some e) : element id stage = (.ok e, stage) := by
  unfold element
  rw [run_bind, run_get]
  dsimp only
  rw [h]
  rfl

/-- A complaint spells out the place that it is about. -/
theorem complaint_text (kind start : String) (hstart : ": " ++ kind = start) (index : Nat)
    (name actual v : String) :
    s!"step {index}: {kind ++ name} is {actual}, expected {v}" =
      s!"step {index}{start}{name} is {actual}, expected {v}" := by
  simp [toString, String.append_assoc, ← hstart]

/-- An expectation ends well, and notes what it has to complain about. -/
theorem run_expectation {stage : Stage} {a : Action} {as : List Action} (h : a.expects = true)
    (declared : stage.Declares (a::as)) (index : Nat) : playAction index a stage =
      (.ok (), stage.noting (stage.failures ++ (a.complaint? index stage).toList)) := by
  cases a with
  | expect key v =>
      refine (run_unless _ _ stage).trans ?_
      simp only [Action.complaint?, Action.finding?, complaint_text "state " ": state " rfl]
      split <;> rfl
  | expectField id v =>
      obtain ⟨e, he⟩ := Option.isSome_iff_exists.mp (declared id v (List.mem_cons_self ..))
      simp only [playAction, run_bind, run_element he]
      refine (run_unless _ _ stage).trans ?_
      simp only [Action.complaint?, Action.finding?, he, Option.map_some,
        complaint_text "element " ": element " rfl]
      split <;> rfl
  | _ => cases h

/-- From the same session, the other actions lead to the same end. -/
theorem playAll_unchecked {actions : List Action} {stage : Stage}
    (declared : stage.Declares actions)
    (i j : Nat) (failures : List String) :
    playAll j (actions.filter (!·.expects)) (stage.noting failures) =
      ((playAll i actions stage).1, (playAll i actions stage).2.noting failures) := by
  induction actions generalizing stage i j with
  | nil => rfl
  | cons a as ih =>
      rw [playAll, run_bind]
      cases ha : a.expects with
      | true =>
          have hrest :
              (stage.noting (stage.failures ++ (a.complaint? i stage).toList)).Declares as :=
            declared.tail rfl
          rw [List.filter_cons_of_neg (by simp [ha]), run_expectation ha declared]
          exact ih hrest (i+1) j
      | false =>
          have hheedless := playAction_heedless i ha
          have hrest := declared.tail (hheedless.elements stage)
          rw [List.filter_cons_of_pos (by simp [ha]), playAll, run_bind, playAction_index j i ha,
            hheedless.noting]
          generalize playAction i a stage = p at hrest
          rcases p with ⟨_ | _, t⟩
          · rfl
          · exact ih hrest (i+1) (j+1)

/-- An action that ends well notes what it has to complain about. -/
theorem playAction_failures {a : Action} {as : List Action} {stage t : Stage}
    (declared : stage.Declares (a::as)) {index : Nat} (h : playAction index a stage = (.ok (), t)) :
    t.failures = stage.failures ++ (a.complaint? index stage).toList ∧
      t.elements = stage.elements := by
  cases ha : a.expects with
  | true =>
      cases (run_expectation ha declared index).symm.trans h
      exact ⟨rfl, rfl⟩
  | false =>
      have hheedless := playAction_heedless index ha
      have hsilent : a.complaint? index stage = none := by
        cases a with
        | expect key v => cases ha
        | expectField id v => cases ha
        | _ => rfl
      have hnoted := hheedless.failures stage
      have hkept := hheedless.elements stage
      rw [h] at hnoted hkept
      exact ⟨by rw [hsilent, hnoted]; exact (List.append_nil _).symm, hkept⟩

/-- What is noted in the end: what each expectation complains about when it is reached. -/
theorem playAll_failures {actions : List Action} {stage : Stage} (declared : stage.Declares actions)
    {i : Nat} (ended : (playAll i actions stage).1 = .ok ()) :
    (playAll i actions stage).2.failures = stage.failures ++
      (actions.zipIdx i).filterMap fun p =>
        p.1.complaint? p.2 (playAll i (actions.take (p.2-i)) stage).2 := by
  induction actions generalizing stage i with
  | nil => exact (List.append_nil _).symm
  | cons a as ih =>
      rw [playAll, run_bind] at ended ⊢
      rcases ha : playAction i a stage with ⟨_ | _, t⟩
      · rw [ha] at ended
        cases ended
      rw [ha] at ended
      obtain ⟨hnoted, hkept⟩ := playAction_failures declared ha
      have hlater (p : Action × Nat) (hp : p ∈ as.zipIdx (i+1)) :
          p.1.complaint? p.2 (playAll i ((a::as).take (p.2-i)) stage).2 =
            p.1.complaint? p.2 (playAll (i+1) (as.take (p.2-(i+1))) t).2 := by
        obtain ⟨hle, -, -⟩ := List.mem_zipIdx hp
        obtain ⟨k, hk⟩ := Nat.exists_eq_add_of_le hle
        rw [hk, show i+1+k-i = k+1 by omega, show i+1+k-(i+1) = k by omega, List.take_succ_cons,
          playAll, run_bind, ha]
      have hnow :
          a.complaint? i (playAll i ((a::as).take (i-i)) stage).2 = a.complaint? i stage := by
        rw [Nat.sub_self]
        rfl
      rw [List.zipIdx_cons, List.filterMap_cons, hnow, List.filterMap_congr hlater]
      refine (ih (declared.tail hkept) ended).trans ?_
      rw [hnoted, List.append_assoc]
      cases a.complaint? i stage <;> rfl

/-- A run up to the first action. -/
def prepare (doc : Document) : Stage.M Unit := do
  build doc
  discard (perform (.start doc.view (← seed doc) doc.options))

instance (doc : Document) : Heedless (prepare doc) := by unfold prepare; infer_instance

theorem find?_zipIdx {α : Type} (name : α → String) {l : List α} {x : α} (h : x ∈ l) (i : Nat) :
    (Table.find? ((l.zipIdx i).map fun (x, i) => (name x, i)) (name x)).isSome := by
  induction l generalizing i with
  | nil => cases h
  | cons y l ih =>
      rw [List.zipIdx_cons, List.map_cons, Table.find?]
      split
      · rfl
      · rename_i hne
        obtain rfl | hmem := List.mem_cons.mp h
        · exact absurd rfl hne
        · exact ih hmem (i+1)

theorem declares_initial {config : Config} {doc : Document}
    (declared : ∀ id v, .expectField id v ∈ doc.actions → id ∈ doc.elements.map (·.id)) :
    (initial config doc).Declares doc.actions := by
  intro id v hmem
  obtain ⟨x, hx, rfl⟩ := List.mem_map.mp (declared id v hmem)
  exact find?_zipIdx (·.id) hx 0

end Stage

/-- A run and its report: of the stage, if all went well. -/
def reported (p : Except Problem Unit × Stage) : Except Problem Report × Stage :=
  (p.1.map fun _ => p.2.report, p.2)

theorem run_eq (config : Config) (doc : Document) :
    run config doc = reported (Stage.run doc (Stage.initial config doc)) := rfl

/-- The report is of the stage that the run has come to. -/
theorem run_report {config : Config} {doc : Document} {r : Report}
    (h : (run config doc).1 = .ok r) : r = (run config doc).2.report := by
  rw [run_eq] at h ⊢
  generalize Stage.run doc (Stage.initial config doc) = p at h ⊢
  rcases p with ⟨_ | _, t⟩
  · cases h
  · exact (Except.ok.inj h).symm

/-- The preparation is the same for all lists of actions. If it fails, so does the run; else the
actions are played where it ends. -/
theorem run_cases (config : Config) (doc : Document) :
    (∃ why t, ∀ actions, run config { doc with actions } = (.error why, t)) ∨
      ∃ t, t.failures = [] ∧ t.elements = (Stage.initial config doc).elements ∧
        ∀ actions, run config { doc with actions } = reported (Stage.playAll 0 actions t) := by
  have hrun (actions : List Action) : run config { doc with actions } =
      reported ((do Stage.prepare doc; Stage.playAll 0 actions) (Stage.initial config doc)) := by
    rw [run_eq]
    congr 1
    simp only [Stage.run, Stage.prepare, bind_assoc]
    rfl
  have hplain : (Stage.prepare doc (Stage.initial config doc)).2.failures = [] :=
    Heedless.failures inferInstance _
  have hkept := Heedless.elements (a := Stage.prepare doc) (Stage.initial config doc)
  simp only [Stage.run_bind] at hrun
  generalize Stage.prepare doc (Stage.initial config doc) = p at hrun hplain hkept
  rcases p with ⟨why | _, t⟩
  · exact .inl ⟨why, t, hrun⟩
  · exact .inr ⟨t, hplain, hkept, hrun⟩

/-- Expectations only look: without them a run ends in the same error, or with the same report but
for the failures. Those of the full run are the complaints of its expectations, in the order of the
actions, each about the stage that the actions before it leave. -/
theorem run_unchecked (config : Config) (doc : Document)
    (declared : ∀ id v, .expectField id v ∈ doc.actions → id ∈ doc.elements.map (·.id)) :
    (run config doc).2.session = (run config doc.unchecked).2.session ∧
      ((∃ why, (run config doc).1 = .error why ∧ (run config doc.unchecked).1 = .error why) ∨
        ∃ r q, (run config doc).1 = .ok r ∧ (run config doc.unchecked).1 = .ok q ∧
          r.state = q.state ∧ r.transcript = q.transcript ∧ r.isDirty = q.isDirty ∧
          r.unloadWarning = q.unloadWarning ∧ q.failures = [] ∧
          r.failures = doc.actions.zipIdx.filterMap fun (a, i) =>
            a.complaint? i (run config (doc.upTo i)).2) := by
  obtain ⟨why, t, hrun⟩ | ⟨t, hplain, hkept, hrun⟩ := run_cases config doc
  · have hfull : run config doc = (.error why, t) := hrun doc.actions
    have hunchecked : run config doc.unchecked = (.error why, t) := hrun _
    rw [hfull, hunchecked]
    exact ⟨rfl, .inl ⟨why, rfl, rfl⟩⟩
  have hdeclares : t.Declares doc.actions := by
    intro id v hmem
    rw [hkept]
    exact Stage.declares_initial declared id v hmem
  have hfull : run config doc = reported (Stage.playAll 0 doc.actions t) := hrun doc.actions
  have hunchecked : run config doc.unchecked =
      reported ((Stage.playAll 0 doc.actions t).1,
        (Stage.playAll 0 doc.actions t).2.noting []) := by
    rw [← Stage.playAll_unchecked hdeclares 0 0, ← hplain]
    exact hrun _
  have hupTo (i : Nat) :
      (run config (doc.upTo i)).2 = (Stage.playAll 0 (doc.actions.take i) t).2 :=
    congrArg (·.2) (hrun _)
  have hnoted := Stage.playAll_failures hdeclares (i := 0)
  simp only [hupTo]
  rw [hfull, hunchecked]
  generalize Stage.playAll 0 doc.actions t = p at hnoted
  rcases p with ⟨why | _, u⟩
  · exact ⟨rfl, .inl ⟨why, rfl, rfl⟩⟩
  · have hfailures : u.failures = _ := hnoted rfl
    rw [hplain] at hfailures
    exact ⟨rfl, .inr ⟨u.report, (u.noting []).report, rfl, rfl, rfl, rfl, rfl, rfl, rfl, hfailures⟩⟩

/-- A write, an expectation that finds it and one that does not, and one of a field. -/
def Document.sample : Document where
  elements := [⟨"name", .input, none, [], none⟩]
  modals := []
  interfaces := []
  modes := []
  views := [("main", [], {})]
  forms := []
  bindings := []
  state := none
  bootstrap := none
  view := "main"
  options := {}
  actions := [.setState "seen" (.bool true), .expect "seen" (.bool false),
    .expect "seen" (.bool true), .expectField "name" .null]

theorem sample_unchecked :
    (∀ id v, .expectField id v ∈ Document.sample.actions →
      id ∈ Document.sample.elements.map (·.id)) ∧
    ∃ r q, (run {} .sample).1 = .ok r ∧ (run {} Document.sample.unchecked).1 = .ok q ∧
      r.state = q.state ∧ r.transcript = q.transcript ∧ r.isDirty = q.isDirty ∧
      r.unloadWarning = q.unloadWarning ∧ q.failures = [] ∧
      r.failures = ["step 1: state seen is true, expected false",
        "step 3: element name is \"\", expected null"] := by
  have hdeclared : ∀ id v, .expectField id v ∈ Document.sample.actions →
      id ∈ Document.sample.elements.map (·.id) := by
    simp [Document.sample]
  have hok : (run {} .sample).1.isOk := by decide +kernel
  have hnoted : (run {} .sample).2.report.failures = ["step 1: state seen is true, expected false",
      "step 3: element name is \"\", expected null"] := by decide +kernel
  obtain ⟨-, ⟨why, hwhy, -⟩ | ⟨r, q, hr, hq, hstate, hlines, hdirty, hwarning, hnone, -⟩⟩ :=
    run_unchecked {} .sample hdeclared
  · rw [hwhy] at hok
    cases hok
  · refine ⟨hdeclared, r, q, hr, hq, hstate, hlines, hdirty, hwarning, hnone, ?_⟩
    exact (congrArg Report.failures (run_report hr)).trans hnoted

end ScreenBinding.Scenario
