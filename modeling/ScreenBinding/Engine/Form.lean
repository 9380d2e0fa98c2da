import ScreenBinding.Engine.Relation
import ScreenBinding.Engine.Display
import ScreenBinding.Rule

/-!
# Forms

Groups of elements bound together. A form loads live from the state and saves into it only when a
submission succeeds. Spec keys name a field, or select one behind `$`.
-/
namespace ScreenBinding

namespace Form

def find (s : Session) (f : Form) (sel : Selector) : List ElementRef :=
  f.elements.filter fun e => sel.matchesElement (s.element e)

/-- The elements that have a name. -/
def fields (s : Session) (f : Form) : List ElementRef :=
  f.elements.filter fun e => (s.element e).name.isSome

def names (s : Session) (f : Form) : List String :=
  f.elements.filterMap fun e => (s.element e).name

/-- The values of all named fields. -/
def data (s : Session) (f : Form) : Fields :=
  Table.ofPairs (f.elements.filterMap fun e =>
    (s.element e).name.map fun n => (n, (s.element e).value))

/-- What a spec key selects. -/
def selectorOf (key : String) : Selector :=
  match key.toList with
  | '$'::r => Selector.parse (String.ofList r)
  | _ => Selector.parse ("[name=" ++ key ++ "]")

/-- The first element that a spec key selects. -/
def findField (s : Session) (f : Form) (key : String) : Option ElementRef :=
  if key = "" then none else (f.find s (selectorOf key)).head?

end Form

namespace Act

/-- A new form over elements, with a source of its own. -/
def newForm (name : String) (elements : List ElementRef) : Act Form := do
  let drawn := Source.draw "form" (← gets (·.nextSource))
  let f : Form := ⟨name, drawn.1, elements⟩
  change fun s => { s with nextSource := drawn.2, forms := f::s.forms }
  return f

/-- Runs an act on each field that a spec key resolves to, up to the first fault. -/
def eachField (f : Form) (spec : Table (List String))
    (act : List String → ElementRef → Act Unit) : Act Unit := do
  for (key, directives) in spec do
    match ← gets (f.findField · key) with
    | some e => act directives e
    | none => pure ()

def connectForm (f : Form) (spec : Table (List String)) (both : Bool) : Act Unit := do
  if both then throw .bidirectionalForm
  eachField f spec fun ds e => connectAll .load ds e (some f.source)

/-- Pushes every field of the spec into the state once. -/
def saveForm (f : Form) (spec : Table (List String)) : Act Unit :=
  eachField f spec fun ds e => do
    executeAll .save (some (← element e).value) e (some f.source) ds

/-- Pulls every field of the spec from the state once. -/
def loadForm (f : Form) (spec : Table (List String)) : Act Unit :=
  eachField f spec fun ds e => executeAll .load none e none ds

def restoreForm (b : BoundForm) : Act Unit := do
  if b.options.restore then loadForm b.form b.state

def mark (good : Bool) (e : ElementRef) : Act Unit := do
  let classes ← gets (·.settings.validation)
  if good then modify e fun x => (x.removeClass classes.bad).addClass classes.good
  else modify e fun x => (x.removeClass classes.good).addClass classes.bad

/-- Checks one field and marks it. -/
def checkField (b : BoundForm) (e : ElementRef) : Act Bool := do
  let x ← element e
  match x.name with
  | none => return true
  | some name =>
      let rules := (Table.find? b.rules name).getD []
      let ok := validate (← separators) (← gets b.form.data) x.value rules
      mark ok e
      return ok

/-- Wires the actions of a form: cancel restores, save submits, leaving a field checks it. -/
def instrument (b : BoundForm) : Act Unit := do
  let actions ← gets (·.settings.actions)
  for e in ← gets (b.form.find · (Selector.parse ("." ++ actions.cancel))) do
    onEvent e .click (.restore b)
  for e in ← gets (b.form.find · (Selector.parse ("." ++ actions.save))) do
    onEvent e .click (.submit b)
  for e in ← gets b.form.fields do
    onEvent e .blur (.check b)

/-- Calls a hook, if there is one, whose faults go nowhere; the event tells of the call. -/
def callHook (e : Event) (hook : Option (List Command)) : Act Unit := do
  match hook with
  | some actions =>
      emit e
      attempt (react (.hook actions))
  | none => return ()

def defineForm (f : Form) (spec : Table FieldSpec) (options : FormOptions Command) :
    Act BoundForm := do
  let rules := (spec.filter fun x => !x.2.rules.isEmpty).map fun x => (x.1, x.2.rules)
  let state := (spec.filter fun x => !x.2.state.isEmpty).map fun x => (x.1, x.2.state)
  callHook (.initialised (← gets f.names)) options.init
  connectForm f state false
  let b : BoundForm := ⟨f, rules, state, options⟩
  instrument b
  return b

/-- What a click on the save action starts: the cool-down of the button and a submission. -/
def clickSubmit (b : BoundForm) (e : ElementRef) : Act Unit := do
  if !(← element e).disabled then
    modify e fun x => { x with disabled := true }
    change fun s => (s.spawn .detached (.cooldown e)).spawn .detached (.submit b)

/-- The names that fail, marked and reported to the user. -/
def rejectFields (b : BoundForm) (names : List String) : Act Unit := do
  for name in names do
    for e in ← gets (b.form.find · (Selector.parse ("[name=" ++ name ++ "]"))) do
      mark false e
  needNotifier
  emit (.error (b.options.error.getD "Please correct your submission and try again."))

/-- Takes back the marks of an earlier check. -/
def clearMarks (b : BoundForm) : Act Unit := do
  let classes ← gets (·.settings.validation)
  for e in ← gets (b.form.find · (Selector.parse ("." ++ classes.bad))) do
    modify e fun x => (x.removeClass classes.bad).removeClass classes.good

/-- Saves the form, closes the modals and calls the hook. -/
def succeed (b : BoundForm) (response : Json) : Act Unit := do
  saveForm b.form b.state
  if b.options.modal then hideAll .modal
  callHook (.succeeded response) b.options.onSuccess

end Act
end ScreenBinding
