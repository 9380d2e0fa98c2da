import ScreenBinding.CommandLine.Arguments
import ScreenBinding.Difference
import ScreenBinding.Directive
import ScreenBinding.Rule
import ScreenBinding.Scenario.Run
import ScreenBinding.Text.Quoted

/-!
# Commands

What the commands print and whether they succeed, given the files that they may read. The
configuration is read before anything else; what a failing scenario has printed stays printed.
-/
namespace ScreenBinding.CommandLine

/-- A file: its size, and its text or the reason why it has none. -/
structure File where
  size : Nat
  text : Except String String

/-- What is found under a path, or why nothing is. -/
abbrev Files := String → Except String File

inductive Failure where
  | unreadable (path why : String)
  | badConfig (path : String)
  | badScenario
  | tooLarge (size : Nat)
  | problem (p : Scenario.Problem)

structure Outcome where
  output : String
  /-- Whether the answer of the command is positive. -/
  result : Except Failure Bool

def defaultConfigPath : String := "bindery.toml"

/-- Bytes of a scenario file. -/
def maxScenarioSize : Nat := 4*1024*1024

def Failure.message : Failure → String
  | unreadable path why => "Cannot read " ++ path ++ ": " ++ why
  | badConfig path => "Invalid configuration " ++ path
  | badScenario => "Invalid scenario"
  | tooLarge size =>
      s!"Invalid scenario: file size {size} bytes exceeds maximum allowed {maxScenarioSize} bytes"
  | problem p => p.message

/-- The log filter of a run. -/
def Invocation.logFilter (i : Invocation) : String :=
  if i.verbose then "bindery=debug" else "bindery=info"

def lines (ls : List String) : String := String.join (ls.map (· ++ "\n"))

def textOf (path : String) (file : Except String File) : Except Failure String :=
  match file with
  | .error why => .error (.unreadable path why)
  | .ok f => f.text.mapError (.unreadable path)

/-- The configuration of a given path, else of the default path if there is one. -/
def configuration (files : Files) (path : Option String) : Except Failure Config := do
  let read := fun path => do
    match Config.parse? (← textOf path (files path)) with
    | some c => pure c
    | none => throw (.badConfig path)
  match path with
  | some p => read p
  | none => if (files defaultConfigPath).isOk then read defaultConfigPath else return {}

def printDirective (json : Bool) (text : String) : String :=
  let d := Directive.parse text
  let triggers := d.triggers.map Trigger.name
  let operators := d.operators.map Operator.name
  lines (if json then
      [(Json.object [("key", .string d.key), ("triggers", .texts triggers),
        ("operators", .texts operators)]).indented 0]
    else
      ["Directive: " ++ text,
       "  Key:       " ++ d.key,
       "  Triggers:  " ++ ", ".intercalate triggers,
       "  Operators: " ++ ", ".intercalate operators])

def printVerdict (json : Bool) (value : String) (rules : List String) (valid : Bool) : String :=
  lines (if json then
      [(Json.object [("value", .string value), ("rules", .texts rules),
        ("valid", .bool valid)]).indented 0]
    else
      [Text.quote value ++ (if valid then " is valid" else " is invalid") ++ " under [" ++
        ", ".intercalate rules ++ "]"])

def printChanges (json : Bool) (sep : Separators) (d : Difference) : String :=
  let row := fun title (items : List String) padding =>
    title ++ s!" ({items.length}):" ++ padding ++ sep.join items
  lines (if json then
      [(Json.object [("add", .texts d.added), ("rem", .texts d.removed),
        ("nop", .texts d.kept)]).indented 0]
    else
      [row "Added" d.added "     ", row "Removed" d.removed "   ", row "Unchanged" d.kept " "])

/-- The scenario of a file. Its size counts before its text does. -/
def scenario (files : Files) (path : String) : Except Failure Scenario.Document := do
  if let .ok f := files path then
    if maxScenarioSize < f.size then throw (.tooLarge f.size)
  match Scenario.parse? (← textOf path (files path)) with
  | some doc => return doc
  | none => throw .badScenario

def printReport (json : Bool) (r : Scenario.Report) : String :=
  lines (if json then [r.toJson.indented 0]
    else
      ["", "Final state:"] ++ r.state.map (fun (k, v) => "  " ++ k ++ " = " ++ v.compact) ++
      r.unloadWarning.toList.map ("Unload warning: " ++ ·) ++
      (if r.passed then ["All expectations met."]
       else s!"{r.failures.length} expectation(s) failed:"::r.failures.map ("  - " ++ ·)))

/-- Runs a scenario, with its transcript line by line if wanted. -/
def runScenario (config : Config) (path : String) (doc : Scenario.Document) (json quiet : Bool) :
    Outcome :=
  let (result, stage) := Scenario.run config doc
  let echo := if quiet || json then ""
    else lines (("Scenario: " ++ path)::stage.transcript.map ("  " ++ ·))
  match result with
  | .error p => ⟨echo, .error (.problem p)⟩
  | .ok report => ⟨echo ++ printReport json report, .ok report.passed⟩

def carryOut (files : Files) (i : Invocation) (config : Config) : Except Failure Outcome := do
  let sep := config.settings.separators
  match i.command with
  | .parse text => return ⟨printDirective i.json text, .ok true⟩
  | .validate value rules =>
      let valid := ScreenBinding.validate sep [] (.string value) rules
      return ⟨printVerdict i.json value rules valid, .ok valid⟩
  | .changes previous next =>
      let d := Difference.between (sep.split previous) (sep.split next)
      return ⟨printChanges i.json sep d, .ok true⟩
  | .run path => return runScenario config path (← scenario files path) i.json i.quiet

def execute (files : Files) (i : Invocation) : Outcome :=
  match (do carryOut files i (← configuration files i.config)) with
  | .ok o => o
  | .error f => ⟨"", .error f⟩

/-- The paths under which files are looked for. -/
def Invocation.paths (i : Invocation) : List String :=
  i.config.getD defaultConfigPath :: match i.command with
    | .run path => [path]
    | _ => []

end ScreenBinding.CommandLine
