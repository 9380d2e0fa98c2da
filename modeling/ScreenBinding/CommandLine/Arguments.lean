import ScreenBinding.Table

/-!
# Arguments

The program takes flags and options of its own, then the name of a command, and then what the
command takes; the program's flags and options may also stand behind the command. A value is
checked when the next argument is understood, so that an argument nobody knows is reported first.
-/
namespace ScreenBinding.CommandLine

inductive Topic where
  | parse
  | validate
  | changes
  | run
  deriving DecidableEq

/-- A level of the command line has arguments of its own. -/
inductive Level where
  | program
  | command (t : Topic)
  deriving DecidableEq

inductive Flag where
  | verbose
  | quiet
  | json
  | help
  | version
  deriving DecidableEq

/-- Options come with a value. -/
inductive Opt where
  | config
  | previous
  | next
  deriving DecidableEq

/-- Why arguments are not carried out. -/
inductive Misuse where
  | helpWanted
  | versionWanted
  | nothingGiven
  | commandMissing
  | unknownCommand
  | unknownArgument
  | missingArgument
  /-- An option or a path without a value. -/
  | missingValue
  /-- A value for a flag. -/
  | unwantedValue
  | repeated
  deriving DecidableEq

inductive Command where
  | parse (text : String)
  | validate (value : String) (rules : List String)
  | changes (previous next : String)
  | run (path : String)
  deriving DecidableEq

/-- Arguments that were understood. -/
structure Invocation where
  verbose : Bool
  quiet : Bool
  json : Bool
  config : Option String
  command : Command
  deriving DecidableEq

def topic? (name : String) : Option Topic :=
  Table.find? [("parse", .parse), ("validate", .validate), ("changes", .changes), ("run", .run)] name

/-- Flags and options by their long names. -/
def Level.long? (l : Level) (name : String) : Option (Flag ⊕ Opt) :=
  match name with
  | "verbose" => some (.inl .verbose)
  | "quiet" => some (.inl .quiet)
  | "json-mode" => some (.inl .json)
  | "help" => some (.inl .help)
  | "version" => if l = .program then some (.inl .version) else none
  | "config" => some (.inr .config)
  | "previous" => if l = .command .changes then some (.inr .previous) else none
  | "next" => if l = .command .changes then some (.inr .next) else none
  | _ => none

/-- Flags and options by their letters. -/
def Level.short? (l : Level) (letter : Char) : Option (Flag ⊕ Opt) :=
  match letter with
  | 'v' => some (.inl .verbose)
  | 'q' => some (.inl .quiet)
  | 'h' => some (.inl .help)
  | 'V' => if l = .program then some (.inl .version) else none
  | 'c' => some (.inr .config)
  | 'p' => if l = .command .changes then some (.inr .previous) else none
  | 'n' => if l = .command .changes then some (.inr .next) else none
  | _ => none

/-- What is understood but not yet checked. -/
inductive Pending where
  | nothing
  /-- An option whose value is the next argument. -/
  | awaiting (o : Opt)
  | value (o : Opt) (v : String)
  | positional (v : String)

/-- What one level has collected. -/
structure Scan where
  flags : List Flag := []
  options : List (Opt × String) := []
  positionals : List String := []
  pending : Pending := .nothing
  /-- After a double dash everything is positional. -/
  trailing : Bool := false

namespace Scan

def option? (s : Scan) (o : Opt) : Option String := (s.options.find? (·.1 = o)).map Prod.snd

/-- Gives an option its value. A path cannot be empty. -/
def assign (s : Scan) (o : Opt) (v : String) : Except Misuse Scan :=
  if (s.option? o).isSome then .error .repeated
  else if o = .config ∧ v = "" then .error .missingValue
  else .ok { s with options := s.options ++ [(o, v)] }

/-- Checks what is pending. -/
def settle (l : Level) (s : Scan) : Except Misuse Scan :=
  let cleared := { s with pending := .nothing }
  match s.pending with
  | .nothing => .ok s
  | .awaiting _ => .error .missingValue
  | .value o v => cleared.assign o v
  | .positional v =>
      if l = .command .run ∧ v = "" then .error .missingValue
      else .ok { cleared with positionals := s.positionals ++ [v] }

def raise (l : Level) (s : Scan) (f : Flag) : Except Misuse Scan := do
  let s ← s.settle l
  match f with
  | .help => .error .helpWanted
  | .version => .error .versionWanted
  | f => if s.flags.contains f then .error .repeated else .ok { s with flags := f::s.flags }

/-- Takes up an option, with its value if that is attached. -/
def take (l : Level) (s : Scan) (o : Opt) (attached : Option String) : Except Misuse Scan := do
  let s ← s.settle l
  match attached with
  | some v => s.assign o v
  | none => .ok { s with pending := .awaiting o }

def long (l : Level) (s : Scan) (body : List Char) : Except Misuse Scan :=
  let name := String.ofList (body.takeWhile (· ≠ '='))
  let attached := match body.dropWhile (· ≠ '=') with
    | [] => none
    | _::v => some (String.ofList v)
  match l.long? name, attached with
  | none, _ => .error .unknownArgument
  | some (.inl _), some _ => .error .unwantedValue
  | some (.inl f), none => s.raise l f
  | some (.inr o), v => s.take l o v

/-- A run of letters; the first option among them takes the rest as its value. -/
def short (l : Level) (s : Scan) : List Char → Except Misuse Scan
  | [] => .ok s
  | c::r =>
      match l.short? c, r with
      | none, _ => .error .unknownArgument
      | some (.inl f), r => do short l (← s.raise l f) r
      | some (.inr o), [] => s.take l o none
      | some (.inr o), '='::v => s.take l o (some (String.ofList v))
      | some (.inr o), v => s.take l o (some (String.ofList v))

/-- Whether another positional argument has a place. -/
def hasPlace (l : Level) (s : Scan) : Bool :=
  let fresh := s.positionals.isEmpty && !(s.pending matches .positional _)
  match l with
  | .command .validate => true
  | .command .parse | .command .run => fresh
  | .command .changes | .program => false

def positional (l : Level) (s : Scan) (arg : String) : Except Misuse Scan := do
  if s.hasPlace l then
    return { ← s.settle l with pending := .positional arg }
  else if l = .program ∧ !(s.trailing ∧ ((topic? arg).isSome ∨ arg = "help")) then
    throw .unknownCommand
  else throw .unknownArgument

def step (l : Level) (s : Scan) (arg : String) : Except Misuse Scan :=
  if s.trailing then s.positional l arg
  else match arg.toList with
    | ['-', '-'] => .ok { s with trailing := true }
    | '-' :: '-' :: body => s.long l body
    | '-' :: c :: r => s.short l (c::r)
    | _ =>
        match s.pending with
        | .awaiting o => .ok { s with pending := .value o arg }
        | _ => s.positional l arg

/-- A command is named where no option waits for its value. -/
def mayName (s : Scan) : Bool := !s.trailing && !(s.pending matches .awaiting _)

end Scan

/-- Help is available for the program and for each command. -/
def help : List String → Misuse
  | [] => .helpWanted
  | [name] => if (topic? name).isSome ∨ name = "help" then .helpWanted else .unknownCommand
  | _ => .unknownCommand

/-- The arguments before the command, the command, and those behind it. -/
def program (s : Scan) : List String → Except Misuse (Scan × Option (Topic × List String))
  | [] => .ok (s, none)
  | arg::rest =>
      match s.mayName, topic? arg with
      | true, some t => .ok (s, some (t, rest))
      | true, none =>
          if arg = "help" then .error (help rest) else do program (← s.step .program arg) rest
      | false, _ => do program (← s.step .program arg) rest

/-- The command, once its arguments are complete. -/
def Topic.command (t : Topic) (s : Scan) : Except Misuse Command :=
  match t, s.positionals with
  | .parse, text::_ => .ok (.parse text)
  | .validate, value::rule::rules => .ok (.validate value (rule::rules))
  | .changes, _ => .ok (.changes ((s.option? .previous).getD "") ((s.option? .next).getD ""))
  | .run, path::_ => .ok (.run path)
  | _, _ => .error .missingArgument

/-- Understands the arguments. The command's own are complained about first. -/
def parse (args : List String) : Except Misuse Invocation := do
  match ← program {} args with
  | (top, none) =>
      let top ← top.settle .program
      throw (if top.flags.isEmpty ∧ top.options.isEmpty then .nothingGiven else .commandMissing)
  | (top, some (t, rest)) =>
      let own ← (← rest.foldlM (Scan.step (.command t)) {}).settle (.command t)
      let command ← t.command own
      let top ← top.settle .program
      let flags := own.flags ++ top.flags
      return { verbose := flags.contains .verbose, quiet := flags.contains .quiet,
               json := flags.contains .json,
               config := (own.option? .config).or (top.option? .config), command }

end ScreenBinding.CommandLine
