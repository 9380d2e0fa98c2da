import ScreenBinding.CommandLine.Execute

/-!
# The program

Reads the arguments and the files, prints what the command prints, and exits with 0 for a positive
answer, 2 for a negative one or for arguments that are not understood, and 1 for a failure.
-/
namespace ScreenBinding.CommandLine

def Misuse.message : Misuse → String
  | helpWanted | nothingGiven =>
      "parse DIRECTIVE | validate VALUE RULE... | changes [-p LIST] [-n LIST] | run SCENARIO"
  | versionWanted => "0.4.2"
  | commandMissing => "a command is required"
  | unknownCommand => "no such command"
  | unknownArgument => "unexpected argument"
  | missingArgument => "an argument is missing"
  | missingValue => "a value is missing"
  | unwantedValue => "a flag takes no value"
  | repeated => "an argument is repeated"

/-- The reason of the operating system. -/
def reason (e : IO.Error) : String :=
  match e with
  | .noFileOrDirectory .. => "No such file or directory (os error 2)"
  | .permissionDenied .. => "Permission denied (os error 13)"
  | .inappropriateType .. => "Is a directory (os error 21)"
  | e => toString e

def readFile (path : String) : IO (Except String File) := do
  try
    let bytes ← IO.FS.readBinFile path
    let text := match String.fromUTF8? bytes with
      | some text => Except.ok text
      | none => .error "stream did not contain valid UTF-8"
    return .ok ⟨bytes.size, text⟩
  catch e => return .error (reason e)

def start (i : Invocation) : IO UInt32 := do
  let found ← i.paths.mapM fun path => return (path, ← readFile path)
  let o := execute (fun path => (Table.find? found path).getD (.error "")) i
  IO.print o.output
  match o.result with
  | .ok positive => return if positive then 0 else 2
  | .error f => do
      IO.eprintln ("Error: " ++ f.message)
      return 1

end ScreenBinding.CommandLine

open ScreenBinding.CommandLine in
def main (args : List String) : IO UInt32 := do
  match parse args with
  | .ok i => start i
  | .error m =>
      if m = .helpWanted ∨ m = .versionWanted then
        IO.println m.message
        return 0
      else
        IO.eprintln m.message
        return 2
