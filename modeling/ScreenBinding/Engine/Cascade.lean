import ScreenBinding.Engine.Command

/-!
# Cascades

What registered callbacks do. A callback may write, show and raise in turn, so reactions nest; the
fuel bounds how deeply. Faults of callbacks go nowhere, except those of scripts.
-/
namespace ScreenBinding.Act

def hear (l : Listener) (key : String) (value : Json) (writer : Option Source) : Act Unit :=
  match l with
  | .load directive field source =>
      if source.isSome ∧ writer = source then return ()
      else attempt (execute .load directive (some value) field source)
  | .journal => emit (.wrote key value writer)
  | .report label actions => do
      emit (.heard label key value writer)
      attempt (react (.script actions))
  | .silent => return ()

def handle (h : Handler) (e : ElementRef) : Act Unit :=
  match h with
  | .save directive source => do
      if (← gets (·.loading)) = 0 then attempt (execute .save directive none e source)
  | .watch label actions => do
      emit (.observed label (← element e).value (0 < (← gets (·.loading))))
      attempt (react (.script actions))
  | .restore b => attempt (restoreForm b)
  | .submit b => clickSubmit b e
  | .check b => discard (checkField b e)

def reaction : Reaction → Act Unit
  | .listener l key value source => hear l key value source
  | .handler h e => handle h e
  | .script commands => runAll commands
  | .hook commands => runAll commands

/-- Carries out reactions nested at most `n` deep. -/
def cascade : Nat → React
  | 0, _ => fun _ => none
  | n+1, r => reaction r (cascade n)

/-- Runs an act with its reactions. -/
def settle {α : Type} (depth : Nat) (a : Act α) : Session → Option (Except Fault α × Session) :=
  a (cascade depth)

end ScreenBinding.Act
