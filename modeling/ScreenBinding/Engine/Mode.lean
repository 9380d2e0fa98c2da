import ScreenBinding.Engine.Display
import ScreenBinding.Engine.Store

/-!
# Modes

A mode writes its patch, arranges its screen if it is a view, and then runs its logic.
-/
namespace ScreenBinding.Act

def mode (name : String) : Act Mode := do
  match Table.find? (← gets Session.modes) name with
  | some m => return m
  | none => throw (.unknownMode name)

def arrange (screen : Screen) : Act Unit := do
  hideViews
  for name in screen.modals do
    discard (showSurface .modal name [] none)
  for name in screen.interfaces do
    discard (showSurface .interface name [] none)

def applyMode (m : Mode) : Act Unit := do
  writeAll m.patch (some .mode)
  match m.screen with
  | some screen => arrange screen
  | none => pure ()
  match m.logic with
  | some actions => react (.script actions)
  | none => pure ()

end ScreenBinding.Act
