import ScreenBinding.Engine.Act

/-!
# The store

Every write stores its value first and then calls the listeners of the key and those of the
wildcard key, each group in order of registration. Who listens is settled when the write begins.
-/
namespace ScreenBinding

/-- Listeners under this key hear of every write. -/
def wildcard : String := "*"

def Session.listenersOf (s : Session) (key : String) : List Listener :=
  (s.listeners.filter (·.1 = key)).map Prod.snd

/-- Whom a write of `key` notifies. -/
def Session.audience (s : Session) (key : String) : List Listener :=
  s.listenersOf key ++ s.listenersOf wildcard

/-- The value that a key holds after `incoming` is merged into `existing`. -/
def Json.merge (sep : Separators) (existing incoming : Json) : Json :=
  match existing, incoming with
  | .array l, .array r => .array (l ++ r)
  | .array l, r => if r.isScalar then .array (l ++ [r]) else r
  | l, .array r => if l.isScalar then .array (l::r) else .array r
  | .object l, .object r => .object (Table.overlay l r)
  | .string l, .string r => .string (sep.join (sep.split l ++ sep.split r))
  | _, r => r

namespace Act

def listen (keys : List String) (l : Listener) : Act Unit :=
  change fun s => { s with listeners := s.listeners ++ keys.map (·, l) }

def store (key : String) (value : Json) (source : Option Source) : Act Unit := do
  change fun s => { s with values := Table.put s.values key value }
  emit (.stored key value source)

def notify (key : String) (value : Json) (source : Option Source) : Act Unit := do
  for l in ← gets (·.audience key) do
    react (.listener l key value source)

/-- Writes a value and returns the one before. -/
def write (key : String) (value : Json) (source : Option Source) : Act (Option Json) := do
  let old ← gets fun s => Table.find? s.values key
  store key value source
  notify key value source
  return old

def merge (key : String) (value : Json) (source : Option Source) : Act Unit := do
  match ← gets fun s => Table.find? s.values key with
  | none => discard (write key value source)
  | some old => discard (write key (old.merge (← separators) value) source)

/-- Writes entry by entry. -/
def writeAll (values : Fields) (source : Option Source) : Act Unit := do
  for (key, value) in values do
    discard (write key value source)

/-- The value of a key as a list of texts; an unset key is empty. -/
def getList (key : String) : Act (List String) := do
  match ← gets fun s => Table.find? s.values key with
  | some v => ofExcept ((← separators).listOf v)
  | none => return []

end Act
end ScreenBinding
