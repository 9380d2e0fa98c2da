import ScreenBinding.Engine.Form
import ScreenBinding.Engine.Mode
import ScreenBinding.Engine.Subscription

/-!
# Remote calls

A call shows the lock, sends its request, takes the lock away, and reports success or failure to
the user. What a call was made for goes on with its outcome: a reload writes the state, a
submission saves its form.
-/
namespace ScreenBinding.Act

/-- Hears of every write, from the first call on. -/
def logState : Act Unit := do
  if !(← gets (·.logsState)) then
    change fun s => { s with logsState := true }
    listen [wildcard] .silent

/-- Switches debug mode on; canned responses take the place of the transport. -/
def enableDebug (config : DebugConfig) : Act Unit := do
  change fun s => { s with debugMode := if config.offline.isSome then .offline else .debug }
  logState
  writeAll (config.testing.getD []) none
  match config.offline with
  | some responses => change fun s =>
      { s with transport := some (.offline responses config.latencyMs) }
  | none => pure ()

/-- The end of a start: debug mode, live state, and the view. -/
def openView (view : String) (options : StartOptions) : Act Unit := do
  match options.debug with
  | some config => enableDebug config
  | none => pure ()
  if options.live then live
  applyMode (← mode view)

/-- Goes on with the outcome of a reload. -/
def afterReload (next : AfterReload) (outcome : ReloadOutcome) : Act Answer := do
  match next with
  | .answer => return .reloaded outcome
  | .enter m =>
      if outcome = .applied then applyMode m
      return .nothing
  | .start url view options =>
      if outcome = .failed then throw (.bootstrapFailed url)
      openView view options
      return .nothing

/-- Writes the response to a reload if it is still the latest issued one. -/
def concludeReload (issue : Nat) : RemoteOutcome → Act ReloadOutcome
  | .success v => do
      if issue = (← gets (·.reloads)) then
        applyState v
        return .applied
      else return .superseded
  | .failure _ => return .failed

/-- Goes on with the outcome of a call. -/
def afterCall (next : AfterCall) (outcome : RemoteOutcome) : Act Answer := do
  match next, outcome with
  | .answer, _ => return .called outcome
  | .reload issue next, _ => afterReload next (← concludeReload issue outcome)
  | .submission b, .success v =>
      succeed b v
      return .submitted (.submitted v)
  | .submission b, .failure why =>
      callHook .failed b.options.onFailure
      return .submitted (.failed why)

/-- Shows the lock or takes it away. -/
def lock (options : RemoteOptions) (e : Event) : Act Unit := do
  if !options.background then
    needNotifier
    emit e

def reportSuccess (options : RemoteOptions) : Act Unit := do
  if !options.silent then
    needNotifier
    emit (.message (options.success.getD (← gets (·.settings.network.success))) false)

def reportFailure (options : RemoteOptions) : Act Unit := do
  if !options.silent then
    needNotifier
    emit (.error (options.failure.getD (← gets (·.settings.network.failure))))

/-- The end of a call: the lock goes, then the message, then the outcome. A request that could not
be made is an outcome only while debug mode is off. -/
def finishCall (call : Call) (attempt : Except Fault (Except TransportFault Json)) :
    Act Answer := do
  lock call.options .lockReleased
  match attempt with
  | .ok (.ok v) =>
      reportSuccess call.options
      afterCall call.next (.success v)
  | .ok (.error why) =>
      reportFailure call.options
      afterCall call.next (.failure (.transport why))
  | .error why =>
      reportFailure call.options
      if (← gets (·.debugMode)) = .off then afterCall call.next (.failure why)
      else throw why

/-- Where a call goes and who carries it. -/
def dispatch (method : String) : Act (Route × Transport) := do
  let r ← route method
  return (r, ← needTransport)

def call (method : String) (data : Json) (options : RemoteOptions) (next : AfterCall) :
    Act Progress := do
  let c : Call := ⟨method, options, next⟩
  lock options .lockShown
  match ← outcome (dispatch method) with
  | .error why => return .done (← finishCall c (.error why))
  | .ok (r, t) =>
      let (delay, reply) ← send t r.verb r.url data
      after delay (.replying c reply) do
        return .done (← finishCall c (.ok (← receive reply)))

/-- Fetches the whole state. Of overlapping reloads only the latest issued one is written. -/
def reload (next : AfterReload) : Act Progress := do
  change fun s => { s with reloads := s.reloads+1 }
  call "state.load" (.object []) { silent := true } (.reload (← gets (·.reloads)) next)

/-- Enters a mode, after a reload if it is to be fresh. -/
def setMode (name : String) (remote : Bool) : Act Progress := do
  let m ← mode name
  if remote then reload (.enter m)
  else
    applyMode m
    return .done .nothing

/-- Prepares the surfaces, seeds the state and shows a view. -/
def start (view : String) (seed : Seed) (options : StartOptions) : Act Progress := do
  if options.warn then change fun s => { s with warns := true }
  prepareViews
  match seed with
  | .state values =>
      writeAll values none
      openView view options
      return .done .nothing
  | .bootstrap url =>
      discard (write "methods" (MethodTable.single "state.load" .get url) none)
      reload (.start url view options)

/-- Sends accepted data to the server, or leaves them to the host. -/
def sendForm (b : BoundForm) (data : Fields) : Act Progress := do
  match b.options.method with
  | some method => call method (.object data) b.options.remote (.submission b)
  | none =>
      succeed b (.object data)
      return .done (.submitted (.native data))

/-- Goes on once the hook has decided. -/
def decided (b : BoundForm) (data : Fields) (accepted : Bool) : Act Progress := do
  emit (.ruled accepted)
  if accepted then sendForm b data
  else
    restoreForm b
    return .done (.submitted .rejected)

/-- Runs the hook before a submission. A confirmation that fails counts as no. -/
def inject (b : BoundForm) (data : Fields) (hook : Inject Command) : Act Progress := do
  attempt (react (.hook hook.actions))
  match hook.decision with
  | .answer accepted => decided b data accepted
  | .confirm modal key field =>
      let previous := (Table.find? (← gets (·.values)) key).getD .null
      let next := (Table.find? data field).getD .null
      match ← outcome (askConfirm modal previous next) with
      | .ok ticket => awaitAnswer ticket (.deciding b data) (decided b data)
      | .error _ => decided b data false

/-- Goes on once it is known which names fail validation. -/
def judged (b : BoundForm) (data : Fields) (invalid : List String) : Act Progress := do
  if !invalid.isEmpty then
    rejectFields b invalid
    return .done (.submitted (.invalid invalid))
  else
    clearMarks b
    match b.options.inject with
    | some hook =>
        emit (.injected data)
        after hook.delay (.injecting b data hook) (inject b data hook)
    | none => sendForm b data

/-- Validates a form, asks its hook, and submits it. -/
def submit (b : BoundForm) : Act Progress := do
  let data ← gets b.form.data
  judged b data (invalidNames (← separators) data b.rules)

end ScreenBinding.Act
