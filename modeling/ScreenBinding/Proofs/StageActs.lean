import ScreenBinding.Proofs.Stage

/-!
# The acts of the engine on stage

One lemma for each act, in the order in which the engine defines them; the acts that only look,
write and call back are found to stay offstage by their parts. A surface is shown in one piece, with
the hiding of its kind right before, and a question is put in front of its modal in one piece with
the ticket that it draws.
-/
namespace ScreenBinding
open Act
variable {raw : Bool}

namespace Session

theorem pending_unasked (t : Table Surface) (name : String) :
    (Table.find? (Table.adjust (fun x => { x with pending := none }) t name) name).bind
      (·.pending) = none := by
  rw [Table.find?_adjust]
  cases Table.find? t name <;> rfl

/-- A surface gives up its question. -/
theorem unasked (s : Session) (kind : SurfaceKind) (name : String) :
    StageStep raw s (s.ask kind name none) := by
  cases kind with
  | interface => exact .offstage (.trans (.apart rfl) (.dropped _ _))
  | modal =>
      exact .vacated (.of_dropped (fun other ho => Table.find?_adjust_of_ne _ _ ho)
        (pending_unasked s.modals name))

/-- A surface takes the place of another, without a question. -/
theorem replaced (s : Session) (kind : SurfaceKind) (name : String) {x : Surface}
    (hx : x.pending = none) : StageStep raw s (s.defineSurface kind name x) := by
  cases kind with
  | interface => exact .offstage (.trans (.apart rfl) (.dropped _ _))
  | modal =>
      refine .vacated (.of_dropped (fun other ho => ?_) ?_)
      · exact (Table.find?_file ..).trans (if_neg ho.symm)
      · have hx' : Table.find? (Table.file s.modals name x) name = some x :=
          (Table.find?_file ..).trans (if_pos rfl)
        exact (congrArg (·.bind (·.pending)) hx').trans hx

/-- The question in front of a surface is answered. -/
theorem responded (s : Session) (kind : SurfaceKind) (name : String) {x : Surface} {k : Ticket}
    (hx : Table.find? (s.surfaces kind) name = some x) (hk : x.pending = some k) (b : Bool) :
    StageStep raw s ((s.setSurfaces kind (Table.adjust (fun x => { x with pending := none })
      (s.surfaces kind) name)).resolve k b) := by
  cases kind with
  | interface => exact .offstage (.trans (.apart rfl) (.resolved _ k b))
  | modal =>
      have hp : s.pendingOn name = some k := by
        rw [pendingOn, show Table.find? s.modals name = some x from hx]
        exact hk
      exact .vacated (.of_replaced (fun other ho => Table.find?_adjust_of_ne _ _ ho)
        (pending_unasked s.modals name) hp b)

theorem trace_asked (s : Session) (T : List Event) (kind : SurfaceKind) (name : String)
    (ticket : Option Ticket) : ((s.retrace T).ask kind name ticket).trace = T :=
  (unseen_ask kind name ticket).trace_eq _

end Session

namespace Act
variable {α : Type}

instance (x : Except Fault α) : Stages raw (ofExcept x) := by
  cases x with
  | ok a => exact .pure a
  | error f => exact .throw f

instance : Stages raw needRenderer := by unfold needRenderer; infer_instance

instance : Stages raw needNotifier := by unfold needNotifier; infer_instance

instance : Stages raw needTransport :=
  .seq inferInstance fun t => by cases t <;> infer_instance

instance : Stages raw separators := .gets _

instance (e : ElementRef) : Stages raw (element e) := .gets _

instance (e : ElementRef) (f : Element → Element) : Stages raw (modify e f) :=
  .change fun _ => .apart rfl

instance (e : ElementRef) (event : EventKind) (h : Handler) : Stages raw (onEvent e event h) :=
  .change fun _ => .apart rfl

instance (e : ElementRef) (event : EventKind) : Stages raw (raise e event) := by
  unfold raise; infer_instance

instance (e : ElementRef) (v : Json) : Stages raw (put e v) := by unfold put; infer_instance

instance (e : ElementRef) (text : String) : Stages raw (type e text) := by
  unfold type; infer_instance

instance (e : ElementRef) : Stages raw (click e) := by unfold click; infer_instance

instance (e : ElementRef) : Stages raw (textOf e) := by unfold textOf; infer_instance

instance (keys : List String) (l : Listener) : Stages raw (listen keys l) :=
  .change fun _ => .apart rfl

instance (key : String) (v : Json) (source : Option Source) : Stages raw (store key v source) :=
  .seq (.change fun _ => .apart rfl) fun _ => .emit rfl

instance (key : String) (v : Json) (source : Option Source) : Stages raw (notify key v source) := by
  unfold notify; infer_instance

instance (key : String) (v : Json) (source : Option Source) : Stages raw (write key v source) := by
  unfold write; infer_instance

instance (key : String) (v : Json) (source : Option Source) : Stages raw (merge key v source) :=
  .seq inferInstance fun old => by cases old <;> infer_instance

instance (values : Fields) (source : Option Source) : Stages raw (writeAll values source) := by
  unfold writeAll; infer_instance

instance (key : String) : Stages raw (getList key) :=
  .seq inferInstance fun v => by cases v <;> infer_instance

instance (x : Evaluation) (other : Act Json) [Stages raw other] :
    Stages raw (carriedOr x other) := by
  unfold carriedOr
  split <;> infer_instance

instance (x : Evaluation) : Stages raw (fieldValue x) := by unfold fieldValue; infer_instance

instance (x : Evaluation) (unset : Json) : Stages raw (stateValue x unset) := by
  unfold stateValue; infer_instance

instance (x : Evaluation) : Stages raw (stateList x) :=
  .seq inferInstance fun v => by cases v <;> infer_instance

instance (x : Evaluation) (v : Evaluator) : Stages raw (evaluate x v) := by
  cases v with
  | loadFirst => exact .seq inferInstance fun items => by cases items <;> infer_instance
  | scripted label actions =>
      exact .seq inferInstance fun _ => .seq (.emit rfl) fun _ => inferInstance
  | _ => unfold evaluate; infer_instance

instance (x : Evaluation) (v : Option Evaluator) : Stages raw (evaluate? x v) := by
  cases v with
  | none => exact .pure ()
  | some v => exact inferInstanceAs (Stages raw (evaluate x v))

instance (t : Trigger) (x : Evaluation) (operators : List Operator) :
    Stages raw (evaluateAll t x operators) := by unfold evaluateAll; infer_instance

instance (t : Trigger) (directive : String) (carried : Option Json) (field : ElementRef)
    (source : Option Source) : Stages raw (execute t directive carried field source) := by
  change Stages raw (if _ then _ else _)
  cases t with
  | save => infer_instance
  | load =>
      have hcounted : Stages raw ((evaluateAll .load ⟨(Directive.parse directive).key, carried,
          field, source⟩ (Directive.parse directive).operators).ending
            fun s => { s with loading := s.loading-1 }) := .ending fun _ => .apart rfl
      have hcount : Stages raw (change fun s => { s with loading := s.loading+1 }) :=
        .change fun _ => .apart rfl
      infer_instance

instance (t : Trigger) (carried : Option Json) (field : ElementRef) (source : Option Source)
    (directives : List String) : Stages raw (executeAll t carried field source directives) := by
  induction directives with
  | nil => exact .pure ()
  | cons d ds ih => unfold executeAll; infer_instance

instance (t : Trigger) (directive : String) (field : ElementRef) (source : Option Source) :
    Stages raw (connect t directive field source) := by
  refine .seq inferInstance fun connectors => ?_
  split
  · exact .seq inferInstance fun _ => .emit rfl
  · cases t <;> infer_instance

instance (t : Trigger) (directives : List String) (field : ElementRef) (source : Option Source) :
    Stages raw (connectAll t directives field source) := by unfold connectAll; infer_instance

instance (kind : SurfaceKind) (name : String) : Stages raw (surface kind name) :=
  .seq inferInstance fun t => by split <;> infer_instance

instance (kind : SurfaceKind) : Stages raw (surfaceClass kind) := by
  unfold surfaceClass; infer_instance

instance (name : String) (x : Surface) : Stages raw (prepareSurface name x) := by
  unfold prepareSurface
  split
  · exact .seq inferInstance fun _ => .seq inferInstance fun _ => .seq (.emit rfl) fun _ =>
      inferInstance
  · infer_instance

instance (kind : SurfaceKind) : Stages raw (prepareAll kind) := by
  unfold prepareAll; infer_instance

instance : Stages raw prepareViews := by unfold prepareViews; infer_instance

instance (e : ElementRef) (slot text : String) : Stages raw (fillText e slot text) :=
  .seq inferInstance fun _ => .emit rfl

instance (e : ElementRef) (slot : String) (items : List String) :
    Stages raw (fillList e slot items) :=
  .seq inferInstance fun _ => .emit rfl

instance (args : Fields) (key : String) : Stages raw (listArgument args key) := by
  unfold listArgument
  split <;> infer_instance

instance (ticket : Option Ticket) (accepted : Bool) : Stages raw (answer ticket accepted) := by
  cases ticket with
  | none => exact .change fun s => .refl s
  | some k => exact .change fun s => .resolved s k accepted

instance (kind : SurfaceKind) (name : String) : Stages raw (change (·.ask kind name none)) :=
  .step fun s => s.unasked kind name

instance (kind : SurfaceKind) (name : String) (x : Surface) (args : Fields) :
    Stages raw (refreshConfirm kind name x args none) := by
  refine .seq inferInstance fun _ => .seq inferInstance fun _ => ?_
  dsimp only
  split
  · infer_instance
  · exact .seq inferInstance fun slots => .seq inferInstance fun _ => .seq inferInstance fun _ =>
      inferInstance

instance (kind : SurfaceKind) (name : String) (x : Surface) (args : Fields) :
    Stages raw (refreshAlert kind name x args none) := by
  unfold refreshAlert; infer_instance

theorem stages_hooks (name : String) (args : Fields) (actions : List Command)
    (needs : Option String) : Stages raw (do
      emit (.refreshed name args)
      react (.script actions)
      return needs.all fun key => (Table.find? args key).any Json.truthy) :=
  .seq (.emit rfl) fun _ => inferInstance

instance (kind : SurfaceKind) (name : String) (x : Surface) (args : Fields) :
    Stages raw (refresh kind name x args none) := by
  unfold refresh
  split
  · infer_instance
  · infer_instance
  · exact stages_hooks name args _ _
  · infer_instance

theorem hideAll_eq (kind : SurfaceKind) : hideAll kind = (do
    needRenderer
    emit (.hidden kind)) := by
  cases kind <;> rfl

/-- The surfaces of a kind are hidden, and one of them is shown. -/
def reveal (kind : SurfaceKind) (e : ElementRef) : Act Bool := do
  needRenderer
  hideAll kind
  let label := (← element e).label
  emit (.shown kind e label)
  return true

theorem showSurface_eq (kind : SurfaceKind) (name : String) (args : Fields)
    (ticket : Option Ticket) : showSurface kind name args ticket = (do
      let x ← surface kind name
      if ← refresh kind name x args ticket then reveal kind x.element else return false) := by
  cases kind <;> rfl

section
variable {carry : React} {s t : Session} {kind : SurfaceKind} {name : String} {args : Fields}
  {ticket : Option Ticket} {x : Surface}

theorem needRenderer_cases {r : Except Fault Unit} (h : needRenderer carry s = some (r, t)) :
    t = s ∧ (r = .ok () ∧ s.renderer = true ∨ ∃ e, r = .error e) := by
  cases hr : s.renderer with
  | true =>
      cases (run_needRenderer hr).symm.trans h
      exact ⟨rfl, .inl ⟨rfl, rfl⟩⟩
  | false =>
      rw [needRenderer, run_bind_ok (run_gets _), hr] at h
      cases h
      exact ⟨rfl, .inr ⟨_, rfl⟩⟩

/-- A surface is revealed with its kind hidden right before, or nothing happens. -/
theorem reveal_cases {e : ElementRef} {r : Except Fault Bool}
    (h : reveal kind e carry s = some (r, t)) :
    (r = .ok true ∧ s.renderer = true ∧
      t = s.retrace (.shown kind e (s.element e).label::.hidden kind::s.trace)) ∨
    ∃ f, r = .error f ∧ t = s := by
  obtain ⟨_, u, hu, ht⟩ | ⟨f, hf, rfl⟩ := bind_cases h
  · obtain ⟨rfl, ⟨-, hr⟩ | ⟨_, hx⟩⟩ := needRenderer_cases hu
    · rw [hideAll_eq, bind_assoc, run_bind_ok (run_needRenderer hr), run_bind_ok (run_emit _)] at ht
      cases ht
      exact .inl ⟨rfl, hr, rfl⟩
    · cases hx
  · exact .inr ⟨f, rfl, (needRenderer_cases hf).1⟩

instance (kind : SurfaceKind) (e : ElementRef) : Stages raw (reveal kind e) where
  staged _ s r t h := by
    obtain ⟨-, -, rfl⟩ | ⟨-, -, rfl⟩ := reveal_cases h
    · exact .single (.showed kind e _)
    · exact .refl

instance (kind : SurfaceKind) (name : String) (args : Fields) :
    Stages raw (showSurface kind name args none) := by
  rw [showSurface_eq]; infer_instance

instance (kind : SurfaceKind) : Stages raw (hideAll kind) := by
  rw [hideAll_eq]
  exact .seq inferInstance fun _ => .step fun s => .hid kind

theorem surface_cases {r : Except Fault Surface} (h : surface kind name carry s = some (r, t)) :
    t = s ∧ ((∃ x, r = .ok x ∧ Table.find? (s.surfaces kind) name = some x) ∨
      ∃ f, r = .error f) := by
  rw [surface, run_bind_ok (run_gets _)] at h
  cases hx : Table.find? (s.surfaces kind) name with
  | some x =>
      rw [hx] at h
      cases h
      exact ⟨rfl, .inl ⟨x, rfl, rfl⟩⟩
  | none =>
      rw [hx] at h
      cases h
      exact ⟨rfl, .inr ⟨_, rfl⟩⟩

instance (kind : SurfaceKind) (name : String) (accepted : Bool) :
    Stages raw (respond kind name accepted) where
  staged _ s r t h := by
    obtain ⟨x, u, hu, ht⟩ | ⟨f, hf, -⟩ := bind_cases h
    · obtain ⟨rfl, ⟨y, hy, hx⟩ | ⟨_, hf⟩⟩ := surface_cases hu
      · cases hy
        cases hk : x.pending with
        | some k =>
            rw [hk] at ht
            cases ht
            exact .single (Session.responded _ kind name hx hk _)
        | none =>
            rw [hk] at ht
            cases ht
            exact .refl
      · cases hf
    · exact (surface_cases hf).1 ▸ .refl

instance (name : String) (accepted : Bool) : Stages raw (respondModal name accepted) := by
  unfold respondModal; infer_instance

instance : Stages raw hideViews := by unfold hideViews; infer_instance

theorem run_fillText (e : ElementRef) (slot text : String) : fillText e slot text carry s =
    some (.ok (), s.retrace (.textFilled e (s.element e).label slot text::s.trace)) := rfl

theorem run_fillList (e : ElementRef) (slot : String) (items : List String) :
    fillList e slot items carry s =
      some (.ok (), s.retrace (.listFilled e (s.element e).label slot items::s.trace)) := rfl

/-- A surface that asks fills its slots and then puts its question, or it is not shown. -/
def Puts (kind : SurfaceKind) (name : String) (ticket : Option Ticket) (s : Session)
    (r : Except Fault Bool) (t : Session) : Prop :=
  (r = .ok true ∧ ∃ T, s.Offstage (s.retrace T) ∧ t = (s.retrace T).ask kind name ticket) ∨
    r ≠ .ok true ∧ s.Offstage t

theorem listArgument_cases {key : String} {r : Except Fault (List String)}
    (h : listArgument args key carry s = some (r, t)) : t = s := by
  rw [run_listArgument] at h
  exact (Prod.ext_iff.mp (Option.some.inj h)).2.symm

theorem puts_confirm {r : Except Fault Bool}
    (h : refreshConfirm kind name x args ticket carry s = some (r, t)) :
    Puts kind name ticket s r t := by
  obtain ⟨previous, u, hu, ht⟩ | ⟨f, hf, rfl⟩ := bind_cases h
  · obtain rfl := listArgument_cases hu
    obtain ⟨next, v, hv, hd⟩ | ⟨f, hf, rfl⟩ := bind_cases ht
    · obtain rfl := listArgument_cases hv
      dsimp only at hd
      split at hd
      · -- there is no change, so the question is answered at once
        cases ticket with
        | none =>
            cases hd
            exact .inr ⟨nofun, .refl _⟩
        | some k =>
            cases hd
            exact .inr ⟨nofun, .resolved _ k true⟩
      · rw [run_bind_ok (run_gets _)] at hd
        obtain ⟨_, w, hw, ht⟩ | ⟨f, hf, rfl⟩ := bind_cases hd
        · obtain ⟨rfl, -⟩ := needRenderer_cases hw
          rw [run_bind_ok (run_fillText ..), run_bind_ok (run_fillText ..),
            run_bind_ok (run_fillList ..), run_bind_ok (run_fillList ..),
            run_bind_ok (run_change _)] at ht
          simp only [Session.retrace_retrace, Session.trace_retrace] at ht
          cases ht
          exact .inl ⟨rfl, _, .added [_, _, _, _] (by simp [Event.arranges]), rfl⟩
        · exact .inr ⟨nofun, (needRenderer_cases hf).1 ▸ .refl _⟩
    · exact .inr ⟨nofun, listArgument_cases hf ▸ .refl _⟩
  · exact .inr ⟨nofun, listArgument_cases hf ▸ .refl _⟩

theorem puts_alert {r : Except Fault Bool}
    (h : refreshAlert kind name x args ticket carry s = some (r, t)) :
    Puts kind name ticket s r t := by
  unfold refreshAlert at h
  rw [run_bind_ok (run_gets _)] at h
  obtain ⟨_, u, hu, ht⟩ | ⟨f, hf, rfl⟩ := bind_cases h
  · obtain ⟨rfl, -⟩ := needRenderer_cases hu
    rw [run_bind_ok (run_fillText ..), run_bind_ok (run_fillText ..),
      run_bind_ok (run_change _)] at ht
    simp only [Session.retrace_retrace, Session.trace_retrace] at ht
    cases ht
    exact .inl ⟨rfl, _, .added [_, _] (by simp [Event.arranges]), rfl⟩
  · exact .inr ⟨nofun, (needRenderer_cases hf).1 ▸ .refl s⟩

/-- A surface with hooks drops a question. -/
theorem refresh_unasked (kind : SurfaceKind) (name : String) (args : Fields)
    (ticket : Option Ticket) {prepare actions : Option (List Command)} {needs : Option String}
    (hb : x.behavior = .hooks prepare actions needs) :
    refresh kind name x args ticket = refresh kind name x args none := by
  unfold refresh
  rw [hb]
  cases actions <;> rfl

theorem puts_refresh {r : Except Fault Bool} (hb : x.behavior = .confirm ∨ x.behavior = .alert)
    (h : refresh kind name x args ticket carry s = some (r, t)) : Puts kind name ticket s r t := by
  unfold refresh at h
  rcases hb with hb | hb
  · rw [hb] at h
    exact puts_confirm h
  · rw [hb] at h
    exact puts_alert h

/-- A modal that takes a question has put it, and then it has opened alone right after that. -/
structure Asks (name : String) (k : Ticket) (s : Session) (r : Except Fault Bool) (t : Session) :
    Prop where
  put : ∃ x T, Table.find? s.modals name = some x ∧ s.Offstage (s.retrace T) ∧
    ((∃ f, r = .error f) ∧ t = (s.retrace T).ask .modal name (some k) ∨
      r = .ok true ∧ ∃ label, t = ((s.retrace T).ask .modal name (some k)).retrace
        (.modalOpened x.element label::.modalsClosed::T))

theorem asks_of_refresh {r : Except Fault Bool} {k : Ticket}
    (hx : Table.find? s.modals name = some x) (hb : x.behavior = .confirm ∨ x.behavior = .alert)
    (h : (do
      if ← refresh .modal name x args (some k) then reveal .modal x.element
      else return false) carry s = some (r, t)) : Asks name k s r t ∨ Staged raw s t := by
  obtain ⟨b, u, hu, ht⟩ | ⟨f, hf, rfl⟩ := bind_cases h
  · obtain ⟨hr, T, hT, rfl⟩ | ⟨hr, hs⟩ := puts_refresh hb hu
    · cases hr
      rw [if_pos rfl] at ht
      obtain ⟨rfl, -, rfl⟩ | ⟨f, rfl, rfl⟩ := reveal_cases ht
      · rw [Session.trace_asked]
        exact .inl ⟨x, T, hx, hT, .inr ⟨rfl, _, rfl⟩⟩
      · exact .inl ⟨x, T, hx, hT, .inl ⟨⟨f, rfl⟩, rfl⟩⟩
    · cases b with
      | true => exact (hr rfl).elim
      | false =>
          cases ht
          exact .inr hs.staged
  · obtain ⟨hr, -⟩ | ⟨-, hs⟩ := puts_refresh hb hf
    · cases hr
    · exact .inr hs.staged

/-- A modal that does not take a question is shown as if there were none. -/
theorem show_question_cases {r : Except Fault Bool} {k : Ticket} (hc : OnStage raw carry)
    (h : showSurface .modal name args (some k) carry s = some (r, t)) :
    Asks name k s r t ∨ Staged raw s t := by
  rw [showSurface_eq] at h
  obtain ⟨x, u, hu, ht⟩ | ⟨f, hf, -⟩ := bind_cases h
  · obtain ⟨rfl, ⟨y, hy, hx⟩ | ⟨_, hf⟩⟩ := surface_cases hu
    · cases hy
      cases hb : x.behavior with
      | hooks prepare actions needs =>
          rw [refresh_unasked .modal name args (some k) hb] at ht
          exact .inr (Stages.staged hc _ _ _ ht)
      | confirm => exact asks_of_refresh hx (.inl hb) ht
      | alert => exact asks_of_refresh hx (.inr hb) ht
    · cases hf
  · exact .inr ((surface_cases hf).1 ▸ .refl)

/-- The question is asked with a fresh ticket; where no modal has taken it and nobody has answered
it, it is resolved. -/
theorem question_cases {r : Except Fault Ticket} (h : question name args carry s = some (r, t)) :
    ∃ b u, showSurface .modal name args (some s.nextTicket) carry s.freshTicket = some (b, u) ∧
      r = b.map (fun _ => s.nextTicket) ∧ (t = u ∧ ((∃ y, b = .ok y) →
        u.pendingOn name = some s.nextTicket ∨ u.answers.any (·.1 = s.nextTicket) = true) ∨
        t = u.resolve s.nextTicket false) := by
  unfold question at h
  rw [run_bind_ok (run_gets _), run_bind_ok (run_change _), run_bind, run_discard] at h
  cases hu : showSurface .modal name args (some s.nextTicket) carry s.freshTicket with
  | none =>
      rw [hu] at h
      cases h
  | some p =>
      obtain ⟨b, u⟩ := p
      rw [hu] at h
      cases b with
      | error f =>
          cases h
          exact ⟨_, _, rfl, rfl, .inl ⟨rfl, nofun⟩⟩
      | ok y =>
          dsimp only at h
          rw [run_bind_ok (run_change _)] at h
          cases h
          refine ⟨_, _, rfl, rfl, ?_⟩
          split
          · rename_i hstands
            refine .inl ⟨rfl, fun _ => ?_⟩
            rcases Bool.or_eq_true_iff.mp hstands with hp | ha
            · left
              cases hm : Table.find? u.modals name with
              | none => simp [hm] at hp
              | some x => simpa [Session.pendingOn, hm] using hp
            · exact .inr ha
          · exact .inr rfl

theorem Asks.staged {r : Except Fault Bool}
    (h : Asks name s.nextTicket s.freshTicket r t) : Staged raw s t := by
  obtain ⟨x, T, hx, hT, hcases⟩ := h.put
  have hfill : s.Offstage (s.retrace T) := ⟨hT.trace, rfl, rfl, List.Sublist.refl _⟩
  have hput : Staged raw s ((s.retrace T).freshTicket.ask .modal name (some s.nextTicket)) :=
    hfill.staged.tail (.put name)
  obtain ⟨-, rfl⟩ | ⟨-, label, rfl⟩ := hcases
  · exact hput
  · generalize hw : (s.retrace T).freshTicket.ask .modal name (some s.nextTicket) = w at hput
    have htrace : w.trace = T := hw ▸ Session.trace_asked s.freshTicket T .modal name _
    have hshow : StageStep raw w
        { w with trace := .modalOpened x.element label::.modalsClosed::w.trace } :=
      .showed .modal x.element label
    rw [htrace] at hshow
    subst hw
    exact hput.tail hshow

instance (name : String) (args : Fields) : Stages raw (question name args) where
  staged hc s r t h := by
    obtain ⟨b, u, hu, -, ht⟩ := question_cases h
    have hu' : Staged raw s u := by
      obtain hasks | hs := show_question_cases hc hu
      · exact hasks.staged
      · exact .head .drew hs
    obtain ⟨rfl, -⟩ | rfl := ht
    · exact hu'
    · exact hu'.tail (.offstage (.resolved u _ false))

end

end Act
end ScreenBinding
