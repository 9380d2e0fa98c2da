import ScreenBinding.Proofs.Merging
import ScreenBinding.Proofs.Withholding

/-!
# What a form saves

A form that is bound by its own connection only can be saved as a whole without disturbing itself.
Each write is told to all load bindings of its key, also to those of sibling fields that have not
been saved yet; but these pass over the writes of their own form, and every other load shows its
value elsewhere. So each field is saved as it stands when the save begins, whatever keys the
directives have in common.

The listeners, and the handlers of other elements, may do anything but write and touch the form. The
handlers of the elements of the form may do anything at all, since none of them is called; this is
said by callbacks that refuse them.
-/
namespace ScreenBinding
open Act

/-- Callbacks of the elements of a form. -/
def Form.owns (f : Form) : Reaction → Bool
  | .handler _ e => f.elements.contains e
  | _ => false

/-- The elements of a form show what they showed, and its fields are found where they were. -/
structure Form.Rests (f : Form) (keys : List String) (s t : Session) : Prop where
  shown : ∀ e ∈ f.elements, (t.element e).value = (s.element e).value
  found : ∀ key ∈ keys, f.findField t key = f.findField s key

/-- A field is found by what selectors look at. -/
theorem Form.findField_congr (f : Form) {s t : Session} (h : ∀ e ∈ f.elements, ∀ sel : Selector,
    sel.matchesElement (t.element e) = sel.matchesElement (s.element e)) (key : String) :
    f.findField t key = f.findField s key := by
  have hfind (sel : Selector) : f.find t sel = f.find s sel :=
    List.filter_congr fun e he => h e he sel
  rw [findField, findField, hfind]

namespace Form.Rests
variable {f : Form} {keys : List String} {s t u : Session}

theorem refl (f : Form) (keys : List String) (s : Session) : f.Rests keys s s :=
  ⟨fun _ _ => rfl, fun _ _ => rfl⟩

theorem trans (h : f.Rests keys s t) (k : f.Rests keys t u) : f.Rests keys s u where
  shown e he := (k.shown e he).trans (h.shown e he)
  found key hk := (k.found key hk).trans (h.found key hk)

/-- A form rests if its elements keep their values and all that selectors look at. -/
theorem of_elements (h : ∀ e ∈ f.elements, (t.element e).value = (s.element e).value ∧
    ∀ sel : Selector, sel.matchesElement (t.element e) = sel.matchesElement (s.element e)) :
    f.Rests keys s t where
  shown e he := (h e he).1
  found key _ := f.findField_congr (fun e he => (h e he).2) key

theorem of_same (h : t.elements = s.elements) : f.Rests keys s t := by
  apply of_elements
  intro e _
  rw [Session.element, h]
  exact ⟨rfl, fun _ => rfl⟩

/-- What is shown elsewhere is no matter of the form. -/
theorem elsewhere {e : ElementRef} (he : e ∉ f.elements) (s : Session) (v : Json) :
    f.Rests keys s (s.shown e v) := by
  apply of_elements
  intro e' he'
  have hne : e ≠ e' := fun h => he (h ▸ he')
  rw [s.element_shown_ne hne v]
  exact ⟨rfl, fun _ => rfl⟩

end Form.Rests

/-- From a session of a kind to another: exactly these writes are made, no load is left running, and
the form rests. -/
structure Form.Spared (f : Form) (keys : List String) (P : Session → Prop) (ws : List Write)
    (s t : Session) : Prop where
  writes : t.writes = s.writes ++ ws
  loading : t.loading = s.loading
  rests : f.Rests keys s t
  kind : P t

theorem Form.Spared.refl {f : Form} {keys : List String} {P : Session → Prop} {s : Session}
    (h : P s) : f.Spared keys P [] s s :=
  ⟨(List.append_nil _).symm, rfl, .refl f keys s, h⟩

theorem Form.Spared.trans {f : Form} {keys : List String} {P : Session → Prop}
    {ws us : List Write} {s t u : Session} (h : f.Spared keys P ws s t)
    (k : f.Spared keys P us t u) : f.Spared keys P (ws ++ us) s u where
  writes := by rw [k.writes, h.writes, List.append_assoc]
  loading := k.loading.trans h.loading
  rests := h.rests.trans k.rests
  kind := k.kind

/-- The state changes by these writes, if an act has made them. -/
theorem Form.Spared.values {α : Type} {f : Form} {keys : List String} {P : Session → Prop}
    {ws : List Write} {s t : Session} {a : Act α} {x : Except Fault α} {n : Nat}
    (h : f.Spared keys P ws s t) (ha : Built Anything a) (hrun : a.settle n s = some (x, t)) :
    t.values = Table.written s.values ws := by
  obtain ⟨us, hvalues, hus⟩ := settle_respects Session.accounted_respected ha hrun
  rw [List.append_cancel_left (h.writes.symm.trans hus)]
  exact hvalues

/-- Sessions of a kind in which a load is running. -/
def Session.InLoad (P : Session → Prop) (s : Session) : Prop := P s ∧ s.loading ≠ 0

namespace Act
section
variable {α β : Type} {f : Form} {keys : List String} {P : Session → Prop} {carry : React}

/-- In sessions of a kind the act ends, perhaps with a fault, and spares the form. -/
def Spares (f : Form) (keys : List String) (P : Session → Prop) (carry : React) (a : Act α) :
    Prop :=
  ∀ s, P s → ∃ r t, a carry s = some (r, t) ∧ f.Spared keys P [] s t

theorem Spares.pure (x : α) : Spares f keys P carry (Pure.pure x) :=
  fun s hs => ⟨_, s, run_pure x, .refl hs⟩

theorem Spares.looked {g : Session → α} {a : α → Act β}
    (h : ∀ s, P s → Spares f keys P carry (a (g s))) :
    Spares f keys P carry (Act.gets g >>= a) := by
  intro s hs
  rw [run_bind_ok (run_gets g)]
  exact h s hs s hs

theorem Spares.bind {a : Act α} {b : α → Act β} (ha : Spares f keys P carry a)
    (hb : ∀ x, Spares f keys P carry (b x)) : Spares f keys P carry (a >>= b) := by
  intro s hs
  obtain ⟨r, t, hr, ht⟩ := ha s hs
  cases r with
  | error e => exact ⟨_, t, run_bind_error hr, ht⟩
  | ok x =>
      obtain ⟨r, u, hu, hu'⟩ := hb x t ht.kind
      exact ⟨r, u, (run_bind_ok hr).trans hu, ht.trans hu'⟩

theorem Spares.forEach {g : β → Act Unit} {l : List β} (h : ∀ x ∈ l, Spares f keys P carry (g x)) :
    Spares f keys P carry (do for x in l do g x) := by
  induction l with
  | nil =>
      rw [forEach_nil]
      exact .pure ()
  | cons x l ih =>
      rw [forEach_cons]
      apply Spares.bind
      · exact h x (List.mem_cons_self ..)
      · exact fun _ => ih fun y hy => h y (List.mem_cons_of_mem x hy)

theorem Spares.attempt {a : Act Unit} (h : Spares f keys P carry a) :
    Spares f keys P carry (Act.attempt a) := by
  intro s hs
  obtain ⟨r, t, hr, ht⟩ := h s hs
  exact ⟨.ok (), t, by rw [run_attempt, hr]; rfl, ht⟩

/-- What spares the form at any time does so while a load is running. -/
theorem Spares.inLoad {a : Act α} (h : Spares f keys P carry a) :
    Spares f keys (Session.InLoad P) carry a := by
  intro s hs
  obtain ⟨r, t, hr, ht⟩ := h s hs.1
  exact ⟨r, t, hr, ht.writes, ht.loading, ht.rests, ht.kind, ht.loading ▸ hs.2⟩

theorem Spares.kept {a : Act α} {carry' : React} (h : Spares f keys P carry a)
    (hk : Kept carry carry' a a) : Spares f keys P carry' a := by
  intro s hs
  obtain ⟨r, t, hr, ht⟩ := h s hs
  exact ⟨r, t, hk s r t hr, ht⟩

end
end Act

/-- As a handler of changes: saves, or does something that spares the form. -/
def Handler.Sparing (f : Form) (keys : List String) (n : Nat) (P : Session → Prop) :
    Handler → Prop
  | .save _ _ => True
  | .watch _ actions => Spares f keys P (refusing f.owns n) (runAll actions)
  | _ => False

/-- Loads of the form pass over its writes; other listeners spare it. -/
def Listener.Sparing (f : Form) (keys : List String) (n : Nat) (P : Session → Prop) :
    Listener → Prop
  | .load _ e source => e ∈ f.elements → source = some f.source
  | .report _ actions => Spares f keys P (refusing f.owns n) (runAll actions)
  | _ => True

/-- A kind of sessions in which a form is left alone: its elements are load-bound by the form itself
only, and neither the listeners nor the handlers of other elements write or touch it. It does not
matter for the kind what the form writes, what is shown, and what is recorded besides. -/
structure Form.LeftAlone (f : Form) (keys : List String) (n : Nat) (P : Session → Prop) : Prop where
  evaluators : ∀ {s}, P s → s.evaluators = []
  listeners : ∀ {s}, P s → ∀ p ∈ s.listeners, p.2.Sparing f keys n P
  handlers : ∀ {s}, P s → ∀ r ∈ s.handlers, r.event = .change → r.element ∉ f.elements →
    r.handler.Sparing f keys n P
  stored : ∀ {s}, P s → ∀ key v, P (s.storing key v (some f.source))
  shown : ∀ {s}, P s → ∀ e v, P (s.shown e v)
  emitted : ∀ {s}, P s → ∀ e, e.write? = none → P { s with trace := e::s.trace }
  counted : ∀ {s}, P s → ∀ loading, P { s with loading }

namespace Act
section
variable {α : Type} {f : Form} {keys : List String} {n : Nat} {P : Session → Prop}
  {refused : Reaction → Bool} {s : Session}

theorem spares_emit (h : f.LeftAlone keys n P) {carry : React} {e : Event} (he : e.write? = none) :
    Spares f keys P carry (emit e) :=
  fun s hs => ⟨_, _, run_emit e, (Session.Wrote.emit s he).writes, rfl, .of_same rfl,
    h.emitted hs e he⟩

/-- A load ends at the depth at which it began. -/
theorem run_asLoad_spared (h : f.LeftAlone keys n P) {carry : React} {a : Act Unit}
    {r : Except Fault Unit} {t : Session}
    (ha : a carry { s with loading := s.loading+1 } = some (r, t))
    (ht : f.Spared keys (Session.InLoad P) [] { s with loading := s.loading+1 } t) :
    ∃ u, asLoad a carry s = some (r, u) ∧ f.Spared keys P [] s u := by
  refine ⟨{ t with loading := t.loading-1 }, ?_, ht.writes, ?_, ?_, ?_⟩
  · rw [asLoad, run_bind_ok (run_change _), run_ending, ha]
    rfl
  · change t.loading-1 = s.loading
    rw [ht.loading, Nat.add_sub_cancel]
  · exact ⟨ht.rests.shown, ht.rests.found⟩
  · exact h.counted ht.kind.1 _

theorem spares_asLoad (h : f.LeftAlone keys n P) {carry : React} {a : Act Unit}
    (ha : Spares f keys (Session.InLoad P) carry a) : Spares f keys P carry (asLoad a) := by
  intro s hs
  obtain ⟨r, t, hr, ht⟩ := ha _ ⟨h.counted hs (s.loading+1), Nat.succ_ne_zero _⟩
  exact ⟨r, run_asLoad_spared h hr ht⟩

/-- Commands that spare the form without its own callbacks do so with any of them. -/
theorem spares_commands {m : Nat} (hr : ∀ r, refused r = true → f.owns r = true) (hle : n ≤ m)
    {actions : List Command} (ha : Spares f keys P (refusing f.owns n) (runAll actions))
    {r : Reaction} (hrun : reaction r = runAll actions) (howns : f.owns r = false) :
    Spares f keys P (refusing refused (m+1)) (react r) := by
  have hfree : refused r = false :=
    Bool.eq_false_iff.mpr fun h => Bool.eq_false_iff.mp howns (hr r h)
  have hkept : Kept (refusing f.owns n) (refusing refused m) (runAll actions) (runAll actions) :=
    built_kept (built_runAll (P := Anything) (fun _ _ _ => trivial) actions) (faultless_refusing n)
      (refusing_kept hr hle)
  intro s hs
  rw [react_refusing hfree, hrun]
  exact ha.kept hkept s hs

/-- Callbacks of the host are recorded, and the faults of their commands go nowhere. -/
theorem spares_callback (h : f.LeftAlone keys n P) {m : Nat}
    (hr : ∀ r, refused r = true → f.owns r = true) (hle : n ≤ m) {e : Event}
    (he : e.write? = none) {actions : List Command}
    (ha : Spares f keys P (refusing f.owns n) (runAll actions)) {r : Reaction}
    (hrun : reaction r = runAll actions) (howns : f.owns r = false) :
    Spares f keys P (refusing refused (m+1)) (do
      emit e
      attempt (react r)) := by
  have hcommands := spares_commands hr hle ha hrun howns
  apply Spares.bind
  · exact spares_emit h he
  · exact fun _ => hcommands.attempt

/-- While a load runs, a change makes no write. -/
theorem spares_handler (h : f.LeftAlone keys n P) (hr : ∀ r, refused r = true → f.owns r = true)
    {x : Handler} {e : ElementRef} (hx : x.Sparing f keys n P)
    (hfree : refused (.handler x e) = false) :
    Spares f keys (Session.InLoad P) (refusing refused (n+2)) (react (.handler x e)) := by
  intro s hs
  rw [react_refusing hfree]
  cases x with
  | save directive source => exact ⟨.ok (), s, run_save_held directive source e hs.2, .refl hs⟩
  | watch label actions =>
      have hwatch : Spares f keys P (refusing refused (n+1)) (handle (.watch label actions) e) :=
        .looked fun _ _ => .looked fun _ _ => spares_callback h hr (Nat.le_refl n) rfl hx rfl rfl
      exact hwatch.inLoad s hs
  | restore b => exact hx.elim
  | submit b => exact hx.elim
  | check b => exact hx.elim

theorem spares_raise (h : f.LeftAlone keys n P) (hr : ∀ r, refused r = true → f.owns r = true)
    {e : ElementRef} (hx : ∀ s, P s → ∀ x ∈ s.handlersOf e .change,
      x.Sparing f keys n P ∧ refused (.handler x e) = false) :
    Spares f keys (Session.InLoad P) (refusing refused (n+2)) (raise e .change) :=
  .looked fun s hs => .forEach fun x hmem =>
    spares_handler h hr (hx s hs.1 x hmem).1 (hx s hs.1 x hmem).2

/-- What a load shows elsewhere spares the form. -/
theorem spares_put (h : f.LeftAlone keys n P) {e : ElementRef} (he : e ∉ f.elements) (v : Json) :
    Spares f keys (Session.InLoad P) (refusing f.owns (n+2)) (put e v) := by
  have hraise := spares_raise h (fun _ hr => hr) (e := e) fun s hs x hx => by
    have hsparing := h.handlers hs _ (Session.mem_handlersOf.mp hx) rfl he
    exact ⟨hsparing, by simpa [Form.owns] using he⟩
  intro s hs
  obtain ⟨r, t, hrun, ht⟩ := hraise (s.shown e v) ⟨h.shown hs.1 e v, hs.2⟩
  have hshown : f.Spared keys (Session.InLoad P) [] s (s.shown e v) :=
    ⟨(List.append_nil _).symm, rfl, .elsewhere he s v, h.shown hs.1 e v, hs.2⟩
  exact ⟨r, t, hrun, hshown.trans ht⟩

theorem spares_load (h : f.LeftAlone keys n P) (directive : String) (carried : Option Json)
    {e : ElementRef} (he : e ∉ f.elements) (source : Option Source) :
    Spares f keys P (refusing f.owns (n+2)) (execute .load directive carried e source) := by
  have hoffer (x : Except Fault (Option Json)) :
      Spares f keys (Session.InLoad P) (refusing f.owns (n+2)) (offer e x) := by
    obtain x | (_ | v) := x
    · exact fun s hs => ⟨_, s, rfl, .refl hs⟩
    · exact .pure ()
    · exact spares_put h he v
  intro s hs
  rw [run_load directive carried e source (h.evaluators hs)]
  exact spares_asLoad h (hoffer _) s hs

/-- No listener that hears of a write of the form touches it. -/
theorem spares_hear (h : f.LeftAlone keys n P) {l : Listener} (hl : l.Sparing f keys n P)
    (key : String) (v : Json) : Spares f keys P (refusing f.owns (n+3))
      (react (.listener l key v (some f.source))) := by
  have hhear : Spares f keys P (refusing f.owns (n+2)) (hear l key v (some f.source)) := by
    cases l with
    | load directive e source =>
        by_cases hown : some f.source = source
        · subst hown
          rw [hear, if_pos ⟨rfl, rfl⟩]
          exact .pure ()
        · have he : e ∉ f.elements := fun he => hown (hl he).symm
          rw [hear, if_neg fun hskip => hown hskip.2]
          exact (spares_load h directive (some v) he source).attempt
    | journal => exact spares_emit h rfl
    | report label actions => exact spares_callback h (fun _ hr => hr) (Nat.le_succ n) rfl hl rfl rfl
    | silent => exact .pure ()
  intro s hs
  rw [react_refusing rfl]
  exact hhear s hs

theorem spares_notify (h : f.LeftAlone keys n P) (key : String) (v : Json) :
    Spares f keys P (refusing f.owns (n+3)) (notify key v (some f.source)) := by
  apply Spares.looked
  intro s hs
  apply Spares.forEach
  intro l hl
  obtain ⟨k, hmem⟩ := Session.mem_audience hl
  exact spares_hear h (h.listeners hs _ hmem) key v

theorem faultless_notify (key : String) (v : Json) (source : Option Source) :
    Faultless (refusing refused n) (notify key v source) := by
  apply Faultless.bind
  · exact .gets _
  · exact fun _ => .forEach fun l _ => faultless_refusing n l key v source

/-- A write of the form is one write, and the form rests. -/
theorem run_write_spared (h : f.LeftAlone keys n P) (hs : P s) (key : String) (v : Json) :
    ∃ t, write key v (some f.source) (refusing f.owns (n+3)) s =
        some (.ok (Table.find? s.values key), t) ∧
      f.Spared keys P [⟨key, v, some f.source⟩] s t := by
  have hstored : f.Spared keys P [⟨key, v, some f.source⟩] s (s.storing key v (some f.source)) :=
    ⟨(Session.Wrote.stored s key v _).writes, rfl, .of_same rfl, h.stored hs key v⟩
  obtain ⟨r, t, hr, ht⟩ := spares_notify h key v _ hstored.kind
  obtain ⟨_, rfl⟩ := faultless_notify key v (some f.source) _ r t hr
  refine ⟨t, ?_, hstored.trans ht⟩
  rw [write, run_bind_ok (run_gets _), run_bind_ok (run_store key v _)]
  exact run_bind_ok hr

end
end Act

/-- What a save with some operator writes to a key for a field that shows this value. -/
def Session.storedBy (s : Session) (key : String) (v : Json) (source : Option Source) :
    Operator → Option Write
  | .assign => some ⟨key, v, source⟩
  | .merge => some ⟨key, s.merged key v, source⟩
  | _ => none

/-- What a save of a directive writes. -/
def Session.savedBy (s : Session) (directive : String) (v : Json) (source : Option Source) :
    Option Write :=
  let d := Directive.parse directive
  if d.appliesTo .save then s.storedBy d.key v source d.operator else none

/-- What the saves of some directives write one after the other, each for the value that its field
shows. -/
def Session.savings (source : Option Source) : Session → List (String × Json) → List Write
  | _, [] => []
  | s, (directive, v)::rest =>
      let ws := (s.savedBy directive v source).toList
      ws ++ savings source { s with values := Table.written s.values ws } rest

/-- The directives of a save, each with what its field shows. -/
def Form.turns (f : Form) (s : Session) (spec : Table (List String)) : List (String × Json) :=
  spec.flatMap fun p => match f.findField s p.1 with
    | some e => p.2.map fun d => (d, (s.element e).value)
    | none => []

namespace Session
variable {source : Option Source} {s t : Session}

/-- Only the state and the separators matter. -/
theorem savings_congr (hv : t.values = s.values) (hs : t.settings = s.settings)
    (l : List (String × Json)) : t.savings source l = s.savings source l := by
  induction l generalizing s t with
  | nil => rfl
  | cons p l ih =>
      have hsaved : t.savedBy p.1 p.2 source = s.savedBy p.1 p.2 source := by
        simp only [savedBy, storedBy.eq_def, merged, hv, hs]
      simp only [savings, hsaved]
      congr 1
      apply ih
      · simp only [hv]
      · exact hs

theorem savings_singleton (s : Session) (source : Option Source) (directive : String) (v : Json) :
    s.savings source [(directive, v)] = (s.savedBy directive v source).toList :=
  List.append_nil _

theorem savings_append (l m : List (String × Json)) :
    s.savings source (l ++ m) = s.savings source l ++
      { s with values := Table.written s.values (s.savings source l) }.savings source m := by
  induction l generalizing s with
  | nil => rfl
  | cons p l ih =>
      simp only [List.cons_append, savings, ih, List.append_assoc, Table.written_append]

theorem target_savedBy (s : Session) (directive : String) (v : Json) (source : Option Source) :
    (s.savedBy directive v source).map Write.target =
      if (Directive.parse directive).saves then some ((Directive.parse directive).key, source)
      else none := by
  have hone (o : Operator) : (s.storedBy (Directive.parse directive).key v source o).map
      Write.target =
        if o.stores then some ((Directive.parse directive).key, source) else none := by
    cases o <;> rfl
  have hsaves : (Directive.parse directive).saves = ((Directive.parse directive).appliesTo .save &&
      (Directive.parse directive).operator.stores) := by
    rw [Directive.saves, Directive.operators_parse, List.any_cons, List.any_nil, Bool.or_false]
  rw [savedBy, hsaves]
  cases (Directive.parse directive).appliesTo .save with
  | false => rfl
  | true => exact hone _

/-- One write for each directive that saves, tagged with the source. -/
theorem targets_savings (s : Session) (source : Option Source) (l : List (String × Json)) :
    (s.savings source l).map Write.target =
      (l.filter fun p => (Directive.parse p.1).saves).map fun p =>
        ((Directive.parse p.1).key, source) := by
  induction l generalizing s with
  | nil => rfl
  | cons p l ih =>
      have hone : (s.savedBy p.1 p.2 source).toList.map Write.target =
          if (Directive.parse p.1).saves then [((Directive.parse p.1).key, source)] else [] := by
        rw [← Option.toList_map, target_savedBy]
        split <;> rfl
      rw [savings, List.map_append, ih, hone, List.filter_cons]
      split <;> rfl

end Session

namespace Act
variable {carry : React} {s : Session}

/-- A save of a directive that carries what the field shows writes that, or nothing. -/
theorem run_save_shown (directive : String) {e : ElementRef} {v : Json} (source : Option Source)
    (he : s.evaluators = []) (hv : (s.element e).value = v) :
    execute .save directive (some v) e source carry s =
      match s.savedBy directive v source with
      | some w => discard (write w.key w.value w.source) carry s
      | none => some (.ok (), s) := by
  let d := Directive.parse directive
  have hvalue : fieldValue ⟨d.key, some v, e, source⟩ carry s = some (.ok v, s) := by
    rw [fieldValue, carriedOr]
    dsimp only
    split
    · rfl
    · exact congrArg (fun v => some (Except.ok v, s)) hv
  have hone : evaluate? ⟨d.key, some v, e, source⟩ (Evaluator.standard .save d.operator) carry s =
      match s.storedBy d.key v source d.operator with
      | some w => discard (write w.key w.value w.source) carry s
      | none => some (.ok (), s) := by
    cases d.operator with
    | assign => exact run_bind_ok hvalue
    | merge => exact (run_bind_ok hvalue).trans (run_merge carry s d.key v source)
    | count => rfl
    | first => rfl
    | default => rfl
  change (if d.appliesTo .save = true then _ else _ : Act Unit) carry s = _
  rw [Session.savedBy, Directive.operators_parse]
  split
  · exact (evaluateAll_single .save _ _ he).trans hone
  · rfl

section
variable {f : Form} {keys : List String} {n : Nat} {P : Session → Prop}

/-- A save of one directive writes what it stores, and the form rests. -/
theorem run_save_spared (h : f.LeftAlone keys n P) (hs : P s) (directive : String)
    {e : ElementRef} {v : Json} (hv : (s.element e).value = v) : ∃ t,
    execute .save directive (some v) e (some f.source) (refusing f.owns (n+3)) s =
        some (.ok (), t) ∧
      f.Spared keys P (s.savings (some f.source) [(directive, v)]) s t := by
  rw [run_save_shown directive (some f.source) (h.evaluators hs) hv, Session.savings_singleton]
  cases hw : s.savedBy directive v (some f.source) with
  | none => exact ⟨s, rfl, .refl hs⟩
  | some w =>
      have hsource : w.source = some f.source := by
        have htarget := s.target_savedBy directive v (some f.source)
        rw [hw] at htarget
        split at htarget
        · exact congrArg Prod.snd (Option.some.inj htarget)
        · cases htarget
      obtain ⟨t, ht, hspared⟩ := run_write_spared h hs w.key w.value
      rw [← hsource] at ht hspared
      refine ⟨t, ?_, hspared⟩
      change discard (write w.key w.value w.source) (refusing f.owns (n+3)) s = _
      rw [run_discard, ht]

theorem run_executeAll_cons {t : Trigger} {carried : Option Json} {e : ElementRef}
    {source : Option Source} {d : String} {ds : List String} {carry : React} {u w : Session}
    {x y : Except Fault Unit} (hd : execute t d carried e source carry s = some (x, u))
    (hds : executeAll t carried e source ds carry u = some (y, w)) :
    executeAll t carried e source (d::ds) carry s = some ((do x; y), w) := by
  have hoc {a : Act Unit} {r : Except Fault Unit} {z z' : Session}
      (h : a carry z = some (r, z')) : outcome a carry z = some (.ok r, z') := by
    rw [run_outcome, h]
    rfl
  rw [executeAll, run_bind_ok (hoc hd), run_bind_ok (hoc hds), run_ofExcept]
  cases x <;> rfl

/-- What is written by two acts in turn. -/
theorem spared_savings {α : Type} {a : Act α} {x : Except Fault α} {refused : Reaction → Bool}
    {m : Nat} {u t : Session} {source : Option Source} {first rest : List (String × Json)}
    (ha : Built Anything a) (hu : a (refusing refused m) s = some (x, u))
    (h : f.Spared keys P (s.savings source first) s u)
    (k : f.Spared keys P (u.savings source rest) u t) :
    f.Spared keys P (s.savings source (first ++ rest)) s t := by
  have hrun : a.settle m s = some (x, u) := settle_of_refusing ha hu
  have hvalues : u.values = Table.written s.values (s.savings source first) := h.values ha hrun
  have hsettings : u.settings = s.settings := settle_respects Session.respected_settings ha hrun
  -- What the second act merges depends on what the first one has written.
  let stored : Session := { s with values := Table.written s.values (s.savings source first) }
  have hlater : u.savings source rest = stored.savings source rest :=
    Session.savings_congr (s := stored) hvalues hsettings rest
  rw [Session.savings_append]
  exact h.trans (hlater ▸ k)

/-- The directives of one field are saved in order, all for the value that the field shows. -/
theorem run_saves_spared (h : f.LeftAlone keys n P) (hs : P s) {e : ElementRef}
    (he : e ∈ f.elements) {v : Json} (hv : (s.element e).value = v) (directives : List String) :
    ∃ t, executeAll .save (some v) e (some f.source) directives (refusing f.owns (n+3)) s =
        some (.ok (), t) ∧
      f.Spared keys P (s.savings (some f.source) (directives.map fun d => (d, v))) s t := by
  induction directives generalizing s with
  | nil => exact ⟨s, run_pure (), .refl hs⟩
  | cons d ds ih =>
      obtain ⟨u, hu, hfirst⟩ := run_save_spared h hs d hv
      -- The first save has echoed everywhere but in the form, so the field shows `v` still.
      obtain ⟨t, ht, hrest⟩ := ih hfirst.kind ((hfirst.rests.shown e he).trans hv)
      have hbuilt : Built Anything (execute .save d (some v) e (some f.source)) :=
        built_execute .save d _ e fun _ _ => trivial
      refine ⟨t, ?_, spared_savings hbuilt hu hfirst hrest⟩
      exact run_executeAll_cons hu ht

end
end Act

theorem Form.mem_of_findField {f : Form} {s : Session} {key : String} {e : ElementRef}
    (h : f.findField s key = some e) : e ∈ f.elements := by
  unfold Form.findField at h
  split at h
  · cases h
  · exact (List.mem_filter.mp (List.mem_of_head? h)).1

namespace Form
variable {f : Form} {keys : List String} {s t : Session} {spec : Table (List String)}

theorem turns_cons (key : String) (ds : List String) : f.turns s ((key, ds)::spec) =
    (match f.findField s key with
      | some e => ds.map fun d => (d, (s.element e).value)
      | none => []) ++ f.turns s spec :=
  List.flatMap_cons ..

/-- The fields of a form at rest take their turns as before. -/
theorem Rests.turns (h : f.Rests keys s t) (hk : Table.keys spec ⊆ keys) :
    f.turns t spec = f.turns s spec := by
  induction spec with
  | nil => rfl
  | cons p spec ih =>
      obtain ⟨key, ds⟩ := p
      obtain ⟨hkey, hrest⟩ := List.cons_subset.mp hk
      rw [turns_cons, turns_cons, ih hrest, h.found key hkey]
      cases he : f.findField s key with
      | none => rfl
      | some e => simp only [h.shown e (mem_of_findField he)]

end Form

namespace Act
variable {f : Form} {keys : List String} {n : Nat} {P : Session → Prop} {s : Session}

/-- The fields of a form are saved in the order of the spec, each for the value that it shows from
beginning to end. -/
theorem run_saveForm_spared (h : f.LeftAlone keys n P) (hs : P s) {spec : Table (List String)}
    (hk : Table.keys spec ⊆ keys) :
    ∃ t, saveForm f spec (refusing f.owns (n+3)) s = some (.ok (), t) ∧
      f.Spared keys P (s.savings (some f.source) (f.turns s spec)) s t := by
  induction spec generalizing s with
  | nil => exact ⟨s, rfl, .refl hs⟩
  | cons p spec ih =>
      obtain ⟨key, ds⟩ := p
      obtain ⟨hkey, hrest⟩ := List.cons_subset.mp hk
      rw [saveForm, eachField_cons, run_bind_ok (run_gets _), Form.turns_cons]
      cases he : f.findField s key with
      | none =>
          obtain ⟨t, ht, hspared⟩ := ih hs hrest
          exact ⟨t, ht, hspared⟩
      | some e =>
          have hbuilt : Built Anything
              (executeAll .save (some (s.element e).value) e (some f.source) ds) :=
            built_executeAll .save _ e ds fun _ _ => trivial
          obtain ⟨u, hu, hfirst⟩ := run_saves_spared h hs (Form.mem_of_findField he) rfl ds
          obtain ⟨t, ht, hspared⟩ := ih hfirst.kind hrest
          rw [hfirst.rests.turns hrest] at hspared
          refine ⟨t, ?_, spared_savings hbuilt hu hfirst hspared⟩
          exact (run_bind_ok ((run_bind_ok (run_gets _)).trans hu)).trans ht

/-- The connection of a form adds no other listeners than loads that pass over its writes. -/
theorem connectForm_sparing {carry : React} {spec : Table (List String)} {r : Except Fault Unit}
    {t : Session} (hs : ∀ p ∈ s.listeners, p.2.Sparing f keys n P)
    (ht : connectForm f spec false carry s = some (r, t)) :
    ∀ p ∈ t.listeners, p.2.Sparing f keys n P := by
  have hconnect {d : String} {e : ElementRef} {s t : Session} {r : Except Fault Unit}
      (hs : ∀ p ∈ s.listeners, p.2.Sparing f keys n P)
      (ht : connect .load d e (some f.source) carry s = some (r, t)) :
      ∀ p ∈ t.listeners, p.2.Sparing f keys n P := by
    rw [connect, run_bind_ok (run_gets _)] at ht
    cases hc : s.connectors.find? (·.1 = .load) with
    | some c =>
        rw [hc] at ht
        cases ht
        exact hs
    | none =>
        rw [hc] at ht
        cases ht
        intro p hp
        rcases List.mem_append.mp hp with hp | hp
        · exact hs p hp
        · obtain rfl := List.mem_singleton.mp hp
          exact fun _ => rfl
  have hall {ds : List String} {e : ElementRef} {s t : Session} {r : Except Fault Unit}
      (hs : ∀ p ∈ s.listeners, p.2.Sparing f keys n P)
      (ht : connectAll .load ds e (some f.source) carry s = some (r, t)) :
      ∀ p ∈ t.listeners, p.2.Sparing f keys n P := by
    rw [connectAll] at ht
    induction ds generalizing s with
    | nil =>
        rw [forEach_nil] at ht
        cases ht
        exact hs
    | cons d ds ih =>
        rw [forEach_cons] at ht
        obtain ⟨_, u, hu, ht⟩ | ⟨e, he, -⟩ := bind_cases ht
        · exact ih (hconnect hs hu) ht
        · exact hconnect hs he
  change eachField f spec (fun ds e => connectAll .load ds e (some f.source)) carry s = _ at ht
  induction spec generalizing s with
  | nil =>
      cases ht
      exact hs
  | cons p spec ih =>
      rw [eachField_cons, run_bind_ok (run_gets _)] at ht
      cases he : f.findField s p.1 with
      | none =>
          rw [he] at ht
          exact ih hs ht
      | some e =>
          rw [he] at ht
          obtain ⟨_, u, hu, ht⟩ | ⟨e, he, -⟩ := bind_cases ht
          · exact ih (hall hs hu) ht
          · exact hall hs he

end Act

/-- A session with the callbacks of another one. -/
structure Session.Alike (s₀ s : Session) : Prop where
  listeners : s.listeners = s₀.listeners
  handlers : s.handlers = s₀.handlers
  evaluators : s.evaluators = s₀.evaluators

/-- Where no callback registers or removes another, it is enough to look at those there are. -/
theorem Form.leftAlone_alike {f : Form} {keys : List String} {n : Nat} {s₀ : Session}
    (he : s₀.evaluators = []) (hl : ∀ p ∈ s₀.listeners, p.2.Sparing f keys n s₀.Alike)
    (hh : ∀ r ∈ s₀.handlers, r.event = .change → r.element ∉ f.elements →
      r.handler.Sparing f keys n s₀.Alike) : f.LeftAlone keys n s₀.Alike where
  evaluators h := h.evaluators.trans he
  listeners h := h.listeners ▸ hl
  handlers h := h.handlers ▸ hh
  stored h _ _ := ⟨h.listeners, h.handlers, h.evaluators⟩
  shown h _ _ := ⟨h.listeners, h.handlers, h.evaluators⟩
  emitted h _ _ := ⟨h.listeners, h.handlers, h.evaluators⟩
  counted h _ := ⟨h.listeners, h.handlers, h.evaluators⟩

/-- A form whose elements are load-bound by itself only is saved without disturbing itself: one
write is made for each directive of a found field that saves, in the order of the spec and tagged
with the form, of what the field shows or of what this is merged to; and no other write is made. No
value of the form changes, and no callback of its elements is called. Connecting the form anew, by
any spec, adds only such listeners as are supposed here. -/
theorem form_save_spares_form {f : Form} {spec : Table (List String)} {n : Nat}
    {P : Session → Prop} (h : f.LeftAlone (Table.keys spec) n P) {s : Session} (hs : P s) :
    (∃ t, saveForm f spec (refusing f.owns (n+3)) s = some (.ok (), t) ∧
      (saveForm f spec).settle (n+3) s = some (.ok (), t) ∧
      t.writes = s.writes ++ s.savings (some f.source) (f.turns s spec) ∧
      (s.savings (some f.source) (f.turns s spec)).map Write.target =
        (((f.turns s spec).filter fun p => (Directive.parse p.1).saves).map fun p =>
          ((Directive.parse p.1).key, some f.source)) ∧
      t.values = Table.written s.values (s.savings (some f.source) (f.turns s spec)) ∧
      ∀ e ∈ f.elements, (t.element e).value = (s.element e).value) ∧
    ∀ m bound r t, (connectForm f bound false).settle m s = some (r, t) →
      ∀ p ∈ t.listeners, p.2.Sparing f (Table.keys spec) n P := by
  constructor
  · obtain ⟨t, ht, hspared⟩ := run_saveForm_spared h hs (List.Subset.refl _)
    have hbuilt : Built Anything (saveForm f spec) := built_saveForm f spec fun _ _ => trivial
    have hrun : (saveForm f spec).settle (n+3) s = some (.ok (), t) := settle_of_refusing hbuilt ht
    exact ⟨t, ht, hrun, hspared.writes, Session.targets_savings .., hspared.values hbuilt hrun,
      hspared.rests.shown⟩
  · intro m bound r t ht
    exact connectForm_sparing (h.listeners hs) ht

/-- Two fields of a form, both bound to one key, and a field beside it that is bound to this key
both ways. -/
def pairForm : Form := ⟨"pair", ⟨"form#1"⟩, [0, 1]⟩

def pairSpec : Table (List String) := [("a", ["k", "~m"]), ("none", ["k"]), ("b", ["#n", "k"])]

def pairSession : Session :=
  { values := [("k", .string "old"), ("m", .texts ["w"])],
    listeners := [("k", .load "k" 2 none), (wildcard, .report "r" [.host (.note "n")])],
    elements := [{ name := some "a", control := .input "x" },
      { name := some "b", control := .input "y" }, { control := .input "" }],
    handlers := [⟨0, .change, .save "k" none⟩, ⟨2, .change, .save "k" none⟩] }

theorem form_save_spares_form_pair : ∃ s t,
    (connectForm pairForm pairSpec false).settle 0 pairSession = some (.ok (), s) ∧
    (saveForm pairForm pairSpec).settle 3 s = some (.ok (), t) ∧
    t.writes.map Write.target =
      [("k", some ⟨"form#1"⟩), ("m", some ⟨"form#1"⟩), ("k", some ⟨"form#1"⟩)] ∧
    (t.element 0).value = .string "x" ∧ (t.element 1).value = .string "y" ∧
    Table.find? t.values "k" = some (.string "y") := by
  let own := some pairForm.source
  let s : Session := { pairSession with listeners := pairSession.listeners ++
    [("k", .load "k" 0 own), ("m", .load "~m" 0 own), ("n", .load "#n" 1 own),
      ("k", .load "k" 1 own)] }
  have hconnect : (connectForm pairForm pairSpec false).settle 0 pairSession =
      some (.ok (), s) := rfl
  have hnote : Spares pairForm (Table.keys pairSpec) s.Alike (refusing pairForm.owns 0)
      (runAll [.host (.note "n")]) := fun u hu =>
    ⟨.ok (), { u with trace := .noted "n"::u.trace }, rfl, (Session.Wrote.emit u rfl).writes, rfl,
      .of_same rfl, hu.listeners, hu.handlers, hu.evaluators⟩
  have halone : pairForm.LeftAlone (Table.keys pairSpec) 0 s.Alike := by
    apply Form.leftAlone_alike
    · rfl
    · simpa [s, pairSession, pairForm, own, Listener.Sparing] using hnote
    · simp [s, pairSession, Handler.Sparing]
  obtain ⟨⟨t, -, hrun, hwrites, htargets, hvalues, hshown⟩, -⟩ :=
    form_save_spares_form halone (s := s) ⟨rfl, rfl, rfl⟩
  have hturns : pairForm.turns s pairSpec = [("k", .string "x"), ("~m", .string "x"),
      ("#n", .string "y"), ("k", .string "y")] := rfl
  refine ⟨s, t, hconnect, hrun, ?_, hshown 0 (by decide), hshown 1 (by decide), ?_⟩
  · rw [hwrites, List.map_append, htargets, hturns]
    rfl
  · rw [hvalues, hturns]
    rfl

end ScreenBinding
