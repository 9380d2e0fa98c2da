import ScreenBinding.Proofs.Arrangement
import ScreenBinding.Proofs.ModeSwitches

/-!
# What a view shows

A view writes its patch, hides everything, shows its modals and its interfaces one after the other,
and then runs its logic. Each surface hides its siblings before it is shown, so of a list of them
the last one that is allowed stays, and the ones before it, repeated or not, only pass by. What was
visible before is of no account.

The listeners that hear of the patch, and the hooks that are asked whether a surface may be shown,
may do anything but use the renderer. That they do not is said by a run with callbacks that give up
where one does. The logic may use the renderer, and then it has the last word on what is visible.
-/
namespace ScreenBinding
open Act

/-- Whether an event is a word to the renderer. -/
def Event.renders : Event → Bool
  | .textFilled .. | .listFilled .. => true
  | e => e.arranges

theorem Event.arranges_of_renders {e : Event} (h : e.renders = false) : e.arranges = false := by
  cases e <;> first | exact h | cases h

/-- Events of which none is added are not among those that are added. -/
theorem forall_mem_of_countP_eq {p : Event → Bool} {l new past : List Event}
    (hl : l = new ++ past) (h : l.countP p = past.countP p) : ∀ e ∈ new, p e = false := by
  rw [hl, List.countP_append] at h
  have hnone : new.countP p = 0 := by omega
  exact fun e he => Bool.eq_false_iff.mpr (List.countP_eq_zero.mp hnone e he)

namespace Act

/-- Carries out callbacks, and gives up at one that uses the renderer. -/
def unrendering (carry : React) : React := fun r s =>
  (carry r s).filter fun p => p.2.trace.countP Event.renders = s.trace.countP Event.renders

section
variable {α : Type} {n : Nat} {carry : React} {r : Reaction} {s t : Session} {x : Except Fault Unit}

theorem unrendering_cases (h : unrendering carry r s = some (x, t)) : carry r s = some (x, t) ∧
    t.trace.countP Event.renders = s.trace.countP Event.renders := by
  obtain ⟨hrun, hcount⟩ := Option.filter_eq_some_iff.mp h
  exact ⟨hrun, of_decide_eq_true hcount⟩

theorem unrendering_adds (h : unrendering (cascade n) r s = some (x, t)) :
    ∃ l : List Event, t.trace = l.reverse ++ s.trace ∧ ∀ e ∈ l, e.renders = false := by
  obtain ⟨hrun, hcount⟩ := unrendering_cases h
  obtain ⟨l, hl, -⟩ := cascade_respects (respected_adds Anything) n r s x t hrun
  have hnew := forall_mem_of_countP_eq hl hcount
  exact ⟨l, hl, fun e he => hnew e (List.mem_reverse.mpr he)⟩

/-- What is carried out without the renderer is what is carried out. -/
theorem kept_unrendering {a : Act α} (ha : Built Anything a) :
    Kept (unrendering (cascade n)) (cascade n) a a :=
  built_kept ha
    (fun l key v source s x t h =>
      faultless_listener n l key v source s x t (unrendering_cases h).1)
    fun _ _ _ _ h => (unrendering_cases h).1

end
end Act

/-- A surface whose turn it is to be shown. -/
structure Showing where
  name : String
  element : ElementRef
  allowed : Bool

/-- The surface that stays: the last one that is allowed. -/
def lastAllowed (rounds : List Showing) : Option ElementRef :=
  (rounds.filter Showing.allowed).getLast?.map Showing.element

theorem lastAllowed_cons (r : Showing) (rounds : List Showing) : lastAllowed (r::rounds) =
    (lastAllowed rounds).or (if r.allowed then some r.element else none) := by
  cases hr : r.allowed with
  | false => simp [lastAllowed, hr]
  | true =>
      simp only [lastAllowed, List.filter_cons_of_pos hr, List.getLast?_cons]
      cases (rounds.filter Showing.allowed).getLast? <;> rfl

/-- One surface alone, of its kind, is visible. -/
def Session.showing (s : Session) (kind : SurfaceKind) (e : ElementRef) : Session :=
  s.retrace (.shown kind e (s.element e).label::.hidden kind::s.trace)

/-- Surfaces of a kind in turn: each one is refreshed without arguments, and is shown if its refresh
allows it. -/
inductive Shows (carry : React) (kind : SurfaceKind) : Session → List Showing → Session → Prop
  | nil (s : Session) : Shows carry kind s [] s
  | cons {s v t : Session} {name : String} {x : Surface} {allowed : Bool} {rounds : List Showing} :
      Table.find? (s.surfaces kind) name = some x →
      refresh kind name x [] none carry s = some (.ok allowed, v) →
      Shows carry kind (if allowed then v.showing kind x.element else v) rounds t →
      Shows carry kind s (⟨name, x.element, allowed⟩::rounds) t

theorem visible_showing (s : Session) (kind : SurfaceKind) (e : ElementRef) :
    visible kind (s.showing kind e).trace = [e] := by
  cases kind <;> rfl

theorem visible_showing_ne (s : Session) {kind other : SurfaceKind} (h : other ≠ kind)
    (e : ElementRef) : visible other (s.showing kind e).trace = visible other s.trace := by
  cases kind <;> cases other <;> first | rfl | exact (h rfl).elim

section
variable {carry : React} {kind : SurfaceKind} {s t : Session} {rounds : List Showing}

/-- The last surface that is allowed is visible; without one, what was visible is visible still. -/
theorem Shows.visible {n : Nat} (h : Shows (unrendering (cascade n)) kind s rounds t) :
    ScreenBinding.visible kind t.trace =
      (lastAllowed rounds).elim (ScreenBinding.visible kind s.trace) ([·]) ∧
    ∀ other, other ≠ kind → ScreenBinding.visible other t.trace =
      ScreenBinding.visible other s.trace := by
  induction h with
  | nil s => exact ⟨rfl, fun _ _ => rfl⟩
  | @cons s v t name x allowed rounds hx hrefresh _ ih =>
      have hkept : ∀ k, ScreenBinding.visible k v.trace = ScreenBinding.visible k s.trace := by
        obtain hkept | ⟨prepare, actions, needs, z, -, hscript⟩ := refresh_untouched hrefresh
        · exact hkept
        · intro k
          obtain ⟨l, hl, hplain⟩ := unrendering_adds hscript
          have hrefreshed : ScreenBinding.visible k ([.refreshed name []] ++ s.trace) =
              ScreenBinding.visible k s.trace := visible_plain (by simp [Event.arranges])
          rw [hl, visible_plain fun e he =>
            Event.arranges_of_renders (hplain e (List.mem_reverse.mp he))]
          exact hrefreshed
      obtain ⟨hlast, hothers⟩ := ih
      rw [lastAllowed_cons, hlast]
      cases allowed with
      | false =>
          refine ⟨?_, fun other hne => (hothers other hne).trans (hkept other)⟩
          rw [if_neg Bool.false_ne_true, if_neg Bool.false_ne_true, Option.or_none, hkept kind]
      | true =>
          refine ⟨?_, fun other hne => ?_⟩
          · rw [if_pos rfl, if_pos rfl, visible_showing]
            cases lastAllowed rounds <;> rfl
          · rw [hothers other hne, if_pos rfl, visible_showing_ne v hne, hkept other]

theorem Shows.kept {n : Nat} (h : Shows (unrendering (cascade n)) kind s rounds t) :
    Shows (cascade n) kind s rounds t := by
  induction h with
  | nil s => exact .nil s
  | cons hx hrefresh _ ih =>
      exact .cons hx (kept_unrendering (built_refresh kind _ _ [] none) _ _ _ hrefresh) ih

end

namespace Act
variable {carry : React} {kind : SurfaceKind} {name : String} {s t : Session}

theorem show_cases {allowed : Bool}
    (h : showSurface kind name [] none carry s = some (.ok allowed, t)) :
    ∃ x v, Table.find? (s.surfaces kind) name = some x ∧
      refresh kind name x [] none carry s = some (.ok allowed, v) ∧
      t = if allowed then v.showing kind x.element else v := by
  rw [showSurface_eq] at h
  obtain ⟨x, u, hu, ht⟩ | ⟨f, -, hf⟩ := bind_cases h
  · obtain ⟨rfl, ⟨y, hy, hx⟩ | ⟨_, hf⟩⟩ := surface_cases hu
    · cases hy
      obtain ⟨shown, v, hv, hr⟩ | ⟨f, -, hf⟩ := bind_cases ht
      · cases shown with
        | false =>
            cases hr
            exact ⟨x, t, hx, hv, rfl⟩
        | true =>
            rw [if_pos rfl] at hr
            obtain ⟨hb, -, rfl⟩ | ⟨f, hf, -⟩ := reveal_cases hr
            · cases hb
              exact ⟨x, v, hx, hv, rfl⟩
            · cases hf
      · cases hf
    · cases hf
  · cases hf

/-- Shows surfaces of a kind one after the other. -/
def showAll (kind : SurfaceKind) (names : List String) : Act Unit := do
  for name in names do
    discard (showSurface kind name [] none)

theorem arrange_eq (screen : Screen) : arrange screen = (do
    hideViews
    showAll .modal screen.modals
    showAll .interface screen.interfaces) := by
  simp [arrange, showAll]

theorem showAll_cases {names : List String} (h : showAll kind names carry s = some (.ok (), t)) :
    ∃ rounds, rounds.map Showing.name = names ∧ Shows carry kind s rounds t := by
  induction names generalizing s with
  | nil =>
      rw [showAll, forEach_nil] at h
      cases h
      exact ⟨[], rfl, .nil _⟩
  | cons name names ih =>
      rw [showAll, forEach_cons, discard_bind] at h
      obtain ⟨allowed, u, hu, hrest⟩ | ⟨f, -, hf⟩ := bind_cases h
      · obtain ⟨x, v, hx, hv, rfl⟩ := show_cases hu
        obtain ⟨rounds, rfl, hrounds⟩ := ih hrest
        exact ⟨⟨name, x.element, allowed⟩::rounds, rfl, .cons hx hv hrounds⟩
      · cases hf

theorem hideAll_cases (h : hideAll kind carry s = some (.ok (), t)) :
    t = s.retrace (.hidden kind::s.trace) := by
  rw [hideAll_eq] at h
  obtain ⟨_, u, hu, ht⟩ | ⟨f, -, hf⟩ := bind_cases h
  · obtain ⟨rfl, -⟩ := needRenderer_cases hu
    cases ht
    rfl
  · cases hf

theorem hideViews_cases (h : hideViews carry s = some (.ok (), t)) :
    t = s.retrace (.interfacesHidden::.modalsClosed::s.trace) := by
  obtain ⟨_, u, hu, ht⟩ | ⟨f, -, hf⟩ := bind_cases h
  · obtain rfl := hideAll_cases hu
    exact hideAll_cases ht
  · cases hf

/-- To arrange a screen is to hide everything, and then to show its modals and its interfaces. -/
theorem arrange_cases {screen : Screen} (h : arrange screen carry s = some (.ok (), t)) :
    ∃ modals interfaces v,
      modals.map Showing.name = screen.modals ∧
      interfaces.map Showing.name = screen.interfaces ∧
      Shows carry .modal (s.retrace (.interfacesHidden::.modalsClosed::s.trace)) modals v ∧
      Shows carry .interface v interfaces t := by
  rw [arrange_eq] at h
  obtain ⟨_, u, hu, ht⟩ | ⟨f, -, hf⟩ := bind_cases h
  · obtain rfl := hideViews_cases hu
    obtain ⟨_, v, hv, ht⟩ | ⟨f, -, hf⟩ := bind_cases ht
    · obtain ⟨modals, hmodals, hshown⟩ := showAll_cases hv
      obtain ⟨interfaces, hinterfaces, hshown'⟩ := showAll_cases ht
      exact ⟨modals, interfaces, v, hmodals, hinterfaces, hshown, hshown'⟩
    · cases hf
  · cases hf

/-- What a view does ahead of its logic. -/
def aheadOfLogic (m : Mode) (screen : Screen) : Act Unit := do
  writeAll m.patch (some .mode)
  arrange screen

/-- The logic of a mode, if it has any. -/
def customLogic (m : Mode) : Act Unit :=
  match m.logic with
  | some actions => react (.script actions)
  | none => pure ()

theorem setMode_view {m : Mode} {screen : Screen} (hm : Table.find? s.modes name = some m)
    (hscreen : m.screen = some screen) : setMode name false carry s = (do
      aheadOfLogic m screen
      customLogic m
      return .done .nothing : Act Progress) carry s := by
  have hview : applyMode m = (do aheadOfLogic m screen; customLogic m) := by
    rw [applyMode, hscreen, aheadOfLogic, customLogic]
    cases m.logic <;> simp
  rw [setMode, mode, bind_assoc, run_bind_ok (run_gets _), hm]
  refine (run_bind_ok (run_pure m)).trans ?_
  rw [if_neg Bool.false_ne_true, hview, bind_assoc]

end Act

/-- What is laid over the state, the renderer does not hear of, if no listener uses it. -/
theorem Act.writeAll_unrendered {n : Nat} {values : Fields} {source : Option Source}
    {s t : Session} {x : Except Fault Unit}
    (h : writeAll values source (unrendering (cascade n)) s = some (x, t)) :
    x = .ok () ∧ (∃ calls, LaidOver (cascade n) s (Table.writesBy values source) calls t) ∧
      ∃ new, t.trace = new ++ s.trace ∧ ∀ e ∈ new, e.renders = false := by
  have hrun := kept_unrendering (built_writeAll values fun _ _ => trivial) s x t h
  have hquiet : Built (·.renders = false) (writeAll values source) :=
    built_writeAll values fun _ _ => rfl
  obtain ⟨rfl, hlaid⟩ := run_writeAll_iff.mp hrun
  obtain ⟨l, hl, hplain⟩ :=
    hquiet.respects (respected_adds (·.renders = false)) (fun _ _ _ _ => unrendering_adds) h
  exact ⟨rfl, hlaid, l.reverse, hl, fun e he => hplain e (List.mem_reverse.mp he)⟩

/-- What is visible stays, as long as nothing is shown or hidden. -/
theorem visible_settled {α : Type} {a : Act α} (ha : Built Anything a) {n : Nat} {s t : Session}
    {x : Except Fault α} (h : a.settle n s = some (x, t))
    (hsame : t.trace.countP Event.arranges = s.trace.countP Event.arranges)
    (kind : SurfaceKind) : visible kind t.trace = visible kind s.trace := by
  obtain ⟨l, hl, -⟩ := settle_respects (respected_adds Anything) ha h
  rw [hl]
  exact visible_plain (forall_mem_of_countP_eq hl hsame)

/-- A view writes its patch in order, under the source of modes, before it uses the renderer. Then
it arranges its screen, and if this fails, that is all. Otherwise the modal that is visible is the
last one of its list whose refresh allows it, the same goes for the interface, and the logic runs,
once and last; what is visible then stays so, unless the logic shows or hides something itself. -/
theorem view_shows_last_allowed {n : Nat} {name : String} {m : Mode} {screen : Screen}
    {s u : Session} {x : Except Fault Unit} (hm : Table.find? s.modes name = some m)
    (hscreen : m.screen = some screen)
    (hquiet : aheadOfLogic m screen (unrendering (cascade n)) s = some (x, u)) :
    ∃ calls p, LaidOver (cascade n) s (Table.writesBy m.patch (some .mode)) calls p ∧
      (∃ new, p.trace = new ++ s.trace ∧ ∀ e ∈ new, e.renders = false) ∧
      (arrange screen).settle n p = some (x, u) ∧
      (∀ why, x = .error why → (setMode name false).settle n s = some (.error why, u)) ∧
      (x = .ok () →
        (∃ modals interfaces v,
          modals.map Showing.name = screen.modals ∧
          interfaces.map Showing.name = screen.interfaces ∧
          Shows (cascade n) .modal (p.retrace (.interfacesHidden::.modalsClosed::p.trace))
            modals v ∧
          Shows (cascade n) .interface v interfaces u ∧
          visible .modal u.trace = (lastAllowed modals).toList ∧
          visible .interface u.trace = (lastAllowed interfaces).toList) ∧
        (setMode name false).settle n s =
          (do customLogic m; return .done .nothing : Act Progress).settle n u ∧
        ∀ r t, (setMode name false).settle n s = some (r, t) →
          t.trace.countP Event.arranges = u.trace.countP Event.arranges →
          ∀ kind, visible kind t.trace = visible kind u.trace) := by
  have hahead : Built Anything (aheadOfLogic m screen) :=
    .bind (built_writeAll _ fun _ _ => trivial) fun _ => built_arrange screen
  have hlogic : Built Anything (do customLogic m; return .done .nothing : Act Progress) := by
    rw [customLogic]
    cases m.logic with
    | none => exact .bind (.pure _) fun _ => .pure _
    | some actions => exact .bind (.react _) fun _ => .pure _
  have hrun : (aheadOfLogic m screen).settle n s = some (x, u) :=
    kept_unrendering hahead s x u hquiet
  obtain ⟨_, p, hp, harrange⟩ | ⟨f, hf, -⟩ := bind_cases hquiet
  · obtain ⟨-, ⟨calls, hcalls⟩, hplain⟩ := writeAll_unrendered hp
    refine ⟨calls, p, hcalls, hplain, kept_unrendering (built_arrange screen) p x u harrange,
      ?_, ?_⟩
    · rintro why rfl
      rw [settle, setMode_view hm hscreen]
      exact run_bind_error hrun
    · rintro rfl
      have hset : (setMode name false).settle n s =
          (do customLogic m; return .done .nothing : Act Progress).settle n u := by
        rw [settle, setMode_view hm hscreen]
        exact run_bind_ok hrun
      obtain ⟨modals, interfaces, v, hmodals, hinterfaces, hshown, hshown'⟩ :=
        arrange_cases harrange
      obtain ⟨hmodal, hothers⟩ := hshown.visible
      obtain ⟨hinterface, hothers'⟩ := hshown'.visible
      refine ⟨⟨modals, interfaces, v, hmodals, hinterfaces, hshown.kept, hshown'.kept, ?_, ?_⟩,
        hset, ?_⟩
      · rw [hothers' .modal (by decide), hmodal]
        cases lastAllowed modals <;> rfl
      · rw [hinterface, hothers .interface (by decide)]
        cases lastAllowed interfaces <;> rfl
      · intro r t ht hsame
        rw [hset] at ht
        exact visible_settled hlogic ht hsame
  · cases (writeAll_unrendered hf).1

/-- A view with modals that are listed twice or are not allowed, and with such interfaces. -/
def crowdedView : Mode :=
  { name := "v", patch := [("k", .string "x"), ("l", .bool true)],
    screen := some { modals := ["a", "c", "a", "b"], interfaces := ["i", "j"] },
    logic := some [.host (.note "logic")] }

/-- Two of the surfaces need an argument that nobody gives, and another modal is open already. -/
def crowdedSession : Session :=
  let plain (e : ElementRef) : Surface := ⟨e, .hooks none none none, none⟩
  let needy (e : ElementRef) : Surface :=
    ⟨e, .hooks none (some [.host (.note "refresh")]) (some "arg"), none⟩
  { renderer := true, modes := [("v", crowdedView)],
    modals := [("a", plain 0), ("b", needy 1), ("c", plain 2)],
    interfaces := [("i", plain 3), ("j", needy 4)],
    listeners := [("k", .report "w" [])],
    trace := [.modalOpened 5 "other"] }

/-- What stays is the modal that is listed first and again, and the first of the interfaces. -/
theorem view_shows_last_allowed_crowded : ∃ modals t,
    modals.map Showing.name = ["a", "c", "a", "b"] ∧ lastAllowed modals = some 0 ∧
    (setMode "v" false).settle 2 crowdedSession = some (.ok (.done .nothing), t) ∧
    visible .modal t.trace = [0] ∧ visible .interface t.trace = [3] := by
  obtain ⟨u, hquiet, hmodal, hinterface⟩ : ∃ u,
      aheadOfLogic crowdedView ⟨["a", "c", "a", "b"], ["i", "j"]⟩ (unrendering (cascade 2))
        crowdedSession = some (.ok (), u) ∧
      visible .modal u.trace = [0] ∧ visible .interface u.trace = [3] := ⟨_, rfl, rfl, rfl⟩
  have hview : Table.find? crowdedSession.modes "v" = some crowdedView := rfl
  obtain ⟨calls, p, -, -, -, -, hok⟩ := view_shows_last_allowed hview rfl hquiet
  obtain ⟨⟨modals, interfaces, v, hnames, -, -, -, hlast, -⟩, hset, hstays⟩ := hok rfl
  have hended : (setMode "v" false).settle 2 crowdedSession =
      some (.ok (.done .nothing), u.retrace (.noted "logic"::u.trace)) := hset.trans rfl
  have hsame := hstays _ _ hended (List.countP_cons_of_neg nofun)
  refine ⟨modals, _, hnames, ?_, hended, (hsame .modal).trans hmodal,
    (hsame .interface).trans hinterface⟩
  rw [hmodal] at hlast
  cases hl : lastAllowed modals with
  | none =>
      rw [hl] at hlast
      cases hlast
  | some e =>
      rw [hl] at hlast
      cases hlast
      rfl

/-- A view of one modal, which is allowed, and whose logic shows another one. -/
theorem logic_shows_other_modal : ∃ (s w t : Session) (m : Mode),
    Table.find? s.modes "v" = some m ∧ m.screen = some { modals := ["a"] } ∧
    Shows (cascade 2) .modal (s.retrace [.interfacesHidden, .modalsClosed]) [⟨"a", 0, true⟩] w ∧
    (setMode "v" false).settle 2 s = some (.ok (.done .nothing), t) ∧
    visible .modal t.trace = [1] := by
  let plain (e : ElementRef) : Surface := ⟨e, .hooks none none none, none⟩
  let m : Mode :=
    { name := "v", screen := some { modals := ["a"] }, patch := [],
      logic := some [.host (.note "logic"), .surface (.show .modal "b" [])] }
  let s : Session :=
    { renderer := true, modes := [("v", m)], modals := [("a", plain 0), ("b", plain 1)] }
  exact ⟨s, _, _, m, rfl, rfl, .cons (x := plain 0) rfl rfl (.nil _), rfl, rfl⟩

end ScreenBinding
