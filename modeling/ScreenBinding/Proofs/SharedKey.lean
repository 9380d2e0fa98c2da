import Mathlib.Data.List.Nodup
import ScreenBinding.Proofs.BoundSession
import ScreenBinding.Proofs.LoadedValues

/-!
# Fields that share a key

Any number of fields are bound both ways to one key, each under a source of its own, and beside
them any number of fields only load, from that key or from others. Whatever the user types into the
bound fields and whatever is written from outside, every bound field shows the value of the key from
the first write on.

The invariant is `Agreed`. A write keeps it in one pass over its listeners: each field is either the
one whose edit is being saved, and shows what it saves, or hears of the write and loads it. That the
first field is passed over is the reason why the sources have to be distinct.
-/
namespace ScreenBinding
open Act

/-- A field bound in both directions under one source. -/
structure TwoWay where
  directive : String
  element : ElementRef
  tag : Source

namespace TwoWay

def listener (b : TwoWay) : Listener := .load b.directive b.element (some b.tag)

def handler (b : TwoWay) : Handler := .save b.directive (some b.tag)

def connections (b : TwoWay) : List Connection :=
  [⟨.save, b.directive, b.element, some b.tag⟩, ⟨.load, b.directive, b.element, some b.tag⟩]

/-- The directive assigns `k` in both directions. -/
structure Assigns (b : TwoWay) (k : String) : Prop where
  key : (Directive.parse b.directive).key = k
  saves : (Directive.parse b.directive).appliesTo .save = true
  loads : (Directive.parse b.directive).appliesTo .load = true
  operators : (Directive.parse b.directive).operators = [.assign]

theorem Assigns.operator {b : TwoWay} {k : String} (h : b.Assigns k) :
    (Directive.parse b.directive).operator = .assign := by
  rw [Directive.operator, h.operators]
  rfl

theorem Assigns.save {b : TwoWay} {k : String} (h : b.Assigns k) :
    Directive.Assigns b.directive .save k := ⟨h.key, h.saves, h.operator⟩

theorem Assigns.load {b : TwoWay} {k : String} (h : b.Assigns k) :
    Directive.Assigns b.directive .load k := ⟨h.key, h.loads, h.operator⟩

end TwoWay

/-- Fields on distinct elements, under distinct sources, that assign one key. -/
structure Family (k : String) (bound : List TwoWay) : Prop where
  proper : k ≠ wildcard
  assigns : ∀ b ∈ bound, b.Assigns k
  elements : (bound.map TwoWay.element).Nodup
  tags : (bound.map TwoWay.tag).Nodup

/-- A session in which the fields are wired, and beside them only loads of other elements. -/
structure Shared (k : String) (bound : List TwoWay) (s : Session) : Prop where
  evaluators : s.evaluators = []
  loading : s.loading = 0
  listeners : ∀ p ∈ s.listeners, (∃ b ∈ bound, p = (k, b.listener)) ∨
    ∃ directive e source, p.2 = .load directive e source ∧ ∀ b ∈ bound, b.element ≠ e
  hears : ∀ b ∈ bound, (k, b.listener) ∈ s.listeners
  saves : ∀ b ∈ bound, s.handlersOf b.element .change = [b.handler]
  others : ∀ e, (∀ b ∈ bound, b.element ≠ e) → s.handlersOf e .change = []
  within : ∀ b ∈ bound, b.element < s.elements.length

/-- Every field shows the value of the key, if there is one. -/
def Agreed (k : String) (bound : List TwoWay) (s : Session) : Prop :=
  ∀ v, Table.find? s.values k = some v → ∀ b ∈ bound,
    (s.element b.element).control.Shows s.settings.separators v

section
variable {k : String} {bound : List TwoWay} {s t : Session}

theorem Family.same_element (h : Family k bound) {b c : TwoWay} (hb : b ∈ bound) (hc : c ∈ bound)
    (he : b.element = c.element) : b = c :=
  List.inj_on_of_nodup_map h.elements hb hc he

theorem Family.same_tag (h : Family k bound) {b c : TwoWay} (hb : b ∈ bound) (hc : c ∈ bound)
    (he : b.tag = c.tag) : b = c :=
  List.inj_on_of_nodup_map h.tags hb hc he

/-- Whatever is shown and stored, the wiring stays. -/
theorem Shared.rewired (h : Shared k bound s) (he : t.evaluators = s.evaluators)
    (hd : t.loading = s.loading) (hl : t.listeners = s.listeners) (hh : t.handlers = s.handlers)
    (hn : t.elements.length = s.elements.length) : Shared k bound t where
  evaluators := he.trans h.evaluators
  loading := hd.trans h.loading
  listeners := by rw [hl]; exact h.listeners
  hears := by rw [hl]; exact h.hears
  saves b hb := by
    have := h.saves b hb
    rw [Session.handlersOf] at this ⊢
    rwa [hh]
  others e hb := by
    have := h.others e hb
    rw [Session.handlersOf] at this ⊢
    rwa [hh]
  within b hb := by rw [hn]; exact h.within b hb

theorem Shared.onlySaves (h : Shared k bound s) (e : ElementRef) : s.OnlySaves e := by
  intro x hx
  by_cases hb : ∃ b ∈ bound, b.element = e
  · obtain ⟨b, hb, rfl⟩ := hb
    rw [h.saves b hb] at hx
    obtain rfl := List.mem_singleton.mp hx
    exact ⟨b.directive, some b.tag, rfl⟩
  · have he : s.handlersOf e .change = [] := h.others e fun b hm hn => hb ⟨b, hm, hn⟩
    rw [he] at hx
    cases hx

/-- Who hears of a write is a field of the family, if its key was written, or a load elsewhere. -/
theorem Shared.audience (h : Shared k bound s) (hF : Family k bound) {key : String} {l : Listener}
    (hl : l ∈ s.audience key) : (∃ b ∈ bound, l = b.listener ∧ key = k) ∨
      ∃ directive e source, l = .load directive e source ∧ ∀ b ∈ bound, b.element ≠ e := by
  simp only [Session.audience, Session.listenersOf, List.mem_append, List.mem_map,
    List.mem_filter, decide_eq_true_eq] at hl
  have hp : ∃ p ∈ s.listeners, (p.1 = key ∨ p.1 = wildcard) ∧ p.2 = l := by
    obtain ⟨p, ⟨hp, hk⟩, hl⟩ | ⟨p, ⟨hp, hk⟩, hl⟩ := hl
    · exact ⟨p, hp, .inl hk, hl⟩
    · exact ⟨p, hp, .inr hk, hl⟩
  obtain ⟨p, hp, hk, rfl⟩ := hp
  obtain ⟨b, hb, rfl⟩ | hother := h.listeners p hp
  · exact .inl ⟨b, hb, rfl, (hk.resolve_right hF.proper).symm⟩
  · exact .inr hother

theorem Shared.heard (h : Shared k bound s) {b : TwoWay} (hb : b ∈ bound) :
    b.listener ∈ s.audience k := by
  simp only [Session.audience, Session.listenersOf, List.mem_append, List.mem_map,
    List.mem_filter, decide_eq_true_eq]
  exact .inl ⟨_, ⟨h.hears b hb, rfl⟩, rfl⟩

/-- What the listeners `ls` leave behind that have heard of `v` under `key` by `writer`: only
elements have changed, and as far as the fields of the family are concerned, all those show `v`
that had to hear of it. -/
structure Pass (k : String) (bound : List TwoWay) (key : String) (v : Json)
    (writer : Option Source) (ls : List Listener) (s t : Session) : Prop where
  frame : t = { s with elements := t.elements }
  length : t.elements.length = s.elements.length
  shows : ∀ b ∈ bound, key = k → b.listener ∈ ls → writer ≠ some b.tag →
    (t.element b.element).control.Shows s.settings.separators v
  keeps : ∀ b ∈ bound, (s.element b.element).control.Shows s.settings.separators v →
    key = k → (t.element b.element).control.Shows s.settings.separators v
  own : ∀ b ∈ bound, key ≠ k ∨ writer = some b.tag → t.element b.element = s.element b.element

variable {key : String} {v : Json} {writer : Option Source}

theorem Pass.settings {ls : List Listener} (h : Pass k bound key v writer ls s t) :
    t.settings = s.settings := by rw [h.frame]

theorem Pass.shared {ls : List Listener} (h : Pass k bound key v writer ls s t)
    (hs : Shared k bound s) : Shared k bound t := by
  have hf := h.frame
  exact hs.rewired (by rw [hf]) (by rw [hf]) (by rw [hf]) (by rw [hf]) h.length

theorem Pass.nil (s : Session) : Pass k bound key v writer [] s s :=
  ⟨rfl, rfl, nofun, fun _ _ h _ => h, fun _ _ _ => rfl⟩

theorem Pass.cons {l : Listener} {ls : List Listener} {u : Session}
    (h : Pass k bound key v writer [l] s u) (g : Pass k bound key v writer ls u t) :
    Pass k bound key v writer (l::ls) s t where
  frame := by rw [g.frame, h.frame]
  length := g.length.trans h.length
  shows b hb hk hl hw := by
    have hset := h.settings
    rcases List.mem_cons.mp hl with rfl | hl
    · have hu := h.shows b hb hk (List.mem_singleton_self _) hw
      rw [← hset] at hu ⊢
      exact g.keeps b hb hu hk
    · rw [← hset]
      exact g.shows b hb hk hl hw
  keeps b hb hv hk := by
    have hset := h.settings
    have hu := h.keeps b hb hv hk
    rw [← hset] at hu ⊢
    exact g.keeps b hb hu hk
  own b hb hw := (g.own b hb hw).trans (h.own b hb hw)

/-- A load elsewhere leaves the fields of the family alone. -/
theorem Pass.elsewhere {directive : String} {e : ElementRef} {source : Option Source}
    (hs : s.Refills e t) (he : ∀ b ∈ bound, b.element ≠ e) :
    Pass k bound key v writer [.load directive e source] s t := by
  have hsame : ∀ b ∈ bound, t.element b.element = s.element b.element := by
    intro b hb
    obtain rfl | ⟨w, rfl⟩ := hs
    · rfl
    · exact s.element_shown_ne (he b hb).symm w
  have hother : ∀ b ∈ bound, b.listener ∉ [Listener.load directive e source] := by
    intro b hb hl
    have hl := List.mem_singleton.mp hl
    rw [TwoWay.listener] at hl
    injection hl with _ hl
    exact he b hb hl
  refine ⟨?_, ?_, fun b hb _ hl _ => (hother b hb hl).elim, fun b hb hv _ => ?_,
    fun b hb _ => hsame b hb⟩
  · obtain rfl | ⟨w, rfl⟩ := hs <;> rfl
  · obtain rfl | ⟨w, rfl⟩ := hs
    · rfl
    · exact List.length_modify ..
  · rw [hsame b hb]
    exact hv

/-- The field whose own save is heard of is passed over. -/
theorem Pass.skipped {b : TwoWay} (s : Session) (hw : writer = some b.tag) :
    Pass k bound key v writer [b.listener] s s := by
  refine ⟨rfl, rfl, fun c _ _ hl hc => ?_, fun _ _ hv _ => hv, fun _ _ _ => rfl⟩
  have hl := List.mem_singleton.mp hl
  rw [TwoWay.listener, TwoWay.listener] at hl
  injection hl with _ _ hl
  exact (hc (hw.trans hl.symm)).elim

/-- Another field of the family loads the value. -/
theorem Pass.loaded (hF : Family k bound) (hs : Shared k bound s) {b : TwoWay} (hb : b ∈ bound)
    (hw : writer ≠ some b.tag) :
    Pass k bound k v writer [b.listener] s (s.shown b.element v) := by
  have hv := s.shows_shown (hs.within b hb) v
  refine ⟨rfl, List.length_modify .., fun c hc _ hl _ => ?_, fun c hc hkeep _ => ?_,
    fun c hc hown => ?_⟩
  · have hl := List.mem_singleton.mp hl
    rw [TwoWay.listener, TwoWay.listener] at hl
    injection hl with _ hl
    rw [hl]
    exact hv
  · by_cases he : b.element = c.element
    · rw [← he]
      exact hv
    · rw [s.element_shown_ne he]
      exact hkeep
  · refine s.element_shown_ne (fun he => ?_) v
    obtain rfl := hF.same_element hb hc he
    exact hown.elim (fun h => h rfl) hw

/-- Each listener of a write ends, and does its part of the pass. -/
theorem Pass.single (writer : Option Source) (n : Nat) (hF : Family k bound) (hs : Shared k bound s)
    (hv : key = k → Table.find? s.values k = some v) {l : Listener} (hl : l ∈ s.audience key) :
    ∃ t, react (.listener l key v writer) (cascade (n+2)) s = some (.ok (), t) ∧
      Pass k bound key v writer [l] s t := by
  obtain ⟨b, hb, rfl, rfl⟩ | ⟨directive, e, source, rfl, he⟩ := hs.audience hF hl
  · have ha := hF.assigns b hb
    by_cases hw : writer = some b.tag
    · subst hw
      exact ⟨s, run_hear_own .., .skipped s rfl⟩
    · exact ⟨_, run_hear_assign hw ha.load (hv rfl) hs.evaluators (hs.onlySaves _),
        .loaded hF hs hb hw⟩
  · obtain ⟨t, hr, ht⟩ := run_hear_load (n := n) directive source key v writer hs.evaluators
      (hs.onlySaves e)
    exact ⟨t, hr, .elsewhere ht he⟩

theorem Pass.all (writer : Option Source) (n : Nat) (hF : Family k bound) (hs : Shared k bound s)
    (hv : key = k → Table.find? s.values k = some v) {ls : List Listener}
    (hl : ∀ l ∈ ls, l ∈ s.audience key) :
    ∃ t, (do for l in ls do react (.listener l key v writer)) (cascade (n+2)) s =
      some (.ok (), t) ∧ Pass k bound key v writer ls s t := by
  induction ls generalizing s with
  | nil => exact ⟨s, by rw [forEach_nil, run_pure], .nil s⟩
  | cons l ls ih =>
      obtain ⟨u, hr, hp⟩ := Pass.single writer n hF hs hv (hl l (List.mem_cons_self ..))
      have hf := hp.frame
      have hu : u.audience key = s.audience key := by rw [hf]; rfl
      have hvu : key = k → Table.find? u.values k = some v := by rw [hf]; exact hv
      obtain ⟨t, ht, hq⟩ := ih (hp.shared hs) hvu fun m hm => by
        rw [hu]
        exact hl m (List.mem_cons_of_mem l hm)
      exact ⟨t, by rw [forEach_cons, run_bind_ok hr, ht], hp.cons hq⟩

/-- What an act leaves behind that writes the key if `wrote`: the wiring, the agreement of the
fields, which a write of the key brings about, and a value of the key, which is never lost. -/
structure Advances (k : String) (bound : List TwoWay) (wrote : Prop) (s t : Session) : Prop where
  shared : Shared k bound t
  agreed : wrote ∨ Agreed k bound s → Agreed k bound t
  set : wrote ∨ (∃ v, Table.find? s.values k = some v) → ∃ v, Table.find? t.values k = some v

theorem Advances.refl (h : Shared k bound s) : Advances k bound False s s :=
  ⟨h, fun h => h.resolve_left id, fun h => h.resolve_left id⟩

theorem Advances.trans {p q r : Prop} {u : Session} (h : Advances k bound p s u)
    (g : Advances k bound q u t) (hr : r → p ∨ q) : Advances k bound r s t where
  shared := g.shared
  agreed ha := by
    have hu : p ∨ q ∨ Agreed k bound s := or_assoc.mp (ha.imp_left hr)
    obtain hp | hq | hs := hu
    · exact g.agreed (.inr (h.agreed (.inl hp)))
    · exact g.agreed (.inl hq)
    · exact g.agreed (.inr (h.agreed (.inr hs)))
  set ha := by
    have hu : p ∨ q ∨ ∃ v, Table.find? s.values k = some v := or_assoc.mp (ha.imp_left hr)
    obtain hp | hq | hs := hu
    · exact g.set (.inr (h.set (.inl hp)))
    · exact g.set (.inl hq)
    · exact g.set (.inr (h.set (.inr hs)))

/-- Once the values are stored and all listeners have heard of it, all fields agree, provided that
the field whose source it is has shown the value before. -/
theorem Pass.advances (hs : Shared k bound s)
    (hw : key = k → ∀ b ∈ bound, writer = some b.tag →
      (s.element b.element).control.Shows s.settings.separators v)
    {s' : Session} (he : s' = { s with values := Table.put s.values key v, trace := s'.trace })
    (hp : Pass k bound key v writer (s'.audience key) s' t) : Advances k bound (key = k) s t := by
  have hs' : Shared k bound s' := by
    rw [he]
    exact hs.rewired rfl rfl rfl rfl rfl
  have hfind : Table.find? t.values k = if key = k then some v else Table.find? s.values k := by
    rw [hp.frame, he]
    exact Table.find?_put ..
  refine ⟨hp.shared hs', fun ha x hx b hb => ?_, fun ha => ?_⟩
  · have hset : t.settings = s.settings := by rw [hp.settings, he]
    have helem : s'.element b.element = s.element b.element := by rw [he]; rfl
    rw [hfind] at hx
    rw [hset]
    by_cases hk : key = k
    · rw [if_pos hk] at hx
      obtain rfl := Option.some.inj hx
      by_cases hown : writer = some b.tag
      · rw [hp.own b hb (.inr hown), helem]
        exact hw hk b hb hown
      · have := hp.shows b hb hk (hk ▸ hs'.heard hb) hown
        rwa [he] at this
    · rw [if_neg hk] at hx
      rw [hp.own b hb (.inl hk), helem]
      exact (ha.resolve_left hk) x hx b hb
  · by_cases hk : key = k
    · exact ⟨v, by rw [hfind, if_pos hk]⟩
    · obtain ⟨x, hx⟩ := ha.resolve_left hk
      exact ⟨x, by rw [hfind, if_neg hk, hx]⟩

theorem write_advances (key : String) (v : Json) (writer : Option Source) (n : Nat)
    (hF : Family k bound) (hs : Shared k bound s)
    (hw : key = k → ∀ b ∈ bound, writer = some b.tag →
      (s.element b.element).control.Shows s.settings.separators v) :
    ∃ t, discard (write key v writer) (cascade (n+2)) s = some (.ok (), t) ∧
      Advances k bound (key = k) s t := by
  let s' : Session := { s with values := Table.put s.values key v,
                               trace := .stored key v writer::s.trace }
  have hs' : Shared k bound s' := hs.rewired rfl rfl rfl rfl rfl
  have hv (hk : key = k) : Table.find? s'.values k = some v :=
    (Table.find?_put ..).trans (if_pos hk)
  obtain ⟨t, hr, hp⟩ := Pass.all writer n hF hs' hv fun l (hl : l ∈ s'.audience key) => hl
  have hn : notify key v writer (cascade (n+2)) s' = some (.ok (), t) := by
    rw [notify, run_bind_ok (run_gets _), hr]
  refine ⟨t, ?_, hp.advances hs hw rfl⟩
  rw [run_discard, write, run_bind_ok (run_gets _), run_bind_ok (run_store key v writer),
    run_bind_ok hn, run_pure]

/-- An edit of a field saves what the field shows. -/
theorem type_advances {n : Nat} (hF : Family k bound) (hs : Shared k bound s) {b : TwoWay}
    (hb : b ∈ bound) (text : String) :
    ∃ t, type b.element text (cascade (n+3)) s = some (.ok (), t) ∧
      Advances k bound True s t := by
  have ha := hF.assigns b hb
  let s' : Session := { s with elements := s.elements.modify b.element fun x =>
    { x with control := x.control.typed text } }
  have hs' : Shared k bound s' := hs.rewired rfl rfl rfl rfl (List.length_modify ..)
  obtain ⟨t, hr, ht⟩ := write_advances k (s'.element b.element).value (some b.tag) n hF hs'
    fun _ c hc htag => by
      obtain rfl := hF.same_tag hb hc (Option.some.inj htag)
      exact Control.shows_value ..
  refine ⟨t, ?_, ht.shared, fun _ => ht.agreed (.inl rfl), fun _ => ht.set (.inl rfl)⟩
  have hsave : execute .save b.directive none b.element (some b.tag) (cascade (n+2)) s' =
      some (.ok (), t) :=
    (run_save_assign (some b.tag) ha.save hs'.evaluators (.inl rfl)).trans hr
  have hhandle : react (.handler b.handler b.element) (cascade (n+3)) s' = some (.ok (), t) := by
    change handle b.handler b.element (cascade (n+2)) s' = _
    rw [TwoWay.handler, handle, run_bind_ok (run_gets _), if_pos hs'.loading, run_attempt, hsave]
    rfl
  have hraise : raise b.element .change (cascade (n+3)) s' = some (.ok (), t) := by
    rw [raise, run_bind_ok (run_gets _), hs'.saves b hb, forEach_cons, run_bind_ok hhandle,
      forEach_nil, run_pure]
  exact hraise

theorem merge_advances {n : Nat} (hF : Family k bound) (hs : Shared k bound s)
    (hw : ∀ b ∈ bound, writer ≠ some b.tag) :
    ∃ t, merge key v writer (cascade (n+2)) s = some (.ok (), t) ∧
      Advances k bound (key = k) s t := by
  have written (x : Json) := write_advances key x writer n hF hs
    fun _ b hb h => (hw b hb h).elim
  rw [merge, run_bind_ok (run_gets _)]
  cases Table.find? s.values key with
  | none => exact written v
  | some old =>
      obtain ⟨t, hr, ht⟩ := written (old.merge s.settings.separators v)
      refine ⟨t, ?_, ht⟩
      change (separators >>= fun sep => discard (write key (old.merge sep v) writer))
        (cascade (n+2)) s = _
      rw [separators, run_bind_ok (run_gets _), hr]

theorem writeAll_advances {n : Nat} (hF : Family k bound) (hs : Shared k bound s)
    (hw : ∀ b ∈ bound, writer ≠ some b.tag) (values : Fields) :
    ∃ t, writeAll values writer (cascade (n+2)) s = some (.ok (), t) ∧
      Advances k bound (k ∈ Table.keys values) s t := by
  induction values generalizing s with
  | nil => exact ⟨s, rfl, .trans (.refl hs) (.refl hs) fun h => (List.not_mem_nil h).elim⟩
  | cons entry values ih =>
      obtain ⟨key, v⟩ := entry
      obtain ⟨u, hr, hu⟩ := write_advances key v writer n hF hs
        fun _ b hb h => (hw b hb h).elim
      obtain ⟨t, ht, hall⟩ := ih hu.shared
      refine ⟨t, by rw [writeAll_cons, run_bind_ok hr, ht], hu.trans hall fun h => ?_⟩
      rw [Table.keys_cons, List.mem_cons] at h
      exact h.imp_left Eq.symm

/-- What may happen to the fields: a user edits one of them, or a write comes from outside. -/
def Deed.Admissible (bound : List TwoWay) : Deed → Prop
  | .type e _ => ∃ b ∈ bound, b.element = e
  | .write _ _ source | .merge _ _ source | .bulk _ source => ∀ b ∈ bound, source ≠ some b.tag
  | .put .. | .execute .. => False

/-- Whether `k` is written. Edits of the fields always write it. -/
def Deed.Writes (k : String) : Deed → Prop
  | .type .. => True
  | .write key _ _ | .merge key _ _ => key = k
  | .bulk values _ => k ∈ Table.keys values
  | .put .. | .execute .. => False

theorem Deed.advances {n : Nat} (hF : Family k bound) (hs : Shared k bound s) {d : Deed}
    (hd : d.Admissible bound) : ∃ t, d.act (cascade (n+3)) s = some (.ok (), t) ∧
      Advances k bound (d.Writes k) s t := by
  cases d with
  | type e text =>
      obtain ⟨b, hb, rfl⟩ := hd
      exact type_advances hF hs hb text
  | put e v => exact hd.elim
  | write key v source =>
      exact write_advances key v source (n+1) hF hs fun _ b hb h => (hd b hb h).elim
  | merge key v source => exact merge_advances (n := n+1) hF hs hd
  | bulk values source => exact writeAll_advances (n := n+1) hF hs hd values
  | execute t directives carried e source => exact hd.elim

/-- Deeds one after the other. -/
def Act.carryOut (ds : List Deed) : Act Unit := do
  for d in ds do
    d.act

theorem carryOut_advances {n : Nat} (hF : Family k bound) (hs : Shared k bound s) {ds : List Deed}
    (hd : ∀ d ∈ ds, d.Admissible bound) : ∃ t, carryOut ds (cascade (n+3)) s = some (.ok (), t) ∧
      Advances k bound (∃ d ∈ ds, d.Writes k) s t := by
  induction ds generalizing s with
  | nil =>
      refine ⟨s, by rw [carryOut, forEach_nil, run_pure], .trans (.refl hs) (.refl hs) ?_⟩
      exact fun ⟨d, hd, _⟩ => (List.not_mem_nil hd).elim
  | cons d ds ih =>
      obtain ⟨u, hr, hu⟩ := Deed.advances (n := n) hF hs (hd d (List.mem_cons_self ..))
      obtain ⟨t, ht, hall⟩ := ih hu.shared fun x hx => hd x (List.mem_cons_of_mem d hx)
      refine ⟨t, ?_, hu.trans hall fun ⟨x, hx, hw⟩ => ?_⟩
      · rw [carryOut, forEach_cons, run_bind_ok hr]
        exact ht
      · rcases List.mem_cons.mp hx with rfl | hx
        · exact .inl hw
        · exact .inr ⟨x, hx, hw⟩

/-- Wires connections in order. -/
def Act.wire (conns : List Connection) : Act Unit := do
  for c in conns do
    connect c.trigger c.directive c.element c.source

/-- The handler that a save connection registers. -/
def Connection.registration? (c : Connection) : Option Registration :=
  match c.trigger with
  | .save => some ⟨c.element, .change, .save c.directive c.source⟩
  | .load => none

/-- The listener that a load connection registers. -/
def Connection.subscription? (c : Connection) : Option (String × Listener) :=
  match c.trigger with
  | .save => none
  | .load => some ((Directive.parse c.directive).key, .load c.directive c.element c.source)

/-- The session with more connections. -/
def Session.wired (s : Session) (conns : List Connection) : Session :=
  { s with handlers := s.handlers ++ conns.filterMap Connection.registration?,
           listeners := s.listeners ++ conns.filterMap Connection.subscription? }

theorem run_wire {carry : React} (hs : s.connectors = []) (conns : List Connection) :
    wire conns carry s = some (.ok (), s.wired conns) := by
  induction conns generalizing s with
  | nil => simp [wire, Session.wired, run_pure]
  | cons c conns ih =>
      obtain ⟨trigger, directive, e, source⟩ := c
      have hone : connect trigger directive e source carry s =
          some (.ok (), s.wired [⟨trigger, directive, e, source⟩]) := by
        simp only [Act.connect]
        rw [run_bind_ok (run_gets _), hs]
        cases trigger with
        | save =>
            simp [Session.wired, Connection.registration?, Connection.subscription?, Act.onEvent,
              run_change]
        | load =>
            simp [Session.wired, Connection.registration?, Connection.subscription?, Act.listen,
              run_change]
      have hrest := ih (s := s.wired [⟨trigger, directive, e, source⟩]) hs
      rw [wire, forEach_cons, run_bind_ok hone]
      refine hrest.trans ?_
      simp only [Session.wired, List.append_assoc, ← List.filterMap_append, List.singleton_append]

/-- A session in which nothing is registered. -/
structure Session.Unwired (s : Session) : Prop where
  evaluators : s.evaluators = []
  connectors : s.connectors = []
  listeners : s.listeners = []
  handlers : s.handlers = []
  loading : s.loading = 0

/-- Of all connections beside the fields none saves. -/
theorem registrations_eq (bound : List TwoWay) {loads : List Connection}
    (hl : ∀ c ∈ loads, c.trigger = .load) :
    (bound.flatMap TwoWay.connections ++ loads).filterMap Connection.registration? =
      bound.map fun b => ⟨b.element, .change, b.handler⟩ := by
  have hnone : loads.filterMap Connection.registration? = [] := by
    refine List.filterMap_eq_nil_iff.mpr fun c hc => ?_
    simp [Connection.registration?, hl c hc]
  rw [List.filterMap_append, hnone, List.append_nil]
  induction bound with
  | nil => rfl
  | cons b bound ih =>
      rw [List.flatMap_cons, List.filterMap_append, ih]
      rfl

/-- One item has a given key, where keys are distinct. -/
theorem filter_key_eq {α β : Type} [DecidableEq β] {f : α → β} {l : List α} {a : α}
    (hl : (l.map f).Nodup) (ha : a ∈ l) : l.filter (fun x => f x = f a) = [a] := by
  induction l with
  | nil => cases ha
  | cons x l ih =>
      rw [List.map_cons, List.nodup_cons] at hl
      rcases List.mem_cons.mp ha with rfl | hm
      · have hrest : l.filter (fun y => f y = f a) = [] := by
          refine List.filter_eq_nil_iff.mpr fun y hy he => hl.1 ?_
          have he : f y = f a := of_decide_eq_true he
          exact he ▸ List.mem_map_of_mem hy
        rw [List.filter_cons_of_pos (by simp), hrest]
      · have hne : f x ≠ f a := fun he => hl.1 (he ▸ List.mem_map_of_mem hm)
        rw [List.filter_cons_of_neg (by simpa using hne), ih hl.2 hm]

variable {loads conns : List Connection}

theorem handlersOf_wired (hs : s.Unwired) (hl : ∀ c ∈ loads, c.trigger = .load)
    (hc : conns.Perm (bound.flatMap TwoWay.connections ++ loads)) (e : ElementRef) :
    ((s.wired conns).handlersOf e .change).Perm
      ((bound.filter (·.element = e)).map TwoWay.handler) := by
  have hreg : (s.wired conns).handlers.Perm
      (bound.map fun b => ⟨b.element, .change, b.handler⟩) := by
    rw [Session.wired, hs.handlers, List.nil_append, ← registrations_eq bound hl]
    exact hc.filterMap _
  have hmap := (hreg.filter fun r => r.element = e && r.event = .change).map (·.handler)
  rw [List.filter_map, List.map_map] at hmap
  simpa [Session.handlersOf, Function.comp_def] using hmap

/-- Wiring the fields and the loads, in whatever order, shares the key. -/
theorem shared_wired (hF : Family k bound) (hs : s.Unwired)
    (hl : ∀ c ∈ loads, c.trigger = .load ∧ ∀ b ∈ bound, b.element ≠ c.element)
    (hc : conns.Perm (bound.flatMap TwoWay.connections ++ loads))
    (hn : ∀ b ∈ bound, b.element < s.elements.length) : Shared k bound (s.wired conns) where
  evaluators := hs.evaluators
  loading := hs.loading
  listeners p hp := by
    rw [Session.wired, hs.listeners, List.nil_append, List.mem_filterMap] at hp
    obtain ⟨c, hm, hcp⟩ := hp
    obtain ⟨trigger, directive, e, source⟩ := c
    rcases List.mem_append.mp (hc.mem_iff.mp hm) with hm | hm
    · obtain ⟨b, hb, hm⟩ := List.mem_flatMap.mp hm
      simp only [TwoWay.connections, List.mem_cons, List.not_mem_nil, or_false] at hm
      rcases hm with hm | hm
      · cases hm
        cases hcp
      · cases hm
        cases hcp
        refine .inl ⟨b, hb, ?_⟩
        rw [(hF.assigns b hb).key]
        rfl
    · obtain ⟨ht, he⟩ := hl _ hm
      dsimp only at ht
      subst ht
      cases hcp
      exact .inr ⟨directive, e, source, rfl, he⟩
  hears b hb := by
    rw [Session.wired, hs.listeners, List.nil_append, List.mem_filterMap]
    have hm : ⟨.load, b.directive, b.element, some b.tag⟩ ∈ conns := by
      refine hc.mem_iff.mpr (List.mem_append_left _ (List.mem_flatMap.mpr ⟨b, hb, ?_⟩))
      simp [TwoWay.connections]
    refine ⟨_, hm, ?_⟩
    simp [Connection.subscription?, (hF.assigns b hb).key, TwoWay.listener]
  saves b hb := by
    have hp := handlersOf_wired hs (fun c hm => (hl c hm).1) hc b.element
    rw [filter_key_eq hF.elements hb] at hp
    exact List.perm_singleton.mp hp
  others e he := by
    have hp := handlersOf_wired hs (fun c hm => (hl c hm).1) hc e
    have hnone : bound.filter (·.element = e) = [] :=
      List.filter_eq_nil_iff.mpr fun b hb h => he b hb (of_decide_eq_true h)
    rw [hnone] at hp
    exact List.perm_nil.mp hp
  within := hn

/-- Fields bound both ways to one key agree on its value after any edits and writes: once the key
has been written, each of them shows the value that the key holds. The key counts as written if
it was unset before and has a value, or if one of the deeds has written it. -/
theorem two_way_fields_agree (hF : Family k bound) (hs : s.Unwired)
    (hl : ∀ c ∈ loads, c.trigger = .load ∧ ∀ b ∈ bound, b.element ≠ c.element)
    (hc : conns.Perm (bound.flatMap TwoWay.connections ++ loads))
    (hn : ∀ b ∈ bound, b.element < s.elements.length) {ds : List Deed}
    (hd : ∀ d ∈ ds, d.Admissible bound) (n : Nat) :
    ∃ t, (do wire conns; carryOut ds).settle (n+3) s = some (.ok (), t) ∧
      ((∃ d ∈ ds, d.Writes k) → ∃ v, Table.find? t.values k = some v) ∧
      (Table.find? s.values k = none ∨ (∃ d ∈ ds, d.Writes k) →
        ∀ v, Table.find? t.values k = some v → ∀ b ∈ bound,
          (t.element b.element).control.Shows t.settings.separators v) := by
  have hshared := shared_wired hF hs hl hc hn
  obtain ⟨t, hr, ht⟩ := carryOut_advances (n := n) hF hshared hd
  refine ⟨t, ?_, fun hw => ht.set (.inl hw), fun hw => ht.agreed ?_⟩
  · rw [settle, run_bind_ok (run_wire hs.connectors conns)]
    exact hr
  · refine hw.symm.imp_right fun hnone v hv => ?_
    have hnone : Table.find? (s.wired conns).values k = none := hnone
    rw [hnone] at hv
    cases hv

end

/-- A check box, an input and a plain element under one key. -/
def mixedFields : List TwoWay :=
  [⟨"k", 0, ⟨"a"⟩⟩, ⟨"*=k", 1, ⟨"b"⟩⟩, ⟨"=*k", 2, ⟨"c"⟩⟩]

def mixedSession : Session :=
  { elements := [{ control := .checkbox true }, { control := .input "" }, {}, {}] }

theorem mixedFields_family : Family "k" mixedFields where
  proper := by decide
  assigns b hb := by
    simp only [mixedFields, List.mem_cons, List.not_mem_nil, or_false] at hb
    rcases hb with rfl | rfl | rfl <;> exact ⟨rfl, rfl, rfl, rfl⟩
  elements := by decide
  tags := by decide

/-- The check box is switched off beside a count that fails, and the value is overwritten by a
list, to which a merge adds a number. -/
theorem two_way_fields_agree_mixed : ∃ t v,
    (do
      wire (⟨.load, "<#k", 3, none⟩::mixedFields.flatMap TwoWay.connections)
      carryOut [.type 0 "false", .bulk [("j", .null), ("k", .texts ["x", "y"])] none,
        .merge "k" (.whole 7) (some ⟨"d"⟩)]).settle 3 mixedSession = some (.ok (), t) ∧
    Table.find? t.values "k" = some v ∧ ∀ b ∈ mixedFields,
      (t.element b.element).control.Shows t.settings.separators v := by
  have hd : ∀ d ∈ [Deed.type 0 "false", .bulk [("j", .null), ("k", .texts ["x", "y"])] none,
      .merge "k" (.whole 7) (some ⟨"d"⟩)], d.Admissible mixedFields := by
    intro d hd
    simp only [List.mem_cons, List.not_mem_nil, or_false] at hd
    rcases hd with rfl | rfl | rfl
    · exact ⟨⟨"k", 0, ⟨"a"⟩⟩, by simp [mixedFields], rfl⟩
    · exact fun _ _ => nofun
    · simp [Deed.Admissible, mixedFields]
  have hl : ∀ c ∈ [(⟨.load, "<#k", 3, none⟩ : Connection)],
      c.trigger = .load ∧ ∀ b ∈ mixedFields, b.element ≠ c.element := by simp [mixedFields]
  obtain ⟨t, hr, hset, hshows⟩ := two_way_fields_agree mixedFields_family (s := mixedSession)
    ⟨rfl, rfl, rfl, rfl, rfl⟩ hl List.perm_append_comm (by simp [mixedFields, mixedSession]) hd 0
  have hw : ∃ d ∈ [Deed.type 0 "false", .bulk [("j", .null), ("k", .texts ["x", "y"])] none,
      .merge "k" (.whole 7) (some ⟨"d"⟩)], d.Writes "k" := ⟨_, List.mem_cons_self .., trivial⟩
  obtain ⟨v, hv⟩ := hset hw
  exact ⟨t, v, hr, hv, hshows (.inr hw) v hv⟩

end ScreenBinding
