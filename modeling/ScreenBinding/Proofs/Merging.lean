import ScreenBinding.Proofs.DelimitedTexts
import ScreenBinding.Proofs.LoadedValues
import ScreenBinding.Proofs.Notices

/-!
# Runs of merges

Values from any sources are merged into one key, one after the other. A list takes in lists and
single items, a text takes in texts token by token, and an object takes in objects field by field.
What has come in is neither lost nor reordered, nor are repetitions dropped. Each merge is one
write of the key, and its listeners are told of what the key holds from then on.

The listeners may do anything but write. How often a listener is told depends on its own key and
on the key that is merged into: once, unless both are the wildcard key.
-/
namespace ScreenBinding
open Act

namespace Json
variable {sep : Separators}

/-- A list, or what a list takes in as one item. -/
def Listable : Json → Prop
  | null | object _ => False
  | _ => True

/-- What a value becomes when others are merged into it, in order. -/
def mergeAll (sep : Separators) (v : Json) (incoming : List Json) : Json :=
  incoming.foldl (merge sep) v

theorem merge_array {v : Json} (h : v.Listable) (items : List Json) :
    (array items).merge sep v = .array (items ++ v.toItems) := by
  cases v with
  | null => exact h.elim
  | object fields => exact h.elim
  | array more => rfl
  | bool b => rfl
  | number n => rfl
  | string s => rfl

theorem mergeAll_array {incoming : List Json} (h : ∀ v ∈ incoming, v.Listable)
    (items : List Json) :
    (array items).mergeAll sep incoming = .array (items ++ incoming.flatMap toItems) := by
  induction incoming generalizing items with
  | nil => rw [List.flatMap_nil, List.append_nil]; rfl
  | cons v incoming ih =>
      have hrest := ih (fun w hw => h w (List.mem_cons_of_mem v hw)) (items ++ v.toItems)
      rw [mergeAll, List.foldl_cons, merge_array (h v (List.mem_cons_self ..)), List.flatMap_cons,
        ← List.append_assoc]
      exact hrest

/-- The tokens of both texts, joined, are their tokens again. -/
theorem mergeAll_string (hj : sep.Rejoins) (text : String) (texts : List String) :
    ∃ merged, (string text).mergeAll sep (texts.map string) = .string merged ∧
      sep.split merged = sep.split text ++ texts.flatMap sep.split := by
  induction texts generalizing text with
  | nil => exact ⟨text, rfl, by rw [List.flatMap_nil, List.append_nil]⟩
  | cons a texts ih =>
      obtain ⟨merged, hm, hsplit⟩ := ih (sep.join (sep.split text ++ sep.split a))
      have htokens : ∀ t ∈ sep.split text ++ sep.split a, sep.IsToken t := by
        intro t ht
        rcases List.mem_append.mp ht with ht | ht
        · exact Separators.isToken_of_mem_split ht
        · exact Separators.isToken_of_mem_split ht
      refine ⟨merged, hm, ?_⟩
      rw [hsplit, Separators.split_join_tokens hj htokens, List.flatMap_cons, List.append_assoc]

theorem mergeAll_object (fields : Fields) (patches : List Fields) :
    (object fields).mergeAll sep (patches.map object) =
      .object (Table.overlay fields patches.flatten) := by
  induction patches generalizing fields with
  | nil => rfl
  | cons u patches ih =>
      have hoverlay : Table.overlay fields (u::patches).flatten =
          Table.overlay (Table.overlay fields u) patches.flatten := by
        rw [List.flatten_cons, Table.overlay, List.foldl_append]
        rfl
      rw [hoverlay, ← ih]
      rfl

end Json

/-- What a key holds once a value is merged into it. -/
def Session.merged (s : Session) (key : String) (v : Json) : Json :=
  match Table.find? s.values key with
  | some old => old.merge s.settings.separators v
  | none => v

/-- Merges values into one key, each under its own source. -/
def Act.mergeEach (key : String) (incoming : List (Json × Option Source)) : Act Unit := do
  for p in incoming do
    merge key p.1 p.2

/-- No listener of the key writes: in sessions of some kind each of them ends without a write, and
the session is of that kind again, as it is when a value has been stored under the key. -/
structure Unechoed (n : Nat) (key : String) (P : Session → Prop) : Prop where
  stored {s : Session} : P s → ∀ v source, P (s.storing key v source)
  told {s : Session} {l : Listener} : P s → l ∈ s.audience key → ∀ v source, ∃ t,
    react (.listener l key v source) (cascade n) s = some (.ok (), t) ∧ t.writes = s.writes ∧ P t

/-- Quiet listeners do not write. -/
theorem unechoed_linked (n : Nat) (key : String) (saves : List Connection) (depth : Nat) :
    Unechoed (n+3) key (Linked saves depth) where
  stored h v source := h.wrote (.stored _ key v source)
  told {s l} h hl v source := by
    obtain ⟨_, t, ws, hr, ht, hws⟩ := hear_quiet (n := n) (h.audience hl) key v source s h
    obtain rfl : ws = [] := List.map_eq_nil_iff.mp hws
    exact ⟨t, hr, ht.writes.trans (List.append_nil _), h.wrote ht⟩

/-- Whoever listens goes on listening. -/
theorem Session.audience_subset {s t : Session} (h : s.listeners <+: t.listeners) (key : String) :
    s.audience key ⊆ t.audience key := by
  have hkey (k : String) : s.listenersOf k ⊆ t.listenersOf k :=
    ((h.sublist.filter _).map _).subset
  exact List.append_subset.mpr ⟨fun _ hl => List.mem_append_left _ (hkey key hl),
    fun _ hl => List.mem_append_right _ (hkey wildcard hl)⟩

section
variable {n : Nat} {key : String} {P : Session → Prop} {s : Session}

/-- Listeners that do not write are called one after the other, and all is as it was stored. -/
theorem Unechoed.notified (h : Unechoed n key P) (v : Json) (source : Option Source)
    {callees : List (Nat × Listener)} (hs : P s) (hl : ∀ p ∈ callees, p.2 ∈ s.audience key) :
    ∃ calls t, Notified (cascade n) key v source s calls t ∧
      calls.map Notice.registration = callees ∧ t.writes = s.writes ∧ P t := by
  induction callees generalizing s with
  | nil => exact ⟨[], s, .nil s, rfl, rfl, hs⟩
  | cons p callees ih =>
      obtain ⟨i, l⟩ := p
      obtain ⟨u, hu, hw, hPu⟩ := h.told hs (hl _ (List.mem_cons_self ..)) v source
      -- those who are still to be called still listen, whoever has come to listen meanwhile
      have hgrown : s.audience key ⊆ u.audience key :=
        Session.audience_subset (cascade_respects respected_listeners n _ s _ u hu) key
      obtain ⟨calls, t, hcalls, hplaces, hwt, hPt⟩ :=
        ih hPu fun q hq => hgrown (hl q (List.mem_cons_of_mem _ hq))
      refine ⟨⟨i, l, s, u⟩::calls, t, .cons (c := ⟨i, l, s, u⟩) hu hcalls, ?_, hwt.trans hw, hPt⟩
      rw [List.map_cons, hplaces]
      rfl

end

/-- A merge: what came in and from where, what the key holds from then on, and who was told. -/
structure Round where
  incoming : Json
  source : Option Source
  value : Json
  notices : List Notice

def Round.call (r : Round) : Json × Option Source := (r.incoming, r.source)

def Round.write (key : String) (r : Round) : Write := ⟨key, r.value, r.source⟩

/-- One merge into a key: the merged value is stored, all who listen are told of it under the
source that merges, and nothing else is written. -/
structure MergesTo (carry : React) (key : String) (s : Session) (r : Round) (t : Session) :
    Prop where
  value : r.value = s.merged key r.incoming
  notified : Notified carry key r.value r.source (s.storing key r.value r.source) r.notices t
  callees : r.notices.map Notice.registration = s.callees key
  writes : t.writes = s.writes ++ [r.write key]
  values : t.values = Table.put s.values key r.value
  listeners : s.listeners <+: t.listeners
  settings : t.settings = s.settings

/-- Merges into one key, one after the other. -/
inductive Merges (carry : React) (key : String) : Session → List Round → Session → Prop
  | nil (s : Session) : Merges carry key s [] s
  | cons {s t u : Session} {r : Round} {rounds : List Round} : MergesTo carry key s r t →
      Merges carry key t rounds u → Merges carry key s (r::rounds) u

section
variable {n : Nat} {key : String} {P : Session → Prop} {s t : Session}

/-- A merge is a write of the merged value. -/
theorem run_merge (carry : React) (s : Session) (key : String) (v : Json)
    (source : Option Source) : merge key v source carry s =
      discard (write key (s.merged key v) source) carry s := by
  rw [merge, run_bind_ok (run_gets _), Session.merged]
  cases Table.find? s.values key <;> rfl

theorem Unechoed.merges_once (h : Unechoed n key P) (hs : P s) (v : Json)
    (source : Option Source) : ∃ r t, merge key v source (cascade n) s = some (.ok (), t) ∧
      r.call = (v, source) ∧ MergesTo (cascade n) key s r t ∧ P t := by
  let u := s.storing key (s.merged key v) source
  have hlisten : ∀ p ∈ s.callees key, p.2 ∈ u.audience key := fun p hp => by
    have hmem := List.mem_map_of_mem (f := Prod.snd) hp
    rwa [s.callees_audience] at hmem
  obtain ⟨notices, t, hn, hcallees, hwrites, hPt⟩ :=
    h.notified (s.merged key v) source (h.stored hs _ source) hlisten
  have hrun : write key (s.merged key v) source (cascade n) s =
      some (.ok (Table.find? s.values key), t) :=
    (run_write_iff fun l => faultless_listener n l _ _ _).mpr ⟨rfl, notices, hn, hcallees⟩
  have hstored := (Session.Wrote.stored s key (s.merged key v) source).writes
  have hmerge : merge key v source (cascade n) s = some (.ok (), t) := by
    rw [run_merge, run_discard, hrun]
  exact ⟨⟨v, source, s.merged key v, notices⟩, t, hmerge, rfl,
    { value := rfl, notified := hn, callees := hcallees, writes := hwrites.trans hstored,
      values := (hn.respects Session.accounted_respected).unwritten hwrites,
      listeners := hn.respects respected_listeners,
      settings := hn.respects Session.respected_settings }, hPt⟩

theorem Unechoed.merges (h : Unechoed n key P) (hs : P s)
    (incoming : List (Json × Option Source)) : ∃ rounds t,
      mergeEach key incoming (cascade n) s = some (.ok (), t) ∧
      rounds.map Round.call = incoming ∧ Merges (cascade n) key s rounds t := by
  induction incoming generalizing s with
  | nil => exact ⟨[], s, rfl, rfl, .nil s⟩
  | cons p incoming ih =>
      obtain ⟨r, u, hr, hcall, hround, hPu⟩ := h.merges_once hs p.1 p.2
      obtain ⟨rounds, t, ht, hcalls, hrounds⟩ := ih hPu
      refine ⟨r::rounds, t, ?_, ?_, .cons hround hrounds⟩
      · rw [mergeEach, forEach_cons, run_bind_ok hr]
        exact ht
      · rw [List.map_cons, hcall, hcalls]

end

/-- What has become of a session in which values were merged into a key. A list keeps its items in
front of those that came in; a text keeps its tokens in front of those that came in, if the joiner
is made of separators; and in an object each field holds what came in last, at the place where it
first stood. -/
structure Accumulated (n : Nat) (key : String) (incoming : List Json) (s t : Session) : Prop where
  others : ∀ other, other ≠ key → Table.find? t.values other = Table.find? s.values other
  order : key ∈ Table.keys s.values → Table.keys t.values = Table.keys s.values
  list : ∀ items, Table.find? s.values key = some (.array items) →
    (∀ v ∈ incoming, v.Listable) → ∃ before,
      (getList key).settle n s = some (.ok before, s) ∧
      (getList key).settle n t = some (.ok (before ++ incoming.flatMap fun v =>
        v.toItems.map s.settings.separators.textOf), t)
  text : ∀ a (texts : List String), Table.find? s.values key = some (.string a) →
    incoming = texts.map .string → s.settings.separators.Rejoins → ∃ before,
      (getList key).settle n s = some (.ok before, s) ∧
      (getList key).settle n t =
        some (.ok (before ++ texts.flatMap s.settings.separators.split), t)
  object : ∀ fields (patches : List Fields), Table.find? s.values key = some (.object fields) →
    incoming = patches.map .object → ∃ result,
      Table.find? t.values key = some (.object result) ∧
      (∀ sub, Table.find? result sub = Table.find? (patches.flatten.reverse ++ fields) sub) ∧
      Table.keys result = Table.keys fields ++
        ((Table.keys patches.flatten).filter (· ∉ Table.keys fields)).eraseDups

namespace Merges
variable {carry : React} {key : String} {s t : Session} {rounds : List Round}

theorem settings (h : Merges carry key s rounds t) : t.settings = s.settings := by
  induction h with
  | nil => rfl
  | cons hr _ ih => exact ih.trans hr.settings

/-- Each merge is one write. -/
theorem writes (h : Merges carry key s rounds t) :
    t.writes = s.writes ++ rounds.map (Round.write key) := by
  induction h with
  | nil => exact (List.append_nil _).symm
  | cons hr _ ih => rw [ih, hr.writes, List.append_assoc, List.map_cons, List.singleton_append]

theorem find?_of_ne (h : Merges carry key s rounds t) {other : String} (ho : other ≠ key) :
    Table.find? t.values other = Table.find? s.values other := by
  induction h with
  | nil => rfl
  | cons hr _ ih => rw [ih, hr.values, Table.find?_put, if_neg ho.symm]

theorem keys_of_mem (h : Merges carry key s rounds t) (hk : key ∈ Table.keys s.values) :
    Table.keys t.values = Table.keys s.values := by
  induction h with
  | nil => rfl
  | @cons s u t r rounds hr _ ih =>
      have hput : Table.keys (Table.put s.values key r.value) = Table.keys s.values := by
        rw [Table.keys_put, if_pos hk]
      rw [← hr.values] at hput
      exact (ih (hput ▸ hk)).trans hput

/-- The key holds what its value became. -/
theorem find?_of_some (h : Merges carry key s rounds t) {v : Json}
    (hv : Table.find? s.values key = some v) : Table.find? t.values key =
      some (v.mergeAll s.settings.separators (rounds.map Round.incoming)) := by
  induction h generalizing v with
  | nil => exact hv
  | @cons s u t r rounds hr _ ih =>
      have hvalue : r.value = v.merge s.settings.separators r.incoming := by
        rw [hr.value, Session.merged, hv]
      have hu : Table.find? u.values key = some r.value := by
        rw [hr.values, Table.find?_put, if_pos rfl]
      rw [ih hu, hr.settings, hvalue]
      rfl

/-- A registration is called once for its own key, and once as a wildcard. -/
theorem count_place (h : Merges carry key s rounds t) {i : Nat} {k : String} {l : Listener}
    (hi : s.listeners[i]? = some (k, l)) : ∀ r ∈ rounds, (r.notices.map Notice.place).count i =
      (if k = key then 1 else 0) + if k = wildcard then 1 else 0 := by
  induction h with
  | nil => exact List.forall_mem_nil _
  | @cons s u t r rounds hr _ ih =>
      have hgrown : u.listeners[i]? = some (k, l) := by
        obtain ⟨more, hmore⟩ := hr.listeners
        rw [← hmore, List.getElem?_append_left (List.getElem?_eq_some_iff.mp hi).1, hi]
      refine List.forall_mem_cons.mpr ⟨?_, ih hgrown⟩
      rw [(registrations_eq_iff.mp hr.callees).1, List.count_append,
        (s.places_placed key).count_eq hi, (s.places_placed wildcard).count_eq hi]

theorem accumulated (h : Merges carry key s rounds t) (n : Nat) :
    Accumulated n key (rounds.map Round.incoming) s t where
  others _ := h.find?_of_ne
  order := h.keys_of_mem
  list items hv hall := by
    have hafter := h.find?_of_some hv
    rw [Json.mergeAll_array hall] at hafter
    refine ⟨_, run_listed hv, ?_⟩
    rw [run_listed hafter, h.settings]
    simp only [Separators.listOf, Separators.textsOf_eq_map, List.map_append, List.map_flatMap]
  text a texts hv htexts hj := by
    have hafter := h.find?_of_some hv
    obtain ⟨merged, hmerged, hsplit⟩ := Json.mergeAll_string hj a texts
    rw [htexts, hmerged] at hafter
    refine ⟨_, run_listed hv, ?_⟩
    rw [run_listed hafter, h.settings, Separators.listOf, hsplit]
  object fields patches hv hpatches := by
    have hafter := h.find?_of_some hv
    rw [hpatches, Json.mergeAll_object] at hafter
    exact ⟨_, hafter, fun sub => Table.find?_overlay .., Table.keys_overlay ..⟩

end Merges

/-- Values merged into a key accumulate there. Each merge is one write of what the key holds from
then on, under the source that merges; the listeners of the key are told of it, once for each
registration unless the key is the wildcard key, and no other key changes. -/
theorem merges_accumulate {n : Nat} {key : String} {P : Session → Prop} (h : Unechoed n key P)
    {s : Session} (hs : P s) (incoming : List (Json × Option Source)) : ∃ rounds t,
      (mergeEach key incoming).settle n s = some (.ok (), t) ∧
      rounds.map Round.call = incoming ∧ Merges (cascade n) key s rounds t ∧
      t.writes = s.writes ++ rounds.map (Round.write key) ∧
      (∀ i k l, s.listeners[i]? = some (k, l) → ∀ r ∈ rounds,
        (r.notices.map Notice.place).count i =
          (if k = key then 1 else 0) + if k = wildcard then 1 else 0) ∧
      Accumulated n key (incoming.map Prod.fst) s t := by
  obtain ⟨rounds, t, hrun, hcalls, hrounds⟩ := h.merges hs incoming
  have hcame : rounds.map Round.incoming = incoming.map Prod.fst := by
    rw [← hcalls, List.map_map]
    rfl
  exact ⟨rounds, t, hrun, hcalls, hrounds, hrounds.writes, fun i k l => hrounds.count_place,
    hcame ▸ hrounds.accumulated n⟩

/-- Two texts merged into a third, with a joiner of two delimiters. -/
theorem merges_accumulate_texts : ∃ s, ∃ rounds : List Round, ∃ t,
    s.listeners = [(wildcard, .journal), ("k", .load "<#k" 0 none),
      ("k", .report "r" [.host (.note "n")])] ∧
    (mergeEach "k" [(.string "b;a", none), (.string " c ", some ⟨"x"⟩)]).settle 3 s =
      some (.ok (), t) ∧
    t.writes = s.writes ++ rounds.map (Round.write "k") ∧
    rounds.map Round.source = [none, some ⟨"x"⟩] ∧
    (∀ r ∈ rounds, ∀ i < 3, (r.notices.map Notice.place).count i = 1) ∧
    (getList "k").settle 3 t = some (.ok ["a", "b", "b", "a", "c"], t) := by
  let s : Session :=
    { settings := { separators := { delimiters := ";", joiner := ";;" } },
      values := [("j", .null), ("k", .string "a b")],
      elements := [{ control := .input "" }],
      listeners := [(wildcard, .journal), ("k", .load "<#k" 0 none),
        ("k", .report "r" [.host (.note "n")])] }
  have hs : Linked [] 0 s := by
    refine ⟨rfl, rfl, ?_, ?_, rfl, rfl⟩
    · simpa [s, Listener.Quiet] using quietScript_notes ["n"]
    · simp [s]
  obtain ⟨rounds, t, hrun, hcalls, -, hwrites, hcount, hacc⟩ := merges_accumulate
    (unechoed_linked 0 "k" [] 0) hs [(.string "b;a", none), (.string " c ", some ⟨"x"⟩)]
  have hsources : rounds.map Round.source = [none, some ⟨"x"⟩] := by
    have := congrArg (List.map Prod.snd) hcalls
    rwa [List.map_map] at this
  have hj : s.settings.separators.Rejoins := by decide
  have hfirst : s.settings.separators.split "a b" = ["a", "b"] := by decide +kernel
  have hmore : ["b;a", " c "].flatMap s.settings.separators.split = ["b", "a", "c"] := by
    decide +kernel
  obtain ⟨before, hbefore, hafter⟩ := hacc.text "a b" ["b;a", " c "] rfl rfl hj
  have hlisted : (getList "k").settle 3 s = some (.ok (s.settings.separators.split "a b"), s) :=
    run_listed (v := .string "a b") rfl
  cases hbefore.symm.trans hlisted
  rw [hfirst, hmore] at hafter
  refine ⟨s, rounds, t, rfl, hrun, hwrites, hsources, fun r hr i hi => ?_, hafter⟩
  rcases i with _ | _ | _ | i
  · exact hcount 0 wildcard _ rfl r hr
  · exact hcount 1 "k" _ rfl r hr
  · exact hcount 2 "k" _ rfl r hr
  · omega

/-- A merge into a list under the wildcard key tells its one registration twice. -/
theorem wildcard_merge_told_twice : ∃ s t, s.listeners = [(wildcard, .report "w" [])] ∧
    s.values = [(wildcard, .array [.whole 0])] ∧
    (run (.state (.merge wildcard (.array [.whole 1]) none))).settle 2 s =
      some (.ok (.value (.array [.whole 0, .whole 1])), t) ∧
    t.trace = [.heard "w" wildcard (.array [.whole 0, .whole 1]) none,
      .heard "w" wildcard (.array [.whole 0, .whole 1]) none,
      .stored wildcard (.array [.whole 0, .whole 1]) none] := by
  let s : Session :=
    { values := [(wildcard, .array [.whole 0])], listeners := [(wildcard, .report "w" [])] }
  exact ⟨s, _, rfl, rfl, rfl, rfl⟩

end ScreenBinding
