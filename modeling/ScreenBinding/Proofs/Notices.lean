import ScreenBinding.Proofs.Chronicle

/-!
# Whom a write tells

A write tells the registrations on its key and then those on the wildcard key, each group in the
order in which they were made. The calls are those that the write makes itself; what a callback
writes or registers in its turn lies between the two sessions of its own call. Who is called is
settled before the first call, so nobody who registers meanwhile is among them.

The two groups are put one behind the other as they are. They have nothing in common as long as the
key is not the wildcard key; a write of the wildcard key itself finds the same registrations in
both, and calls each of them twice.
-/
namespace ScreenBinding
open Act

/-- A call of a listener, which is known by the place of its registration. -/
structure Notice where
  place : Nat
  listener : Listener
  before : Session
  after : Session

def Notice.registration (c : Notice) : Nat × Listener := (c.place, c.listener)

/-- Calls one after the other, each told of the same write and carried out in the session in which
the one before ended. -/
inductive Notified (carry : React) (key : String) (v : Json) (source : Option Source) :
    Session → List Notice → Session → Prop
  | nil (s : Session) : Notified carry key v source s [] s
  | cons {c : Notice} {calls : List Notice} {t : Session} :
      carry (.listener c.listener key v source) c.before = some (.ok (), c.after) →
      Notified carry key v source c.after calls t →
      Notified carry key v source c.before (c::calls) t

/-- The places of the registrations on a key, in the order in which they were made. -/
structure Session.Places (s : Session) (key : String) (l : List Nat) : Prop where
  increasing : l.Pairwise (· < ·)
  mem_iff : ∀ i, i ∈ l ↔ ∃ x, s.listeners[i]? = some (key, x)

section
variable {s : Session} {key : String} {l : List Nat} {i : Nat}

theorem Session.mem_placed {p : Nat × Listener} :
    p ∈ s.placed key ↔ s.listeners[p.1]? = some (key, p.2) := by
  obtain ⟨i, x⟩ := p
  simp only [placed, List.mem_map, List.mem_filter, decide_eq_true_eq, Prod.mk.injEq]
  constructor
  · rintro ⟨⟨⟨k, y⟩, j⟩, ⟨hj, rfl⟩, rfl, rfl⟩
    exact List.mem_zipIdx_iff_getElem?.mp hj
  · intro h
    exact ⟨((key, x), i), ⟨List.mem_zipIdx_iff_getElem?.mpr h, rfl⟩, rfl, rfl⟩

theorem Session.places_placed (s : Session) (key : String) :
    s.Places key ((s.placed key).map Prod.fst) where
  increasing := by
    have hplaces : (s.placed key).map Prod.fst =
        (s.listeners.zipIdx.filter (·.1.1 = key)).map Prod.snd := by
      rw [placed, List.map_map]
      rfl
    have hsub : ((s.placed key).map Prod.fst).Sublist (s.listeners.zipIdx.map Prod.snd) :=
      hplaces ▸ List.filter_sublist.map Prod.snd
    rw [List.zipIdx_map_snd] at hsub
    exact List.Pairwise.sublist hsub List.pairwise_lt_range'
  mem_iff i := by
    simp only [List.mem_map, Prod.exists, exists_and_right, exists_eq_right]
    exact exists_congr fun x => mem_placed

theorem Session.Places.count_eq (h : s.Places key l) {k : String} {x : Listener}
    (hi : s.listeners[i]? = some (k, x)) : l.count i = if k = key then 1 else 0 := by
  have hnodup : l.Nodup := h.increasing.imp Nat.ne_of_lt
  have hmem : i ∈ l ↔ k = key := by
    rw [h.mem_iff, hi]
    simp
  simp [hnodup.count, hmem]

theorem Session.Places.lt_length (h : s.Places key l) (hi : i ∈ l) : i < s.listeners.length := by
  obtain ⟨x, hx⟩ := (h.mem_iff i).mp hi
  exact (List.getElem?_eq_some_iff.mp hx).1

end

section
variable {carry : React} {s t : Session} {key : String} {v : Json} {source : Option Source}

/-- Telling some listeners in turn is a chain of calls, one for each. -/
theorem notified_iff (hf : ∀ l, Faultless carry (react (.listener l key v source)))
    {ls : List (Nat × Listener)} {x : Except Fault Unit} :
    (do for y in ls.map Prod.snd do react (.listener y key v source)) carry s = some (x, t) ↔
      x = .ok () ∧ ∃ calls, Notified carry key v source s calls t ∧
        calls.map Notice.registration = ls := by
  induction ls generalizing s with
  | nil =>
      rw [List.map_nil, forEach_nil]
      constructor
      · intro h
        cases h
        exact ⟨rfl, [], .nil _, rfl⟩
      · rintro ⟨rfl, calls, hcalls, hls⟩
        obtain rfl := List.map_eq_nil_iff.mp hls
        cases hcalls
        rfl
  | cons p ls ih =>
      obtain ⟨i, y⟩ := p
      rw [List.map_cons, forEach_cons]
      constructor
      · intro h
        obtain ⟨_, u, hu, ht⟩ | ⟨e, he, -⟩ := bind_cases h
        · obtain ⟨rfl, calls, hcalls, rfl⟩ := ih.mp ht
          exact ⟨rfl, ⟨i, y, s, u⟩::calls, .cons (c := ⟨i, y, s, u⟩) hu hcalls, rfl⟩
        · obtain ⟨_, hx⟩ := hf y s _ t he
          cases hx
      · rintro ⟨rfl, calls, hcalls, hls⟩
        cases hcalls with
        | nil => cases hls
        | cons hr hrest =>
            obtain ⟨hc, rfl⟩ := List.cons_eq_cons.mp hls
            cases hc
            exact (run_bind_ok hr).trans (ih.mpr ⟨rfl, _, hrest, rfl⟩)

/-- A write is its store and then a chain of calls, one for each of its callees. -/
theorem run_write_iff (hf : ∀ l, Faultless carry (react (.listener l key v source)))
    {x : Except Fault (Option Json)} : write key v source carry s = some (x, t) ↔
      x = .ok (Table.find? s.values key) ∧ ∃ calls,
        Notified carry key v source (s.storing key v source) calls t ∧
        calls.map Notice.registration = s.callees key := by
  have hl : (s.storing key v source).audience key = (s.callees key).map Prod.snd :=
    (s.callees_audience key).symm
  have hn (y : Except Fault Unit) :
      notify key v source carry (s.storing key v source) = some (y, t) ↔
        y = .ok () ∧ ∃ calls, Notified carry key v source (s.storing key v source) calls t ∧
          calls.map Notice.registration = s.callees key := by
    rw [notify, run_bind_ok (run_gets _), hl]
    exact notified_iff hf
  rw [write, run_bind_ok (run_gets _), run_bind_ok (run_store key v source)]
  constructor
  · intro h
    obtain ⟨_, u, hu, ht⟩ | ⟨e, he, -⟩ := bind_cases h
    · cases ht
      exact ⟨rfl, ((hn _).mp hu).2⟩
    · cases ((hn _).mp he).1
  · rintro ⟨rfl, h⟩
    exact (run_bind_ok ((hn _).mpr ⟨rfl, h⟩)).trans (run_pure _)

theorem Notified.before_mem {calls : List Notice} (h : Notified carry key v source s calls t)
    {R : Session → Session → Prop} (hrefl : ∀ u, R u u) (htrans : ∀ {u w z}, R u w → R w z → R u z)
    (hc : ∀ r s x t, carry r s = some (x, t) → R s t) : R s t ∧ ∀ c ∈ calls, R s c.before := by
  induction h with
  | nil s => exact ⟨hrefl s, List.forall_mem_nil _⟩
  | cons hr _ ih =>
      obtain ⟨hrest, hbefore⟩ := ih
      have hfirst := hc _ _ _ _ hr
      refine ⟨htrans hfirst hrest, fun c hmem => ?_⟩
      rcases List.mem_cons.mp hmem with rfl | hmem
      · exact hrefl _
      · exact htrans hfirst (hbefore c hmem)

/-- What holds along every primitive holds along a chain of calls. -/
theorem Notified.respects {R : Session → Session → Prop} (hR : Respected Anything R) {n : Nat}
    {calls : List Notice} (h : Notified (cascade n) key v source s calls t) : R s t :=
  (h.before_mem hR.refl hR.trans (cascade_respects hR n)).1

end

/-- No listener is lost, and none changes its place. -/
theorem respected_listeners : Respected Anything fun s t => s.listeners <+: t.listeners where
  refl _ := List.prefix_rfl
  trans h k := h.trans k
  unseen hf s := hf.listeners s
  emitted _ _ _ := List.prefix_rfl
  stored _ _ := List.prefix_rfl

section
variable {s : Session} {key : String} {calls : List Notice}

/-- A place tells which listener is registered there. -/
theorem eq_of_places {l m : List (Nat × Listener)} (h : l.map Prod.fst = m.map Prod.fst)
    (hl : ∀ p ∈ l, ∃ k, s.listeners[p.1]? = some (k, p.2))
    (hm : ∀ p ∈ m, ∃ k, s.listeners[p.1]? = some (k, p.2)) : l = m := by
  induction l generalizing m with
  | nil => exact (List.map_eq_nil_iff.mp h.symm).symm
  | cons p l ih =>
      cases m with
      | nil => cases h
      | cons q m =>
          obtain ⟨hpq, hrest⟩ := List.cons_eq_cons.mp h
          obtain ⟨k, hk⟩ := hl p (List.mem_cons_self ..)
          obtain ⟨j, hj⟩ := hm q (List.mem_cons_self ..)
          rw [hpq, hj] at hk
          have hsame : p.2 = q.2 := (Prod.mk.inj (Option.some.inj hk)).2.symm
          rw [Prod.ext hpq hsame, ih hrest (fun r hr => hl r (List.mem_cons_of_mem _ hr))
            fun r hr => hm r (List.mem_cons_of_mem _ hr)]

/-- The callees are known by their places. -/
theorem registrations_eq_iff : calls.map Notice.registration = s.callees key ↔
    calls.map Notice.place = (s.placed key).map Prod.fst ++ (s.placed wildcard).map Prod.fst ∧
      ∀ c ∈ calls, ∃ k, s.listeners[c.place]? = some (k, c.listener) := by
  have hplaces : calls.map Notice.place = (calls.map Notice.registration).map Prod.fst := by
    simp [Notice.registration]
  have hcallees : ∀ p ∈ s.callees key, ∃ k, s.listeners[p.1]? = some (k, p.2) := by
    intro p hp
    rcases List.mem_append.mp hp with hp | hp
    · exact ⟨key, Session.mem_placed.mp hp⟩
    · exact ⟨wildcard, Session.mem_placed.mp hp⟩
  rw [hplaces, ← List.map_append]
  constructor
  · intro h
    refine ⟨by rw [h]; rfl, fun c hc => ?_⟩
    exact hcallees c.registration (h ▸ List.mem_map_of_mem hc)
  · rintro ⟨h, hknown⟩
    refine eq_of_places h (fun p hp => ?_) hcallees
    obtain ⟨c, hc, rfl⟩ := List.mem_map.mp hp
    exact hknown c hc

end

/-- A write calls the registrations on its key and then those on the wildcard key, each group in the
order of registration. Each call is told of the write, the first one with the value in place, and
nobody who registers meanwhile is called. So a registration is called once for its own key and once
as a wildcard: exactly once unless the key that is written is the wildcard key, whose registrations
are all called twice. -/
theorem write_tells_registrations (n : Nat) (s : Session) (key : String) (v : Json)
    (source : Option Source) :
    ∃ own wild, s.Places key own ∧ s.Places wildcard wild ∧
      Table.find? (s.storing key v source).values key = some v ∧
      (∀ x t, (write key v source).settle n s = some (x, t) ↔
        x = .ok (Table.find? s.values key) ∧ ∃ calls,
          Notified (cascade n) key v source (s.storing key v source) calls t ∧
          calls.map Notice.place = own ++ wild ∧
          ∀ c ∈ calls, ∃ k, s.listeners[c.place]? = some (k, c.listener)) ∧
      (∀ i k l, s.listeners[i]? = some (k, l) →
        (own ++ wild).count i = (if k = key then 1 else 0) + if k = wildcard then 1 else 0) ∧
      (∀ i ∈ own ++ wild, i < s.listeners.length) ∧
      (∀ keys l, (listen keys l).settle n s =
        some (.ok (), { s with listeners := s.listeners ++ keys.map (·, l) })) ∧
      ∀ calls t, Notified (cascade n) key v source (s.storing key v source) calls t →
        s.listeners <+: t.listeners ∧ ∀ c ∈ calls, s.listeners <+: c.before.listeners := by
  have hown := s.places_placed key
  have hwild := s.places_placed wildcard
  have hstored : Table.find? (s.storing key v source).values key = some v := by
    rw [Session.storing, Table.find?_put, if_pos rfl]
  refine ⟨_, _, hown, hwild, hstored, fun x t => ?_, fun i k l hi => ?_, fun i hi => ?_,
    fun keys l => rfl, fun calls t h => ?_⟩
  · rw [settle, run_write_iff fun l => faultless_listener n l key v source]
    simp only [registrations_eq_iff]
  · rw [List.count_append, hown.count_eq hi, hwild.count_eq hi]
  · rcases List.mem_append.mp hi with hi | hi
    · exact hown.lt_length hi
    · exact hwild.lt_length hi
  · exact h.before_mem (R := fun s t => s.listeners <+: t.listeners) (fun _ => List.prefix_rfl)
      List.IsPrefix.trans (cascade_respects respected_listeners n)

/-- A listener that registers another one while it is told of a write: the new one has to wait. -/
theorem write_tells_registrations_late : ∃ s t own wild calls,
    s.listeners = [(wildcard, .journal), ("k", .report "first" [.state (.listen ["k"] "late" [])]),
      ("k", .silent)] ∧
    (write "k" .null none).settle 3 s = some (.ok none, t) ∧ t.listeners.length = 4 ∧
    Notified (cascade 3) "k" .null none (s.storing "k" .null none) calls t ∧
    calls.map Notice.place = own ++ wild ∧ s.Places "k" own ∧ s.Places wildcard wild ∧
    (own ++ wild).count 1 = 1 ∧ (own ++ wild).count 0 = 1 ∧ 3 ∉ own ++ wild := by
  let s : Session := { listeners :=
    [(wildcard, .journal), ("k", .report "first" [.state (.listen ["k"] "late" [])]),
      ("k", .silent)] }
  obtain ⟨own, wild, hown, hwild, -, hrun, hcount, hlt, -⟩ :=
    write_tells_registrations 3 s "k" .null none
  obtain ⟨-, calls, hcalls, hplaces, -⟩ := (hrun (.ok none) _).mp rfl
  refine ⟨s, _, own, wild, calls, rfl, rfl, rfl, hcalls, hplaces, hown, hwild, ?_, ?_, ?_⟩
  · rw [hcount 1 _ _ rfl]
    decide
  · rw [hcount 0 _ _ rfl]
    decide
  · intro h
    exact Nat.lt_irrefl 3 (hlt 3 h)

/-- A write of the wildcard key tells its one registration twice. -/
theorem wildcard_told_twice : ∃ s t, s.listeners = [(wildcard, .report "w" [])] ∧
    (run (.state (.set wildcard (.bool true) none))).settle 2 s = some (.ok (.previous none), t) ∧
    t.trace = [.heard "w" wildcard (.bool true) none, .heard "w" wildcard (.bool true) none,
      .stored wildcard (.bool true) none] := by
  let s : Session := { listeners := [(wildcard, .report "w" [])] }
  exact ⟨s, _, rfl, rfl, rfl⟩

end ScreenBinding
