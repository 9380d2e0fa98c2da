import ScreenBinding.Proofs.Chronicle

/-!
# What listeners heard last

When all writes have returned, a listener of a key has been called since the key was last written.
It was called with the value that the key holds, unless a listener ahead of it in the same pass
wrote the key: then the inner write has been told to everybody first, and the outer one afterwards.
So what a listener was last called with may be a value that the key no longer has.

Over a chronicle this says that behind every write all listeners are called that were called before
or were registered when the chronicle began. This composes, and a nested pass only adds to it.
-/
namespace ScreenBinding
open Act

/-- The value that an entry stores under a key. -/
def Entry.stored? (k : String) : Entry → Option Json
  | .stored key v _ => if key = k then some v else none
  | .called .. => none

/-- The last value that was stored under a key. -/
def latest (k : String) (log : List Entry) : Option Json := log.reverse.findSome? (Entry.stored? k)

/-- The listener at this place was called for a key. -/
def Hears (i : Nat) (k : String) (log : List Entry) : Prop := ∃ v source, .called i k v source ∈ log

/-- The listener at this place is called when a key is written. -/
def Session.Listens (s : Session) (i : Nat) (k : String) : Prop := ∃ l, (i, l) ∈ s.callees k

theorem latest_append (k : String) (l r : List Entry) :
    latest k (l ++ r) = (latest k r).or (latest k l) := by
  simp [latest, List.findSome?_append]

theorem latest_cons (k : String) (e : Entry) (l : List Entry) :
    latest k (e::l) = (latest k l).or (e.stored? k) := by
  rw [← List.singleton_append, latest_append]
  simp [latest]

theorem latest_unstored {k : String} {l : List Entry}
    (h : ∀ v source, .stored k v source ∉ l) : latest k l = none := by
  refine List.findSome?_eq_none_iff.mpr fun e he => ?_
  cases e with
  | called i key v source => rfl
  | stored key v source =>
      refine if_neg ?_
      rintro rfl
      exact h v source (List.mem_reverse.mp he)

theorem Hears.append {i : Nat} {k : String} {l r : List Entry} :
    Hears i k (l ++ r) ↔ Hears i k l ∨ Hears i k r := by
  simp only [Hears, List.mem_append, exists_or]

namespace Session

theorem placed_mono {s t : Session} (h : s.listeners <+: t.listeners) {p : Nat × Listener}
    {k : String} (hp : p ∈ s.placed k) : p ∈ t.placed k := by
  obtain ⟨more, hmore⟩ := h
  rw [placed, ← hmore, List.zipIdx_append, List.filter_append, List.map_append]
  exact List.mem_append_left _ hp

/-- Who listens goes on listening. -/
theorem Listens.later {s t : Session} {i : Nat} {k : String} (h : s.Listens i k)
    (ht : s.listeners <+: t.listeners) : t.Listens i k := by
  obtain ⟨l, hl⟩ := h
  rcases List.mem_append.mp hl with hl | hl
  · exact ⟨l, List.mem_append_left _ (placed_mono ht hl)⟩
  · exact ⟨l, List.mem_append_right _ (placed_mono ht hl)⟩

end Session

/-- What a chronicle says of the sessions at its ends, and of the calls behind its writes. -/
structure Chronicle (s : Session) (log : List Entry) (t : Session) : Prop where
  listeners : s.listeners <+: t.listeners
  values : ∀ k, Table.find? t.values k = (latest k log).or (Table.find? s.values k)
  known : ∀ i k, Hears i k log → t.Listens i k
  heard : ∀ a b k v source, log = a ++ .stored k v source::b →
    ∀ i, s.Listens i k ∨ Hears i k a → Hears i k b

namespace Chronicle
variable {s t u : Session} {log more : List Entry}

/-- Where nothing is written and nobody is called. -/
theorem still (hv : t.values = s.values) (hl : s.listeners <+: t.listeners) :
    Chronicle s [] t where
  listeners := hl
  values k := by
    rw [hv]
    rfl
  known i k h := by
    obtain ⟨v, source, h⟩ := h
    cases h
  heard a b k v source h := by simp at h

theorem refl (s : Session) : Chronicle s [] s := still rfl List.prefix_rfl

theorem append (h : Chronicle s log t) (k : Chronicle t more u) : Chronicle s (log ++ more) u where
  listeners := h.listeners.trans k.listeners
  values key := by rw [k.values, h.values, latest_append, Option.or_assoc]
  known i key hi := by
    rcases Hears.append.mp hi with hi | hi
    · exact (h.known i key hi).later k.listeners
    · exact k.known i key hi
  heard a b key v source hlog i hi := by
    rcases split_append hlog with ⟨c, hl, rfl⟩ | ⟨c, hm, rfl⟩
    · exact Hears.append.mpr (.inl (h.heard a c key v source hl i hi))
    · refine k.heard c b key v source hm i ?_
      rcases hi with hi | hi
      · exact .inl (hi.later h.listeners)
      · rcases Hears.append.mp hi with hi | hi
        · exact .inl (h.known i key hi)
        · exact .inr hi

theorem called {i : Nat} {k : String} (v : Json) (source : Option Source) (h : s.Listens i k) :
    Chronicle s [.called i k v source] s where
  listeners := List.prefix_rfl
  values key := rfl
  known j key hj := by
    obtain ⟨w, writer, hw⟩ := hj
    cases List.mem_singleton.mp hw
    exact h
  heard a b key w writer hlog := by
    rcases List.cons_eq_append_iff.mp hlog with ⟨rfl, he⟩ | ⟨c, rfl, hc⟩
    · cases he
    · simp at hc

end Chronicle

section
variable {R : Recorder} {s t : Session} {log : List Entry}

/-- A pass calls each of its listeners. -/
theorem Called.chronicle (hR : ∀ r s log x t, R r s log x t → Chronicle s log t) {key : String}
    {v : Json} {source : Option Source} {l : List (Nat × Listener)}
    (h : Called R key v source l s log t) (hl : ∀ p ∈ l, s.Listens p.1 key) :
    Chronicle s log t ∧ ∀ p ∈ l, Hears p.1 key log := by
  induction h with
  | nil s => exact ⟨.refl s, List.forall_mem_nil _⟩
  | @cons i y rest s t u log more hr _ ih =>
      have hfirst : s.Listens i key := hl (i, y) (List.mem_cons_self ..)
      have hnested := hR _ _ _ _ _ hr
      obtain ⟨hmore, hheard⟩ := ih fun p hp =>
        (hl p (List.mem_cons_of_mem _ hp)).later hnested.listeners
      refine ⟨((Chronicle.called v source hfirst).append hnested).append hmore, fun p hp => ?_⟩
      rcases List.mem_cons.mp hp with rfl | hp
      · exact ⟨v, source, List.mem_cons_self ..⟩
      · exact Hears.append.mpr (.inr (hheard p hp))

/-- A write with its pass. -/
theorem Chronicle.write {key : String} {v : Json} {source : Option Source}
    (h : Chronicle (s.storing key v source) log t)
    (hheard : ∀ p ∈ s.callees key, Hears p.1 key log) :
    Chronicle s (.stored key v source::log) t where
  listeners := h.listeners
  values k := by
    rw [h.values, latest_cons]
    change (latest k log).or (Table.find? (Table.put s.values key v) k) = _
    rw [Table.find?_put, Option.or_assoc]
    simp only [Entry.stored?]
    split <;> rfl
  known i k hi := by
    obtain ⟨w, writer, hw⟩ := hi
    rcases List.mem_cons.mp hw with hw | hw
    · cases hw
    · exact h.known i k ⟨w, writer, hw⟩
  heard a b k w writer hlog i hi := by
    rcases List.cons_eq_append_iff.mp hlog with ⟨rfl, he⟩ | ⟨c, rfl, hc⟩
    · cases he
      rcases hi with ⟨l, hl⟩ | ⟨w, writer, hw⟩
      · exact hheard (i, l) hl
      · cases hw
    · refine h.heard c b k w writer hc i ?_
      rcases hi with hi | ⟨w, writer, hw⟩
      · exact .inl hi
      · rcases List.mem_cons.mp hw with hw | hw
        · cases hw
        · exact .inr ⟨w, writer, hw⟩

theorem Recorded.chronicle (hR : ∀ r s log x t, R r s log x t → Chronicle s log t) {α : Type}
    {a : Act α} {x : Except Fault α} (h : Recorded R a s log x t) : Chronicle s log t := by
  induction h with
  | pure y s => exact .refl s
  | throw f s => exact .refl s
  | gets f s => exact .refl s
  | change hf s => exact .still (hf.values s) (hf.listeners s)
  | emit he s => exact .still rfl List.prefix_rfl
  | write hc =>
      obtain ⟨hlog, hheard⟩ := hc.chronicle hR fun p hp => ⟨p.2, hp⟩
      exact hlog.write hheard
  | react hr => exact hR _ _ _ _ _ hr
  | bind _ _ iha ihf => exact iha.append ihf
  | stop _ ih => exact ih
  | attempt _ ih => exact ih
  | outcome _ ih => exact ih
  | @ending α a f s t log x _ hf ih =>
      have hend : Chronicle t [] (f t) := .still (hf.values t) (hf.listeners t)
      simpa using ih.append hend

end

theorem recorder_chronicle (n : Nat) (r : Reaction) (s : Session) (log : List Entry)
    (x : Except Fault Unit) (t : Session) (h : recorder n r s log x t) : Chronicle s log t := by
  induction n generalizing r s log x t with
  | zero => exact h.elim
  | succ n ih => exact Recorded.chronicle ih h

/-- Between a write and the call of the listener at this place: what the listeners ahead of it in
the pass brought about. -/
def Ahead (i : Nat) (k : String) (v : Json) (source : Option Source) (mid : List Entry) : Prop :=
  ∃ (n : Nat) (s t : Session) (l : Listener) (ahead behind : List (Nat × Listener)),
    s.callees k = ahead ++ (i, l)::behind ∧
      Called (recorder n) k v source ahead (s.storing k v source) mid t

/-- Every call stands in the pass of a write before it. -/
def Passed (log : List Entry) : Prop :=
  ∀ pre post i k v source, log = pre ++ .called i k v source::post →
    ∃ a mid, pre = a ++ .stored k v source::mid ∧ Ahead i k v source mid

theorem Passed.nil : Passed [] := by
  intro pre post i k v source h
  simp at h

theorem Passed.append {l m : List Entry} (hl : Passed l) (hm : Passed m) : Passed (l ++ m) := by
  intro pre post i k v source h
  rcases split_append h with ⟨c, hc, -⟩ | ⟨c, hc, rfl⟩
  · exact hl pre c i k v source hc
  · obtain ⟨a, mid, rfl, hmid⟩ := hm c post i k v source hc
    exact ⟨l ++ a, mid, (List.append_assoc l a _).symm, hmid⟩

/-- A call in a pass is one that the pass makes itself, or stands in a pass within. -/
theorem Called.split {R : Recorder} (hR : ∀ r s log x t, R r s log x t → Passed log) {key : String}
    {v : Json} {source : Option Source} {ls : List (Nat × Listener)} {s t : Session}
    {log pre post : List Entry} {i : Nat} {k : String} {w : Json} {writer : Option Source}
    (h : Called R key v source ls s log t) (hlog : log = pre ++ .called i k w writer::post) :
    ((∃ ahead l behind u, ls = ahead ++ (i, l)::behind ∧ Called R key v source ahead s pre u) ∧
      k = key ∧ w = v ∧ writer = source) ∨
    ∃ a mid, pre = a ++ .stored k w writer::mid ∧ Ahead i k w writer mid := by
  induction h generalizing pre with
  | nil s => simp at hlog
  | @cons j y rest s t u log more hr hrest ih =>
      rw [List.cons_append] at hlog
      rcases List.cons_eq_append_iff.mp hlog with ⟨rfl, he⟩ | ⟨c, rfl, hc⟩
      · cases he
        exact .inl ⟨⟨[], y, rest, s, rfl, .nil s⟩, rfl, rfl, rfl⟩
      · rcases split_append hc with ⟨d, hd, -⟩ | ⟨d, hd, rfl⟩
        · obtain ⟨a, mid, rfl, hmid⟩ := hR _ _ _ _ _ hr c d i k w writer hd
          exact .inr ⟨.called j key v source::a, mid, rfl, hmid⟩
        · rcases ih hd with ⟨⟨ahead, l, behind, z, hls, hahead⟩, hsame⟩ | ⟨a, mid, rfl, hmid⟩
          · refine .inl ⟨⟨(j, y)::ahead, l, behind, z, ?_, .cons hr hahead⟩, hsame⟩
            rw [hls]
            rfl
          · refine .inr ⟨.called j key v source::log ++ a, mid, ?_, hmid⟩
            simp

theorem Recorded.passed {n : Nat} (hR : ∀ r s log x t, recorder n r s log x t → Passed log)
    {α : Type} {a : Act α} {s t : Session} {log : List Entry} {x : Except Fault α}
    (h : Recorded (recorder n) a s log x t) : Passed log := by
  induction h with
  | pure y s => exact .nil
  | throw f s => exact .nil
  | gets f s => exact .nil
  | change hf s => exact .nil
  | emit he s => exact .nil
  | @write key v source s t log hc =>
      intro pre post i k w writer hlog
      rcases List.cons_eq_append_iff.mp hlog with ⟨rfl, he⟩ | ⟨c, rfl, hrest⟩
      · cases he
      · rcases hc.split hR hrest with ⟨⟨ahead, l, behind, u, hls, hahead⟩, rfl, rfl, rfl⟩ | hin
        · exact ⟨[], c, rfl, n, s, u, l, ahead, behind, hls, hahead⟩
        · obtain ⟨a, mid, rfl, hmid⟩ := hin
          exact ⟨.stored key v source::a, mid, rfl, hmid⟩
  | react hr => exact hR _ _ _ _ _ hr
  | bind _ _ iha ihf => exact iha.append ihf
  | stop _ ih => exact ih
  | attempt _ ih => exact ih
  | outcome _ ih => exact ih
  | ending _ _ ih => exact ih

theorem recorder_passed (n : Nat) (r : Reaction) (s : Session) (log : List Entry)
    (x : Except Fault Unit) (t : Session) (h : recorder n r s log x t) : Passed log := by
  induction n generalizing r s log x t with
  | zero => exact h.elim
  | succ n ih => exact Recorded.passed ih h

/-- Acts of the engine in a row, each carried out to its end, between anything else that writes
nothing and takes no listener away. -/
inductive History (s₀ : Session) : Session → List Entry → Prop
  | start : History s₀ s₀ []
  | ran {s t : Session} {log more : List Entry} {α : Type} {a : Act α} {x : Except Fault α}
      (n : Nat) : History s₀ s log → Recorded (recorder n) a s more x t →
      History s₀ t (log ++ more)
  | other {s t : Session} {log : List Entry} : History s₀ s log → t.values = s.values →
      s.listeners <+: t.listeners → History s₀ t log

section
variable {s₀ s : Session} {log : List Entry}

theorem History.chronicle (h : History s₀ s log) : Chronicle s₀ log s := by
  induction h with
  | start => exact .refl s₀
  | ran n _ hr ih => exact ih.append (hr.chronicle (recorder_chronicle n))
  | other _ hv hl ih => simpa using ih.append (.still hv hl)

theorem History.passed (h : History s₀ s log) : Passed log := by
  induction h with
  | start => exact .nil
  | ran n _ hr ih => exact ih.append (hr.passed (recorder_passed n))
  | other _ _ _ ih => exact ih

/-- Once all writes have returned, no key was written since any of its listeners was last called for
it. The value of that call is the value of the key, unless a listener ahead of it in the same pass
wrote the key; then the key holds the last value that was written there. -/
theorem last_call_holds (h : History s₀ s log) :
    (∀ pre post i k v source, log = pre ++ .called i k v source::post → ¬Hears i k post →
      (∀ w writer, .stored k w writer ∉ post) ∧
      ∃ a mid, pre = a ++ .stored k v source::mid ∧ Ahead i k v source mid ∧
        Table.find? s.values k = (latest k mid).or (some v)) ∧
    ∀ (n : Nat) (c : Command) (x : Except Fault Answer) (t : Session),
      (run c).settle n s = some (x, t) ↔
        ∃ more, Recorded (recorder n) (run c) s more x t := by
  refine ⟨?_, fun n c x t => settle_iff_recorded (built_run (fun _ _ _ => trivial) c)⟩
  intro pre post i k v source hlog hlast
  have hc := h.chronicle
  have hunwritten : ∀ w writer, .stored k w writer ∉ post := by
    intro w writer hw
    obtain ⟨b, d, rfl⟩ := List.mem_iff_append.mp hw
    have hsplit : log = (pre ++ .called i k v source::b) ++ .stored k w writer::d := by
      rw [hlog]
      simp
    have hbefore : Hears i k (pre ++ .called i k v source::b) := ⟨v, source, by simp⟩
    obtain ⟨w', writer', hd⟩ := hc.heard _ d k w writer hsplit i (.inr hbefore)
    exact hlast ⟨w', writer', List.mem_append_right b (List.mem_cons_of_mem _ hd)⟩
  refine ⟨hunwritten, ?_⟩
  obtain ⟨a, mid, rfl, hmid⟩ := h.passed pre post i k v source hlog
  refine ⟨a, mid, rfl, hmid, ?_⟩
  rw [hc.values, hlog, latest_append, latest_cons, latest_unstored hunwritten, latest_append,
    latest_cons]
  simp only [Entry.stored?, if_true]
  cases latest k mid <;> rfl

end

section
variable {R : Recorder} {s t u : Session} {log : List Entry} {key label : String} {v w : Json}
  {source : Option Source} {n : Nat}

/-- Behind a part that records nothing. -/
theorem Recorded.behind {α β : Type} {a : Act α} {f : α → Act β} {y : α} {x : Except Fault β}
    (h : Recorded R a s [] (.ok y) t) (k : Recorded R (f y) t log x u) :
    Recorded R (a >>= f) s log x u := .bind h k

/-- Before a part that records nothing. -/
theorem Recorded.before {α β : Type} {a : Act α} {f : α → Act β} {y : α} {x : Except Fault β}
    (h : Recorded R a s log (.ok y) t) (k : Recorded R (f y) t [] x u) :
    Recorded R (a >>= f) s log x u := List.append_nil log ▸ .bind h k

theorem recorder_report {actions : List Command} {x : Except Fault Unit}
    (h : Recorded (recorder n) (runAll actions)
      (s.retrace (.heard label key v source::s.trace)) log x t) :
    recorder (n+2) (.listener (.report label actions) key v source) s log (.ok ()) t :=
  .behind (.emit rfl s) (.attempt (.react h))

theorem recorded_getList (h : Table.find? s.values key = some v) :
    Recorded R (getList key) s [] (s.settings.separators.listOf v) s := by
  refine .behind (.gets _ s) ?_
  simp only [h]
  refine .behind (.gets _ s) ?_
  cases s.settings.separators.listOf v with
  | ok items => exact .pure items s
  | error e => exact .throw e s

/-- A script that writes a key if there is a list. -/
def relisting (key : String) (w : Json) : List Command :=
  [.state (.list key), .state (.set key w none)]

theorem relisting_stops {e : Fault} (h : Table.find? s.values key = some v)
    (hv : s.settings.separators.listOf v = .error e) :
    Recorded R (runAll (relisting key w)) s [] (.error e) s := by
  rw [relisting, runAll, forEach_cons]
  exact .stop (.stop (.stop (hv ▸ recorded_getList h)))

theorem relisting_writes {items : List String} {old : Option Json}
    (h : Table.find? s.values key = some v) (hv : s.settings.separators.listOf v = .ok items)
    (hw : Recorded R (write key w none) s log (.ok old) t) :
    Recorded R (runAll (relisting key w)) s log (.ok ()) t := by
  have hlist : Recorded R (discard (run (.state (.list key)))) s [] (.ok ()) s :=
    .behind (.behind (hv ▸ recorded_getList h) (.pure _ s)) (.pure () s)
  have hset : Recorded R (discard (run (.state (.set key w none)))) s log (.ok ()) t :=
    .before (.before hw (.pure _ t)) (.pure () t)
  rw [relisting, runAll, forEach_cons, forEach_cons, forEach_nil]
  exact hlist.behind (hset.before (.pure () t))

/-- A listener that records nothing is called. -/
theorem Called.single {i : Nat} {l : Listener} {rest : List (Nat × Listener)} {more : List Entry}
    (h : R (.listener l key v source) s [] (.ok ()) t) (k : Called R key v source rest t more u) :
    Called R key v source ((i, l)::rest) s (.called i key v source::more) u := .cons h k

end

/-- A listener that writes the key again if it is told of a list. -/
def relister : Listener := .report "first" (relisting "k" (.bool true))

/-- A store with that listener, and one behind it. -/
def relistened : Session := { listeners := [("k", relister), ("k", .silent)] }

/-- The first listener writes the key again, so that the second one is called for the inner write
and then for the outer one. -/
theorem history_relistened : ∃ s, History relistened s
    [.stored "k" (.array []) none, .called 0 "k" (.array []) none,
      .stored "k" (.bool true) none, .called 0 "k" (.bool true) none,
      .called 1 "k" (.bool true) none, .called 1 "k" (.array []) none] := by
  have hsilent (n : Nat) (s : Session) (v : Json) :
      recorder (n+1) (.listener .silent "k" v none) s [] (.ok ()) s := .pure () s
  have hstored (s : Session) (v : Json) :
      Table.find? (s.storing "k" v none).values "k" = some v := by
    rw [Session.storing, Table.find?_put, if_pos rfl]
  let first := relistened.storing "k" (.array []) none
  let told := first.retrace (.heard "first" "k" (.array []) none::first.trace)
  have hstops : recorder 2 (.listener relister "k" (.bool true) none)
      (told.storing "k" (.bool true) none) [] (.ok ()) _ :=
    recorder_report (relisting_stops (e := .listExpected) (hstored told _) rfl)
  have hinner : Recorded (recorder 2) (write "k" (.bool true) none) told
      [.stored "k" (.bool true) none, .called 0 "k" (.bool true) none,
        .called 1 "k" (.bool true) none] (.ok (Table.find? told.values "k")) _ :=
    .write (.single hstops (.single (hsilent 1 _ _) (.nil _)))
  have houter : recorder 4 (.listener relister "k" (.array []) none) first _ (.ok ()) _ :=
    recorder_report (relisting_writes (hstored relistened _) rfl hinner)
  exact ⟨_, History.start.ran 4 (.write (.cons houter (.single (hsilent 3 _ _) (.nil _))))⟩

/-- The listener behind was last called with a list. The key holds what the listener ahead of it
wrote. -/
theorem last_call_holds_once : ∃ s log mid, History relistened s log ∧
    log = .stored "k" (.array []) none::(mid ++ [.called 1 "k" (.array []) none]) ∧
    Ahead 1 "k" (.array []) none mid ∧ latest "k" mid = some (.bool true) ∧
    Table.find? s.values "k" = some (.bool true) := by
  obtain ⟨s, h⟩ := history_relistened
  have hend : ¬Hears 1 "k" [] := by
    rintro ⟨v, source, hm⟩
    cases hm
  obtain ⟨-, a, mid, hpre, hmid, hv⟩ := (last_call_holds h).1
    [.stored "k" (.array []) none, .called 0 "k" (.array []) none,
      .stored "k" (.bool true) none, .called 0 "k" (.bool true) none,
      .called 1 "k" (.bool true) none] [] 1 "k" (.array []) none rfl hend
  rcases a with _ | ⟨_, _ | ⟨_, _ | ⟨_, _ | ⟨_, _ | ⟨_, a⟩⟩⟩⟩⟩ <;> simp at hpre
  obtain rfl := hpre
  exact ⟨s, _, _, h, rfl, hmid, rfl, hv⟩

/-- The first listener writes the key again while it is told of a write, so that the second one is
told of the inner write before the outer one: it was last called with a value that the key no longer
has, and a field that loads the key shows that value. -/
theorem last_call_outdated : ∃ s t x, (run (.state (.set "k" (.array []) none))).settle 5 s =
      some (.ok x, t) ∧
    s.listeners = [("k", .report "first" [.state (.list "k"), .state (.set "k" (.bool true) none)]),
      ("k", .report "second" []), ("k", .load "<k" 0 none)] ∧
    Table.find? t.values "k" = some (.bool true) ∧
    t.trace.head? = some (.heard "second" "k" (.array []) none) ∧
    (t.element 0).value = .string "" := by
  let s : Session :=
    { listeners :=
        [("k", .report "first" [.state (.list "k"), .state (.set "k" (.bool true) none)]),
          ("k", .report "second" []), ("k", .load "<k" 0 none)],
      elements := [{ control := .plain "?" }] }
  exact ⟨s, _, _, rfl, rfl, rfl, rfl, rfl⟩

end ScreenBinding
