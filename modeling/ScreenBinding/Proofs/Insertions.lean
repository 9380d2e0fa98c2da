import ScreenBinding.Proofs.Merging
import ScreenBinding.Proofs.Snapshots

/-!
# Insertions in order

Calls that write nest: while the listeners of one write are called, they may make writes of their
own, so that values are inserted in one order and the calls return in another. What the state holds
follows the order of insertion alone. At any moment it holds each key that was ever written, once,
at the place of its first insertion and with the value of its last one.

`MadeIn` finds the calls of a run, at whatever depth they are made, each in the session in which it
is made. The trace numbers them: every write in it is the insertion of one of these calls, and the
trace of the session of a call holds the insertions before its own.
-/
namespace ScreenBinding
open Act

/-- The value of a key that was written last. -/
def lastWritten (ws : List Write) (key : String) : Option Json :=
  (ws.reverse.find? (·.key = key)).map Write.value

/-- A state that holds the keys of some writes, each once and in the order in which they were first
written, with the values that were written last. -/
structure Inserted (ws : List Write) (values : Fields) : Prop where
  keys : Table.keys values = (ws.map Write.key).eraseDups
  once : (Table.keys values).Nodup
  value : ∀ key, Table.find? values key = lastWritten ws key
  known : ∀ key, Table.has values key = true ↔ ∃ w ∈ ws, w.key = key

def Write.entry (w : Write) : String × Json := (w.key, w.value)

theorem Table.written_nil (ws : List Write) :
    Table.written [] ws = Table.overlay [] (ws.map Write.entry) := by
  simp [written, overlay, List.foldl_map, Write.entry]

theorem Table.find?_reverse_entries (ws : List Write) (key : String) :
    Table.find? (ws.map Write.entry).reverse key = lastWritten ws key := by
  rw [lastWritten, ← List.map_reverse]
  induction ws.reverse with
  | nil => rfl
  | cons w ws ih =>
      by_cases h : w.key = key
      · simp [find?, Write.entry, h]
      · simp [find?, Write.entry, h, ← ih]

theorem inserted_written (ws : List Write) : Inserted ws (Table.written [] ws) := by
  have hkeys : Table.keys (Table.written [] ws) = (ws.map Write.key).eraseDups := by
    rw [Table.written_nil, Table.keys_overlay]
    simp [Table.keys, Write.entry, Function.comp_def]
  have hvalue (key : String) : Table.find? (Table.written [] ws) key = lastWritten ws key := by
    rw [Table.written_nil, Table.find?_overlay, List.append_nil, Table.find?_reverse_entries]
  constructor
  · exact hkeys
  · exact Table.nodup_written (by simp [Table.keys]) ws
  · exact hvalue
  · intro key
    simp [Table.has, hvalue, lastWritten]

/-- A call that writes, in the session in which it is made; the reactions to it may nest `depth`
deep. -/
structure Insertion where
  depth : Nat
  write : Write
  before : Session

namespace Insertion

/-- The session once the value is stored, before anyone hears of it. -/
def after (c : Insertion) : Session :=
  c.before.storing c.write.key c.write.value c.write.source

/-- The call ends in this session and returns this value. -/
def Returns (c : Insertion) (old : Option Json) (t : Session) : Prop :=
  (Act.write c.write.key c.write.value c.write.source).settle c.depth c.before = some (.ok old, t)

/-- The call is made while an act is carried out: by the act itself, or by a reaction to what the
act does, however deeply it is nested. -/
inductive MadeIn (c : Insertion) : {α : Type} → Nat → Act α → Session → Prop
  | call : MadeIn c c.depth (Act.write c.write.key c.write.value c.write.source) c.before
  | told {n : Nat} {key : String} {v : Json} {source : Option Source} {s : Session} :
      MadeIn c n (notify key v source) (s.storing key v source) →
      MadeIn c n (Act.write key v source) s
  | react {n : Nat} {r : Reaction} {s : Session} :
      MadeIn c n (reaction r) s → MadeIn c (n+1) (react r) s
  | first {α β : Type} {n : Nat} {a : Act α} {f : α → Act β} {s : Session} :
      MadeIn c n a s → (∀ y, Tallied (f y)) → MadeIn c n (a >>= f) s
  | next {α β : Type} {n : Nat} {a : Act α} {f : α → Act β} {y : α} {s t : Session} :
      Tallied a → a.settle n s = some (.ok y, t) → MadeIn c n (f y) t → MadeIn c n (a >>= f) s
  | attempt {n : Nat} {a : Act Unit} {s : Session} :
      MadeIn c n a s → MadeIn c n (attempt a) s
  | outcome {α : Type} {n : Nat} {a : Act α} {s : Session} :
      MadeIn c n a s → MadeIn c n (outcome a) s
  | ending {α : Type} {n : Nat} {a : Act α} {f : Session → Session} {s : Session} :
      MadeIn c n a s → Unseen f → MadeIn c n (a.ending f) s

end Insertion

namespace Act
variable {α β : Type} {n : Nat} {a : Act α} {s t u : Session}

theorem tallied_accounted (h : Tallied a) {x : Except Fault α}
    (ha : a.settle n s = some (x, t)) : s.Accounted t :=
  h.respects Session.accounted_respected (fun _ => .plain rfl rfl)
    (cascade_respects Session.accounted_respected n) ha

theorem accounted_storing (s : Session) (key : String) (v : Json) (source : Option Source) :
    s.Accounted (s.storing key v source) :=
  Session.accounted_respected.stored trivial s

/-- Behind the insertion of a write its listeners are called, and nothing else is done. -/
theorem run_write_notify (n : Nat) (key : String) (v : Json) (source : Option Source)
    {x : Except Fault (Option Json)} (h : (write key v source).settle n s = some (x, t)) :
    x = .ok (Table.find? s.values key) ∧
      (notify key v source).settle n (s.storing key v source) = some (.ok (), t) := by
  have hend := ((run_write_iff fun l => faultless_listener n l key v source).mp h).1
  rw [settle, write, run_bind_ok (run_gets _), run_bind_ok (run_store key v source)] at h
  obtain ⟨_, u, hu, ht⟩ | ⟨e, -, he⟩ := bind_cases h
  · cases ht
    exact ⟨rfl, hu⟩
  · rw [hend] at he
    cases he

end Act

namespace Insertion
variable {α : Type} {n : Nat} {a : Act α} {s t : Session} {c : Insertion}

theorem after_writes (c : Insertion) : c.after.writes = c.before.writes ++ [c.write] :=
  (Session.Wrote.stored c.before c.write.key c.write.value c.write.source).writes

/-- In a run that ends, a call is made in a session that the run brings about, and it returns the
value that its key held there, whatever its listeners write meanwhile. -/
theorem MadeIn.returned (h : c.MadeIn n a s) {x : Except Fault α}
    (ha : a.settle n s = some (x, t)) : s.Accounted c.before ∧
      ∃ u, c.Returns (Table.find? c.before.values c.write.key) u ∧
        c.after.Accounted u ∧ u.Accounted t := by
  have htrans {s t u : Session} (hs : s.Accounted t) (ht : t.Accounted u) : s.Accounted u :=
    Session.accounted_respected.trans hs ht
  have hrefl (s : Session) : s.Accounted s := Session.accounted_respected.refl s
  induction h generalizing t with
  | call =>
      obtain ⟨rfl, hnotify⟩ := run_write_notify _ _ _ _ ha
      have hlater : c.after.Accounted t :=
        tallied_accounted (.built (built_notify _ _ _)) hnotify
      exact ⟨hrefl _, t, ha, hlater, hrefl t⟩
  | told _ ih =>
      obtain ⟨-, hnotify⟩ := run_write_notify _ _ _ _ ha
      obtain ⟨hbefore, hend⟩ := ih hnotify
      exact ⟨htrans (accounted_storing ..) hbefore, hend⟩
  | react _ ih => exact ih ha
  | first _ hf ih =>
      obtain ⟨y, w, hw, ht⟩ | ⟨e, he, -⟩ := bind_cases ha
      · obtain ⟨hbefore, u, hu, hlater, hend⟩ := ih hw
        exact ⟨hbefore, u, hu, hlater, htrans hend (tallied_accounted (hf y) ht)⟩
      · exact ih he
  | next hp hy _ ih =>
      obtain ⟨hbefore, hend⟩ := ih ((run_bind_ok hy).symm.trans ha)
      exact ⟨htrans (tallied_accounted hp hy) hbefore, hend⟩
  | attempt _ ih =>
      obtain ⟨y, hy, -⟩ := attempt_cases ha
      exact ih hy
  | outcome _ ih =>
      obtain ⟨y, hy, -⟩ := outcome_cases ha
      exact ih hy
  | ending _ hf ih =>
      obtain ⟨w, hw, rfl⟩ := ending_cases ha
      obtain ⟨hbefore, u, hu, hlater, hend⟩ := ih hw
      exact ⟨hbefore, u, hu, hlater, htrans hend (Session.accounted_respected.unseen hf w)⟩

/-- Each write of the act, and of the reactions to it, is made by a call that finds the writes
before it in the trace. -/
def Found (n : Nat) (a : Act α) : Prop :=
  ∀ s x t, a.settle n s = some (x, t) → ∀ pre w post, t.writes = s.writes ++ (pre ++ w::post) →
    ∃ c : Insertion, c.MadeIn n a s ∧ c.write = w ∧ c.before.writes = s.writes ++ pre

/-- Where nothing is written there is nothing to find. -/
theorem Found.still (h : ∀ s x t, a.settle n s = some (x, t) → t.writes = s.writes) :
    Found n a := by
  intro s x t ha pre w post hw
  have hnone : s.writes ++ (pre ++ w::post) = s.writes := hw.symm.trans (h s x t ha)
  simp at hnone

theorem Found.bind {β : Type} {f : α → Act β} (ha : Found n a) (hp : Tallied a)
    (hf : ∀ y, Found n (f y)) (hq : ∀ y, Tallied (f y)) : Found n (a >>= f) := by
  intro s x t h pre w post hw
  obtain ⟨y, u, hu, ht⟩ | ⟨e, he, -⟩ := bind_cases h
  · obtain ⟨ws, -, hws⟩ := tallied_accounted hp hu
    obtain ⟨us, -, hus⟩ := tallied_accounted (hq y) ht
    have hall : ws ++ us = pre ++ w::post := by
      apply (List.append_right_inj s.writes).mp
      rw [← hw, hus, hws, List.append_assoc]
    obtain ⟨b, hb, -⟩ | ⟨b, hb, rfl⟩ := split_append hall
    · obtain ⟨c, hc, hwrite, hbefore⟩ := ha s _ u hu pre w b (by rw [hws, hb])
      exact ⟨c, .first hc hq, hwrite, hbefore⟩
    · obtain ⟨c, hc, hwrite, hbefore⟩ := hf y u x t ht b w post (by rw [hus, hb])
      exact ⟨c, .next hp hu hc, hwrite, by rw [hbefore, hws, List.append_assoc]⟩
  · obtain ⟨c, hc, hwrite, hbefore⟩ := ha s _ t he pre w post hw
    exact ⟨c, .first hc hq, hwrite, hbefore⟩

/-- The calls of a loop are those of its rounds. -/
theorem Found.forEach {β : Type} {f : β → Act Unit} (hf : ∀ y, Found n (f y))
    (hbuilt : ∀ y, Built Anything (f y)) (l : List β) : Found n (do for y in l do f y) := by
  have htallied (l : List β) : Tallied (do for y in l do f y) :=
    .built (.forEach fun y _ => hbuilt y)
  induction l with
  | nil =>
      rw [forEach_nil]
      apply Found.still
      intro s x t h
      cases h
      rfl
  | cons y l ih =>
      rw [forEach_cons]
      exact .bind (hf y) (.built (hbuilt y)) (fun _ => ih) fun _ => htallied l

theorem Found.gets (f : Session → α) : Found n (Act.gets f) := by
  apply Found.still
  intro s x t h
  cases h
  rfl

theorem Found.notify (hr : ∀ r, Found n (Act.react r)) (key : String) (v : Json)
    (source : Option Source) : Found n (Act.notify key v source) := by
  have hreact (l : Listener) : Built Anything (Act.react (.listener l key v source)) := .react _
  have hloop (ls : List Listener) :
      Found n (do for l in ls do Act.react (.listener l key v source)) :=
    .forEach (fun l => hr _) hreact ls
  apply Found.bind
  · exact .gets _
  · exact .built (.gets fun _ _ => rfl)
  · exact hloop
  · exact fun ls => .built (.forEach fun l _ => hreact l)

/-- The first write of a call is its own; all others are made while its listeners are told. -/
theorem Found.write (hr : ∀ r, Found n (Act.react r)) (key : String) (v : Json)
    (source : Option Source) : Found n (Act.write key v source) := by
  intro s x t h pre w post hw
  let c : Insertion := ⟨n, ⟨key, v, source⟩, s⟩
  obtain ⟨rfl, hnotify⟩ := run_write_notify _ _ _ _ h
  obtain ⟨ws, -, hws⟩ : c.after.Accounted t :=
    tallied_accounted (.built (built_notify key v source)) hnotify
  have hafter : c.after.writes = s.writes ++ [c.write] := c.after_writes
  have hall : c.write::ws = pre ++ w::post := by
    apply (List.append_right_inj s.writes).mp
    rw [← hw, hws, hafter, List.append_assoc, List.singleton_append]
  cases pre with
  | nil =>
      have hfirst : c.write = w := (List.cons_eq_cons.mp hall).1
      exact ⟨c, .call, hfirst, (List.append_nil _).symm⟩
  | cons first pre =>
      obtain ⟨rfl, hrest⟩ := List.cons_eq_cons.mp hall
      obtain ⟨d, hd, hwrite, hbefore⟩ :=
        Found.notify hr key v source c.after _ t hnotify pre w post (hws.trans (congrArg _ hrest))
      refine ⟨d, .told hd, hwrite, ?_⟩
      rw [hbefore, hafter, List.append_assoc, List.singleton_append]

theorem Found.built (hr : ∀ r, Found n (Act.react r)) (h : Built Anything a) : Found n a := by
  induction h with
  | pure y =>
      apply Found.still
      intro s x t h
      cases h
      rfl
  | throw e =>
      apply Found.still
      intro s x t h
      cases h
      rfl
  | gets _ => exact .gets _
  | change hf =>
      apply Found.still
      intro s x t h
      cases h
      exact hf.writes_eq s
  | emit _ hw =>
      apply Found.still
      intro s x t h
      cases h
      exact (Session.Wrote.emit s hw).writes.trans (List.append_nil _)
  | write _ => exact .write hr _ _ _
  | react r => exact hr r
  | bind ha hf iha ihf =>
      exact .bind iha (.built ha) ihf fun y => .built (hf y)
  | attempt _ ih =>
      intro s x t h pre w post hw
      obtain ⟨y, hy, -⟩ := attempt_cases h
      obtain ⟨c, hc, hrest⟩ := ih s y t hy pre w post hw
      exact ⟨c, .attempt hc, hrest⟩
  | outcome _ ih =>
      intro s x t h pre w post hw
      obtain ⟨y, hy, -⟩ := outcome_cases h
      obtain ⟨c, hc, hrest⟩ := ih s y t hy pre w post hw
      exact ⟨c, .outcome hc, hrest⟩
  | ending _ hf ih =>
      intro s x t h pre w post hw
      obtain ⟨u, hu, rfl⟩ := ending_cases h
      obtain ⟨c, hc, hrest⟩ := ih s _ u hu pre w post ((hf.writes_eq u).symm.trans hw)
      exact ⟨c, .ending hc hf, hrest⟩

theorem Found.tallied (hr : ∀ r, Found n (Act.react r)) (h : Tallied a) : Found n a := by
  induction h with
  | built h => exact .built hr h
  | counted =>
      apply Found.still
      intro s x t h
      cases h
      rfl
  | bind ha hf iha ihf => exact .bind iha ha ihf hf

/-- By induction on how deeply reactions nest. -/
theorem found_react (n : Nat) (r : Reaction) : Found n (Act.react r) := by
  induction n generalizing r with
  | zero => exact fun s x t h => nomatch h
  | succ n ih =>
      intro s x t h pre w post hw
      have hr : Built Anything (reaction r) := built_reaction (fun _ _ _ => trivial) r
      obtain ⟨c, hc, hrest⟩ := Found.built ih hr s x t h pre w post hw
      exact ⟨c, .react hc, hrest⟩

theorem found_resume (n : Nat) (frame : Frame) (answer : Bool) : Found n (resume frame answer) :=
  .tallied (found_react n) (tallied_resume frame answer)

/-- The call is made in the course of a run. -/
def MadeDuring (c : Insertion) (log : List Stretch) : Prop :=
  ∃ x ∈ log, ∃ n, x.Runs (cascade n) ∧ c.MadeIn n (resume x.task.frame x.answer) x.before

end Insertion

namespace Interleaved
variable {s₀ s : Session} {log : List Stretch}

theorem accounted (h : Interleaved cascade s₀ s log) : s₀.Accounted s := by
  apply h.inv
  · exact Session.accounted_respected.refl s₀
  · intro x n _ hbefore hx
    exact Session.accounted_respected.trans hbefore
      ⟨x.writes, Stretch.values_after hx, x.writes_after hx⟩
  · intro s t hs ht
    have hplain : s.Accounted t := by
      rw [ht]
      exact .plain rfl rfl
    exact Session.accounted_respected.trans hs hplain

/-- What a stretch has written stays written. -/
theorem writes_prefix (h : Interleaved cascade s₀ s log) {x : Stretch} (hx : x ∈ log) :
    x.after.writes <+: s.writes := by
  induction h with
  | start => cases hx
  | @ran y log n _ hy ih =>
      have hgrown : y.before.writes <+: y.after.writes := ⟨_, (y.writes_after hy).symm⟩
      rcases List.mem_append.mp hx with hx | hx
      · exact (ih hx).trans hgrown
      · obtain rfl := List.mem_singleton.mp hx
        exact List.prefix_rfl
  | idle _ ht ih =>
      rw [ht]
      exact ih hx

end Interleaved

namespace Insertion
variable {s₀ s : Session} {log more : List Stretch} {c : Insertion}

theorem MadeDuring.later (h : c.MadeDuring log) : c.MadeDuring (log ++ more) := by
  obtain ⟨x, hx, hmade⟩ := h
  exact ⟨x, List.mem_append_left more hx, hmade⟩

/-- A call of a run finds what was written before it, ends in its stretch, and its write is one of
the run. -/
theorem MadeDuring.accounted (hc : c.MadeDuring log) (h : Interleaved cascade s₀ s log) :
    s₀.Accounted c.before ∧ c.after.writes <+: s.writes ∧
      ∃ t, c.Returns (Table.find? c.before.values c.write.key) t := by
  obtain ⟨x, hx, n, hruns, hmade⟩ := hc
  obtain ⟨pre, post, hlog⟩ := List.append_of_mem hx
  obtain ⟨hbefore, t, hreturns, ⟨ws, -, hws⟩, us, -, hus⟩ := hmade.returned hruns
  have hstretch : c.after.writes <+: x.after.writes := by
    have hstopped : c.after.writes <+: x.stopped.writes :=
      ⟨ws ++ us, by rw [hus, hws, List.append_assoc]⟩
    exact (x.stopped.record_writes x.task x.result).symm ▸ hstopped
  refine ⟨?_, hstretch.trans (h.writes_prefix hx), t, hreturns⟩
  exact Session.accounted_respected.trans (h.before hlog).accounted hbefore

/-- Every write of a run is the insertion of one of its calls, which finds the writes before it. -/
theorem exists_madeDuring (h : Interleaved cascade s₀ s log) {pre : List Write} {w : Write}
    {post : List Write} (hw : s.writes = s₀.writes ++ (pre ++ w::post)) :
    ∃ c : Insertion, c.MadeDuring log ∧ c.write = w ∧ c.before.writes = s₀.writes ++ pre := by
  induction h generalizing pre post with
  | start => simp at hw
  | @ran x log n hx hruns ih =>
      obtain ⟨ws, -, hws⟩ := hx.accounted
      have hall : ws ++ x.writes = pre ++ w::post := by
        apply (List.append_right_inj s₀.writes).mp
        rw [← hw, x.writes_after hruns, hws, List.append_assoc]
      -- The write was made before the last stretch, or in it.
      obtain ⟨b, hb, -⟩ | ⟨b, hb, rfl⟩ := split_append hall
      · have hfirst : x.before.writes = s₀.writes ++ (pre ++ w::b) := by rw [hws, hb]
        obtain ⟨c, hc, hwrite, hbefore⟩ := ih hfirst
        exact ⟨c, hc.later, hwrite, hbefore⟩
      · have hstopped : x.stopped.writes = x.before.writes ++ (b ++ w::post) := by
          rw [← hb, ← x.writes_after hruns]
          exact (x.stopped.record_writes x.task x.result).symm
        obtain ⟨c, hc, hwrite, hbefore⟩ :=
          found_resume n x.task.frame x.answer _ _ _ hruns b w post hstopped
        refine ⟨c, ⟨x, ?_, n, hruns, hc⟩, hwrite, ?_⟩
        · exact List.mem_append_right _ (List.mem_singleton_self x)
        · rw [hbefore, hws, List.append_assoc]
  | @idle s t log _ ht ih =>
      apply ih
      rw [ht] at hw
      exact hw

end Insertion

theorem Inserted.still_has {ws us : List Write} {values later : Fields}
    (h : Inserted ws values) (k : Inserted us later) (hle : ws <+: us) {key : String}
    (hkey : Table.has values key = true) : Table.has later key = true := by
  obtain ⟨w, hw, rfl⟩ := (h.known key).mp hkey
  exact (k.known w.key).mpr ⟨w, hle.subset hw, rfl⟩

section
variable {n : Nat} {P : Session → Prop} {s : Session}

theorem Unechoed.writes_once {key : String} (h : Unechoed n key P) (hs : P s) (v : Json)
    (source : Option Source) : ∃ t,
      write key v source (cascade n) s = some (.ok (Table.find? s.values key), t) ∧
      t.writes = s.writes ++ [⟨key, v, source⟩] ∧ P t := by
  have hlisten : ∀ p ∈ s.callees key, p.2 ∈ (s.storing key v source).audience key := by
    intro p hp
    have hmem := List.mem_map_of_mem (f := Prod.snd) hp
    rwa [s.callees_audience] at hmem
  obtain ⟨calls, t, hcalls, hcallees, hwrites, hPt⟩ :=
    h.notified v source (h.stored hs v source) hlisten
  have hrun : write key v source (cascade n) s = some (.ok (Table.find? s.values key), t) :=
    (run_write_iff fun l => faultless_listener n l key v source).mpr ⟨rfl, calls, hcalls, hcallees⟩
  exact ⟨t, hrun, hwrites.trans (Session.Wrote.stored s key v source).writes, hPt⟩

theorem Unechoed.writes_all {values : Fields} (h : ∀ key ∈ Table.keys values, Unechoed n key P)
    (hs : P s) (source : Option Source) : ∃ t,
      writeAll values source (cascade n) s = some (.ok (), t) ∧
      t.writes = s.writes ++ Table.writesBy values source := by
  induction values generalizing s with
  | nil => exact ⟨s, rfl, (List.append_nil _).symm⟩
  | cons entry values ih =>
      obtain ⟨key, v⟩ := entry
      obtain ⟨hfirst, hrest⟩ := List.forall_mem_cons.mp h
      obtain ⟨u, hu, hwrite, hPu⟩ := hfirst.writes_once hs v source
      obtain ⟨t, ht, hwrites⟩ := ih hrest hPu
      refine ⟨t, ?_, ?_⟩
      · rw [writeAll_cons, discard_bind, run_bind_ok hu]
        exact ht
      · rw [hwrites, hwrite, List.append_assoc]
        rfl

theorem run_writeAll_overlay {values : Fields}
    (h : ∀ key ∈ Table.keys values, Unechoed n key P) (hs : P s) (source : Option Source) :
    ∃ t, (writeAll values source).settle n s = some (.ok (), t) ∧
      t.writes = s.writes ++ Table.writesBy values source ∧
      t.values = Table.overlay s.values values := by
  obtain ⟨t, ht, hwrites⟩ := Unechoed.writes_all h hs source
  have hbuilt : Built Anything (writeAll values source) :=
    built_writeAll values fun _ _ => trivial
  obtain ⟨ws, hvalues, hws⟩ := tallied_accounted (.built hbuilt) ht
  obtain rfl : ws = Table.writesBy values source :=
    List.append_cancel_left (hws.symm.trans hwrites)
  exact ⟨t, ht, hwrites, hvalues.trans (Table.written_writesBy ..)⟩

end

theorem eraseDups_of_nodup {l : List String} (h : l.Nodup) : l.eraseDups = l := by
  induction l with
  | nil => rfl
  | cons a l ih =>
      obtain ⟨hnew, hrest⟩ := List.nodup_cons.mp h
      have hkept : l.filter (fun b => !b == a) = l := by
        apply List.filter_eq_self.mpr
        intro b hb
        simpa using fun he : b = a => hnew (he ▸ hb)
      rw [List.eraseDups_cons, hkept, ih hrest]

theorem Table.find?_of_not_mem {t : Fields} {key : String} (h : key ∉ Table.keys t) :
    Table.find? t key = none := by
  induction t with
  | nil => rfl
  | cons e t ih =>
      obtain ⟨hk, ht⟩ := List.ne_and_not_mem_of_not_mem_cons h
      rw [find?, if_neg (Ne.symm hk), ih ht]

/-- Of a mapping each key counts once: the keys that are new follow the old ones in its order. -/
theorem Table.overlay_mapping {t u : Fields} (hu : (Table.keys u).Nodup) :
    Table.keys (Table.overlay t u) = Table.keys t ++ (Table.keys u).filter (· ∉ Table.keys t) ∧
      ∀ key, Table.find? (Table.overlay t u) key = (Table.find? u key).or (Table.find? t key) := by
  constructor
  · rw [keys_overlay, eraseDups_of_nodup (hu.filter _)]
  · intro key
    induction u generalizing t with
    | nil => rfl
    | cons e u ih =>
        obtain ⟨k, v⟩ := e
        obtain ⟨hnew, hrest⟩ := List.nodup_cons.mp hu
        rw [overlay_cons, ih hrest, find?_put, find?]
        by_cases hk : k = key
        · rw [if_pos hk, if_pos hk, find?_of_not_mem (hk ▸ hnew)]
          rfl
        · rw [if_neg hk, if_neg hk]

/-- In every run from an empty store, calls being made by tasks and by listeners at any depth: at
each insertion the state holds the keys that were written so far, each once, in the order in which
they were first inserted, and with the value that was inserted last; and the call returns what its
key held before its own insertion, whatever its listeners write. A key that has been written stays
known. Every write in the trace is such an insertion. A mapping that is written under listeners
which do not write is laid over the state, its new keys behind the old ones. -/
theorem insertions_in_order {s₀ s : Session} {log : List Stretch}
    (h : Interleaved cascade s₀ s log) (hvalues : s₀.values = []) (hwrites : s₀.writes = []) :
    (∀ c : Insertion, c.MadeDuring log →
      Inserted c.after.writes c.after.values ∧
      c.after.writes = c.before.writes ++ [c.write] ∧ c.after.writes <+: s.writes ∧
      (∃ t, c.Returns (lastWritten c.before.writes c.write.key) t) ∧
      ∀ key, Table.has c.after.values key = true → Table.has s.values key = true ∧
        ∀ d : Insertion, d.MadeDuring log → c.before.writes.length ≤ d.before.writes.length →
          Table.has d.after.values key = true) ∧
    (∀ pre w post, s.writes = pre ++ w::post →
      ∃ c : Insertion, c.MadeDuring log ∧ c.write = w ∧ c.before.writes = pre) ∧
    Inserted s.writes s.values ∧
    ∀ n P u values source, (Table.keys values).Nodup →
      (∀ key ∈ Table.keys values, Unechoed n key P) → P u →
      ∃ t, (writeAll values source).settle n u = some (.ok (), t) ∧
        t.writes = u.writes ++ Table.writesBy values source ∧
        Table.keys t.values =
          Table.keys u.values ++ (Table.keys values).filter (· ∉ Table.keys u.values) ∧
        ∀ key, Table.find? t.values key =
          (Table.find? values key).or (Table.find? u.values key) := by
  have hstate {u : Session} (hu : s₀.Accounted u) : u.values = Table.written [] u.writes := by
    obtain ⟨ws, hv, hw⟩ := hu
    rw [hv, hw, hvalues, hwrites, List.nil_append]
  have hinserted {u : Session} (hu : s₀.Accounted u) : Inserted u.writes u.values := by
    rw [hstate hu]
    exact inserted_written u.writes
  have hafter {c : Insertion} (hc : c.MadeDuring log) : s₀.Accounted c.after :=
    Session.accounted_respected.trans (hc.accounted h).1 (accounted_storing ..)
  refine ⟨fun c hc => ⟨hinserted (hafter hc), c.after_writes, ?_, ?_, ?_⟩, ?_, ?_, ?_⟩
  · exact (hc.accounted h).2.1
  · obtain ⟨hbefore, -, t, hreturns⟩ := hc.accounted h
    rw [(hinserted hbefore).value] at hreturns
    exact ⟨t, hreturns⟩
  · intro key hkey
    have hprefix := (hc.accounted h).2.1
    constructor
    · exact (hinserted (hafter hc)).still_has (hinserted h.accounted) hprefix hkey
    · intro d hd hle
      have hlater : c.after.writes <+: d.after.writes := by
        apply List.prefix_of_prefix_length_le hprefix (hd.accounted h).2.1
        simpa [c.after_writes, d.after_writes] using hle
      exact (hinserted (hafter hc)).still_has (hinserted (hafter hd)) hlater hkey
  · intro pre w post hw
    have hall : s.writes = s₀.writes ++ (pre ++ w::post) := by
      rw [hw, hwrites, List.nil_append]
    obtain ⟨c, hc, hwrite, hbefore⟩ := Insertion.exists_madeDuring h hall
    exact ⟨c, hc, hwrite, by rw [hbefore, hwrites, List.nil_append]⟩
  · exact hinserted h.accounted
  · intro n P u values source hkeys hquiet hu
    obtain ⟨t, ht, hw, hv⟩ := run_writeAll_overlay hquiet hu source
    obtain ⟨horder, hfind⟩ := Table.overlay_mapping (t := u.values) hkeys
    exact ⟨t, ht, hw, hv ▸ horder, hv ▸ hfind⟩

/-- A listener presses a button, once, by which its key is set again: the outer call finds the key
unset, the inner one finds what the outer one has set, and the inner value stays. -/
theorem insertions_in_order_nested : ∃ s₀ s log, ∃ c d : Insertion,
    Interleaved cascade s₀ s log ∧ s₀.values = [] ∧
    s.writes = [⟨"a", .string "outer", none⟩, ⟨"a", .string "inner", some ⟨"w"⟩⟩] ∧
    c.MadeDuring log ∧ c.write.value = .string "outer" ∧ (∃ t, c.Returns none t) ∧
    d.MadeDuring log ∧ d.write.value = .string "inner" ∧
    (∃ t, d.Returns (some (.string "outer")) t) ∧
    Table.find? c.after.values "a" = some (.string "outer") ∧
    s.values = [("a", .string "inner")] ∧
    ∃ t, (writeAll [("b", .null), ("a", .null)] none).settle 3 { values := s.values } =
      some (.ok (), t) ∧ Table.keys t.values = ["a", "b"] := by
  let s₀ : Session :=
    { listeners := [("a", .report "r" [.element (.click 0)])], elements := [{}],
      handlers := [⟨0, .click, .watch "w"
        [.element (.disable 0 true), .state (.set "a" (.string "inner") (some ⟨"w"⟩))]⟩] }
  have h₀ : Interleaved cascade s₀ s₀ [] := .start
  set_option maxRecDepth 1000 in
  have h := h₀.resumed 7
    ⟨0, .detached, .begin (.now (.state (.set "a" (.string "outer") none)))⟩ true rfl
  obtain ⟨hmade, hfound, -, hbulk⟩ := insertions_in_order h rfl rfl
  obtain ⟨c, hc, hcwrite, hcbefore⟩ := hfound [] _ _ rfl
  obtain ⟨d, hd, hdwrite, hdbefore⟩ := hfound [_] _ [] rfl
  obtain ⟨hcafter, hcwrites, -, hcreturns, -⟩ := hmade c hc
  obtain ⟨-, -, -, hdreturns, -⟩ := hmade d hd
  rw [hcbefore, hcwrite] at hcreturns
  rw [hdbefore, hdwrite] at hdreturns
  have hlinked : Linked [] 0 { values := [("a", .string "inner")] } :=
    ⟨rfl, rfl, (fun p hp => nomatch hp), (fun r hr => nomatch hr), rfl, rfl⟩
  obtain ⟨t, ht, -, hkeys, -⟩ := hbulk 3 (Linked [] 0) _ [("b", .null), ("a", .null)] none
    (by decide) (fun key _ => unechoed_linked 0 key [] 0) hlinked
  have hholds : Table.find? c.after.values "a" = some (.string "outer") := by
    rw [hcafter.value, hcwrites, hcbefore, hcwrite]
    rfl
  exact ⟨s₀, _, _, c, d, h, rfl, rfl, hc, by rw [hcwrite], hcreturns, hd, by rw [hdwrite],
    hdreturns, hholds, rfl, t, ht, hkeys⟩

end ScreenBinding
