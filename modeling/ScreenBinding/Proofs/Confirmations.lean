import ScreenBinding.Proofs.Questions
import ScreenBinding.Engine.Task

/-!
# Confirmations

One confirm modal is asked to confirm, shown and responded to in any order, between anything else
that leaves the modal alone. Who was answered is read off the sessions before and after an exchange.
A question is decided by the first exchange behind it that is a response or shows another change,
and nothing answers it a second time.

The invariant is that the modal keeps a question exactly while it is asked and not yet decided.
Questions are numbered, so that a new one is none of those before.
-/
namespace ScreenBinding
open Act

/-- What is done to the modal, and what came of it. -/
inductive Move where
  | asked (previous next : Json) (result : Except Fault Ticket)
  | shown (args : Fields) (result : Except Fault Bool)
  | responded (accepted : Bool) (result : Except Fault Bool)

/-- A move between two sessions. -/
structure Exchange where
  move : Move
  before : Session
  after : Session

/-- The arguments that a confirmation is shown with. -/
def confirmArgs (previous next : Json) : Fields := [("previous", previous), ("next", next)]

namespace Exchange

/-- Whether the exchange shows a change. -/
def displays (n : Exchange) : Bool :=
  match n.move with
  | .asked previous next _ => (n.before.change? (confirmArgs previous next)).any (!·.isEmpty)
  | .shown args _ => (n.before.change? args).any (!·.isEmpty)
  | .responded .. => false

/-- The answer that the exchange gives to a question which waits for it. -/
def decides (n : Exchange) : Option Bool :=
  match n.move with
  | .responded accepted _ => some accepted
  | _ => if n.displays then some false else none

/-- The questions that were answered in this exchange. -/
def answers (n : Exchange) : List (Ticket × Bool) := n.before.answered n.after

/-- The act of the exchange was carried out on the modal. -/
def Carried (name : String) (n : Exchange) : Prop :=
  ∃ m, match n.move with
  | .asked previous next r => (askConfirm name previous next).settle m n.before = some (r, n.after)
  | .shown args r => (showSurface .modal name args none).settle m n.before = some (r, n.after)
  | .responded accepted r => (respondModal name accepted).settle m n.before = some (r, n.after)

end Exchange

/-- All answers to a question, in order. -/
def answersTo (k : Ticket) (log : List Exchange) : List Bool :=
  (log.flatMap Exchange.answers).filterMap fun p => if p.1 = k then some p.2 else none

/-- What the first deciding exchange decides. -/
def verdict (log : List Exchange) : Option Bool := log.findSome? Exchange.decides

/-- Anything else: the modal is left alone, and questions are drawn from the counter. -/
structure Session.Elsewhere (name : String) (s t : Session) : Prop where
  renderer : t.renderer = s.renderer
  modal : Table.find? t.modals name = Table.find? s.modals name
  drawn : s.nextTicket ≤ t.nextTicket
  awaiting : ∀ p ∈ t.awaiting, p.1 < t.nextTicket
  answers : ∀ p ∈ t.answers, p.1 < t.nextTicket

/-- The runs on one confirm modal, from where no question waits. -/
inductive Dialogue (name : String) : Session → List Exchange → Prop
  | start {s : Session} : s.Confirms name → s.pendingOn name = none → Dialogue name s []
  | exchange {log : List Exchange} {n : Exchange} : Dialogue name n.before log → n.Carried name →
      Dialogue name n.after (log ++ [n])
  | other {s t : Session} {log : List Exchange} : Dialogue name s log → s.Elsewhere name t →
      Dialogue name t log

namespace Exchange

/-- The question that is answered as soon as it is asked. -/
def granted (n : Exchange) : List (Ticket × Bool) :=
  match n.move with
  | .asked _ _ (.ok k) => if n.displays then [] else [(k, true)]
  | _ => []

/-- The question that waits from this exchange on. -/
def taken (n : Exchange) : Option Ticket :=
  match n.move with
  | .asked _ _ (.ok k) => if n.displays then some k else none
  | _ => none

theorem move_of_granted {n : Exchange} {p : Ticket × Bool} (h : p ∈ n.granted) :
    ∃ a b, n.move = .asked a b (.ok p.1) := by
  unfold granted at h
  split at h
  · rename_i a b k hmove
    split at h
    · cases h
    · cases List.mem_singleton.mp h
      exact ⟨a, b, hmove⟩
  · cases h

theorem move_of_taken {n : Exchange} {k : Ticket} (h : n.taken = some k) :
    ∃ a b, n.move = .asked a b (.ok k) := by
  unfold taken at h
  split at h
  · rename_i a b j hmove
    split at h
    · cases h
      exact ⟨a, b, hmove⟩
    · cases h
  · cases h

/-- The counter goes up when a question is asked; whoever waited is answered by an exchange that
decides, and so is a question without a change. -/
structure Effect (name : String) (n : Exchange) : Prop where
  confirms : n.after.Confirms name
  drawn : n.before.nextTicket ≤ n.after.nextTicket
  fresh : ∀ p q k, n.move = .asked p q (.ok k) →
    k = n.before.nextTicket ∧ n.before.nextTicket < n.after.nextTicket
  answers : n.answers = n.granted ++ (n.before.pendingOn name).toList.zip n.decides.toList
  pending : n.after.pendingOn name =
    if n.decides.isSome then n.taken else n.before.pendingOn name

end Exchange

section
variable {s t : Session} {name : String}

/-- The question that waits is dropped. -/
theorem Session.answered_drop {old : Option Ticket} (h : (s.drop old).SameWaiters t) :
    s.answered t = old.toList.zip [false] := by
  cases old with
  | none => exact h.answered
  | some k => exact answered_resolve h

theorem Session.ask_fresh {k : Ticket} (h : s.Confirms name) (hk : k = s.nextTicket) :
    (s.freshTicket.ask .modal name (some k)).Confirms name ∧
      (s.freshTicket.ask .modal name (some k)).pendingOn name = some k ∧
      (s.freshTicket.drop (s.pendingOn name)).SameWaiters
        (s.freshTicket.ask .modal name (some k)) := by
  refine h.freshTicket.ask (some k) ?_
  rintro j ⟨⟩
  exact hk ▸ Nat.lt_succ_self _

theorem Session.ask_nextTicket (s : Session) (name : String) (ticket : Option Ticket) :
    (s.ask .modal name ticket).nextTicket = s.nextTicket := by
  rw [ask_eq]
  cases s.pendingOn name with
  | none => rfl
  | some k => exact resolve_nextTicket _ k false

end

namespace Exchange

/-- An exchange that decides nothing and grants nothing leaves those who wait alone. -/
theorem Effect.undecided {name : String} {n : Exchange} (hconfirms : n.after.Confirms name)
    (hdrawn : n.before.nextTicket ≤ n.after.nextTicket)
    (hfresh : ∀ p q k, n.move ≠ .asked p q (.ok k)) (hgranted : n.granted = [])
    (hdecides : n.decides = none) (hwaiters : n.before.SameWaiters n.after)
    (hpending : n.after.pendingOn name = n.before.pendingOn name) : Effect name n where
  confirms := hconfirms
  drawn := hdrawn
  fresh p q k hmove := (hfresh p q k hmove).elim
  answers := by
    rw [Exchange.answers, hwaiters.answered, hgranted, hdecides]
    simp
  pending := by
    rw [hdecides]
    exact hpending

theorem effect_asked {name : String} {p q : Json} {r : Except Fault Ticket} {s t : Session}
    {m : Nat} (hs : s.Confirms name) (hr : (askConfirm name p q).settle m s = some (r, t)) :
    Effect name ⟨.asked p q r, s, t⟩ := by
  cases hc : s.change? (confirmArgs p q) with
  | none =>
      cases (run_confirm_unlisted hs hc).symm.trans hr
      have hdecides : decides ⟨.asked p q (.error .listExpected), s, s.freshTicket⟩ = none := by
        simp [decides, displays, hc]
      exact .undecided hs.freshTicket (Nat.le_succ _) nofun rfl hdecides ⟨rfl, rfl, rfl⟩ rfl
  | some d =>
      cases hd : d.isEmpty with
      | true =>
          cases (run_confirm_same _ hs hc hd).1.symm.trans hr
          have hlt : s.nextTicket < s.freshTicket.nextTicket := Nat.lt_succ_self _
          have ha : s.answered (s.freshTicket.resolve s.nextTicket true) =
            [(s.nextTicket, true)] :=
            Session.answered_resolve (s := s.freshTicket) (.refl _)
          refine ⟨hs.freshTicket.resolve hlt true, ?_, ?_, ?_, ?_⟩
          · rw [Session.resolve_nextTicket]
            exact Nat.le_of_lt hlt
          · rintro _ _ _ ⟨⟩
            rw [Session.resolve_nextTicket]
            exact ⟨rfl, hlt⟩
          · simp [answers, granted, decides, displays, hc, hd, ha]
          · simp only [decides, displays, hc, Option.any_some, hd]
            rw [Session.pendingOn, Session.resolve_modals]
            rfl
      | false =>
          obtain ⟨T, hT⟩ := run_confirm_change (cascade m) hs hc hd
          cases hT.symm.trans hr
          obtain ⟨hconfirms, hpending, hw⟩ := s.ask_fresh hs rfl
          have hn := s.freshTicket.ask_nextTicket name (some s.nextTicket)
          refine ⟨hconfirms.retrace T, ?_, ?_, ?_, ?_⟩
          · exact Nat.le_of_lt (Nat.lt_of_lt_of_eq (Nat.lt_succ_self _) hn.symm)
          · rintro _ _ _ ⟨⟩
            exact ⟨rfl, Nat.lt_of_lt_of_eq (Nat.lt_succ_self _) hn.symm⟩
          · have ha := Session.answered_drop (s := s.freshTicket) hw
            simp only [answers, granted, decides, displays, hc, Option.any_some, hd]
            exact ha
          · simp only [taken, decides, displays, hc, Option.any_some, hd]
            exact hpending

theorem effect_shown {name : String} {args : Fields} {r : Except Fault Bool} {s t : Session}
    {m : Nat} (hs : s.Confirms name)
    (hr : (showSurface .modal name args none).settle m s = some (r, t)) :
    Effect name ⟨.shown args r, s, t⟩ := by
  cases hc : s.change? args with
  | none =>
      cases (run_show_unlisted hs hc none).symm.trans hr
      have hdecides : decides ⟨.shown args (.error .listExpected), s, s⟩ = none := by
        simp [decides, displays, hc]
      exact .undecided hs (Nat.le_refl _) nofun rfl hdecides (.refl s) rfl
  | some d =>
      cases hd : d.isEmpty with
      | true =>
          cases (run_show_same hs hc hd none).symm.trans hr
          have hdecides : decides ⟨.shown args (.ok false), s, s⟩ = none := by
            simp [decides, displays, hc, hd]
          exact .undecided hs (Nat.le_refl _) nofun rfl hdecides (.refl s) rfl
      | false =>
          obtain ⟨T, hT⟩ := run_show_change (cascade m) hs hc hd none nofun
          cases hT.symm.trans hr
          obtain ⟨hconfirms, hpending, hw⟩ := hs.ask none nofun
          have hn := s.ask_nextTicket name none
          refine ⟨hconfirms.retrace T, Nat.le_of_eq hn.symm, nofun, ?_, ?_⟩
          · have ha := Session.answered_drop (s := s) hw
            simp only [answers, granted, decides, displays, hc, Option.any_some, hd]
            exact ha
          · simp only [taken, decides, displays, hc, Option.any_some, hd]
            exact hpending

theorem effect_responded {name : String} {accepted : Bool} {r : Except Fault Bool} {s t : Session}
    {m : Nat} (hs : s.Confirms name)
    (hr : (respondModal name accepted).settle m s = some (r, t)) :
    Effect name ⟨.responded accepted r, s, t⟩ := by
  cases hp : s.pendingOn name with
  | none =>
      cases (run_respond_idle hs hp accepted).symm.trans hr
      have hw : s.SameWaiters (s.retrace (.modalsClosed::s.trace)) := ⟨rfl, rfl, rfl⟩
      refine ⟨hs.retrace _, Nat.le_refl _, nofun, ?_, ?_⟩
      · simp [answers, granted, decides, hp, hw.answered]
      · exact hp
  | some k =>
      obtain ⟨T, hT⟩ := run_respond_waiting (cascade m) hs hp accepted
      cases hT.symm.trans hr
      have hk : k < s.nextTicket := hs.pending k hp
      have hw : (s.resolve k accepted).SameWaiters ((s.place name none).resolve k accepted) :=
        (s.place_waiters name none).resolve k accepted
      have hplace : (s.place name none).Confirms name := hs.place nofun
      refine ⟨(hplace.resolve hk accepted).retrace T, ?_, nofun, ?_, ?_⟩
      · exact Nat.le_of_eq (Session.resolve_nextTicket (s.place name none) k accepted).symm
      · have ha : s.answered (((s.place name none).resolve k accepted).retrace T) =
          [(k, accepted)] := Session.answered_resolve ⟨hw.awaiting, hw.ready, hw.answers⟩
        simp [answers, granted, decides, hp, ha]
      · change Option.bind (Table.find? ((s.place name none).resolve k accepted).modals name) _ = _
        rw [Session.resolve_modals]
        exact hs.pendingOn_place none

/-- What an exchange does, whatever its move. -/
theorem Carried.effect {name : String} {n : Exchange} (h : n.Carried name)
    (hs : n.before.Confirms name) : n.Effect name := by
  obtain ⟨move, s, t⟩ := n
  obtain ⟨m, hm⟩ := h
  cases move with
  | asked p q r => exact effect_asked hs hm
  | shown args r => exact effect_shown hs hm
  | responded accepted r => exact effect_responded hs hm

end Exchange

theorem answersTo_append (k : Ticket) (l r : List Exchange) :
    answersTo k (l ++ r) = answersTo k l ++ answersTo k r := by
  simp [answersTo]

theorem verdict_append (l r : List Exchange) : verdict (l ++ r) = (verdict l).or (verdict r) := by
  simp [verdict, List.findSome?_append]

theorem verdict_singleton (n : Exchange) : verdict [n] = n.decides := by
  simp [verdict]

/-- Who has not asked yet has no answer. -/
theorem answersTo_undrawn {k : Ticket} {log : List Exchange}
    (h : ∀ n ∈ log, ∀ p ∈ n.answers, p.1 < k) : answersTo k log = [] := by
  simp only [answersTo, List.filterMap_eq_nil_iff, List.mem_flatMap]
  rintro p ⟨n, hn, hp⟩
  exact if_neg (Nat.ne_of_lt (h n hn p hp))

namespace Exchange.Effect
variable {name : String} {n : Exchange}

/-- Of the questions asked before, an exchange answers the one that waits. -/
theorem answersTo_earlier (h : n.Effect name) {k : Ticket} (hk : k < n.before.nextTicket) :
    answersTo k [n] = if n.before.pendingOn name = some k then n.decides.toList else [] := by
  have hgranted : n.granted.filterMap (fun p => if p.1 = k then some p.2 else none) = [] := by
    refine List.filterMap_eq_nil_iff.mpr fun p hp => if_neg fun he => ?_
    obtain ⟨a, b, hmove⟩ := move_of_granted hp
    exact Nat.ne_of_gt hk ((h.fresh a b p.1 hmove).1.symm.trans he)
  simp only [answersTo, List.flatMap_cons, List.flatMap_nil, List.append_nil, h.answers,
    List.filterMap_append, hgranted, List.nil_append]
  cases n.before.pendingOn name with
  | none => rfl
  | some j =>
      cases n.decides with
      | none => simp
      | some b => by_cases hj : j = k <;> simp [hj]

end Exchange.Effect

/-- A question was asked with a change, and no exchange has decided it since. -/
def Waits (k : Ticket) (log : List Exchange) : Prop :=
  ∃ pre n post p q, log = pre ++ n::post ∧ n.move = .asked p q (.ok k) ∧ n.displays = true ∧
    verdict post = none

/-- What holds of a question after the exchange `n` that asked it and the exchanges behind. -/
structure Followed (name : String) (s : Session) (log : List Exchange) (k : Ticket) (n : Exchange)
    (post : List Exchange) : Prop where
  drawn : k < s.nextTicket
  pending : s.pendingOn name = some k ↔ n.displays = true ∧ verdict post = none
  answers : answersTo k log = if n.displays then (verdict post).toList else [true]

structure Kept (name : String) (s : Session) (log : List Exchange) : Prop where
  confirms : s.Confirms name
  answered : ∀ n ∈ log, ∀ p ∈ n.answers, p.1 < s.nextTicket
  asked : ∀ pre n post p q k, log = pre ++ n::post → n.move = .asked p q (.ok k) →
    Followed name s log k n post
  waiting : ∀ k, s.pendingOn name = some k → ∃ n ∈ log, ∃ p q, n.move = .asked p q (.ok k)

section
variable {name : String} {s t : Session} {log : List Exchange} {n : Exchange}

/-- The modal keeps exactly the question that waits. -/
theorem Kept.pending_iff (h : Kept name s log) (k : Ticket) :
    s.pendingOn name = some k ↔ Waits k log := by
  constructor
  · intro hp
    obtain ⟨n, hn, p, q, hmove⟩ := h.waiting k hp
    obtain ⟨pre, post, hlog⟩ := List.mem_iff_append.mp hn
    have hf := (h.asked pre n post p q k hlog hmove).pending.mp hp
    exact ⟨pre, n, post, p, q, hlog, hmove, hf.1, hf.2⟩
  · rintro ⟨pre, n, post, p, q, hlog, hmove, hd, hv⟩
    exact (h.asked pre n post p q k hlog hmove).pending.mpr ⟨hd, hv⟩

theorem Kept.elsewhere (h : Kept name s log) (ht : s.Elsewhere name t) : Kept name t log := by
  have hp : t.pendingOn name = s.pendingOn name := by
    rw [Session.pendingOn, ht.modal, Session.pendingOn]
  have hdrawn {k : Ticket} (hk : k < s.nextTicket) : k < t.nextTicket :=
    Nat.lt_of_lt_of_le hk ht.drawn
  constructor
  · refine ⟨ht.renderer.trans h.confirms.renderer, ?_, ht.awaiting, ht.answers, ?_⟩
    · rw [ht.modal]
      exact h.confirms.modal
    · intro k hk
      exact hdrawn (h.confirms.pending k (hp ▸ hk))
  · exact fun n hn p hm => hdrawn (h.answered n hn p hm)
  · intro pre n post p q k hlog hmove
    have hf := h.asked pre n post p q k hlog hmove
    exact ⟨hdrawn hf.drawn, hp ▸ hf.pending, hf.answers⟩
  · exact fun k hk => h.waiting k (hp ▸ hk)

/-- A question that is asked in this exchange. -/
theorem Kept.followed_new (h : Kept name n.before log) (he : n.Effect name) {p q : Json}
    {k : Ticket} (hmove : n.move = .asked p q (.ok k)) :
    Followed name n.after (log ++ [n]) k n [] := by
  obtain ⟨hk, hlt⟩ := he.fresh p q k hmove
  have hearlier : answersTo k log = [] :=
    answersTo_undrawn fun m hm p hp => hk ▸ h.answered m hm p hp
  have hold (j : Ticket) (hj : n.before.pendingOn name = some j) : j ≠ k :=
    hk ▸ Nat.ne_of_lt (h.confirms.pending j hj)
  have hdecides : n.decides = if n.displays then some false else none := by
    rw [Exchange.decides, hmove]
  have hzip : ((n.before.pendingOn name).toList.zip n.decides.toList).filterMap
      (fun p => if p.1 = k then some p.2 else none) = [] := by
    cases hp : n.before.pendingOn name with
    | none => rfl
    | some j => cases n.decides <;> simp [hold j hp]
  have hnow : answersTo k [n] = if n.displays then [] else [true] := by
    have hg : n.granted = if n.displays then [] else [(k, true)] := by
      rw [Exchange.granted, hmove]
    simp only [answersTo, List.flatMap_cons, List.flatMap_nil, List.append_nil, he.answers,
      List.filterMap_append, hzip, hg]
    cases n.displays <;> simp
  refine ⟨hk ▸ hlt, ?_, ?_⟩
  · rw [he.pending, hdecides]
    cases hd : n.displays with
    | true => simp [Exchange.taken, hmove, hd, verdict]
    | false =>
        simp only [Bool.false_eq_true, if_false, Option.isSome_none, false_and, iff_false]
        exact fun hp => hold k hp rfl
  · rw [answersTo_append, hearlier, hnow]
    cases n.displays <;> rfl

/-- A question that was asked before this exchange. -/
theorem Followed.exchange {m : Exchange} {post : List Exchange} {k : Ticket}
    (hf : Followed name n.before log k m post) (he : n.Effect name) :
    Followed name n.after (log ++ [n]) k m (post ++ [n]) := by
  have hnow := he.answersTo_earlier hf.drawn
  have hpending : n.after.pendingOn name = some k ↔
      n.before.pendingOn name = some k ∧ n.decides = none := by
    rw [he.pending]
    cases hd : n.decides with
    | none => simp
    | some b =>
        simp only [Option.isSome_some, if_true, reduceCtorEq, and_false, iff_false]
        intro ht
        obtain ⟨p, q, hmove⟩ := Exchange.move_of_taken ht
        exact Nat.ne_of_lt hf.drawn (he.fresh p q k hmove).1
  refine ⟨Nat.lt_of_lt_of_le hf.drawn he.drawn, ?_, ?_⟩
  · rw [hpending, hf.pending, verdict_append, verdict_singleton, and_assoc]
    cases verdict post <;> simp
  · rw [answersTo_append, hf.answers, hnow, verdict_append, verdict_singleton]
    by_cases hp : n.before.pendingOn name = some k
    · obtain ⟨hd, hv⟩ := hf.pending.mp hp
      simp [hp, hd, hv]
    · rw [if_neg hp, List.append_nil]
      cases hd : m.displays with
      | false => rfl
      | true =>
          cases hv : verdict post with
          | none => exact (hp (hf.pending.mpr ⟨hd, hv⟩)).elim
          | some b => rfl

theorem Kept.exchange (h : Kept name n.before log) (hn : n.Carried name) :
    Kept name n.after (log ++ [n]) := by
  have he := hn.effect h.confirms
  constructor
  · exact he.confirms
  · intro m hm p hp
    rcases List.mem_append.mp hm with hm | hm
    · exact Nat.lt_of_lt_of_le (h.answered m hm p hp) he.drawn
    · obtain rfl := List.mem_singleton.mp hm
      rw [he.answers] at hp
      rcases List.mem_append.mp hp with hp | hp
      · obtain ⟨a, b, hmove⟩ := Exchange.move_of_granted hp
        obtain ⟨hk, hlt⟩ := he.fresh a b p.1 hmove
        exact hk ▸ hlt
      · have hm := (List.of_mem_zip hp).1
        exact Nat.lt_of_lt_of_le (h.confirms.pending p.1 (Option.mem_toList.mp hm)) he.drawn
  · intro pre m post p q k hlog hmove
    obtain ⟨rfl, rfl, rfl⟩ | ⟨post', rfl, hlog'⟩ := split_last hlog
    · exact h.followed_new he hmove
    · exact (h.asked pre m post' p q k hlog' hmove).exchange he
  · intro k hk
    rw [he.pending] at hk
    split at hk
    · obtain ⟨p, q, hmove⟩ := Exchange.move_of_taken hk
      exact ⟨n, List.mem_append_right _ (List.mem_singleton_self n), p, q, hmove⟩
    · obtain ⟨m, hm, p, q, hmove⟩ := h.waiting k hk
      exact ⟨m, List.mem_append_left _ hm, p, q, hmove⟩

theorem Dialogue.kept (h : Dialogue name s log) : Kept name s log := by
  induction h with
  | start hs hp =>
      refine ⟨hs, List.forall_mem_nil _, ?_, ?_⟩
      · intro pre n post p q k hlog
        simp at hlog
      · intro k hk
        rw [hp] at hk
        cases hk
  | exchange _ hn ih => exact ih.exchange hn
  | other _ ht ih => exact ih.elsewhere ht

/-- What came before an exchange is a run as well. -/
theorem Dialogue.before {pre post : List Exchange} (h : Dialogue name s log)
    (hlog : log = pre ++ n::post) : Dialogue name n.before pre ∧ n.Carried name := by
  induction h generalizing post with
  | start hs hp => simp at hlog
  | exchange hd hn ih =>
      obtain ⟨rfl, rfl, rfl⟩ | ⟨post', rfl, hlog'⟩ := split_last hlog
      · exact ⟨hd, hn⟩
      · exact ih hlog'
  | other _ _ ih => exact ih hlog

end

/-- Two values stand for lists with the same members. -/
def Session.SameTokens (s : Session) (p q : Json) : Prop :=
  ∀ a, a ∈ s.settings.separators.tokens p ↔ a ∈ s.settings.separators.tokens q

section
variable {s : Session} {name : String} {p q : Json}

theorem change?_confirm (hp : p.isListing = true) (hq : q.isListing = true) :
    ∃ d, s.change? (confirmArgs p q) = some d ∧ (d.isEmpty = true ↔ s.SameTokens p q) := by
  refine ⟨_, ?_, Difference.isEmpty_iff⟩
  simp [Session.change?, confirmArgs, Table.find?, hp, hq]

theorem change?_differ (hp : p.isListing = true) (hq : q.isListing = true)
    (h : ¬s.SameTokens p q) :
    ∃ d, s.change? (confirmArgs p q) = some d ∧ d.isEmpty = false := by
  obtain ⟨d, hc, hd⟩ := change?_confirm (s := s) hp hq
  refine ⟨d, hc, ?_⟩
  rw [← Bool.not_eq_true, hd]
  exact h

/-- A caller's question is shown exactly if the lists differ. -/
theorem displays_confirm (hp : p.isListing = true) (hq : q.isListing = true)
    (r : Except Fault Ticket) (t : Session) :
    Exchange.displays ⟨.asked p q r, s, t⟩ = true ↔ ¬s.SameTokens p q := by
  obtain ⟨d, hc, hd⟩ := change?_confirm (s := s) hp hq
  rw [← hd, Exchange.displays]
  simp [hc]

/-- The question that is put to the modal has not been answered before. -/
theorem unanswered {T : List Event} (h : s.Confirms name) :
    ((s.freshTicket.ask .modal name (some s.nextTicket)).retrace T).answers.find?
      (·.1 = s.nextTicket) = none := by
  refine List.find?_eq_none.mpr fun p hp => ?_
  have hw := (s.ask_fresh h rfl).2.2
  have hm : p ∈ (s.freshTicket.drop (s.pendingOn name)).answers := hw.answers ▸ hp
  have hlt : p.1 < s.nextTicket := by
    cases hpend : s.pendingOn name with
    | none =>
        rw [hpend] at hm
        exact h.answers p hm
    | some k =>
        rw [hpend] at hm
        rcases Session.mem_resolve_answers hm with rfl | hm
        · exact h.pending k hpend
        · exact h.answers p hm
  simpa using Nat.ne_of_lt hlt

theorem begin_confirm : begin (.confirm name p q) = (do
    awaitAnswer (← askConfirm name p q) .confirming fun b =>
      return .done (.value (.bool b))) := rfl

theorem run_await_answered {carry : React} {k j : Ticket} {b : Bool} {frame : Frame}
    {go : Bool → Act Progress} (h : s.answers.find? (·.1 = k) = some (j, b)) :
    awaitAnswer k frame go carry s =
      go b carry { s with answers := s.answers.filter (·.1 ≠ k) } := by
  rw [awaitAnswer, run_bind_ok (run_gets _), h]
  rfl

theorem run_await_unanswered {carry : React} {k : Ticket} {frame : Frame}
    {go : Bool → Act Progress} (h : s.answers.find? (·.1 = k) = none) :
    awaitAnswer k frame go carry s = some (.ok (.await k frame), s) := by
  rw [awaitAnswer, run_bind_ok (run_gets _), h]
  rfl

/-- A caller without a change has the answer yes at once. -/
theorem begin_confirm_same (h : s.Confirms name) (hp : p.isListing = true)
    (hq : q.isListing = true) (hsame : s.SameTokens p q) (m : Nat) :
    ∃ t, (begin (.confirm name p q)).settle m s =
      some (.ok (.done (.value (.bool true))), t) := by
  obtain ⟨d, hc, hd⟩ := change?_confirm (s := s) hp hq
  obtain ⟨hask, hanswers⟩ := run_confirm_same (cascade m) h hc (hd.mpr hsame)
  have hfind : (s.freshTicket.resolve s.nextTicket true).answers.find? (·.1 = s.nextTicket) =
      some (s.nextTicket, true) := by
    rw [hanswers]
    simp
  rw [begin_confirm, settle, run_bind_ok hask, run_await_answered hfind]
  exact ⟨_, run_pure _⟩

/-- Any other caller waits for the question. -/
theorem begin_confirm_change (h : s.Confirms name) (hp : p.isListing = true)
    (hq : q.isListing = true) (hsame : ¬s.SameTokens p q) (m : Nat) :
    ∃ t, (begin (.confirm name p q)).settle m s =
      some (.ok (.await s.nextTicket .confirming), t) := by
  obtain ⟨d, hc, hne⟩ := change?_differ hp hq hsame
  obtain ⟨T, hT⟩ := run_confirm_change (cascade m) h hc hne
  rw [begin_confirm, settle, run_bind_ok hT]
  exact ⟨_, run_await_unanswered (unanswered h)⟩

end

section
variable {s : Session} {name : String} {log : List Exchange} {n : Exchange}

/-- Asking about two lists takes the next question; without a change nothing is shown. -/
theorem asked_listed {p q : Json} {r : Except Fault Ticket} {t : Session} {m : Nat}
    (hs : s.Confirms name) (hr : (askConfirm name p q).settle m s = some (r, t))
    (hp : p.isListing = true) (hq : q.isListing = true) :
    r = .ok s.nextTicket ∧
      (s.SameTokens p q → t.trace = s.trace ∧ t.modals = s.modals) := by
  by_cases hsame : s.SameTokens p q
  · obtain ⟨d, hc, hd⟩ := change?_confirm (s := s) hp hq
    cases (run_confirm_same _ hs hc (hd.mpr hsame)).1.symm.trans hr
    refine ⟨rfl, fun _ => ⟨?_, ?_⟩⟩
    · exact (Session.unseen_resolve s.nextTicket true).trace_eq s.freshTicket
    · exact Session.resolve_modals s.freshTicket s.nextTicket true
  · obtain ⟨d, hc, hne⟩ := change?_differ hp hq hsame
    obtain ⟨T, hT⟩ := run_confirm_change (cascade m) hs hc hne
    cases hT.symm.trans hr
    exact ⟨rfl, fun h => (hsame h).elim⟩

/-- A response tells whether a question waited, and answers that question. -/
theorem responded_answers {accepted : Bool} {r : Except Fault Bool} {t : Session} {m : Nat}
    (hs : s.Confirms name) (hr : (respondModal name accepted).settle m s = some (r, t)) :
    r = .ok (s.pendingOn name).isSome ∧
      s.answered t = (s.pendingOn name).toList.map (·, accepted) := by
  have ha : s.answered t = (s.pendingOn name).toList.zip [accepted] :=
    (Exchange.effect_responded hs hr).answers
  rw [ha]
  cases hp : s.pendingOn name with
  | none =>
      cases (run_respond_idle hs hp accepted).symm.trans hr
      exact ⟨rfl, rfl⟩
  | some k =>
      obtain ⟨T, hT⟩ := run_respond_waiting (cascade m) hs hp accepted
      cases hT.symm.trans hr
      exact ⟨rfl, rfl⟩

/-- A response ends in any session of a run. -/
theorem respond_ends (h : s.Confirms name) (accepted : Bool) (m : Nat) :
    ∃ t, (respondModal name accepted).settle m s =
      some (.ok (s.pendingOn name).isSome, t) := by
  cases hp : s.pendingOn name with
  | none => exact ⟨_, run_respond_idle h hp accepted⟩
  | some k =>
      obtain ⟨T, hT⟩ := run_respond_waiting (cascade m) h hp accepted
      exact ⟨_, hT⟩

theorem Dialogue.ask {p q : Json} (h : Dialogue name s log) (hp : p.isListing = true)
    (hq : q.isListing = true) (hsame : ¬s.SameTokens p q) :
    ∃ t, t.nextTicket = s.nextTicket+1 ∧
      Dialogue name t (log ++ [⟨.asked p q (.ok s.nextTicket), s, t⟩]) := by
  obtain ⟨d, hc, hne⟩ := change?_differ hp hq hsame
  obtain ⟨T, hT⟩ := run_confirm_change (cascade 0) h.kept.confirms hc hne
  have hn : (s.freshTicket.ask .modal name (some s.nextTicket)).nextTicket = s.nextTicket+1 :=
    Session.ask_nextTicket ..
  exact ⟨(s.freshTicket.ask .modal name (some s.nextTicket)).retrace T, hn,
    h.exchange (n := ⟨.asked p q (.ok s.nextTicket), s, _⟩) ⟨0, hT⟩⟩

theorem Dialogue.respond (h : Dialogue name s log) (accepted : Bool) :
    ∃ t, Dialogue name t
      (log ++ [⟨.responded accepted (.ok (s.pendingOn name).isSome), s, t⟩]) := by
  obtain ⟨t, ht⟩ := respond_ends h.kept.confirms accepted 0
  exact ⟨t, h.exchange (n := ⟨.responded accepted _, s, t⟩) ⟨0, ht⟩⟩

/-- A caller's question is one of its own. Without a change it is answered with yes at once and
nothing shows; with one the first exchange that decides it gives its only answer. -/
theorem Dialogue.asked (h : Dialogue name s log) {pre post : List Exchange} {p q : Json}
    {r : Except Fault Ticket} (hlog : log = pre ++ n::post) (hmove : n.move = .asked p q r)
    (hp : p.isListing = true) (hq : q.isListing = true) :
    ∃ k, r = .ok k ∧ (∀ m ∈ pre, ∀ p' q', m.move ≠ .asked p' q' (.ok k)) ∧
      (n.before.SameTokens p q → answersTo k log = [true] ∧ n.answers = [(k, true)] ∧
        n.after.trace = n.before.trace ∧ n.after.modals = n.before.modals) ∧
      (¬n.before.SameTokens p q → answersTo k log = (verdict post).toList) := by
  obtain ⟨hpre, hcarried⟩ := h.before hlog
  have hbefore := hpre.kept
  have he := hcarried.effect hbefore.confirms
  obtain ⟨move, before, after⟩ := n
  obtain rfl : move = .asked p q r := hmove
  obtain ⟨m, hm⟩ := hcarried
  obtain ⟨rfl, hquiet⟩ := asked_listed (s := before) hbefore.confirms hm hp hq
  have hd := displays_confirm (s := before) hp hq (.ok before.nextTicket) after
  have hf := h.kept.asked pre _ post p q before.nextTicket hlog rfl
  refine ⟨before.nextTicket, rfl, ?_, ?_, ?_⟩
  · intro m hm p' q' hasked
    obtain ⟨l, r, rfl⟩ := List.mem_iff_append.mp hm
    have hlt := (hbefore.asked l m r p' q' before.nextTicket rfl hasked).drawn
    exact Nat.lt_irrefl _ hlt
  · intro hsame
    have hnot :
        Exchange.displays ⟨.asked p q (.ok before.nextTicket), before, after⟩ = false := by
      rw [← Bool.not_eq_true, hd]
      exact not_not_intro hsame
    have hanswers := he.answers
    simp only [Exchange.granted, Exchange.decides, hnot] at hanswers
    exact ⟨by rw [hf.answers, hnot]; rfl, by simpa using hanswers, hquiet hsame⟩
  · intro hsame
    rw [hf.answers, if_pos (hd.mpr hsame)]

/-- A response answers the one question that waits. -/
theorem Dialogue.responded (h : Dialogue name s log) {pre post : List Exchange} {accepted : Bool}
    {r : Except Fault Bool} (hlog : log = pre ++ n::post)
    (hmove : n.move = .responded accepted r) :
    (r = .ok true ∧ ∃ k, Waits k pre ∧ n.answers = [(k, accepted)]) ∨
      r = .ok false ∧ (∀ k, ¬Waits k pre) ∧ n.answers = [] := by
  obtain ⟨hpre, hcarried⟩ := h.before hlog
  have hbefore := hpre.kept
  obtain ⟨move, before, after⟩ := n
  obtain rfl : move = .responded accepted r := hmove
  obtain ⟨m, hm⟩ := hcarried
  obtain ⟨hr, ha⟩ := responded_answers (s := before) hbefore.confirms hm
  replace hbefore : Kept name before pre := hbefore
  cases hp : before.pendingOn name with
  | none =>
      rw [hp] at hr ha
      refine .inr ⟨hr, fun k hk => ?_, ha⟩
      have hwaits := (hbefore.pending_iff k).mpr hk
      rw [hp] at hwaits
      cases hwaits
  | some k =>
      rw [hp] at hr ha
      exact .inl ⟨hr, k, (hbefore.pending_iff k).mp hp, ha⟩

/-- A caller who asks about a change is answered once, by the first response after it or with no by
the first other change that is shown; a caller without a change is answered with yes at once. A
response answers the one caller who waits, if there is one, and says whether there was. -/
theorem confirm_answered_once (h : Dialogue name s log) :
    (∀ pre n post p q r, log = pre ++ n::post → n.move = .asked p q r →
      p.isListing = true → q.isListing = true → ∃ k, r = .ok k ∧
        (∀ m ∈ pre, ∀ p' q', m.move ≠ .asked p' q' (.ok k)) ∧
        (n.before.SameTokens p q → answersTo k log = [true] ∧ n.answers = [(k, true)] ∧
          n.after.trace = n.before.trace ∧ n.after.modals = n.before.modals) ∧
        (¬n.before.SameTokens p q → answersTo k log = (verdict post).toList)) ∧
    (∀ pre n post accepted r, log = pre ++ n::post → n.move = .responded accepted r →
      (r = .ok true ∧ ∃ k, Waits k pre ∧ n.answers = [(k, accepted)]) ∨
        r = .ok false ∧ (∀ k, ¬Waits k pre) ∧ n.answers = []) ∧
    (∀ p q, p.isListing = true → q.isListing = true → ∀ m, ∃ t,
      (s.SameTokens p q ∧
        (begin (.confirm name p q)).settle m s = some (.ok (.done (.value (.bool true))), t)) ∨
      ¬s.SameTokens p q ∧
        (begin (.confirm name p q)).settle m s = some (.ok (.await s.nextTicket .confirming), t)) ∧
    (∀ answer, resume .confirming answer = return .done (.value (.bool answer))) ∧
    ∀ accepted m, ∃ b t, (respondModal name accepted).settle m s = some (.ok b, t) := by
  have hconfirms := h.kept.confirms
  refine ⟨?_, ?_, ?_, fun _ => rfl, ?_⟩
  · exact fun _ _ _ _ _ _ hlog hmove hp hq => h.asked hlog hmove hp hq
  · exact fun _ _ _ _ _ hlog hmove => h.responded hlog hmove
  · intro p q hp hq m
    by_cases hsame : s.SameTokens p q
    · obtain ⟨t, ht⟩ := begin_confirm_same hconfirms hp hq hsame m
      exact ⟨t, .inl ⟨hsame, ht⟩⟩
    · obtain ⟨t, ht⟩ := begin_confirm_change hconfirms hp hq hsame m
      exact ⟨t, .inr ⟨hsame, ht⟩⟩
  · intro accepted m
    obtain ⟨t, ht⟩ := respond_ends hconfirms accepted m
    exact ⟨_, t, ht⟩

/-- Of two callers the first is turned down when the second asks, and the second is answered by the
response. -/
theorem confirm_answered_once_replaced : ∃ s log, Dialogue "change" s log ∧ log.length = 3 ∧
    answersTo 0 log = [false] ∧ answersTo 1 log = [true] := by
  let s₀ : Session := { renderer := true, modals := [("change", ⟨0, .confirm, none⟩)] }
  have hidle : s₀.pendingOn "change" = none := rfl
  have hs : s₀.Confirms "change" := ⟨rfl, ⟨_, rfl, rfl⟩, List.forall_mem_nil _,
    List.forall_mem_nil _, fun k hk => by rw [hidle] at hk; cases hk⟩
  have hchange (s : Session) (item : String) :
      ¬s.SameTokens .null (.array [.string item]) := fun h => by
    have := (h item).mpr (by simp [Separators.tokens, Separators.textsOf, Separators.textOf])
    cases this
  obtain ⟨s₁, hs₁, h₁⟩ := (Dialogue.start hs hidle).ask rfl rfl (hchange s₀ "a")
  obtain ⟨s₂, hs₂, h₂⟩ := h₁.ask rfl rfl (hchange s₁ "b")
  obtain ⟨s₃, h₃⟩ := h₂.respond true
  obtain ⟨hasked, -⟩ := confirm_answered_once h₃
  obtain ⟨_, ⟨⟩, -, -, hfirst⟩ := hasked [] _ _ _ _ _ rfl rfl rfl rfl
  obtain ⟨_, ⟨⟩, -, -, hsecond⟩ := hasked [_] _ _ _ _ _ rfl rfl rfl rfl
  have hshown := (displays_confirm (s := s₁) rfl rfl (.ok s₁.nextTicket) s₂).mpr (hchange s₁ "b")
  have hone : s₁.nextTicket = 1 := hs₁
  refine ⟨s₃, _, h₃, rfl, ?_, ?_⟩
  · rw [hfirst (hchange s₀ "a")]
    simp [verdict, Exchange.decides, hshown]
  · rw [← hone, hsecond (hchange s₁ "b")]
    rfl

end
end ScreenBinding
