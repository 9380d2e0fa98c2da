import ScreenBinding.Proofs.LoadedFields

/-!
# What a load puts into its field

A load reads the value of its key, as it was carried or as it is stored, and puts something into its
field or leaves it. What it puts is a function of the session: of the stored values, of the
separators, and of what the field itself shows, if the load only fills blanks. Nothing else of the
session matters, and nothing but the field is changed.

So it is too with a load binding, which takes no notice of the writes of its own source. As in the
module before, the field may save its changes and has no other handler of them.
-/
namespace ScreenBinding
open Act

namespace Session

/-- What stands for the value of a key: the carried value if it is truthy, else the stored one. -/
def looked (s : Session) (key : String) (carried : Option Json) (unset : Json) : Json :=
  match carried with
  | some v => if v.truthy then v else (Table.find? s.values key).getD unset
  | none => (Table.find? s.values key).getD unset

/-- The same as a list of texts. -/
def lookedList (s : Session) (key : String) (carried : Option Json) :
    Except Fault (List String) :=
  match s.looked key carried (.array []) with
  | .null => .ok []
  | v => s.settings.separators.listOf v

/-- The value of a key as a list of texts; an unset key is empty. -/
def listed (s : Session) (key : String) : Except Fault (List String) :=
  match Table.find? s.values key with
  | some v => s.settings.separators.listOf v
  | none => .ok []

theorem listed_of_find {s : Session} {key : String} {v : Json}
    (h : Table.find? s.values key = some v) :
    s.listed key = s.settings.separators.listOf v := by
  simp only [listed, h]

/-- The field shows white space, or nothing. -/
def blank (s : Session) (e : ElementRef) : Bool :=
  (Text.trim (s.settings.separators.textOf (s.element e).value).toList).isEmpty

/-- What a load puts into its field, if it puts anything there. -/
def offered (s : Session) (key : String) (carried : Option Json) (e : ElementRef) :
    Operator → Except Fault (Option Json)
  | .assign => .ok (some (s.looked key carried (.string "")))
  | .count => (s.lookedList key carried).map fun items => some (.whole items.length)
  | .merge => .ok none
  | .first => (s.lookedList key carried).map fun items => items.head?.map .string
  | .default => .ok (if s.blank e then some (s.looked key carried (.string "")) else none)

/-- The session once an element shows what it was offered. -/
def taking (s : Session) (e : ElementRef) : Except Fault (Option Json) → Session
  | .ok (some v) => s.shown e v
  | _ => s

/-- What a load of a directive puts into its field; a directive for saves puts nothing there. -/
def offeredBy (s : Session) (directive : String) (carried : Option Json) (e : ElementRef) :
    Except Fault (Option Json) :=
  let d := Directive.parse directive
  if d.appliesTo .load then s.offered d.key carried e d.operator else .ok none

/-- The session once a load binding has heard of a write. -/
def hearing (s : Session) (directive : String) (e : ElementRef) (source : Option Source) (v : Json)
    (writer : Option Source) : Session :=
  if source.isSome ∧ writer = source then s
  else s.taking e (s.offeredBy directive (some v) e)

/-- A value that its key holds is found, carried or not. -/
theorem looked_of_find {s : Session} {key : String} {carried : Option Json} {v : Json}
    (hv : Table.find? s.values key = some v) (hc : carried = none ∨ carried = some v)
    (unset : Json) : s.looked key carried unset = v := by
  obtain rfl | rfl := hc
  · simp only [looked, hv, Option.getD_some]
  · simp only [looked, hv, Option.getD_some, ite_self]

/-- A load that assigns offers the value that the key holds. -/
theorem offeredBy_assign {s : Session} {directive key : String} {carried : Option Json} {v : Json}
    (e : ElementRef) (hd : Directive.Assigns directive .load key)
    (hv : Table.find? s.values key = some v) (hc : carried = none ∨ carried = some v) :
    s.offeredBy directive carried e = .ok (some v) := by
  rw [offeredBy, if_pos hd.applies, hd.key, hd.operator, offered, looked_of_find hv hc]

theorem refills_taking (s : Session) (e : ElementRef) (x : Except Fault (Option Json)) :
    s.Refills e (s.taking e x) := by
  obtain f | (_ | v) := x
  · exact .inl rfl
  · exact .inl rfl
  · exact .inr ⟨v, rfl⟩

theorem refills_hearing (s : Session) (directive : String) (e : ElementRef)
    (source : Option Source) (v : Json) (writer : Option Source) :
    s.Refills e (s.hearing directive e source v writer) := by
  unfold hearing
  split
  · exact .inl rfl
  · exact s.refills_taking e _

/-- What is put into a field does not depend on the loading depth. -/
theorem taking_loading (s : Session) (e : ElementRef) (x : Except Fault (Option Json)) :
    { { s with loading := s.loading+1 }.taking e x with
      loading := ({ s with loading := s.loading+1 }.taking e x).loading-1 } = s.taking e x := by
  obtain f | (_ | v) := x <;> rfl

end Session

open Session (OnlySaves)

namespace Act
section
variable {n : Nat} {carry : React} {s : Session}

theorem run_stateValue (x : Evaluation) (unset : Json) :
    stateValue x unset carry s = some (.ok (s.looked x.key x.carried unset), s) := by
  rw [stateValue, carriedOr, Session.looked.eq_def]
  cases x.carried with
  | none => exact run_gets _
  | some v =>
      dsimp only
      split
      · exact run_pure v
      · exact run_gets _

theorem run_getList (key : String) : getList key carry s = some (s.listed key, s) := by
  rw [getList, run_bind_ok (run_gets _), Session.listed]
  cases Table.find? s.values key with
  | none => exact run_pure _
  | some v => exact (run_bind_ok (run_gets _)).trans (run_ofExcept _)

theorem run_listed {key : String} {v : Json} (hv : Table.find? s.values key = some v) :
    (getList key).settle n s = some (s.settings.separators.listOf v, s) := by
  rw [settle, run_getList, Session.listed_of_find hv]

theorem run_stateList (x : Evaluation) :
    stateList x carry s = some (s.lookedList x.key x.carried, s) := by
  rw [stateList, run_bind_ok (run_stateValue x _), Session.lookedList]
  cases s.looked x.key x.carried (.array []) with
  | null => exact run_pure _
  | _ => exact (run_bind_ok (run_gets _)).trans (run_ofExcept _)

/-- Puts into a field what it is offered. -/
def offer (e : ElementRef) : Except Fault (Option Json) → Act Unit
  | .ok (some v) => put e v
  | .ok none => return ()
  | .error f => throw f

/-- Carries out an act while one load more is running. -/
def asLoad (a : Act Unit) : Act Unit := do
  change fun s => { s with loading := s.loading+1 }
  a.ending fun s => { s with loading := s.loading-1 }

/-- An evaluator of a load puts into its field what is offered. -/
theorem run_evaluate_load (x : Evaluation) (o : Operator) :
    evaluate? x (Evaluator.standard .load o) carry s =
      offer x.field (s.offered x.key x.carried x.field o) carry s := by
  have hvalue (f : Json → Act Unit) : (stateValue x (.string "") >>= f) carry s =
      f (s.looked x.key x.carried (.string "")) carry s :=
    run_bind_ok (run_stateValue x _)
  have hlist : stateList x carry s = some (s.lookedList x.key x.carried, s) := run_stateList x
  cases o with
  | assign => exact hvalue _
  | count =>
      simp only [Evaluator.standard, evaluate?, evaluate, Session.offered]
      rw [run_bind, hlist]
      cases s.lookedList x.key x.carried <;> rfl
  | merge => rfl
  | first =>
      simp only [Evaluator.standard, evaluate?, evaluate, Session.offered]
      rw [run_bind, hlist]
      rcases s.lookedList x.key x.carried with f | (_ | ⟨a, items⟩) <;> rfl
  | default =>
      have ht : textOf x.field carry s =
          some (.ok (s.settings.separators.textOf (s.element x.field).value), s) := rfl
      simp only [Evaluator.standard, evaluate?, evaluate, Session.offered]
      rw [run_bind_ok ht]
      change (if s.blank x.field = true then _ else _ : Act Unit) carry s = _
      split
      · exact hvalue _
      · rfl

/-- So does the load of a directive. -/
theorem run_load (directive : String) (carried : Option Json) (e : ElementRef)
    (source : Option Source) (he : s.evaluators = []) :
    execute .load directive carried e source carry s =
      asLoad (offer e (s.offeredBy directive carried e)) carry s := by
  rw [execute_load, Session.offeredBy]
  split
  · let s' : Session := { s with loading := s.loading+1 }
    let d := Directive.parse directive
    have hone : evaluate? ⟨d.key, carried, e, source⟩ (Evaluator.standard .load d.operator) carry
        s' = offer e (s'.offered d.key carried e d.operator) carry s' :=
      run_evaluate_load _ d.operator
    rw [asLoad, run_bind_ok (run_change _), run_bind_ok (run_change _), run_ending, run_ending,
      Directive.operators_parse, evaluateAll_single .load _ _ (s := s') he, hone]
    rfl
  · rfl

theorem run_offer_held (hc : HoldsSaves carry) {e : ElementRef} (hs : s.OnlySaves e)
    (hl : s.loading ≠ 0) (x : Except Fault (Option Json)) :
    offer e x carry s = some (x.map fun _ => (), s.taking e x) := by
  obtain f | (_ | v) := x
  · rfl
  · rfl
  · exact run_put_held hc hs hl v

/-- If the field has no other handlers than saves, a load does nothing else; it fails exactly where
nothing can be offered. -/
theorem run_load_offered (hc : HoldsSaves carry) (directive : String) (carried : Option Json)
    {e : ElementRef} (source : Option Source) (he : s.evaluators = []) (hs : s.OnlySaves e) :
    execute .load directive carried e source carry s =
      some ((s.offeredBy directive carried e).map fun _ => (),
        s.taking e (s.offeredBy directive carried e)) := by
  have hs' : { s with loading := s.loading+1 }.OnlySaves e := hs
  rw [run_load directive carried e source he, asLoad, run_bind_ok (run_change _), run_ending,
    run_offer_held hc hs' (Nat.succ_ne_zero _), Option.map_some, Session.taking_loading]

theorem run_hear_offered (directive : String) {e : ElementRef} (source : Option Source)
    (key : String) (v : Json) (writer : Option Source) (he : s.evaluators = [])
    (hs : s.OnlySaves e) :
    react (.listener (.load directive e source) key v writer) (cascade (n+2)) s =
      some (.ok (), s.hearing directive e source v writer) := by
  rw [react_listener, hear, Session.hearing]
  split
  · exact run_pure ()
  · rw [run_attempt, run_load_offered (holdsSaves_cascade n) directive (some v) source he hs]
    rfl

/-- A load binding leaves all but its field alone, whatever it hears. -/
theorem run_hear_load (directive : String) {e : ElementRef} (source : Option Source)
    (key : String) (v : Json) (writer : Option Source) (he : s.evaluators = [])
    (hs : s.OnlySaves e) : ∃ t,
    react (.listener (.load directive e source) key v writer) (cascade (n+2)) s =
      some (.ok (), t) ∧ s.Refills e t :=
  ⟨_, run_hear_offered directive source key v writer he hs, s.refills_hearing ..⟩

/-- A load binding that assigns shows the value of its key, if another source has written it. -/
theorem run_hear_assign {directive key : String} {v : Json} {e : ElementRef} {tag : Source}
    {writer : Option Source} (hw : writer ≠ some tag) (hd : Directive.Assigns directive .load key)
    (hv : Table.find? s.values key = some v) (he : s.evaluators = []) (hs : s.OnlySaves e) :
    react (.listener (.load directive e (some tag)) key v writer) (cascade (n+2)) s =
      some (.ok (), s.shown e v) := by
  rw [run_hear_offered directive (some tag) key v writer he hs, Session.hearing,
    if_neg fun h => hw h.2, Session.offeredBy_assign e hd hv (.inr rfl)]
  rfl

end
end Act
end ScreenBinding
