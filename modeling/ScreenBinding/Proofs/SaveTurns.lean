import ScreenBinding.Proofs.CommandActs

/-!
# What a save takes from the fields

A save goes through the entries of its spec, and through the directives of each entry, and its
writes call listeners on the way. So the question what a directive stores is asked at the turn of
that directive: its entry was reached in one session, where the field was looked up and looked at,
and the directive itself in another.

The data of a form is looked up by name too, but not in the same way: among fields of one name it
holds the value of the last, while a spec key finds the first.
-/
namespace ScreenBinding

theorem Table.find?_ofPairs {α : Type} (pairs : List (String × α)) (key : String) :
    Table.find? (Table.ofPairs pairs) key = (pairs.reverse.find? (·.1 = key)).map Prod.snd := by
  have h : pairs = pairs.reverse.reverse := pairs.reverse_reverse.symm
  rw [h]
  generalize pairs.reverse = l
  rw [Table.ofPairs, List.foldl_reverse, List.reverse_reverse]
  induction l with
  | nil => rfl
  | cons p l ih =>
      rw [List.foldr_cons, Table.find?_put, ih, List.find?_cons]
      by_cases hp : p.1 = key <;> simp [hp]

namespace Form

/-- The first field of a name. -/
def firstNamed (s : Session) (f : Form) (name : String) : Option ElementRef :=
  f.elements.find? fun e => (s.element e).name = some name

/-- The last field of a name. -/
def lastNamed (s : Session) (f : Form) (name : String) : Option ElementRef :=
  f.elements.reverse.find? fun e => (s.element e).name = some name

/-- The data of a form holds what the last field of a name shows. -/
theorem find?_data (s : Session) (f : Form) (name : String) :
    Table.find? (f.data s) name = (f.lastNamed s name).map fun e => (s.element e).value := by
  rw [data, Table.find?_ofPairs, ← List.filterMap_reverse, lastNamed]
  induction f.elements.reverse with
  | nil => rfl
  | cons e l ih =>
      rw [List.filterMap_cons, List.find?_cons]
      cases hn : (s.element e).name with
      | none => exact ih
      | some n =>
          rw [Option.map_some]
          by_cases h : n = name
          · simp [h]
          · simp only [List.find?_cons, h, Option.some.injEq, decide_false]
            exact ih

/-- A spec key that names a field: it is no selector, and no quotes come off it. -/
structure Plain (key : String) : Prop where
  nonempty : key ≠ ""
  named : key.toList.head? ≠ some '$'
  unquoted : Selector.unquoted key.toList = key.toList

theorem cut_name (v : List Char) :
    Selector.cut ("name=".toList ++ v) = ("name".toList, some v) := rfl

/-- The name that a key stands for where it is no selector. -/
def nameOf (key : String) : String := String.ofList (Selector.unquoted key.toList)

theorem Plain.nameOf_eq {key : String} (h : Plain key) : nameOf key = key := by
  rw [nameOf, h.unquoted, String.ofList_toList]

theorem parse_name (key : String) :
    Selector.parse ("[name=" ++ key ++ "]") = .named (nameOf key) := by
  have h : ("[name=" ++ key ++ "]").toList = '['::("name=".toList ++ key.toList ++ [']']) := by
    simp [String.toList_append]
  have ht : Text.trim ('['::("name=".toList ++ key.toList ++ [']'])) =
      '['::("name=".toList ++ key.toList ++ [']']) := by
    rw [Text.trim, List.dropWhile_cons_of_neg (by decide), List.reverse_cons,
      List.reverse_append, List.reverse_singleton, List.singleton_append, List.cons_append,
      List.dropWhile_cons_of_neg (by decide)]
    simp
  rw [Selector.parse, h, ht]
  simp only [List.getLast?_concat, List.dropLast_concat, ↓reduceIte]
  rw [Selector.ofAttribute, cut_name]
  rfl

theorem selectorOf_name {key : String} (h : key.toList.head? ≠ some '$') :
    selectorOf key = .named (nameOf key) := by
  unfold selectorOf
  split
  · rename_i r hr
    exact (h (by rw [hr]; rfl)).elim
  · exact parse_name key

/-- A key that is no selector finds the first field of the name that it stands for. -/
theorem findField_name (s : Session) (f : Form) {key : String} (hne : key ≠ "")
    (h : key.toList.head? ≠ some '$') : f.findField s key = f.firstNamed s (nameOf key) := by
  rw [findField, if_neg hne, find, selectorOf_name h, List.head?_filter]
  rfl

/-- A plain key finds the first field of its name. -/
theorem findField_plain (s : Session) (f : Form) {key : String} (h : Plain key) :
    f.findField s key = f.firstNamed s key := by
  rw [findField_name s f h.nonempty h.named, h.nameOf_eq]

/-- No two fields have one name. -/
def Distinct (s : Session) (f : Form) : Prop :=
  ∀ e ∈ f.elements, ∀ e' ∈ f.elements, ∀ name,
    (s.element e).name = some name → (s.element e').name = some name → e = e'

theorem lastNamed_distinct {s : Session} {f : Form} {e : ElementRef} {name : String}
    (hd : f.Distinct s) (he : e ∈ f.elements) (hn : (s.element e).name = some name) :
    f.lastNamed s name = some e := by
  cases h : f.lastNamed s name with
  | none =>
      have := List.find?_eq_none.mp h e (List.mem_reverse.mpr he)
      simp [hn] at this
  | some e' =>
      have hn' : (s.element e').name = some name := by simpa using List.find?_some h
      have he' := List.mem_reverse.mp (List.mem_of_find?_eq_some h)
      rw [hd e he e' he' name hn hn']

/-- Where names are distinct, the data holds what the one field of a name shows, also of a field
that a key finds in another session. -/
theorem find?_data_distinct {s t : Session} {f : Form} {e : ElementRef} {key : String}
    (hd : f.Distinct s) (hk : Plain key) (he : f.findField t key = some e)
    (hn : (s.element e).name = (t.element e).name) :
    Table.find? (f.data s) key = some (s.element e).value := by
  rw [findField_plain t f hk] at he
  have hm := List.mem_of_find?_eq_some he
  have ht : (t.element e).name = some key := by simpa using List.find?_some he
  rw [find?_data, lastNamed_distinct hd hm (hn.trans ht), Option.map_some]

end Form

/-- What a save takes from a field: the value that the field showed when its entry was reached, or,
if that is not truthy, the value that it shows now. -/
def Session.taken (entry now : Session) (e : ElementRef) : Json :=
  if (entry.element e).value.truthy then (entry.element e).value else (now.element e).value

namespace Act
variable {carry : React} {s t : Session}

section
variable {tr : Trigger} {carried : Option Json} {e : ElementRef} {source : Option Source}
  {ds : List String}

/-- Directives that are all carried out without a fault are carried out one after the other. -/
theorem executeAll_cons_ok {d : String} :
    executeAll tr carried e source (d::ds) carry s = some (.ok (), t) ↔
      ∃ u, execute tr d carried e source carry s = some (.ok (), u) ∧
        executeAll tr carried e source ds carry u = some (.ok (), t) := by
  constructor
  · intro h
    obtain ⟨first, u, hu, h⟩ | ⟨_, _, he⟩ := bind_cases h
    · obtain ⟨rest, v, hv, h⟩ | ⟨_, _, he⟩ := bind_cases h
      · rw [run_ofExcept] at h
        obtain ⟨x, hx, hfirst⟩ := outcome_cases hu
        obtain ⟨y, hy, hrest⟩ := outcome_cases hv
        cases hfirst
        cases hrest
        cases first with
        | error f => cases h
        | ok _ =>
            cases h
            exact ⟨u, hx, hy⟩
      · cases he
    · cases he
  · rintro ⟨u, hu, ht⟩
    rw [executeAll, run_bind_ok (x := .ok ()) (t := u) (by rw [run_outcome, hu]; rfl),
      run_bind_ok (x := .ok ()) (t := t) (by rw [run_outcome, ht]; rfl), run_ofExcept]

theorem executeAll_append_ok {done : List String}
    (h : executeAll tr carried e source (done ++ ds) carry s = some (.ok (), t)) :
    ∃ u, executeAll tr carried e source done carry s = some (.ok (), u) ∧
      executeAll tr carried e source ds carry u = some (.ok (), t) := by
  induction done generalizing s with
  | nil => exact ⟨s, rfl, h⟩
  | cons d done ih =>
      obtain ⟨u, hu, h⟩ := executeAll_cons_ok.mp h
      obtain ⟨v, hv, ht⟩ := ih h
      exact ⟨v, executeAll_cons_ok.mpr ⟨u, hu, hv⟩, ht⟩

end

theorem run_fieldValue (key : String) (v : Json) (e : ElementRef) (source : Option Source) :
    fieldValue ⟨key, some v, e, source⟩ carry s =
      some (.ok (if v.truthy then v else (s.element e).value), s) := by
  simp only [fieldValue, carriedOr]
  split <;> rfl

/-- A save stores what it takes. -/
theorem execute_save_assign {d : String} {v : Json} {e : ElementRef} {source : Option Source}
    (hs : (Directive.parse d).appliesTo .save = true)
    (ho : (Directive.parse d).operators = [.assign])
    (he : s.evaluator? .save .assign = some .saveAssign)
    (h : execute .save d (some v) e source carry s = some (.ok (), t)) :
    ∃ old, write (Directive.parse d).key (if v.truthy then v else (s.element e).value) source
      carry s = some (.ok old, t) := by
  rw [execute, if_pos hs, ho] at h
  change evaluateAll .save _ [.assign] carry s = _ at h
  rw [evaluateAll_cons, run_bind_ok (run_gets _), he] at h
  obtain ⟨_, u, hu, h⟩ | ⟨_, _, hx⟩ := bind_cases h
  · cases h
    obtain ⟨_, _, hv, hu⟩ | ⟨_, hv, _⟩ := bind_cases hu
    · rw [run_fieldValue] at hv
      cases hv
      rw [run_discard] at hu
      split at hu
      · cases hu
      · rename_i old _ hw
        cases hu
        exact ⟨old, hw⟩
      · cases hu
    · rw [run_fieldValue] at hv
      cases hv
  · cases hx

theorem saveForm_cons (f : Form) (key : String) (ds : List String) (spec : Table (List String)) :
    saveForm f ((key, ds)::spec) = (do
      let e ← gets (f.findField · key)
      (match e with
        | some e => do executeAll .save (some (← element e).value) e (some f.source) ds
        | none => pure ())
      saveForm f spec) :=
  eachField_cons f key ds spec _

theorem saveForm_append (f : Form) (before spec : Table (List String)) :
    saveForm f (before ++ spec) = (do saveForm f before; saveForm f spec) :=
  eachField_append f before spec _

section
variable {n : Nat} {f : Form} {spec : Table (List String)}

/-- A save without a fault reaches each entry, and goes on behind it. -/
theorem saveForm_reached {before after : Table (List String)} {key : String} {ds : List String}
    (h : (saveForm f (before ++ (key, ds)::after)).settle n s = some (.ok (), t)) :
    ∃ entry, (saveForm f before).settle n s = some (.ok (), entry) ∧
      ∀ e, f.findField entry key = some e → ∃ u,
        (executeAll .save (some (entry.element e).value) e (some f.source) ds).settle n entry =
          some (.ok (), u) ∧
        (saveForm f after).settle n u = some (.ok (), t) := by
  rw [saveForm_append] at h
  obtain ⟨_, entry, hb, h⟩ | ⟨_, _, hx⟩ := bind_cases h
  · refine ⟨entry, hb, fun e he => ?_⟩
    rw [saveForm_cons, run_bind_ok (run_gets _), he] at h
    obtain ⟨_, u, hu, h⟩ | ⟨_, _, hx⟩ := bind_cases h
    · exact ⟨u, hu, h⟩
    · cases hx
  · cases hx

end
end Act

/-- The turn of a directive in a save that begins in `s`: its entry is reached in `entry`, where
the key of the entry finds the field `e`, and the directive itself in `now`. -/
inductive Turn (n : Nat) (f : Form) (spec : Table (List String)) (s : Session) :
    String → String → ElementRef → Session → Session → Prop
  | mk {before after : Table (List String)} {key d : String} {done rest : List String}
      {e : ElementRef} {entry now : Session} :
      spec = before ++ (key, done ++ d::rest)::after →
      (Act.saveForm f before).settle n s = some (.ok (), entry) →
      f.findField entry key = some e →
      (Act.executeAll .save (some (entry.element e).value) e (some f.source) done).settle n entry =
        some (.ok (), now) →
      Turn n f spec s key d e entry now

section
open Act
variable {n : Nat} {f : Form} {spec : Table (List String)} {s t : Session}

theorem Turn.found {key d : String} {e : ElementRef} {entry now : Session}
    (h : Turn n f spec s key d e entry now) : f.findField entry key = some e := by
  cases h
  assumption

/-- In a save without a fault each directive of an entry that finds its field has its turn. -/
theorem turn_of_saved (h : (saveForm f spec).settle n s = some (.ok (), t))
    {before after : Table (List String)} {key d : String} {done rest : List String}
    (hs : spec = before ++ (key, done ++ d::rest)::after) :
    ∃ entry, (saveForm f before).settle n s = some (.ok (), entry) ∧
      ∀ e, f.findField entry key = some e → ∃ now, Turn n f spec s key d e entry now := by
  subst hs
  obtain ⟨entry, hb, he⟩ := saveForm_reached h
  refine ⟨entry, hb, fun e hf => ?_⟩
  obtain ⟨u, hu, -⟩ := he e hf
  obtain ⟨now, hn, -⟩ := executeAll_append_ok hu
  exact ⟨now, .mk rfl hb hf hn⟩

/-- Nothing is taken off the trace. -/
theorem respected_trace : Respected Anything fun s t => s.trace <:+ t.trace where
  refl _ := List.suffix_refl _
  trans := List.IsSuffix.trans
  unseen hf s := ⟨[], (hf.trace_eq s).symm⟩
  emitted _ _ _ := List.suffix_cons ..
  stored _ _ := List.suffix_cons ..

/-- A write stores its value first. -/
theorem stored_of_write {key : String} {v : Json} {source : Option Source}
    {r : Except Fault (Option Json)} (h : (write key v source).settle n s = some (r, t)) :
    .stored key v source::s.trace <:+ t.trace := by
  rw [write, settle, run_bind_ok (run_gets _), run_bind_ok (run_store key v source)] at h
  exact settle_respects respected_trace
    (.bind (built_notify key v source) fun _ => .pure _) h

/-- At its turn an assignment stores what it takes, and nothing else comes between. -/
theorem Turn.stores {key d : String} {e : ElementRef} {entry now : Session}
    (h : Turn n f spec s key d e entry now)
    (hsave : (saveForm f spec).settle n s = some (.ok (), t))
    (hs : (Directive.parse d).appliesTo .save = true)
    (ho : (Directive.parse d).operators = [.assign])
    (he : now.evaluator? .save .assign = some .saveAssign) :
    .stored (Directive.parse d).key (entry.taken now e) (some f.source)::now.trace <:+ t.trace := by
  obtain ⟨rfl, hb, hf, hd⟩ := h
  obtain ⟨entry', hb', hu⟩ := saveForm_reached hsave
  cases hb.symm.trans hb'
  obtain ⟨u, hu, ht⟩ := hu e hf
  obtain ⟨now', hd', hr⟩ := executeAll_append_ok hu
  cases hd.symm.trans hd'
  obtain ⟨after, hx, hr⟩ := executeAll_cons_ok.mp hr
  obtain ⟨old, hw⟩ := execute_save_assign hs ho he hx
  have hall : AdmitsWrites Anything (some f.source) := fun _ _ => trivial
  have h₁ : after.trace <:+ u.trace :=
    settle_respects respected_trace (built_executeAll .save _ e _ hall) hr
  have h₂ : u.trace <:+ t.trace :=
    settle_respects respected_trace (built_saveForm f _ hall) ht
  exact (stored_of_write hw).trans (h₁.trans h₂)

end
end ScreenBinding
