import ScreenBinding.Proofs.DirectiveText
import ScreenBinding.Proofs.FieldRoundTrip
import ScreenBinding.Proofs.PartialLoads
import ScreenBinding.Proofs.Wants

/-!
# The two readings of a list

A key can be read as a list outright, and a load reads it as a list when it counts the items or
shows the first one. Both readings take a list item by item, split a text and find nothing under an
unset key, and they refuse the same values, with the same fault. Only `null` divides them: a load
passes it as an empty list, as it stands for a field that has been cleared, and the outright reading
refuses it.
-/
namespace ScreenBinding
open Act

namespace Separators

/-- A number of items is shown in decimal digits. -/
theorem textOf_whole (sep : Separators) (n : Nat) : sep.textOf (.whole n) = toString n := by
  rw [Json.whole, textOf]
  rfl

end Separators

namespace Directive

/-- Behind the symbols of a load and of an operator stands the key, whatever its characters. -/
theorem parse_load (key : String) : parse ("<#" ++ key) = ⟨key, [.load], [.count]⟩ ∧
    parse ("<^" ++ key) = ⟨key, [.load], [.first]⟩ :=
  ⟨(parse_symbols (t := '<') (o := '#') rfl rfl key).1,
    (parse_symbols (t := '<') (o := '^') rfl rfl key).1⟩

end Directive

namespace Session
variable {s : Session} {key : String} {e : ElementRef}

/-- Unless the key holds `null`, a load reads the list that is read outright. -/
theorem lookedList_eq_listed (h : Table.find? s.values key ≠ some .null) :
    s.lookedList key none = s.listed key := by
  rw [lookedList, looked, listed]
  cases hv : Table.find? s.values key with
  | none => rfl
  | some v =>
      cases v with
      | null => exact (h hv).elim
      | _ => rfl

theorem lookedList_null (h : Table.find? s.values key = some .null) :
    s.lookedList key none = .ok [] := by
  simp only [lookedList, looked, h, Option.getD_some]

/-- What the two loads of a list put into their field. -/
theorem offeredBy_list (s : Session) (key : String) (e : ElementRef) :
    s.offeredBy ("<#" ++ key) none e =
      (s.lookedList key none).map (fun items => some (.whole items.length)) ∧
    s.offeredBy ("<^" ++ key) none e =
      (s.lookedList key none).map fun items => items.head?.map .string := by
  obtain ⟨hcount, hfirst⟩ := Directive.parse_load key
  simp only [offeredBy, hcount, hfirst]
  exact ⟨rfl, rfl⟩

end Session

/-- The two loads of a list come out as if the key were read as `r`: they end as that does, one of
them shows the number of the items and the other one the first item, and what has no item to show
leaves the field as it was. -/
def ShowsList (n : Nat) (s : Session) (key : String) (e : ElementRef) (source : Option Source)
    (r : Except Fault (List String)) : Prop :=
  ∃ t u, (execute .load ("<#" ++ key) none e source).settle n s = some (r.map fun _ => (), t) ∧
    (execute .load ("<^" ++ key) none e source).settle n s = some (r.map fun _ => (), u) ∧
    match r with
    | .ok items => (t.element e).value = .string (toString items.length) ∧
        match items with
        | first::_ => (u.element e).value = .string first
        | [] => u.element e = s.element e
    | .error _ => t.element e = s.element e ∧ u.element e = s.element e

/-- The two loads of a list, executed for a field, are those of the list `r`. What hears of the
changes of the field may do anything; if it leaves the field and the state alone, the field ends up
with what it was offered. -/
structure LoadsList (s : Session) (key : String) (e : ElementRef) (source : Option Source)
    (r : Except Fault (List String)) : Prop where
  count : ∀ n, (execute .load ("<#" ++ key) none e source).settle n s =
    (asLoad (offer e (r.map fun items => some (.whole items.length)))).settle n s
  first : ∀ n, (execute .load ("<^" ++ key) none e source).settle n s =
    (asLoad (offer e (r.map fun items => items.head?.map .string))).settle n s
  ends : ∀ d ∈ ["<#" ++ key, "<^" ++ key], ∀ n x t,
    (execute .load d none e source).settle n s = some (x, t) → x = r.map fun _ => ()
  shown : ∀ {f : Form} {n : Nat} {P : Session → Prop}, f.Undisturbed n P → P s →
    e ∈ f.elements → e < s.elements.length → (∀ b, (s.element e).control ≠ .checkbox b) →
    ShowsList n s key e source r

section
variable {f : Form} {n : Nat} {P : Session → Prop} {s : Session} {key : String} {e : ElementRef}
  {source : Option Source}

/-- Showing what is offered fails only if nothing could be offered. -/
theorem asLoad_offer_cases {x : Except Fault (Option Json)} {r : Except Fault Unit} {t : Session}
    (h : (asLoad (offer e x)).settle n s = some (r, t)) : r = x.map fun _ => () := by
  rw [settle, asLoad, run_bind_ok (run_change _), run_ending] at h
  obtain ⟨⟨_, u⟩, hoffer, hr⟩ := Option.map_eq_some_iff.mp h
  cases hr
  obtain why | (_ | v) := x
  · cases hoffer
    rfl
  · cases hoffer
    rfl
  · obtain ⟨_, hok⟩ := faultless_put (lenient_cascade n) e v _ _ _ hoffer
    exact hok

theorem showsList_looked (h : f.Undisturbed n P) (hs : P s) (he : e ∈ f.elements)
    (hn : e < s.elements.length) (hc : ∀ b, (s.element e).control ≠ .checkbox b) :
    ShowsList n s key e source (s.lookedList key none) := by
  obtain ⟨hcount, hfirst⟩ := s.offeredBy_list key e
  obtain ⟨t, ht, -, htaken⟩ := run_load_taking h hs he ("<#" ++ key) none source
  obtain ⟨u, hu, -, hutaken⟩ := run_load_taking h hs he ("<^" ++ key) none source
  rw [hcount] at ht htaken
  rw [hfirst] at hu hutaken
  have hshown (v : Json) := Session.value_shown hn hc v
  cases hr : s.lookedList key none with
  | error why =>
      rw [hr] at ht hu htaken hutaken
      exact ⟨t, u, ht, hu, htaken.element he, hutaken.element he⟩
  | ok items =>
      rw [hr] at ht hu htaken hutaken
      refine ⟨t, u, ht, hu, ?_, ?_⟩
      · rw [htaken.element he]
        exact (hshown _).trans (congrArg Json.string (Separators.textOf_whole ..))
      · cases items with
        | nil => exact hutaken.element he
        | cons first items =>
            dsimp only
            rw [hutaken.element he]
            exact (hshown _).trans (congrArg Json.string (by rw [Separators.textOf]))

theorem loadsList_looked (he : s.evaluators = []) :
    LoadsList s key e source (s.lookedList key none) := by
  obtain ⟨hcount, hfirst⟩ := s.offeredBy_list key e
  have hrun (d : String) (n : Nat) : (execute .load d none e source).settle n s =
      (asLoad (offer e (s.offeredBy d none e))).settle n s := run_load d none e source he
  refine ⟨fun n => hcount ▸ hrun _ n, fun n => hfirst ▸ hrun _ n, fun d hd n x t hx => ?_,
    showsList_looked⟩
  rw [asLoad_offer_cases ((hrun d n).symm.trans hx)]
  simp only [List.mem_cons, List.not_mem_nil, or_false] at hd
  rcases hd with rfl | rfl
  · rw [hcount]
    cases s.lookedList key none <;> rfl
  · rw [hfirst]
    cases s.lookedList key none <;> rfl

/-- The two readings of a key as a list agree, unless the key holds `null`: the outright reading
refuses that, and the loads take it for an empty list. -/
theorem list_readings_agree (he : s.evaluators = []) (key : String) (e : ElementRef)
    (source : Option Source) : ∃ r, (∀ n, (getList key).settle n s = some (r, s)) ∧
      (Table.find? s.values key ≠ some .null → LoadsList s key e source r) ∧
      (Table.find? s.values key = some .null →
        r = .error .listExpected ∧ LoadsList s key e source (.ok [])) := by
  have hloads : LoadsList s key e source (s.lookedList key none) := loadsList_looked he
  refine ⟨s.listed key, fun n => run_getList key, fun hv => ?_,
    fun hv => ⟨Session.listed_of_find hv, ?_⟩⟩
  · rwa [Session.lookedList_eq_listed hv] at hloads
  · rwa [Session.lookedList_null hv] at hloads

end

/-- The first input, which is watched, loads a list of two items and shows the number of them or
the first one. -/
theorem list_readings_agree_watched : ∃ t u,
    (getList "l").settle 2 rowSession = some (.ok ["x", "y"], rowSession) ∧
    (execute .load "<#l" none 0 none).settle 2 rowSession = some (.ok (), t) ∧
    (execute .load "<^l" none 0 none).settle 2 rowSession = some (.ok (), u) ∧
    (t.element 0).value = .string "2" ∧ (u.element 0).value = .string "x" := by
  obtain ⟨r, hr, hagree, -⟩ := list_readings_agree (s := rowSession) rfl "l" 0 none
  obtain rfl : .ok ["x", "y"] = r := by
    have hlist : (getList "l").settle 2 rowSession = some (.ok ["x", "y"], rowSession) := rfl
    cases hlist.symm.trans (hr 2)
    rfl
  obtain ⟨t, u, ht, hu, hcount, hfirst⟩ :=
    (hagree nofun).shown undisturbed_row ⟨rfl, rfl⟩ (by decide) (by decide) nofun
  exact ⟨t, u, hr 2, ht, hu, hcount, hfirst⟩

/-- A key that holds `null` is no list, and the loads of its items succeed. -/
theorem list_readings_differ_null :
    let s : Session := { values := [("k", .null)], elements := [{ control := .input "old" }] }
    (getList "k").settle 1 s = some (.error .listExpected, s) ∧ ∃ t u,
      (execute .load "<#k" none 0 none).settle 1 s = some (.ok (), t) ∧
      (execute .load "<^k" none 0 none).settle 1 s = some (.ok (), u) ∧
      (t.element 0).value = .string "0" ∧ u.element 0 = s.element 0 :=
  ⟨rfl, _, _, rfl, rfl, rfl, rfl⟩

end ScreenBinding
