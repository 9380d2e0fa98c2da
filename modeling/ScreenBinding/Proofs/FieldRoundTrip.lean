import ScreenBinding.Proofs.CommandActs
import ScreenBinding.Proofs.DelimitedTexts
import ScreenBinding.Proofs.LoadedValues

/-!
# From the state to a field and back

A list is shown as one text, and a text that is saved counts as a list again. Showing a key in a
field and saving the field back to the key therefore turns a list into a text, which is the same
list as long as its items are tokens and the joiner separates them. A text is not changed at all.

The session may hold any bindings and any other callbacks. The field itself may save its changes,
which a load does not bring about. What callbacks write in their turn is their own affair: the
statements about the session in which all ends suppose that none of them writes.
-/
namespace ScreenBinding
open Act

namespace Separators
variable {sep : Separators} {v : Json}

theorem textsOf_strings (items : List String) : sep.textsOf (items.map Json.string) = items := by
  have htext : sep.textOf ∘ Json.string = id := by
    funext t
    rw [Function.comp_apply, textOf, id]
  rw [textsOf_eq_map, List.map_map, htext, List.map_id]

/-- A text, or a list of tokens. -/
inductive Delimited (sep : Separators) : Json → Prop
  | text (s : String) : Delimited sep (.string s)
  | tokens {items : List String} : (∀ t ∈ items, sep.IsToken t) → Delimited sep (.texts items)

/-- The text of such a value is the same list. -/
theorem Delimited.listOf_textOf (h : sep.Rejoins) (hv : sep.Delimited v) :
    ∃ items, sep.listOf v = .ok items ∧ sep.listOf (.string (sep.textOf v)) = .ok items := by
  cases hv with
  | text s => exact ⟨sep.split s, rfl, by rw [textOf]; rfl⟩
  | @tokens items hi =>
      have hlist : sep.listOf (.texts items) = .ok items := by
        rw [Json.texts, listOf, textsOf_strings]
      refine ⟨items, hlist, ?_⟩
      rw [Json.texts, textOf, textsOf_strings, listOf, split_join_tokens h hi]

end Separators

/-- What a field that is no check box gives back of a value. -/
theorem Session.value_shown {s : Session} {e : ElementRef} (he : e < s.elements.length)
    (hc : ∀ b, (s.element e).control ≠ .checkbox b) (v : Json) :
    ((s.shown e v).element e).value = .string (s.settings.separators.textOf v) := by
  rw [shown, element_modify s he]
  cases h : (s.element e).control with
  | checkbox b => exact (hc b h).elim
  | input text => simp [Element.value, Control.put, Control.value]
  | plain text => simp [Element.value, Control.put, Control.value]

section
variable {s : Session} {k load save : String} {v : Json} {e : ElementRef}
  {carried saved : Option Json}

/-- Showing a key in a field and saving the field back comes to one write of the key. -/
theorem run_shown_saved (n : Nat) (he : s.evaluators = []) (ho : s.OnlySaves e)
    (hn : e < s.elements.length) (hc : ∀ b, (s.element e).control ≠ .checkbox b)
    (hk : Table.find? s.values k = some v) (hload : Directive.Assigns load .load k)
    (hsave : Directive.Assigns save .save k) (hcarried : carried = none ∨ carried = some v)
    (hsaved : saved = none ∨ saved = some (.string (s.settings.separators.textOf v)))
    (source writer : Option Source) :
    (do execute .load load carried e source; execute .save save saved e writer).settle (n+1) s =
      (discard (write k (.string (s.settings.separators.textOf v)) writer)).settle (n+1)
        (s.shown e v) := by
  have hoffered : s.offeredBy load carried e = .ok (some v) :=
    Session.offeredBy_assign e hload hk hcarried
  have hloaded := run_load_offered (holdsSaves_cascade n) load carried source he ho
  rw [hoffered] at hloaded
  have hvalue := Session.value_shown hn hc v
  have hu : (s.shown e v).evaluators = [] := he
  have hwrite : execute .save save saved e writer (cascade (n+1)) (s.shown e v) =
      discard (write k ((s.shown e v).element e).value writer) (cascade (n+1)) (s.shown e v) :=
    run_save_assign writer hsave hu (hvalue ▸ hsaved)
  rw [hvalue] at hwrite
  exact (run_bind_ok hloaded).trans hwrite

/-- A key that is shown in a field and saved back from there is the same list as before, and the
same value if it was a text: so it is written, and so it stays if no listener writes it anew. And
no text that has been split is changed by being joined. -/
theorem shown_and_saved (n : Nat) (hj : s.settings.separators.Rejoins) (he : s.evaluators = [])
    (ho : s.OnlySaves e) (hn : e < s.elements.length)
    (hc : ∀ b, (s.element e).control ≠ .checkbox b)
    (hk : Table.find? s.values k = some v) (hv : s.settings.separators.Delimited v)
    (hload : Directive.Assigns load .load k) (hsave : Directive.Assigns save .save k)
    (hcarried : carried = none ∨ carried = some v)
    (hsaved : saved = none ∨ saved = some (.string (s.settings.separators.textOf v)))
    (source writer : Option Source) :
    (∃ w items, (∀ text, v = .string text → w = v) ∧
      (getList k).settle n s = some (.ok items, s) ∧
      (do execute .load load carried e source; execute .save save saved e writer).settle (n+3) s =
        (discard (write k w writer)).settle (n+3) (s.shown e v) ∧
      (∀ t, (do execute .load load carried e source; execute .save save saved e writer).settle
          (n+3) s = some (.ok (), t) → t.writes = s.writes ++ [⟨k, w, writer⟩] →
        (getList k).settle n t = some (.ok items, t) ∧ Table.find? t.values k = some w) ∧
      ∀ saves depth, Linked saves depth s → ∃ t,
        (do execute .load load carried e source; execute .save save saved e writer).settle
          (n+3) s = some (.ok (), t) ∧ t.writes = s.writes ++ [⟨k, w, writer⟩]) ∧
    ∀ raw, s.settings.separators.split (s.settings.separators.join
      (s.settings.separators.split raw)) = s.settings.separators.split raw := by
  refine ⟨?_, fun raw => Separators.split_join_tokens hj fun _ => Separators.isToken_of_mem_split⟩
  obtain ⟨items, hitems, hshown⟩ := hv.listOf_textOf hj
  have hrun := run_shown_saved (n+2) he ho hn hc hk hload hsave hcarried hsaved source writer
  have hbuilt (trigger : Trigger) (d : String) (c : Option Json) (w : Option Source) :
      Built Anything (execute trigger d c e w) := built_execute _ _ _ _ fun _ _ => trivial
  have hboth : Built Anything
      (do execute .load load carried e source; execute .save save saved e writer) :=
    .bind (hbuilt .load load carried source) fun _ => hbuilt .save save saved writer
  refine ⟨.string (s.settings.separators.textOf v), items, ?_, ?_, hrun, fun t ht hw => ?_,
    fun saves depth hs => ?_⟩
  · rintro text rfl
    rw [Separators.textOf]
  · rw [run_listed hk, hitems]
  · have hsettings : t.settings = s.settings :=
      settle_respects Session.respected_settings hboth ht
    obtain ⟨ws, hvalues, hws⟩ := settle_respects Session.accounted_respected hboth ht
    obtain rfl := List.append_cancel_left (hws.symm.trans hw)
    have hfind : Table.find? t.values k = some (.string (s.settings.separators.textOf v)) := by
      rw [hvalues]
      exact (Table.find?_put ..).trans (if_pos rfl)
    exact ⟨by rw [run_listed hfind, hsettings, hshown], hfind⟩
  · have hu : Linked saves depth (s.shown e v) := hs.wrote (.elements s _)
    obtain ⟨t, hwrite, hwrote⟩ := write_once (n := n) hu k
      (.string (s.settings.separators.textOf v)) writer
    refine ⟨t, hrun.trans ?_, hwrote.writes⟩
    rw [settle, run_discard, hwrite]

end

/-- Two tokens behind a joiner of three characters, in an input that is bound both ways. -/
def roundSession : Session :=
  { settings := { separators := { delimiters := ";", joiner := " ; " } },
    values := [("k", .texts ["a", "é"])],
    elements := [{ control := .input "old" }],
    listeners := [("k", .load "k" 0 none)],
    handlers := [⟨0, .change, .save "k" none⟩] }

theorem shown_and_saved_tokens : ∃ t,
    (do execute .load "<k" none 0 none; execute .save "k" none 0 none).settle 3 roundSession =
      some (.ok (), t) ∧
    (getList "k").settle 0 roundSession = some (.ok ["a", "é"], roundSession) ∧
    (getList "k").settle 0 t = some (.ok ["a", "é"], t) := by
  have hj : roundSession.settings.separators.Rejoins := by decide
  have hs : Linked [⟨.save, "k", 0, none⟩] 0 roundSession := by
    refine ⟨rfl, rfl, ?_, ?_, rfl, rfl⟩ <;> simp [roundSession, Listener.Quiet, Handler.Quiet]
  have ho : roundSession.OnlySaves 0 := by
    intro h hh
    exact ⟨"k", none, List.mem_singleton.mp hh⟩
  have hv : roundSession.settings.separators.Delimited (.texts ["a", "é"]) := by
    refine .tokens fun t ht => ?_
    simp only [List.mem_cons, List.not_mem_nil, or_false] at ht
    rcases ht with rfl | rfl <;> decide
  have hload : Directive.Assigns "<k" .load "k" := ⟨rfl, rfl, rfl⟩
  have hsave : Directive.Assigns "k" .save "k" := ⟨rfl, rfl, rfl⟩
  obtain ⟨⟨w, items, -, hbefore, -, hafter, hends⟩, -⟩ := shown_and_saved 0 hj rfl ho
    (by decide) nofun rfl hv hload hsave (.inl rfl) (.inl rfl) none none
  obtain ⟨t, hrun, hwrites⟩ := hends _ _ hs
  have hlist : (getList "k").settle 0 roundSession = some (.ok ["a", "é"], roundSession) := rfl
  obtain rfl : items = ["a", "é"] := by
    cases hbefore.symm.trans hlist
    rfl
  exact ⟨t, hrun, hlist, (hafter t hrun hwrites).1⟩

end ScreenBinding
