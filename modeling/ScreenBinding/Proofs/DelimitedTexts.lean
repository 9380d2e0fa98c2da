import Mathlib.Data.List.TakeWhile
import ScreenBinding.Separators

/-!
# Delimited texts

Splitting sees a text as the runs between its separators, so a piece of separators cuts a text in
two that can be split apart. A joiner that consists of separators is such a piece: a joined list is
split item by item. Items that are tokens come back as they were, and what a text is split into are
tokens, whatever the delimiters are.

A joiner that is empty, or that holds another character, would run into the items; nothing is said
of those.
-/
namespace ScreenBinding

section
variable {separates : Char → Bool} {c : Char} {a b j : List Char}

theorem runs_nil : runs separates [] = [] := by rw [runs]

theorem runs_separator (h : separates c = true) (s : List Char) :
    runs separates (c::s) = runs separates s := by
  rw [runs, if_pos h]

theorem runs_separators (hj : ∀ c ∈ j, separates c = true) (s : List Char) :
    runs separates (j ++ s) = runs separates s := by
  induction j with
  | nil => rfl
  | cons c j ih =>
      rw [List.cons_append, runs_separator (hj c (List.mem_cons_self ..))]
      exact ih fun d hd => hj d (List.mem_cons_of_mem c hd)

/-- A character that separates ends the run before it. -/
theorem takeWhile_separated (h : separates c = true) (a b : List Char) :
    (a ++ c::b).takeWhile (!separates ·) = a.takeWhile (!separates ·) := by
  induction a with
  | nil => simp [h]
  | cons d a ih =>
      rw [List.cons_append, List.takeWhile_cons, List.takeWhile_cons, ih]

theorem dropWhile_separated (h : separates c = true) (a b : List Char) :
    (a ++ c::b).dropWhile (!separates ·) = a.dropWhile (!separates ·) ++ c::b := by
  induction a with
  | nil => simp [h]
  | cons d a ih =>
      rw [List.cons_append, List.dropWhile_cons, List.dropWhile_cons, ih]
      split <;> rfl

theorem runs_separated (h : separates c = true) (a b : List Char) :
    runs separates (a ++ c::b) = runs separates a ++ runs separates b := by
  fun_induction runs separates a with
  | case1 => rw [List.nil_append, runs_separator h, List.nil_append]
  | case2 d a hd ih => rw [List.cons_append, runs_separator hd, ih]
  | case3 d a hd ih =>
      rw [List.cons_append, runs, if_neg hd, takeWhile_separated h, dropWhile_separated h, ih,
        List.cons_append]

/-- What separators stand between is split apart. -/
theorem runs_append (hj : ∀ c ∈ j, separates c = true) (hne : j ≠ []) (a b : List Char) :
    runs separates (a ++ j ++ b) = runs separates a ++ runs separates b := by
  cases j with
  | nil => exact (hne rfl).elim
  | cons c j =>
      rw [List.append_assoc, List.cons_append, runs_separated (hj c (List.mem_cons_self ..)),
        runs_separators fun d hd => hj d (List.mem_cons_of_mem c hd)]

/-- A piece without separators is one run. -/
theorem runs_run (hne : a ≠ []) (ha : ∀ c ∈ a, separates c = false) :
    runs separates a = [a] := by
  cases a with
  | nil => exact (hne rfl).elim
  | cons c a =>
      have hall : ∀ d ∈ a, (!separates d) = true := fun d hd => by
        rw [ha d (List.mem_cons_of_mem c hd), Bool.not_false]
      rw [runs, if_neg (by rw [ha c (List.mem_cons_self ..)]; exact Bool.false_ne_true),
        List.takeWhile_eq_self_iff.mpr hall, List.dropWhile_eq_nil_iff.mpr hall, runs_nil]

end

namespace Separators
variable {sep : Separators} {t : String} {items : List String}

/-- The joiner consists of separators, and of at least one. -/
structure Rejoins (sep : Separators) : Prop where
  nonempty : sep.joiner ≠ ""
  separates : ∀ c ∈ sep.joiner.toList, sep.separates c = true

/-- A text that splitting leaves whole. -/
structure IsToken (sep : Separators) (t : String) : Prop where
  nonempty : t ≠ ""
  whole : ∀ c ∈ t.toList, sep.separates c = false

theorem textsOf_eq_map (items : List Json) : sep.textsOf items = items.map sep.textOf := by
  induction items with
  | nil => rfl
  | cons v items ih => rw [textsOf, ih, List.map_cons]

instance : Decidable sep.Rejoins :=
  decidable_of_iff (sep.joiner ≠ "" ∧ sep.joiner.toList.all sep.separates = true)
    ⟨fun h => ⟨h.1, List.all_eq_true.mp h.2⟩,
      fun h => ⟨h.nonempty, List.all_eq_true.mpr h.separates⟩⟩

instance : Decidable (sep.IsToken t) :=
  decidable_of_iff (t ≠ "" ∧ t.toList.any sep.separates = false)
    ⟨fun h => ⟨h.1, fun c hc => by simpa using List.any_eq_false.mp h.2 c hc⟩,
      fun h => ⟨h.nonempty, List.any_eq_false.mpr fun c hc => by simp [h.whole c hc]⟩⟩

theorem isToken_of_mem_split {s : String} (h : t ∈ sep.split s) : sep.IsToken t := by
  obtain ⟨r, hr, rfl⟩ := List.mem_map.mp h
  refine ⟨?_, fun c hc => ?_⟩
  · simpa using ne_nil_of_mem_runs hr
  · rw [String.toList_ofList] at hc
    exact not_separates_of_mem_runs hr hc

theorem split_token (h : sep.IsToken t) : sep.split t = [t] := by
  have hne : t.toList ≠ [] := by simpa using h.nonempty
  rw [split, runs_run hne h.whole, List.map_singleton, String.ofList_toList]

theorem split_empty : sep.split "" = [] := by
  rw [split, String.toList_empty, runs_nil, List.map_nil]

theorem split_append_joiner (h : sep.Rejoins) (a b : String) :
    sep.split (a ++ sep.joiner ++ b) = sep.split a ++ sep.split b := by
  have hne : sep.joiner.toList ≠ [] := by simpa using h.nonempty
  rw [split, String.toList_append, String.toList_append, runs_append h.separates hne,
    List.map_append, split, split]

/-- A joined list is split item by item. -/
theorem split_join (h : sep.Rejoins) (items : List String) :
    sep.split (sep.join items) = items.flatMap sep.split := by
  induction items with
  | nil => exact split_empty
  | cons a items ih =>
      cases items with
      | nil => simp [join]
      | cons b items =>
          have hjoin : sep.join (a::b::items) = a ++ sep.joiner ++ sep.join (b::items) := rfl
          rw [hjoin, split_append_joiner h, ih, ← List.flatMap_cons]

theorem flatMap_split (h : ∀ t ∈ items, sep.IsToken t) : items.flatMap sep.split = items := by
  induction items with
  | nil => rfl
  | cons t items ih =>
      rw [List.flatMap_cons, split_token (h t (List.mem_cons_self ..)),
        ih fun u hu => h u (List.mem_cons_of_mem t hu), List.singleton_append]

/-- Tokens are not changed by being written as one text. -/
theorem split_join_tokens (h : sep.Rejoins) (ht : ∀ t ∈ items, sep.IsToken t) :
    sep.split (sep.join items) = items := by
  rw [split_join h, flatMap_split ht]

end Separators
end ScreenBinding
