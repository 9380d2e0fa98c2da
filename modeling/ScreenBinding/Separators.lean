import ScreenBinding.Fault
import ScreenBinding.Json.Writer
import ScreenBinding.Text.Blank

/-!
# Lists and delimited texts

A list of texts and a text with delimiters are two forms of one thing. `split` reads a text as
its maximal runs of characters that do not separate, `join` writes a list as one text; `listOf`
and `textOf` carry both over to values.
-/
namespace ScreenBinding

/-- How lists of texts are split and joined. White space always separates. -/
structure Separators where
  delimiters : String := ","
  joiner : String := ", "
  deriving DecidableEq, Inhabited

/-- Maximal runs of characters that are not separators. -/
def runs (separates : Char → Bool) : List Char → List (List Char)
  | [] => []
  | c::s =>
      if separates c then runs separates s
      else (c::s.takeWhile (!separates ·))::runs separates (s.dropWhile (!separates ·))
  termination_by s => s.length
  decreasing_by
    · simp
    · have := (List.dropWhile_sublist (l := s) (!separates ·)).length_le
      simp only [List.length_cons]
      omega

theorem ne_nil_of_mem_runs {separates : Char → Bool} {s r : List Char}
    (h : r ∈ runs separates s) : r ≠ [] := by
  fun_induction runs separates s with
  | case1 => simp at h
  | case2 c s _ ih => exact ih h
  | case3 c s _ ih =>
      rcases List.mem_cons.mp h with rfl | h
      · simp
      · exact ih h

/-- A run holds no separator. -/
theorem not_separates_of_mem_runs {separates : Char → Bool} {s r : List Char} {c : Char}
    (h : r ∈ runs separates s) (hc : c ∈ r) : separates c = false := by
  fun_induction runs separates s with
  | case1 => simp at h
  | case2 d s _ ih => exact ih h
  | case3 d s hd ih =>
      rcases List.mem_cons.mp h with rfl | h
      · rcases List.mem_cons.mp hc with rfl | hc
        · simpa using hd
        · have := List.all_takeWhile (p := (!separates ·)) (l := s)
          simpa using List.all_eq_true.mp this c hc
      · exact ih h

namespace Separators

def separates (sep : Separators) (c : Char) : Bool :=
  Text.isBlank c || sep.delimiters.toList.contains c

def split (sep : Separators) (s : String) : List String :=
  (runs sep.separates s.toList).map String.ofList

/-- The items with the joiner between each two of them. -/
def join (sep : Separators) : List String → String
  | [] => ""
  | [a] => a
  | a::r => a ++ sep.joiner ++ sep.join r

mutual
/-- The text a field shows: `null` is empty and lists are joined. -/
def textOf (sep : Separators) : Json → String
  | .null => ""
  | .string s => s
  | .array items => sep.join (textsOf sep items)
  | .bool b => (Json.bool b).compact
  | .number n => (Json.number n).compact
  | .object fields => (Json.object fields).compact
def textsOf (sep : Separators) : List Json → List String
  | [] => []
  | v::vs => textOf sep v::textsOf sep vs
end

/-- A value as a list of texts: lists item by item, texts split, nothing else. -/
def listOf (sep : Separators) : Json → Except Fault (List String)
  | .array items => .ok (sep.textsOf items)
  | .string s => .ok (sep.split s)
  | _ => .error .listExpected

end Separators
end ScreenBinding
