import Mathlib.Data.List.Nodup
import ScreenBinding.Proofs.AddressGrammar
import ScreenBinding.Proofs.RuleTexts
import ScreenBinding.Script.Command

/-!
# Distinct sources

A source that is drawn is written as a stem, a `#` and a serial number. The stem may be any text,
with further `#` in it and with digits at its end, so that two sources are not told apart by their
beginnings. But a number is written in digits alone: it begins behind the last `#`, and the source
can be taken apart again there. Sources with different numbers differ for that reason.

The numbers come from a counter of 64 bits, wherever it stands at first. It comes around after
`2^64` draws; of fewer draws no two take one number.
-/
namespace ScreenBinding

/-- What decimal notation writes are digits, and of this value. -/
theorem Rule.digits_toDigits (n : Nat) : Digits n (Nat.toDigits 10 n) where
  nonempty := Nat.toDigits_ne_nil
  digits _ hc := Nat.isDigit_of_mem_toDigits (by decide) (by decide) hc
  value := by
    rw [← foldl_digits, ← Nat.ofDigitChars_eq_foldl, Nat.ofDigitChars_ten_toDigits]

namespace Source
variable {stem : String} {n : Nat} {counter : UInt64}

/-- What stands before the last `#`, and the number behind it. -/
def split? (source : Source) : Option (String × Nat) := do
  let (stem, digits) ← Address.cutLast '#' source.text.toList
  return (String.ofList stem, ← Rule.natural? digits)

theorem text_unique (stem : String) (n : Nat) :
    (unique stem n).text.toList = stem.toList ++ '#'::Nat.toDigits 10 n := by
  simp [unique, String.toList_append]

theorem hash_not_mem_toDigits (n : Nat) : '#' ∉ Nat.toDigits 10 n := fun h => by
  cases (Rule.digits_toDigits n).digits '#' h

/-- A source is taken apart into its stem and its number. -/
theorem split?_unique (stem : String) (h : n < 2^64) :
    (unique stem n).split? = some (stem, n) := by
  have hcut : Address.cutLast '#' (unique stem n).text.toList =
      some (stem.toList, Nat.toDigits 10 n) := by
    rw [text_unique]
    exact Address.cutLast_append (hash_not_mem_toDigits n) stem.toList
  have hread : Rule.natural? (Nat.toDigits 10 n) = some n :=
    Rule.natural?_eq_some_iff.mpr ⟨h, [], _, rfl, .inl rfl, Rule.digits_toDigits n⟩
  simp [split?, hcut, hread]

/-- A draw leaves a source that shows where the counter stood. -/
theorem split?_draw (stem : String) (counter : UInt64) :
    (draw stem counter).1.split? = some (stem, counter.toNat) :=
  split?_unique stem counter.toNat_lt

theorem split?_mode : mode.split? = none := by decide

/-- The sources that are drawn for these stems, one after the other. -/
def drawAll : List String → UInt64 → List Source
  | [], _ => []
  | stem::stems, counter => (draw stem counter).1::drawAll stems (draw stem counter).2

theorem getElem?_drawAll (stems : List String) (counter : UInt64) (i : Nat) :
    (drawAll stems counter)[i]? = stems[i]?.map fun stem => (draw stem (counter + .ofNat i)).1 := by
  induction stems generalizing counter i with
  | nil => rfl
  | cons stem stems ih =>
      cases i with
      | zero => simp [drawAll]
      | succ i =>
          have hcounter : counter + 1 + .ofNat i = counter + .ofNat (i+1) := by
            rw [UInt64.ofNat_add, UInt64.add_assoc, UInt64.add_comm (.ofNat i)]
            rfl
          rw [drawAll, List.getElem?_cons_succ, List.getElem?_cons_succ, ih, draw, hcounter]

/-- Each source shows its stem and where the counter stood at its turn. -/
theorem map_split?_drawAll (stems : List String) (counter : UInt64) :
    (drawAll stems counter).map split? =
      stems.mapIdx fun i stem => some (stem, (counter + .ofNat i).toNat) := by
  refine List.ext_getElem? fun i => ?_
  rw [List.getElem?_map, getElem?_drawAll, List.getElem?_mapIdx, Option.map_map]
  congr 1
  funext stem
  exact split?_draw stem _

/-- The counter does not come around within fewer than `2^64` draws. -/
theorem counter_ne {i j : Nat} (hij : i < j) (hj : j < UInt64.size) :
    (counter + .ofNat i).toNat ≠ (counter + .ofNat j).toNat := by
  intro h
  have hsame : UInt64.ofNat i = UInt64.ofNat j :=
    (UInt64.add_right_inj counter).mp (UInt64.toNat_inj.mp h)
  have hnat := congrArg UInt64.toNat hsame
  rw [UInt64.toNat_ofNat_of_lt' (Nat.lt_trans hij hj), UInt64.toNat_ofNat_of_lt' hj] at hnat
  exact Nat.ne_of_lt hij hnat

theorem nodup_split?_drawAll {stems : List String} (h : stems.length < UInt64.size) :
    ((drawAll stems counter).map split?).Nodup := by
  rw [map_split?_drawAll]
  refine List.nodup_iff_getElem?_ne_getElem?.mpr fun i j hij hj he => ?_
  rw [List.length_mapIdx] at hj
  have hi : i < stems.length := Nat.lt_trans hij hj
  rw [List.getElem?_mapIdx, List.getElem?_mapIdx, List.getElem?_eq_getElem hi,
    List.getElem?_eq_getElem hj] at he
  have hcounter : (counter + .ofNat i).toNat = (counter + .ofNat j).toNat := by
    simpa using (congrArg (Option.map Prod.snd) (Option.some.inj he))
  exact counter_ne hij (Nat.lt_trans hj h) hcounter

/-- Of fewer than `2^64` draws, whatever their stems are, no two give the same text and none gives
the source of the modes; and each source, cut at its last `#`, shows its stem and its number. -/
theorem drawn_sources_differ (stems : List String) (counter : UInt64)
    (h : stems.length < UInt64.size) :
    ((drawAll stems counter).map (·.text)).Nodup ∧
    mode ∉ drawAll stems counter ∧
    (drawAll stems counter).map split? =
      stems.mapIdx fun i stem => some (stem, (counter + .ofNat i).toNat) := by
  have hnodup : (drawAll stems counter).Nodup := (nodup_split?_drawAll h).of_map split?
  refine ⟨hnodup.map fun a b hab => ?_, fun hmode => ?_, map_split?_drawAll stems counter⟩
  · cases a
    cases b
    exact congrArg Source.mk hab
  · have hmem : mode.split? ∈ (drawAll stems counter).map split? := List.mem_map_of_mem hmode
    rw [map_split?_drawAll, split?_mode] at hmem
    obtain ⟨i, hi, he⟩ := List.mem_mapIdx.mp hmem
    cases he

/-- Stems of numbers and of `#`, also the empty stem. -/
theorem drawn_sources_differ_hashes :
    let stems := ["form", "form#1", "#", "", "form#"]
    stems.length < UInt64.size ∧ ((drawAll stems 1).map (·.text)).Nodup ∧
      mode ∉ drawAll stems 1 ∧
      (drawAll stems 1).map split? =
        [some ("form", 1), some ("form#1", 2), some ("#", 3), some ("", 4), some ("form#", 5)] := by
  have hlength : ["form", "form#1", "#", "", "form#"].length < UInt64.size := by decide
  obtain ⟨hnodup, hmode, hsplit⟩ := drawn_sources_differ _ 1 hlength
  exact ⟨hlength, hnodup, hmode, hsplit⟩

end Source
end ScreenBinding
