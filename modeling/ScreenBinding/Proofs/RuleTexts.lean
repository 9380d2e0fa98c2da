import ScreenBinding.Rule
import Mathlib.Data.Nat.Digits.Defs

/-!
# The texts of rules

A rule is written as its name, for some rules with an argument behind a colon. The argument is all
that follows the first colon, so it may be empty and may hold further colons. Two rules take a
number instead: decimal digits with an optional plus sign, white space around them, and a value
below `2^64`.

What is not written in this way is no rule. A list of rules is a conjunction, so such a text makes
it fail for every value, unless the value is empty and the list allows that. Nor do the order of the
rules and their repetitions matter.
-/
namespace ScreenBinding

namespace Text
variable {l r s : List Char}

/-- A text is what is left of it with the blanks around. -/
theorem trim_blanks (s : List Char) :
    ∃ l r, s = l ++ trim s ++ r ∧ ∀ c ∈ l ++ r, isBlank c = true := by
  have hblank (s : List Char) : ∀ c ∈ s.takeWhile isBlank, isBlank c = true :=
    List.all_eq_true.mp List.all_takeWhile
  let rest := s.dropWhile isBlank
  refine ⟨s.takeWhile isBlank, (rest.reverse.takeWhile isBlank).reverse, ?_, ?_⟩
  · have hrest : trim s ++ (rest.reverse.takeWhile isBlank).reverse = rest := by
      rw [trim, ← List.reverse_append, List.takeWhile_append_dropWhile, List.reverse_reverse]
    rw [List.append_assoc, hrest, List.takeWhile_append_dropWhile]
  · refine List.forall_mem_append.mpr ⟨hblank s, fun c hc => ?_⟩
    exact hblank _ c (List.mem_reverse.mp hc)

theorem trim_append (hl : ∀ c ∈ l, isBlank c = true) (hs : ∀ c ∈ s, isBlank c = false)
    (hr : ∀ c ∈ r, isBlank c = true) : trim (l ++ s ++ r) = s := by
  have hdrop {m : List Char} (hm : ∀ c ∈ m, isBlank c = true) (k : List Char) :
      (m ++ k).dropWhile isBlank = k.dropWhile isBlank := List.dropWhile_append_of_pos hm
  have hkeep {m : List Char} (hm : ∀ c ∈ m, isBlank c = false) : m.dropWhile isBlank = m := by
    cases m with
    | nil => rfl
    | cons c m => rw [List.dropWhile_cons_of_neg (by simp [hm c (List.mem_cons_self ..)])]
  have hback : ∀ c ∈ r.reverse, isBlank c = true := fun c hc => hr c (List.mem_reverse.mp hc)
  have hrev : ∀ c ∈ s.reverse, isBlank c = false := fun c hc => hs c (List.mem_reverse.mp hc)
  rw [trim, List.append_assoc, hdrop hl]
  cases s with
  | nil =>
      rw [List.nil_append, ← List.append_nil r, hdrop hr]
      rfl
  | cons c s =>
      rw [List.cons_append, List.dropWhile_cons_of_neg (by simp [hs c (List.mem_cons_self ..)]),
        ← List.cons_append, List.reverse_append, hdrop hback, hkeep hrev, List.reverse_reverse]

theorem not_isBlank_of_isDigit {c : Char} (h : c.isDigit = true) : isBlank c = false := by
  rw [Char.isDigit, Bool.and_eq_true, decide_eq_true_eq, decide_eq_true_eq] at h
  have hlow : 48 ≤ c.toNat := h.1
  have hhigh : c.toNat ≤ 57 := h.2
  simp only [isBlank, within, blankRanges, List.any_cons, List.any_nil]
  simp
  omega

end Text

namespace Rule

/-- Decimal digits with their value, leading zeros allowed. -/
structure Digits (n : Nat) (ds : List Char) : Prop where
  nonempty : ds ≠ []
  digits : ∀ c ∈ ds, c.isDigit = true
  value : Nat.ofDigits 10 (ds.reverse.map fun c => c.toNat - '0'.toNat) = n

/-- A number below `2^64` as the argument of a rule. -/
structure Length (n : Nat) (s : List Char) : Prop where
  bound : n < 2^64
  written : ∃ l sign ds r, s = l ++ (sign ++ ds) ++ r ∧ (sign = [] ∨ sign = ['+']) ∧
    Digits n ds ∧ ∀ c ∈ l ++ r, Text.isBlank c = true

section
variable {n : Nat} {ds s : List Char}

/-- Digits are read from the left, and their value is counted from the right. -/
theorem foldl_digits (ds : List Char) :
    ds.foldl (fun n c => 10*n+(c.toNat - '0'.toNat)) 0 =
      Nat.ofDigits 10 (ds.reverse.map fun c => c.toNat - '0'.toNat) := by
  rw [Nat.ofDigits_eq_foldr, List.foldr_map, List.foldr_reverse]
  exact congrArg (ds.foldl · 0) (funext₂ fun n c => Nat.add_comm ..)

theorem natural?_eq_some_iff : natural? s = some n ↔
    n < 2^64 ∧ ∃ sign ds, s = sign ++ ds ∧ (sign = [] ∨ sign = ['+']) ∧ Digits n ds := by
  have hdigits (ds : List Char) : (if ds = [] ∨ ds.any (!·.isDigit) then none else
      let n := ds.foldl (fun n c => 10*n+(c.toNat - '0'.toNat)) 0
      if n < UInt64.size then some n else none) = some n ↔ n < 2^64 ∧ Digits n ds := by
    split
    · rename_i hno
      refine ⟨nofun, ?_⟩
      rintro ⟨-, h⟩
      rcases hno with rfl | hany
      · exact (h.nonempty rfl).elim
      · obtain ⟨c, hc, hd⟩ := List.any_eq_true.mp hany
        simp [h.digits c hc] at hd
    · rename_i hyes
      rw [not_or] at hyes
      have hall : ∀ c ∈ ds, c.isDigit = true := by simpa using hyes.2
      rw [foldl_digits]
      dsimp only
      constructor
      · intro h
        split at h
        · rename_i hlt
          cases h
          exact ⟨hlt, hyes.1, hall, rfl⟩
        · cases h
      · rintro ⟨hlt, h⟩
        rw [h.value]
        exact if_pos hlt
  unfold natural?
  rw [hdigits]
  refine and_congr_right fun _ => ⟨fun h => ?_, ?_⟩
  · split at h
    · rename_i r
      exact ⟨['+'], r, rfl, .inr rfl, h⟩
    · exact ⟨[], s, rfl, .inl rfl, h⟩
  · rintro ⟨sign, ds, rfl, rfl | rfl, h⟩
    · rw [List.nil_append]
      split
      · -- a plus sign is no digit
        cases h.digits '+' (List.mem_cons_self ..)
      · exact h
    · exact h

theorem length?_eq_some_iff : length? (some s) = some n ↔ Length n s := by
  rw [length?, Option.bind_some, natural?_eq_some_iff]
  constructor
  · rintro ⟨hlt, sign, ds, hs, hsign, hd⟩
    obtain ⟨l, r, htext, hblank⟩ := Text.trim_blanks s
    exact ⟨hlt, l, sign, ds, r, hs ▸ htext, hsign, hd, hblank⟩
  · rintro ⟨hlt, l, sign, ds, r, rfl, hsign, hd, hblank⟩
    obtain ⟨hl, hr⟩ := List.forall_mem_append.mp hblank
    have hplain : ∀ c ∈ sign ++ ds, Text.isBlank c = false := by
      refine List.forall_mem_append.mpr ⟨?_, fun c hc =>
        Text.not_isBlank_of_isDigit (hd.digits c hc)⟩
      rcases hsign with rfl | rfl
      · exact List.forall_mem_nil _
      · exact List.forall_mem_singleton.mpr (by decide)
    exact ⟨hlt, sign, ds, Text.trim_append hl hplain hr, hsign, hd⟩

end

/-- A text is written for a rule. -/
inductive Written : Rule → String → Prop
  | optional : Written .optional "optional"
  | optionalWith (x : String) : Written .optional ("optional:" ++ x)
  | equal (a : String) : Written (.equal a) ("equal:" ++ a)
  | equalRef (name : String) : Written (.equalRef name) ("equalRef:" ++ name)
  | minLen {n : Nat} {a : String} : Length n a.toList → Written (.minLen n) ("minLen:" ++ a)
  | maxLen {n : Nat} {a : String} : Length n a.toList → Written (.maxLen n) ("maxLen:" ++ a)
  | email : Written .email "email"
  | emailWith (x : String) : Written .email ("email:" ++ x)
  | emails : Written .emails "emails"
  | emailsWith (x : String) : Written .emails ("emails:" ++ x)

section
variable {r : Rule} {l s : List Char} {name arg t : String}

theorem cut_append (h : ':' ∉ l) (s : List Char) : cut (l ++ ':'::s) = (l, some s) := by
  induction l with
  | nil => rfl
  | cons c l ih =>
      rw [List.mem_cons, not_or] at h
      rw [List.cons_append, cut, if_neg (Ne.symm h.1), ih h.2]

/-- What is cut apart was put together. -/
theorem append_cut (s : List Char) : s = (cut s).1 ++ (cut s).2.elim [] (':'::·) := by
  induction s with
  | nil => rfl
  | cons c s ih =>
      unfold cut
      split
      · rename_i hc
        rw [hc]
        rfl
      · exact congrArg (c::·) ih

theorem not_mem_cut (s : List Char) : ':' ∉ (cut s).1 := by
  induction s with
  | nil => exact List.not_mem_nil
  | cons c s ih =>
      unfold cut
      split
      · exact List.not_mem_nil
      · rename_i hc
        exact List.not_mem_cons_of_ne_of_not_mem (Ne.symm hc) ih

/-- A name is cut off together with its colon. -/
theorem cut_named (h : cut name.toList = (l, some [])) (arg : String) :
    cut (name ++ arg).toList = (l, some arg.toList) := by
  have hname : name.toList = l ++ [':'] := by simpa [h] using append_cut name.toList
  have hl : ':' ∉ l := by simpa [h] using not_mem_cut name.toList
  rw [String.toList_append, hname, List.append_assoc, List.singleton_append, cut_append hl]

theorem parse_of_written (h : r.Written t) : parse t = r := by
  cases h with
  | optional => rfl
  | optionalWith =>
      rw [parse, cut_named (l := "optional".toList) rfl]
      rfl
  | equal =>
      rw [parse, cut_named (l := "equal".toList) rfl]
      exact congrArg equal String.ofList_toList
  | equalRef =>
      rw [parse, cut_named (l := "equalRef".toList) rfl]
      exact congrArg equalRef String.ofList_toList
  | minLen h =>
      rw [parse, cut_named (l := "minLen".toList) rfl]
      exact congrArg (Option.getD · _) (congrArg (Option.map minLen) (length?_eq_some_iff.mpr h))
  | maxLen h =>
      rw [parse, cut_named (l := "maxLen".toList) rfl]
      exact congrArg (Option.getD · _) (congrArg (Option.map maxLen) (length?_eq_some_iff.mpr h))
  | email => rfl
  | emailWith =>
      rw [parse, cut_named (l := "email".toList) rfl]
      rfl
  | emails => rfl
  | emailsWith =>
      rw [parse, cut_named (l := "emails".toList) rfl]
      rfl

private theorem written_length {make : Nat → Rule}
    (h : ∀ {n}, Length n s → (make n).Written t) :
    (((length? (some s)).map make).getD (unknown t)).Written t ∨
      ((length? (some s)).map make).getD (unknown t) = unknown t := by
  cases hn : length? (some s) with
  | none => exact .inr rfl
  | some n => exact .inl (h (length?_eq_some_iff.mp hn))

/-- What a text reads as is written there, or the text is no rule. -/
theorem written_parse (t : String) : (parse t).Written t ∨ parse t = unknown t := by
  have htext : t = String.ofList (cut t.toList).1 ++
      String.ofList ((cut t.toList).2.elim [] (':'::·)) := by
    rw [← String.ofList_append, ← append_cut, String.ofList_toList]
  unfold parse
  generalize cut t.toList = p at htext ⊢
  obtain ⟨l, _ | a⟩ := p
  · -- without a colon only the three rules that need no argument are left
    replace htext : t = String.ofList l := htext.trans String.append_empty
    rw [htext]
    dsimp only
    split
    · rename_i hname
      exact .inl (hname ▸ .optional)
    · contradiction
    · contradiction
    · exact .inr rfl
    · exact .inr rfl
    · rename_i hname
      exact .inl (hname ▸ .email)
    · rename_i hname
      exact .inl (hname ▸ .emails)
    · exact .inr rfl
  · replace htext : t = String.ofList l ++ ":" ++ String.ofList a := by
      rw [htext, String.append_assoc]
      exact congrArg (String.ofList l ++ ·) (String.ofList_append : String.ofList ([':'] ++ a) = _)
    have ha : (String.ofList a).toList = a := String.toList_ofList
    rw [htext]
    dsimp only
    split <;> rename_i hname
    · exact .inl (hname ▸ .optionalWith _)
    · cases hname
      rename_i hname
      exact .inl (hname ▸ .equal _)
    · cases hname
      rename_i hname
      exact .inl (hname ▸ .equalRef _)
    · exact hname ▸ written_length fun h => .minLen (ha.symm ▸ h)
    · exact hname ▸ written_length fun h => .maxLen (ha.symm ▸ h)
    · exact .inl (hname ▸ .emailWith _)
    · exact .inl (hname ▸ .emailsWith _)
    · exact .inr rfl

theorem not_written_unknown : ¬Written (unknown arg) t := nofun

/-- A text reads as the one rule it is written for, and as no rule if there is none. -/
theorem parse_eq_iff :
    parse t = r ↔ r.Written t ∨ r = unknown t ∧ ∀ other, ¬Written other t := by
  constructor
  · rintro rfl
    rcases written_parse t with h | h
    · exact .inl h
    · refine .inr ⟨h, fun other hother => ?_⟩
      rw [parse_of_written hother] at h
      exact not_written_unknown (h ▸ hother)
  · rintro (h | ⟨rfl, hnone⟩)
    · exact parse_of_written h
    · exact (written_parse t).resolve_left (hnone _)

end

end Rule

section
variable {sep : Separators} {refs : Fields} {v : Json} {rules more : List String} {t : String}

theorem validate_eq_true_iff : validate sep refs v rules = true ↔
    ((∃ o ∈ rules, Rule.parse o = .optional) ∧ v.truthy = false) ∨
      ∀ t ∈ rules, (Rule.parse t).holds sep refs v = true := by
  simp [validate]

/-- What decides is which texts a list holds. -/
theorem validate_congr (h : ∀ t, t ∈ more ↔ t ∈ rules) :
    validate sep refs v more = validate sep refs v rules := by
  rw [Bool.eq_iff_iff, validate_eq_true_iff, validate_eq_true_iff]
  simp only [h]

theorem validate_insert (ht : Rule.parse t ≠ .optional) (hmore : ∀ u, u ∈ more ↔ u = t ∨ u ∈ rules)
    (h : validate sep refs v more = true) : validate sep refs v rules = true := by
  rw [validate_eq_true_iff] at h ⊢
  rcases h with ⟨⟨o, ho, hoptional⟩, hempty⟩ | hall
  · refine .inl ⟨⟨o, ((hmore o).mp ho).resolve_left ?_, hoptional⟩, hempty⟩
    rintro rfl
    exact ht hoptional
  · exact .inr fun u hu => hall u ((hmore u).mpr (.inr hu))

/-- A text that is no rule leaves only what `optional` lets pass. -/
theorem validate_unknown (ht : t ∈ rules) (hno : ∀ r, ¬Rule.Written r t) :
    validate sep refs v rules = true ↔
      v.truthy = false ∧ ∃ o ∈ rules, Rule.Written .optional o := by
  have hunknown : Rule.parse t = .unknown t := Rule.parse_eq_iff.mpr (.inr ⟨rfl, hno⟩)
  have hwritten (o : String) : Rule.parse o = .optional ↔ Rule.Written .optional o := by
    simp [Rule.parse_eq_iff]
  rw [validate_eq_true_iff]
  simp only [hwritten]
  constructor
  · rintro (⟨hoptional, hempty⟩ | hall)
    · exact ⟨hempty, hoptional⟩
    · have hfails := hall t ht
      rw [hunknown] at hfails
      cases hfails
  · rintro ⟨hempty, hoptional⟩
    exact .inl ⟨hoptional, hempty⟩

end

/-- How a list of rules decides on a value. Its verdict is that of the set of its texts. A further
text that is not `optional` never turns a rejection into an acceptance. A text that is no rule
leaves only the empty value where `optional` is listed too. And a text reads as the rule it is
written for, with all of its argument. -/
theorem rules_fail_closed (sep : Separators) (refs : Fields) (v : Json) :
    (∀ rules more : List String, (∀ t, t ∈ more ↔ t ∈ rules) →
      validate sep refs v more = validate sep refs v rules) ∧
    (∀ (rules more : List String) (t : String), Rule.parse t ≠ .optional →
      (∀ u, u ∈ more ↔ u = t ∨ u ∈ rules) → validate sep refs v rules = false →
      validate sep refs v more = false) ∧
    (∀ (rules : List String) (t : String), t ∈ rules → (∀ r, ¬Rule.Written r t) →
      (validate sep refs v rules = true ↔
        v.truthy = false ∧ ∃ o ∈ rules, Rule.Written .optional o)) ∧
    ∀ (t : String) (r : Rule), Rule.parse t = r ↔
      r.Written t ∨ r = .unknown t ∧ ∀ other, ¬Rule.Written other t := by
  refine ⟨fun rules more h => validate_congr h, fun rules more t ht hmore hfails => ?_,
    fun rules t ht hno => validate_unknown ht hno, fun t r => Rule.parse_eq_iff⟩
  by_contra h
  rw [Bool.not_eq_false] at h
  rw [validate_insert ht hmore h] at hfails
  cases hfails

/-- A length of `2^64` is no rule, so the list around it rejects a value that meets all the others,
wherever they stand. -/
theorem rules_fail_closed_overflow :
    let long := "maxLen:18446744073709551616"
    let rules := [long, "optional:", "equal:a:b"]
    let verdict := validate { } [] (.string "a:b")
    (∀ r, ¬Rule.Written r long) ∧
    verdict rules = verdict ["equal:a:b", "equal:a:b", "optional:", long] ∧
    (verdict rules = true ↔ (Json.string "a:b").truthy = false ∧
      ∃ o ∈ rules, Rule.Written .optional o) ∧
    verdict rules = false ∧ verdict ("minLen: +3 "::rules) = false ∧
    Rule.parse "minLen: +3 " = .minLen 3 ∧ Rule.parse "equal:a:b" = .equal "a:b" ∧
    Rule.parse "equal:" = .equal "" := by
  intro long rules verdict
  obtain ⟨hset, hmore, hno, hparse⟩ := rules_fail_closed { } [] (.string "a:b")
  have hunknown : ∀ r, ¬Rule.Written r long := by
    have hlong : Rule.parse long = .unknown long := by decide
    exact (((hparse long _).mp hlong).resolve_left Rule.not_written_unknown).2
  have hoptional : Rule.parse "minLen: +3 " ≠ .optional := by decide
  have hlisted := hno rules long (List.mem_cons_self ..) hunknown
  have hverdict : verdict rules = false :=
    Bool.eq_false_iff.mpr fun h => absurd (hlisted.mp h).1 (by decide)
  refine ⟨hunknown, hset _ rules fun t => ?_, hlisted, hverdict,
    hmore rules _ _ hoptional (fun u => List.mem_cons) hverdict, by decide,
    (hparse _ _).mpr (.inl (.equal "a:b")), (hparse _ _).mpr (.inl (.equal ""))⟩
  grind

end ScreenBinding
