import ScreenBinding.Proofs.DelimitedTexts
import ScreenBinding.Rule

/-!
# The grammar of addresses

An address is a local part and a domain with an at sign between them. A local part is made of atoms,
a domain of labels, with one dot between each two of them. The grammar builds a text up from these
pieces; the recogniser takes it apart, at its last at sign and then at every dot, and judges the
pieces one by one. The two agree because no piece holds a dot or an at sign.

Nor does a piece hold white space, so a list of addresses that is written as one text is read back
address by address, if no address holds a delimiter. What is said of letters and numerals rests on
no more than that neither the dot nor the at sign nor any white space is one of them.
-/
namespace ScreenBinding

namespace Text

theorem not_isLetterOrNumeral_of_isBlank {c : Char} (h : isBlank c = true) :
    isLetterOrNumeral c = false := by
  have htable : ∀ r ∈ blankRanges, ∀ n ∈ List.range' r.1 (r.2+1-r.1),
      isLetterOrNumeral (Char.ofNat n) = false := by decide +kernel
  obtain ⟨r, hr, hlow, hhigh⟩ := within_iff.mp h
  have hmem : c.toNat ∈ List.range' r.1 (r.2+1-r.1) := List.mem_range'_1.mpr ⟨hlow, by omega⟩
  have hc := htable r hr c.toNat hmem
  rwa [Char.ofNat_toNat] at hc

end Text

namespace Address

structure Atom (a : List Char) : Prop where
  nonempty : a ≠ []
  chars : ∀ c ∈ a, Text.isLetterOrNumeral c = true ∨ c ∈ atomSymbols

structure Label (l : List Char) : Prop where
  nonempty : l ≠ []
  chars : ∀ c ∈ l, Text.isLetterOrNumeral c = true ∨ c = '-'
  first : l.head? ≠ some '-'
  last : l.getLast? ≠ some '-'

/-- One or more atoms. -/
inductive LocalPart : List Char → Prop
  | atom {a : List Char} : Atom a → LocalPart a
  | dotted {a l : List Char} : Atom a → LocalPart l → LocalPart (a ++ '.'::l)

/-- Two or more labels, the last one of letters only. -/
inductive Domain : List Char → Prop
  | top {l t : List Char} : Label l → Label t → (∀ c ∈ t, Text.isLetter c = true) →
      Domain (l ++ '.'::t)
  | dotted {l d : List Char} : Label l → Domain d → Domain (l ++ '.'::d)

/-- What the grammar generates. -/
inductive Generated : List Char → Prop
  | address {l d : List Char} : LocalPart l → Domain d → Generated (l ++ '@'::d)

variable {a d l s : List Char} {c : Char}

/-- A letter or a numeral is none of the signs that stand between pieces. -/
theorem plain_of_isLetterOrNumeral (h : Text.isLetterOrNumeral c = true) :
    c ≠ '.' ∧ c ≠ '@' ∧ Text.isBlank c = false := by
  refine ⟨?_, ?_, ?_⟩
  · rintro rfl
    cases h
  · rintro rfl
    cases h
  · cases hblank : Text.isBlank c with
    | false => rfl
    | true =>
        rw [Text.not_isLetterOrNumeral_of_isBlank hblank] at h
        cases h

theorem Atom.plain (h : Atom a) (hc : c ∈ a) : c ≠ '.' ∧ c ≠ '@' ∧ Text.isBlank c = false := by
  have hsymbols : atomSymbols.all
      (fun c => c ≠ '.' ∧ c ≠ '@' ∧ Text.isBlank c = false) = true := by decide
  rcases h.chars c hc with hc | hc
  · exact plain_of_isLetterOrNumeral hc
  · exact of_decide_eq_true (List.all_eq_true.mp hsymbols c hc)

theorem Label.plain (h : Label l) (hc : c ∈ l) : c ≠ '.' ∧ c ≠ '@' ∧ Text.isBlank c = false := by
  rcases h.chars c hc with hc | rfl
  · exact plain_of_isLetterOrNumeral hc
  · decide

theorem Atom.dotless (h : Atom a) : '.' ∉ a := fun hc => (h.plain hc).1 rfl

theorem Label.dotless (h : Label l) : '.' ∉ l := fun hc => (h.plain hc).1 rfl

theorem LocalPart.unblank (h : LocalPart l) : ∀ c ∈ l, Text.isBlank c = false := by
  induction h with
  | atom ha => exact fun c hc => (ha.plain hc).2.2
  | dotted ha _ ih =>
      refine List.forall_mem_append.mpr ⟨fun c hc => (ha.plain hc).2.2, ?_⟩
      exact List.forall_mem_cons.mpr ⟨rfl, ih⟩

theorem Domain.plain (h : Domain d) : ∀ c ∈ d, c ≠ '@' ∧ Text.isBlank c = false := by
  induction h with
  | top hl ht _ =>
      refine List.forall_mem_append.mpr ⟨fun c hc => (hl.plain hc).2, ?_⟩
      exact List.forall_mem_cons.mpr ⟨by decide, fun c hc => (ht.plain hc).2⟩
  | dotted hl _ ih =>
      refine List.forall_mem_append.mpr ⟨fun c hc => (hl.plain hc).2, ?_⟩
      exact List.forall_mem_cons.mpr ⟨by decide, ih⟩

theorem Generated.ne_nil (h : Generated s) : s ≠ [] := by
  cases h with
  | address => simp

theorem Generated.unblank (h : Generated s) : ∀ c ∈ s, Text.isBlank c = false := by
  cases h with
  | address hl hd =>
      refine List.forall_mem_append.mpr ⟨hl.unblank, ?_⟩
      exact List.forall_mem_cons.mpr ⟨rfl, fun c hc => (hd.plain c hc).2⟩

theorem isAtom_iff : isAtom a = true ↔ Atom a := by
  simp only [isAtom, isAtomChar, Bool.and_eq_true, decide_eq_true_eq, List.all_eq_true,
    Bool.or_eq_true, List.contains_iff_mem]
  exact ⟨fun h => ⟨h.1, h.2⟩, fun h => ⟨h.nonempty, h.chars⟩⟩

theorem isLabel_iff : isLabel l = true ↔ Label l := by
  simp only [isLabel, isLabelChar, Bool.and_eq_true, decide_eq_true_eq, List.all_eq_true,
    Bool.or_eq_true]
  exact ⟨fun ⟨⟨⟨hne, hfirst⟩, hlast⟩, hchars⟩ => ⟨hne, hchars, hfirst, hlast⟩,
    fun h => ⟨⟨⟨h.nonempty, h.first⟩, h.last⟩, h.chars⟩⟩

theorem localPart_intercalate {pieces : List (List Char)} (hne : pieces ≠ [])
    (h : ∀ a ∈ pieces, Atom a) : LocalPart (['.'].intercalate pieces) := by
  induction pieces with
  | nil => exact (hne rfl).elim
  | cons a pieces ih =>
      obtain ⟨ha, hrest⟩ := List.forall_mem_cons.mp h
      cases pieces with
      | nil =>
          rw [List.intercalate_singleton]
          exact .atom ha
      | cons b pieces =>
          rw [List.intercalate_cons_cons, List.append_assoc]
          exact .dotted ha (ih (List.cons_ne_nil b pieces) hrest)

theorem domain_intercalate {pieces : List (List Char)} (htwo : 2 ≤ pieces.length)
    (h : ∀ l ∈ pieces, Label l)
    (htop : ∀ t, pieces.getLast? = some t → ∀ c ∈ t, Text.isLetter c = true) :
    Domain (['.'].intercalate pieces) := by
  induction pieces with
  | nil => cases htwo
  | cons l pieces ih =>
      obtain ⟨hl, hrest⟩ := List.forall_mem_cons.mp h
      match pieces with
      | [] => cases htwo with | step h => cases h
      | [t] =>
          rw [List.intercalate_cons_cons, List.intercalate_singleton, List.append_assoc]
          exact .top hl (hrest t (List.mem_singleton_self t)) (htop t rfl)
      | b::t::pieces =>
          rw [List.intercalate_cons_cons, List.append_assoc]
          exact .dotted hl (ih (Nat.le_add_left 2 _) hrest htop)

/-- Every text is its pieces again. -/
theorem isLocal_iff : isLocal l = true ↔ LocalPart l := by
  constructor
  · intro h
    have hpieces : ∀ a ∈ l.splitOn '.', Atom a := fun a ha =>
      isAtom_iff.mp (List.all_eq_true.mp h a ha)
    have hlocal := localPart_intercalate (List.splitOn_ne_nil '.' l) hpieces
    rwa [List.intercalate_splitOn] at hlocal
  · intro h
    induction h with
    | atom ha =>
        rw [isLocal, List.splitOn_eq_singleton ha.dotless, List.all_cons, isAtom_iff.mpr ha]
        rfl
    | dotted ha _ ih =>
        rw [isLocal, List.splitOn_append_cons_self_of_not_mem ha.dotless, List.all_cons,
          isAtom_iff.mpr ha]
        exact ih

theorem isDomain_iff : isDomain d = true ↔ Domain d := by
  have hparts {d : List Char} : isDomain d = true ↔ 2 ≤ (d.splitOn '.').length ∧
      (∀ l ∈ d.splitOn '.', Label l) ∧
      ∃ t, (d.splitOn '.').getLast? = some t ∧ ∀ c ∈ t, Text.isLetter c = true := by
    simp only [isDomain, Bool.and_eq_true, decide_eq_true_eq, List.all_eq_true, isLabel_iff,
      Option.any_eq_true, and_assoc]
  constructor
  · intro h
    obtain ⟨htwo, hlabels, t, ht, htop⟩ := hparts.mp h
    have hdomain := domain_intercalate htwo hlabels fun t' ht' => by
      cases ht.symm.trans ht'
      exact htop
    rwa [List.intercalate_splitOn] at hdomain
  · intro h
    induction h with
    | @top l t hl ht htop =>
        have hpieces : (l ++ '.'::t).splitOn '.' = [l, t] := by
          rw [List.splitOn_append_cons_self_of_not_mem hl.dotless,
            List.splitOn_eq_singleton ht.dotless]
        rw [hparts, hpieces]
        refine ⟨Nat.le_refl 2, ?_, t, rfl, htop⟩
        exact List.forall_mem_cons.mpr ⟨hl, List.forall_mem_singleton.mpr ht⟩
    | @dotted l d hl _ ih =>
        obtain ⟨htwo, hlabels, t, ht, htop⟩ := hparts.mp ih
        rw [hparts, List.splitOn_append_cons_self_of_not_mem hl.dotless]
        refine ⟨Nat.le_succ_of_le htwo, List.forall_mem_cons.mpr ⟨hl, hlabels⟩, t, ?_, htop⟩
        rw [List.getLast?_cons, ht]
        rfl

theorem append_of_cutLast {r : List Char} (h : cutLast c s = some (l, r)) : l ++ c::r = s := by
  induction s generalizing l with
  | nil => cases h
  | cons b s ih =>
      rw [cutLast] at h
      cases hcut : cutLast c s with
      | some p =>
          rw [hcut] at h
          cases h
          exact congrArg (b::·) (ih hcut)
      | none =>
          rw [hcut] at h
          by_cases hb : b = c
          · rw [if_pos hb] at h
            cases h
            exact congrArg (·::_) hb.symm
          · rw [if_neg hb] at h
            cases h

theorem cutLast_of_not_mem (h : c ∉ s) : cutLast c s = none := by
  induction s with
  | nil => rfl
  | cons b s ih =>
      rw [cutLast, ih fun hs => h (List.mem_cons_of_mem b hs)]
      exact if_neg fun hb : b = c => h (hb ▸ List.mem_cons_self ..)

theorem cutLast_append {r : List Char} (h : c ∉ r) (l : List Char) :
    cutLast c (l ++ c::r) = some (l, r) := by
  induction l with
  | nil =>
      rw [List.nil_append, cutLast, cutLast_of_not_mem h]
      exact if_pos rfl
  | cons b l ih => rw [List.cons_append, cutLast, ih]

/-- The recogniser accepts what the grammar generates, and nothing else. -/
theorem accepts_iff : accepts s = true ↔ Generated s := by
  constructor
  · intro h
    rw [accepts] at h
    cases hcut : cutLast '@' s with
    | none =>
        rw [hcut] at h
        cases h
    | some p =>
        rw [hcut] at h
        obtain ⟨hl, hd⟩ := Bool.and_eq_true_iff.mp h
        rw [← append_of_cutLast hcut]
        exact .address (isLocal_iff.mp hl) (isDomain_iff.mp hd)
  · rintro ⟨hl, hd⟩
    have hat : '@' ∉ _ := fun hc => (hd.plain '@' hc).1 rfl
    rw [accepts, cutLast_append hat]
    exact Bool.and_eq_true_iff.mpr ⟨isLocal_iff.mpr hl, isDomain_iff.mpr hd⟩

end Address
open Address

theorem Rule.isEmail_iff {text : String} : isEmail text = true ↔ Generated text.toList :=
  accepts_iff

/-- An address without delimiters is a token. -/
theorem Separators.isToken_of_generated {sep : Separators} {a : String}
    (h : Generated a.toList) (hd : ∀ c ∈ a.toList, c ∉ sep.delimiters.toList) : sep.IsToken a where
  nonempty := by simpa using h.ne_nil
  whole c hc := by
    rw [separates, h.unblank c hc, Bool.false_or, List.contains_eq_mem]
    exact decide_eq_false (hd c hc)

theorem validate_emails {sep : Separators} {refs : Fields} {text : String} :
    validate sep refs (.string text) ["emails"] = true ↔
      ∀ t ∈ sep.split text, Generated t.toList := by
  have hrule : ["emails"].map Rule.parse = [.emails] := by decide
  simp only [validate, hrule, List.all_cons, List.all_nil, Bool.and_true, Rule.holds,
    Separators.listOf, ← Rule.isEmail_iff]
  simp

/-- A text is an email address exactly if the grammar generates it. A text passes the rule for many
exactly if each of its tokens is one; and so does a list of addresses in which no delimiter occurs,
written as one text with a joiner of separators, since it is read back address by address. -/
theorem emails_generated (sep : Separators) (refs : Fields) :
    (∀ text, Rule.isEmail text = true ↔ Generated text.toList) ∧
    (∀ text, validate sep refs (.string text) ["emails"] = true ↔
      ∀ t ∈ sep.split text, Generated t.toList) ∧
    ∀ addresses : List String, (∀ a ∈ addresses, Rule.isEmail a = true) → sep.Rejoins →
      (∀ a ∈ addresses, ∀ c ∈ a.toList, c ∉ sep.delimiters.toList) →
      sep.split (sep.join addresses) = addresses ∧
      validate sep refs (.string (sep.join addresses)) ["emails"] = true := by
  refine ⟨fun text => Rule.isEmail_iff, fun text => validate_emails, ?_⟩
  intro addresses haddresses hjoiner hdelimiters
  have hgenerated : ∀ a ∈ addresses, Generated a.toList := fun a ha =>
    Rule.isEmail_iff.mp (haddresses a ha)
  have hsplit : sep.split (sep.join addresses) = addresses :=
    Separators.split_join_tokens hjoiner fun a ha =>
      Separators.isToken_of_generated (hgenerated a ha) (hdelimiters a ha)
  refine ⟨hsplit, validate_emails.mpr ?_⟩
  rwa [hsplit]

/-- Two addresses with a joiner that consists of a delimiter and white space. -/
theorem emails_generated_joined : ∃ sep addresses, sep.Rejoins ∧
    (∀ a ∈ addresses, Rule.isEmail a = true) ∧
    sep.join addresses = "a.b+c@x-1.de; ä@y.z.org" ∧
    sep.split (sep.join addresses) = addresses ∧
    validate sep [] (.string (sep.join addresses)) ["emails"] = true := by
  let sep : Separators := { delimiters := ";", joiner := "; " }
  let addresses := ["a.b+c@x-1.de", "ä@y.z.org"]
  have haddresses : ∀ a ∈ addresses, Rule.isEmail a = true := by decide +kernel
  have hjoiner : sep.Rejoins := by decide
  have hdelimiters : ∀ a ∈ addresses, ∀ c ∈ a.toList, c ∉ sep.delimiters.toList := by
    have hsemicolon : sep.delimiters.toList = [';'] := by decide
    have hfree : ∀ a ∈ addresses, ';' ∉ a.toList := by decide
    intro a ha c hc hd
    rw [hsemicolon, List.mem_singleton] at hd
    exact hfree a ha (hd ▸ hc)
  obtain ⟨hsplit, hpasses⟩ :=
    (emails_generated sep []).2.2 addresses haddresses hjoiner hdelimiters
  exact ⟨sep, addresses, hjoiner, haddresses, by decide, hsplit, hpasses⟩

end ScreenBinding
