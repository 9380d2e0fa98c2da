import ScreenBinding.Directive

/-!
# The text of a directive

Which texts stand in front of a key is said here without the scanner: at most two symbols, at most
one of each class. `parse` cuts a text behind the longest such piece at its beginning, and what the
piece names is what the directive does. A directive that is written out with both of its symbols is
read back as it was, whatever its key looks like: two symbols are all that is ever taken, so a key
behind two symbols may begin with further ones.
-/
namespace ScreenBinding

/-- The symbols of directions. -/
def Trigger.symbols : List Char := ['>', '<', '*']

/-- The symbols of operators. -/
def Operator.symbols : List Char := ['=', '#', '~', '^', '?']

theorem Trigger.isSome_symbol? (c : Char) : (symbol? c).isSome = decide (c ∈ symbols) := by
  unfold symbol?
  split <;> simp_all [symbols]

theorem Operator.isSome_symbol? (c : Char) : (symbol? c).isSome = decide (c ∈ symbols) := by
  unfold symbol?
  split <;> simp_all [symbols]

/-- No symbol belongs to both classes. -/
theorem Operator.not_mem_of_trigger {c : Char} (h : c ∈ Trigger.symbols) : c ∉ symbols := by
  simp only [Trigger.symbols, List.mem_cons, List.not_mem_nil, or_false] at h
  rcases h with rfl | rfl | rfl <;> decide

/-- The symbol for some directions; no symbol names none of them. -/
def Trigger.symbol : List Trigger → Char
  | [.save] => '>'
  | [.load] => '<'
  | _ => '*'

def Operator.symbol : Operator → Char
  | .assign => '='
  | .count => '#'
  | .merge => '~'
  | .first => '^'
  | .default => '?'

theorem Trigger.symbol?_symbol {c : Char} {ts : List Trigger} (h : symbol? c = some ts) :
    symbol? (symbol ts) = some ts := by
  unfold symbol? at h
  split at h <;> cases h <;> rfl

theorem Operator.symbol?_symbol (o : Operator) : symbol? o.symbol = some o := by
  cases o <;> rfl

namespace Directive

/-- At most one symbol of each class, and nothing else. -/
structure Marked (p : List Char) : Prop where
  symbols : ∀ c ∈ p, c ∈ Trigger.symbols ∨ c ∈ Operator.symbols
  trigger : p.countP (· ∈ Trigger.symbols) ≤ 1
  operator : p.countP (· ∈ Operator.symbols) ≤ 1

theorem marked_nil : Marked [] := ⟨nofun, Nat.zero_le 1, Nat.zero_le 1⟩

theorem Marked.of_append {p q : List Char} (h : Marked (p ++ q)) : Marked p where
  symbols c hc := h.symbols c (List.mem_append_left q hc)
  trigger := by
    have := h.trigger
    rw [List.countP_append] at this
    omega
  operator := by
    have := h.operator
    rw [List.countP_append] at this
    omega

theorem length_le_countP {p : List Char}
    (h : ∀ c ∈ p, c ∈ Trigger.symbols ∨ c ∈ Operator.symbols) :
    p.length ≤ p.countP (· ∈ Trigger.symbols) + p.countP (· ∈ Operator.symbols) := by
  induction p with
  | nil => exact Nat.zero_le _
  | cons c p ih =>
      have hrest := ih fun d hd => h d (List.mem_cons_of_mem c hd)
      rw [List.length_cons, List.countP_cons, List.countP_cons]
      rcases h c (List.mem_cons_self ..) with hc | hc
      · rw [if_pos (decide_eq_true hc)]
        omega
      · rw [if_pos (decide_eq_true hc)]
        omega

/-- Each symbol is of one of the two classes, so there are at most two of them. -/
theorem Marked.length_le {p : List Char} (h : Marked p) : p.length ≤ 2 := by
  have hsum := length_le_countP h.symbols
  have ht := h.trigger
  have ho := h.operator
  omega

/-- What the symbols of a text name. -/
def Marks.of (p : List Char) : Marks where
  triggers := p.findSome? Trigger.symbol?
  operator := p.findSome? Operator.symbol?

theorem findSome?_eq_none_iff_countP {α β : Type} {f : α → Option β} {P : α → Prop}
    [DecidablePred P] (hf : ∀ a, (f a).isSome = decide (P a)) {p : List α} :
    p.findSome? f = none ↔ p.countP (P ·) = 0 := by
  simp only [List.findSome?_eq_none_iff, List.countP_eq_zero, decide_eq_true_eq]
  refine forall_congr' fun a => imp_congr_right fun _ => ?_
  rw [← Option.not_isSome_iff_eq_none, hf, decide_eq_true_eq]

theorem Marked.snoc_iff {p : List Char} (h : Marked p) (c : Char) :
    Marked (p ++ [c]) ↔ (c ∈ Trigger.symbols ∧ (Marks.of p).triggers = none) ∨
      (c ∈ Operator.symbols ∧ (Marks.of p).operator = none) := by
  have htriggers : (Marks.of p).triggers = none ↔ _ :=
    findSome?_eq_none_iff_countP Trigger.isSome_symbol?
  have hoperator : (Marks.of p).operator = none ↔ _ :=
    findSome?_eq_none_iff_countP Operator.isSome_symbol?
  rw [htriggers, hoperator]
  constructor
  · intro hs
    have ht := hs.trigger
    have ho := hs.operator
    rw [List.countP_append, List.countP_singleton] at ht ho
    rcases hs.symbols c (List.mem_append_right p (List.mem_singleton_self c)) with hc | hc
    · rw [if_pos (decide_eq_true hc)] at ht
      exact .inl ⟨hc, by omega⟩
    · rw [if_pos (decide_eq_true hc)] at ho
      exact .inr ⟨hc, by omega⟩
  · intro hc
    have hsymbols : ∀ d ∈ p ++ [c], d ∈ Trigger.symbols ∨ d ∈ Operator.symbols := by
      intro d hd
      rcases List.mem_append.mp hd with hd | hd
      · exact h.symbols d hd
      · rw [List.mem_singleton.mp hd]
        exact hc.imp And.left And.left
    have ht := h.trigger
    have ho := h.operator
    rcases hc with ⟨hc, hnone⟩ | ⟨hc, hnone⟩
    · have hnot := Operator.not_mem_of_trigger hc
      have hone : (p ++ [c]).countP (· ∈ Trigger.symbols) = 1 := by
        rw [List.countP_append, hnone, List.countP_singleton, if_pos (decide_eq_true hc)]
      refine ⟨hsymbols, Nat.le_of_eq hone, ?_⟩
      rw [List.countP_append, List.countP_singleton, if_neg (by simpa using hnot)]
      exact ho
    · have hnot : c ∉ Trigger.symbols := fun ht => Operator.not_mem_of_trigger ht hc
      have hone : (p ++ [c]).countP (· ∈ Operator.symbols) = 1 := by
        rw [List.countP_append, hnone, List.countP_singleton, if_pos (decide_eq_true hc)]
      refine ⟨hsymbols, ?_, Nat.le_of_eq hone⟩
      rw [List.countP_append, List.countP_singleton, if_neg (by simpa using hnot)]
      exact ht

/-- One more character is taken up exactly if it leaves at most one symbol of each class. -/
theorem take?_of {p : List Char} (h : Marked p) (c : Char) :
    (Marked (p ++ [c]) ∧ (Marks.of p).take? c = some (Marks.of (p ++ [c]))) ∨
      (¬ Marked (p ++ [c]) ∧ (Marks.of p).take? c = none) := by
  have happend : Marks.of (p ++ [c]) =
      ⟨(Marks.of p).triggers.or (Trigger.symbol? c),
        (Marks.of p).operator.or (Operator.symbol? c)⟩ := by
    simp [Marks.of, List.findSome?_append]
  have ht := Trigger.isSome_symbol? c
  have ho := Operator.isSome_symbol? c
  have hboth : c ∈ Trigger.symbols → c ∉ Operator.symbols := Operator.not_mem_of_trigger
  rw [h.snoc_iff, happend, Marks.take?]
  cases hts : Trigger.symbol? c <;> cases hos : Operator.symbol? c <;>
    cases htp : (Marks.of p).triggers <;> cases hop : (Marks.of p).operator <;> simp_all

/-- The scanner goes on behind `p` for as long as the symbols stay marks, up to `n` of them. -/
theorem scan_longest (n : Nat) {p : List Char} (h : Marked p) (s : List Char) :
    ∃ q rest, scan n (Marks.of p) s = (Marks.of (p ++ q), rest) ∧ s = q ++ rest ∧
      Marked (p ++ q) ∧ ∀ r, r <+: s → r.length ≤ n → Marked (p ++ r) → r <+: q := by
  induction n generalizing p s with
  | zero =>
      refine ⟨[], s, by rw [scan, List.append_nil], rfl, by rwa [List.append_nil], ?_⟩
      intro r _ hr _
      obtain rfl := List.eq_nil_of_length_eq_zero (Nat.le_zero.mp hr)
      exact List.nil_prefix
  | succ n ih =>
      cases s with
      | nil =>
          refine ⟨[], [], by rw [scan, List.append_nil], rfl, by rwa [List.append_nil], ?_⟩
          exact fun r hr _ _ => hr
      | cons c s =>
          obtain ⟨hm, htake⟩ | ⟨hm, htake⟩ := take?_of h c
          · obtain ⟨q, rest, hscan, hs, hq, hlongest⟩ := ih hm s
            rw [List.append_assoc, List.singleton_append] at hscan hq
            refine ⟨c::q, rest, by rw [scan, htake, ← hscan], by rw [hs, List.cons_append], hq, ?_⟩
            intro r hr hn hmr
            cases r with
            | nil => exact List.nil_prefix
            | cons d r =>
                obtain ⟨rfl, hrest⟩ := List.cons_prefix_cons.mp hr
                rw [← List.singleton_append, ← List.append_assoc] at hmr
                exact List.cons_prefix_cons.mpr
                  ⟨rfl, hlongest r hrest (Nat.le_of_succ_le_succ hn) hmr⟩
          · -- what begins with a character that is refused is refused as a whole
            refine ⟨[], c::s, by rw [scan, htake, List.append_nil], rfl,
              by rwa [List.append_nil], ?_⟩
            intro r hr _ hmr
            cases r with
            | nil => exact List.nil_prefix
            | cons d r =>
                obtain ⟨rfl, -⟩ := List.cons_prefix_cons.mp hr
                rw [← List.singleton_append, ← List.append_assoc] at hmr
                exact (hm hmr.of_append).elim

/-- The directive that some symbols in front of a key make; what they do not name is at its
default. -/
def marked (p : List Char) (key : String) : Directive where
  key := key
  triggers := (p.findSome? Trigger.symbol?).getD Trigger.both
  operators := [(p.findSome? Operator.symbol?).getD .assign]

theorem parse_eq (s : String) : parse s =
    { key := String.ofList (scan 2 {} s.toList).2,
      triggers := (scan 2 {} s.toList).1.triggers.getD Trigger.both,
      operators := [(scan 2 {} s.toList).1.operator.getD .assign] } := rfl

theorem parse_eq_marked (s : String) : ∃ p, s = String.ofList p ++ (parse s).key ∧ Marked p ∧
    (∀ q, Marked q → q <+: s.toList → q <+: p) ∧ parse s = marked p (parse s).key := by
  obtain ⟨p, rest, hscan, hs, hp, hlongest⟩ := scan_longest 2 marked_nil s.toList
  have hparse : parse s = marked p (String.ofList rest) := by
    have hscan : scan 2 {} s.toList = (Marks.of p, rest) := hscan
    rw [parse_eq, hscan]
    rfl
  refine ⟨p, ?_, hp, fun q hq hqs => hlongest q hqs hq.length_le hq, by rw [hparse]; rfl⟩
  rw [hparse, ← String.ofList_toList (s := s), hs]
  exact String.ofList_append ..

/-- Behind two symbols, one of each class, stands the key. -/
theorem parse_pair {c d : Char} (h : Marked [c, d]) (key : String) :
    parse (String.ofList [c, d] ++ key) = marked [c, d] key := by
  obtain ⟨p, hs, hp, hlongest, hparse⟩ := parse_eq_marked (String.ofList [c, d] ++ key)
  have hpair : [c, d] <+: p := hlongest _ h (by simp)
  have hlength : p.length = [c, d].length := Nat.le_antisymm hp.length_le hpair.length_le
  obtain rfl : [c, d] = p := hpair.eq_of_length hlength.symm
  rw [hparse, ← (String.append_right_inj _).mp hs]

/-- The two symbols may stand in either order. -/
theorem parse_symbols {t o : Char} {ts : List Trigger} {op : Operator}
    (hts : Trigger.symbol? t = some ts) (hop : Operator.symbol? o = some op) (key : String) :
    parse (String.ofList [t, o] ++ key) = ⟨key, ts, [op]⟩ ∧
      parse (String.ofList [o, t] ++ key) = ⟨key, ts, [op]⟩ := by
  have ht : t ∈ Trigger.symbols := by simpa [hts] using Trigger.isSome_symbol? t
  have ho : o ∈ Operator.symbols := by simpa [hop] using Operator.isSome_symbol? o
  have hto : t ∉ Operator.symbols := Operator.not_mem_of_trigger ht
  have hot : o ∉ Trigger.symbols := fun h => Operator.not_mem_of_trigger h ho
  have htn : Operator.symbol? t = none := by simpa [hto] using Operator.isSome_symbol? t
  have hon : Trigger.symbol? o = none := by simpa [hot] using Trigger.isSome_symbol? o
  have hfirst : Marked [t, o] := ⟨by simp [ht, ho], by simp [ht, hot], by simp [hto, ho]⟩
  have hsecond : Marked [o, t] := ⟨by simp [ht, ho], by simp [ht, hot], by simp [hto, ho]⟩
  rw [parse_pair hfirst, parse_pair hsecond]
  simp [marked, hts, hop, htn, hon]

/-- A directive with both symbols, whether or not they are the default ones. -/
def written (d : Directive) : String :=
  String.ofList (Trigger.symbol d.triggers::d.operators.map Operator.symbol) ++ d.key

theorem parse_written_marked (p : List Char) (key : String) :
    parse (marked p key).written = marked p key := by
  have hts : Trigger.symbol? (Trigger.symbol (marked p key).triggers) =
      some (marked p key).triggers := by
    rw [marked]
    cases h : p.findSome? Trigger.symbol? with
    | none => rfl
    | some ts =>
        obtain ⟨c, -, hc⟩ := List.exists_of_findSome?_eq_some h
        exact Trigger.symbol?_symbol hc
  exact (parse_symbols hts (Operator.symbol?_symbol _) key).1

/-- A text is its longest piece of symbols, at most one of each class, and then the key; what the
piece does not name is at its default. Two symbols may stand in either order, and a directive
written out with both of them is read back as it was. -/
theorem parse_longest_marks :
    (∀ s, ∃ p, s = String.ofList p ++ (parse s).key ∧ Marked p ∧ p.length ≤ 2 ∧
      (∀ q, Marked q → q <+: s.toList → q <+: p) ∧
      (parse s).triggers = (p.findSome? Trigger.symbol?).getD Trigger.both ∧
      (parse s).operators = [(p.findSome? Operator.symbol?).getD .assign]) ∧
    (∀ t ∈ Trigger.symbols, ∀ o ∈ Operator.symbols, ∀ key, ∃ ts op,
      Trigger.symbol? t = some ts ∧ Operator.symbol? o = some op ∧
      parse (String.ofList [t, o] ++ key) = ⟨key, ts, [op]⟩ ∧
      parse (String.ofList [o, t] ++ key) = ⟨key, ts, [op]⟩) ∧
    ∀ s, parse (parse s).written = parse s := by
  refine ⟨fun s => ?_, fun t ht o ho key => ?_, fun s => ?_⟩
  · obtain ⟨p, hs, hp, hlongest, hparse⟩ := parse_eq_marked s
    exact ⟨p, hs, hp, hp.length_le, hlongest, by rw [hparse]; rfl, by rw [hparse]; rfl⟩
  · obtain ⟨ts, hts⟩ := Option.isSome_iff_exists.mp ((Trigger.isSome_symbol? t).trans (by simpa))
    obtain ⟨op, hop⟩ := Option.isSome_iff_exists.mp ((Operator.isSome_symbol? o).trans (by simpa))
    exact ⟨ts, op, hts, hop, parse_symbols hts hop key⟩
  · obtain ⟨p, -, -, -, hparse⟩ := parse_eq_marked s
    rw [hparse]
    exact parse_written_marked p _

/-- A key that begins with symbols and goes on beyond ASCII. -/
theorem parse_longest_marks_symbols :
    '<' ∈ Trigger.symbols ∧ '#' ∈ Operator.symbols ∧
    parse (String.ofList ['<', '#'] ++ "*?é") = ⟨"*?é", [.load], [.count]⟩ ∧
    parse (String.ofList ['#', '<'] ++ "*?é") = ⟨"*?é", [.load], [.count]⟩ := by
  have ht : '<' ∈ Trigger.symbols := by decide
  have ho : '#' ∈ Operator.symbols := by decide
  obtain ⟨ts, op, hts, hop, hfirst, hsecond⟩ := parse_longest_marks.2.1 '<' ht '#' ho "*?é"
  obtain rfl : [.load] = ts := Option.some.inj hts
  obtain rfl : .count = op := Option.some.inj hop
  exact ⟨ht, ho, hfirst, hsecond⟩

end Directive
end ScreenBinding
