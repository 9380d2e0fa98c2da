import ScreenBinding.Proofs.FieldRoundTrip
import ScreenBinding.Proofs.StageActs

/-!
# Differences, and when they are shown

The difference of two lists parts the first one by membership in the second, without loss: each
occurrence is removed or kept, in the order in which it stood. What is added parts the second list
in the same way, so that the other difference is this one the other way round, and the changes that
it tells lead from the members of the one list to those of the other.

A confirm surface shows what is added and removed. It is passed over if there is neither, which
means that the lists have the same members, however often and in which order. The lists may be
given as such or as texts with delimiters; a text stands for the list that it is split into.
-/
namespace ScreenBinding
open Act

/-- A list with its items inside and outside a class, in order and as often as they stand in it. -/
inductive Parted {α : Type} (P : α → Prop) : List α → List α → List α → Prop
  | nil : Parted P [] [] []
  | inside {a : α} {l yes no : List α} : P a → Parted P l yes no → Parted P (a::l) (a::yes) no
  | outside {a : α} {l yes no : List α} : ¬P a → Parted P l yes no → Parted P (a::l) yes (a::no)

namespace Parted
variable {α : Type} {P : α → Prop} {l yes no yes' no' : List α}

/-- Each occurrence lands in one of the two parts. -/
theorem perm (h : Parted P l yes no) : (yes ++ no).Perm l := by
  induction h with
  | nil => exact .nil
  | inside _ _ ih => exact ih.cons _
  | outside _ _ ih => exact List.perm_middle.trans (ih.cons _)

theorem sublists (h : Parted P l yes no) : yes.Sublist l ∧ no.Sublist l := by
  induction h with
  | nil => exact ⟨.refl _, .refl _⟩
  | inside _ _ ih => exact ⟨ih.1.cons_cons _, ih.2.cons _⟩
  | outside _ _ ih => exact ⟨ih.1.cons _, ih.2.cons_cons _⟩

theorem classes (h : Parted P l yes no) : (∀ a ∈ yes, P a) ∧ ∀ a ∈ no, ¬P a := by
  induction h with
  | nil => exact ⟨List.forall_mem_nil _, List.forall_mem_nil _⟩
  | inside ha _ ih => exact ⟨List.forall_mem_cons.mpr ⟨ha, ih.1⟩, ih.2⟩
  | outside ha _ ih => exact ⟨ih.1, List.forall_mem_cons.mpr ⟨ha, ih.2⟩⟩

/-- A list is parted in one way. -/
theorem unique (h : Parted P l yes no) (k : Parted P l yes' no') : yes' = yes ∧ no' = no := by
  induction h generalizing yes' no' with
  | nil =>
      cases k
      exact ⟨rfl, rfl⟩
  | inside ha _ ih =>
      cases k with
      | inside _ k =>
          obtain ⟨rfl, rfl⟩ := ih k
          exact ⟨rfl, rfl⟩
      | outside hna _ => exact (hna ha).elim
  | outside hna _ ih =>
      cases k with
      | inside ha _ => exact (hna ha).elim
      | outside _ k =>
          obtain ⟨rfl, rfl⟩ := ih k
          exact ⟨rfl, rfl⟩

end Parted

namespace Difference
variable {p n : List String}

/-- What was there is kept if it is there afterwards, and removed if it is not. -/
theorem parted_previous (p n : List String) :
    Parted (· ∈ n) p (between p n).kept (between p n).removed := by
  induction p with
  | nil => exact .nil
  | cons a p ih =>
      by_cases ha : a ∈ n
      · have hcons : between (a::p) n = { between (a::p) n with
            kept := a::(between p n).kept, removed := (between p n).removed } := by
          simp [between, ha]
        rw [hcons]
        exact .inside ha ih
      · have hcons : between (a::p) n = { between (a::p) n with
            kept := (between p n).kept, removed := a::(between p n).removed } := by
          simp [between, ha]
        rw [hcons]
        exact .outside ha ih

/-- The other way round, what is added is what would be removed. -/
theorem parted_next (p n : List String) :
    Parted (· ∈ p) n (between n p).kept (between p n).added := parted_previous n p

/-- What the difference of two lists is to tell. -/
structure Tells (d : Difference) (p n : List String) : Prop where
  /-- The first list is parted by membership in the second one, -/
  previous : Parted (· ∈ n) p d.kept d.removed
  /-- so that each occurrence lands in one part, -/
  whole : (d.kept ++ d.removed).Perm p
  /-- in the one that its text belongs to, -/
  apart : ∀ a ∈ d.kept, a ∉ d.removed
  /-- and in its order. -/
  ordered : d.kept.Sublist p ∧ d.removed.Sublist p
  /-- What is added is the second list without the members of the first one. -/
  next : ∃ both, Parted (· ∈ p) n both d.added
  patched : ∀ a, a ∈ p.removeAll d.removed ++ d.added ↔ a ∈ n
  isEmpty_iff : d.isEmpty = true ↔ ∀ a, a ∈ p ↔ a ∈ n

/-- The changes lead from the members of one list to those of the other. -/
theorem mem_patched (p n : List String) (a : String) :
    a ∈ p.removeAll (between p n).removed ++ (between p n).added ↔ a ∈ n := by
  simp only [List.mem_append, List.removeAll, List.mem_filter, mem_added]
  by_cases hn : a ∈ n
  · by_cases hp : a ∈ p <;> simp [hp, hn]
  · simp [hn]

theorem tells_between (p n : List String) : (between p n).Tells p n where
  previous := parted_previous p n
  whole := (parted_previous p n).perm
  apart a hkept hremoved :=
    (parted_previous p n).classes.2 a hremoved ((parted_previous p n).classes.1 a hkept)
  ordered := (parted_previous p n).sublists
  next := ⟨_, parted_next p n⟩
  patched := mem_patched p n
  isEmpty_iff := Difference.isEmpty_iff

theorem Tells.eq_between {d : Difference} (h : d.Tells p n) : d = between p n := by
  obtain ⟨both, hnext⟩ := h.next
  obtain ⟨hkept, hremoved⟩ := (parted_previous p n).unique h.previous
  obtain ⟨-, hadded⟩ := (parted_next p n).unique hnext
  obtain ⟨added, removed, kept⟩ := d
  cases hkept
  cases hremoved
  cases hadded
  rfl

end Difference

namespace Separators
variable {sep : Separators} {v : Json} {l : List String}

/-- A list of texts as a value: as such, or as the text that is split into it. -/
inductive Lists (sep : Separators) : Json → List String → Prop
  | items (l : List String) : Lists sep (.texts l) l
  | text (s : String) : Lists sep (.string s) (sep.split s)

theorem Lists.tokens (h : sep.Lists v l) : v.isListing = true ∧ sep.tokens v = l := by
  cases h with
  | items l => exact ⟨rfl, textsOf_strings l⟩
  | text s => exact ⟨rfl, rfl⟩

/-- Tokens may be given as one text. -/
theorem lists_join (h : sep.Rejoins) (ht : ∀ t ∈ l, sep.IsToken t) :
    sep.Lists (.string (sep.join l)) l := by
  have htext : sep.Lists (.string (sep.join l)) (sep.split (sep.join l)) := .text _
  rwa [split_join_tokens h ht] at htext

end Separators

/-- Whoever asks has yes for an answer. -/
def Session.granted (s : Session) : Option Ticket → Session
  | some k => s.resolve k true
  | none => s

section
variable {s : Session} {kind : SurfaceKind} {name : String} {x : Surface} {args : Fields}
  {v w : Json} {p n : List String}

theorem Session.change?_lists (hv : Table.find? args "previous" = some v)
    (hw : Table.find? args "next" = some w) (hp : s.settings.separators.Lists v p)
    (hn : s.settings.separators.Lists w n) : s.change? args = some (.between p n) := by
  obtain ⟨hlv, rfl⟩ := hp.tokens
  obtain ⟨hlw, rfl⟩ := hn.tokens
  simp [Session.change?, hv, hw, hlv, hlw]

/-- To put a question touches neither the renderer nor the elements. -/
theorem Session.ask_seen (s : Session) (kind : SurfaceKind) (name : String)
    (ticket : Option Ticket) : (s.ask kind name ticket).renderer = s.renderer ∧
      (s.ask kind name ticket).elements = s.elements := by
  have hdrop (u : Session) (old : Option Ticket) :
      (u.drop old).renderer = u.renderer ∧ (u.drop old).elements = u.elements := by
    cases old with
    | none => exact ⟨rfl, rfl⟩
    | some k =>
        rw [drop, resolve]
        split <;> exact ⟨rfl, rfl⟩
  rw [ask, (hdrop _ _).1, (hdrop _ _).2]
  cases kind <;> exact ⟨rfl, rfl⟩

theorem Act.run_reveal (carry : React) (kind : SurfaceKind) (h : s.renderer = true)
    (e : ElementRef) : reveal kind e carry s = some (.ok true,
      s.retrace (.shown kind e (s.element e).label::.hidden kind::s.trace)) := by
  rw [reveal, run_bind_ok (run_needRenderer h), hideAll_eq, bind_assoc,
    run_bind_ok (run_needRenderer h)]
  rfl

/-- A confirm surface with a change that it can tell: without a difference it is passed over, and
else it is shown with the difference, which takes a renderer. -/
theorem Act.run_show_confirm (carry : React) {d : Difference}
    (hx : Table.find? (s.surfaces kind) name = some x) (hb : x.behavior = .confirm)
    (hc : s.change? args = some d) (ticket : Option Ticket) :
    showSurface kind name args ticket carry s =
      if d.isEmpty then some (.ok false, s.granted ticket)
      else if s.renderer then some (.ok true, (s.ask kind name ticket).retrace
        (.shown kind x.element (s.element x.element).label::.hidden kind::
          (slotsFilled s x args d ++ s.trace)))
      else some (.error (.requirementMissing .renderer), s) := by
  have hsurface : surface kind name carry s = some (.ok x, s) := by
    rw [surface, run_bind_ok (run_gets _), hx]
    rfl
  have hlisted := run_listedChange carry (s := s) args
  rw [hc] at hlisted
  have hrefresh : refresh kind name x args ticket carry s =
      showChange kind name x args ticket d carry s := by
    rw [refresh, hb]
    dsimp only
    rw [refreshConfirm_eq, run_bind_ok hlisted]
  rw [showSurface_eq, run_bind_ok hsurface, run_bind, hrefresh]
  cases hd : d.isEmpty with
  | true =>
      rw [run_showSame kind name x args ticket hd]
      cases ticket <;> rfl
  | false =>
      cases hr : s.renderer with
      | true =>
          obtain ⟨hrenderer, helements⟩ := s.ask_seen kind name ticket
          have hreveal := run_reveal carry kind
            (s := (s.ask kind name ticket).retrace (slotsFilled s x args d ++ s.trace))
            (hrenderer.trans hr) x.element
          have hlabel : ((s.ask kind name ticket).element x.element).label =
              (s.element x.element).label := by
            rw [Session.element, helements]
            rfl
          rw [run_showChange carry kind name hr x args ticket hd]
          dsimp only
          rw [if_pos rfl, hreveal]
          simp only [Session.retrace_retrace, Session.trace_retrace]
          rw [← hlabel]
          rfl
      | false =>
          have hmissing : showChange kind name x args ticket d carry s =
              some (.error (.requirementMissing .renderer), s) := by
            rw [showChange, hd]
            exact (run_bind_ok (run_gets _)).trans (run_bind_error (run_needRenderer_missing hr))
          rw [hmissing]
          rfl

/-- The difference of two lists tells how they are parted by each other, the other way round it adds
what it removed and removes what it added, and it leads from the members of one list to those of the
other. A confirm surface with two lists, given as such or as texts with delimiters, is passed over
if they have the same members; otherwise it is shown with their difference. -/
theorem difference_shown_unless_same (p n : List String) :
    (Difference.between p n).Tells p n ∧
    (∀ d, d.Tells p n → d = Difference.between p n) ∧
    (Difference.between n p).added = (Difference.between p n).removed ∧
    (Difference.between n p).removed = (Difference.between p n).added ∧
    ∀ {s : Session} {kind : SurfaceKind} {name : String} {x : Surface} {args : Fields}
      {v w : Json}, Table.find? (s.surfaces kind) name = some x → x.behavior = .confirm →
      Table.find? args "previous" = some v → Table.find? args "next" = some w →
      s.settings.separators.Lists v p → s.settings.separators.Lists w n →
      ∀ (ticket : Option Ticket) (m : Nat),
        ((∀ a, a ∈ p ↔ a ∈ n) → (showSurface kind name args ticket).settle m s =
          some (.ok false, s.granted ticket)) ∧
        (¬(∀ a, a ∈ p ↔ a ∈ n) → (showSurface kind name args ticket).settle m s =
          if s.renderer then some (.ok true, (s.ask kind name ticket).retrace
            (.shown kind x.element (s.element x.element).label::.hidden kind::
              (slotsFilled s x args (.between p n) ++ s.trace)))
          else some (.error (.requirementMissing .renderer), s)) := by
  refine ⟨Difference.tells_between p n, fun d hd => hd.eq_between, rfl, rfl, ?_⟩
  intro s kind name x args v w hx hb hv hw hp hn ticket m
  have hrun := run_show_confirm (cascade m) hx hb (Session.change?_lists hv hw hp hn) ticket
  refine ⟨fun hsame => ?_, fun hdiffers => ?_⟩
  · rw [settle, hrun, if_pos (Difference.isEmpty_iff.mpr hsame)]
  · rw [settle, hrun, if_neg fun he => hdiffers (Difference.isEmpty_iff.mp he)]

/-- A change of members as texts: the same members in another order are passed over, and another
member is shown. -/
theorem difference_shown_unless_same_members :
    let s : Session := { renderer := true, modals := [("change", ⟨0, .confirm, none⟩)] }
    let args (next : Json) : Fields := [("previous", .string "a, b, a"), ("next", next)]
    (∀ m, (showSurface .modal "change" (args (.texts ["b", "a"])) none).settle m s =
      some (.ok false, s)) ∧
    ∀ m, ∃ t, (showSurface .modal "change" (args (.texts ["b", "c"])) none).settle m s =
      some (.ok true, t) ∧ t.trace =
        [.modalOpened 0 "<anonymous>", .modalsClosed,
          .listFilled 0 "<anonymous>" "removed" ["a", "a"],
          .listFilled 0 "<anonymous>" "added" ["c"],
          .textFilled 0 "<anonymous>" "removed-count" "2",
          .textFilled 0 "<anonymous>" "added-count" "1"] := by
  intro s args
  have hp : s.settings.separators.Lists (.string "a, b, a") ["a", "b", "a"] :=
    Separators.lists_join (l := ["a", "b", "a"]) (by decide) (by decide)
  obtain ⟨-, -, -, -, hskips⟩ := difference_shown_unless_same ["a", "b", "a"] ["b", "a"]
  obtain ⟨-, -, -, -, hshows⟩ := difference_shown_unless_same ["a", "b", "a"] ["b", "c"]
  have hsame : ∀ a, a ∈ ["a", "b", "a"] ↔ a ∈ ["b", "a"] := fun a => by simp [or_comm]
  have hdiffers : ¬(∀ a, a ∈ ["a", "b", "a"] ↔ a ∈ ["b", "c"]) := fun h => by
    have := (h "c").mpr (by decide)
    simp at this
  refine ⟨fun m => ?_, fun m => ?_⟩
  · exact (hskips rfl rfl rfl rfl hp (.items _) none m).1 hsame
  · have hmodal : Table.find? (s.surfaces .modal) "change" = some ⟨0, .confirm, none⟩ := rfl
    have hprevious : Table.find? (args (.texts ["b", "c"])) "previous" =
        some (.string "a, b, a") := rfl
    have hnext : Table.find? (args (.texts ["b", "c"])) "next" = some (.texts ["b", "c"]) := rfl
    have hshown := (hshows hmodal rfl hprevious hnext hp (.items _) none m).2 hdiffers
    exact ⟨_, hshown, rfl⟩

end
end ScreenBinding
