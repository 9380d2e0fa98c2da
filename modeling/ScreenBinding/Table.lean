/-!
# Tables

Entries under string keys. `put` leaves a known key where it first stood and appends a new one,
so the keys read off in the order of their first insertion; `file` keeps a table sorted by key.
-/
namespace ScreenBinding

/-- Entries under string keys, in order. -/
abbrev Table (α : Type) := List (String × α)

namespace Table
variable {α β : Type}

/-- The first entry under `key`. -/
def find? : Table α → String → Option α
  | [], _ => none
  | (k, a)::t, key => if k = key then some a else find? t key

/-- Replaces the entry in place, or appends a new one. -/
def put : Table α → String → α → Table α
  | [], key, a => [(key, a)]
  | (k, b)::t, key, a => if k = key then (k, a)::t else (k, b)::put t key a

/-- Inserts so that a table sorted by key stays sorted. -/
def file : Table α → String → α → Table α
  | [], key, a => [(key, a)]
  | (k, b)::t, key, a =>
      if k = key then (k, a)::t
      else if key < k then (key, a)::(k, b)::t
      else (k, b)::file t key a

def keys (t : Table α) : List String := t.map Prod.fst

def has (t : Table α) (key : String) : Bool := (find? t key).isSome

/-- Repeated keys keep the first position and the last value. -/
def ofPairs (pairs : List (String × α)) : Table α :=
  pairs.foldl (fun t p => put t p.1 p.2) []

/-- Repeated keys keep the last value; the result is sorted by key. -/
def sorted (pairs : List (String × α)) : Table α :=
  pairs.foldl (fun t p => file t p.1 p.2) []

/-- Writes every entry of `u` over `t`. -/
def overlay (t u : Table α) : Table α := u.foldl (fun t p => put t p.1 p.2) t

/-- Replaces the entry under `key` by its image; a missing entry stays missing. -/
def adjust (f : α → α) : Table α → String → Table α
  | [], _ => []
  | (k, a)::t, key => if k = key then (k, f a)::t else (k, a)::adjust f t key

@[simp] theorem find?_nil (key : String) : find? ([] : Table α) key = none := rfl

theorem find?_put (t : Table α) (key other : String) (a : α) :
    find? (put t key a) other = if key = other then some a else find? t other := by
  induction t with
  | nil => rfl
  | cons e t ih =>
      obtain ⟨k, b⟩ := e
      by_cases h : k = key <;> by_cases ho : key = other <;> simp_all [put, find?]

theorem find?_file (t : Table α) (key other : String) (a : α) :
    find? (file t key a) other = if key = other then some a else find? t other := by
  induction t with
  | nil => rfl
  | cons e t ih =>
      obtain ⟨k, b⟩ := e
      rw [file]
      split
      · by_cases ho : key = other <;> simp_all [find?]
      · split
        · rfl
        · by_cases ho : key = other <;> simp_all [find?]

theorem find?_adjust_of_ne (f : α → α) (t : Table α) {key other : String} (h : other ≠ key) :
    find? (adjust f t key) other = find? t other := by
  induction t with
  | nil => rfl
  | cons e t ih =>
      obtain ⟨k, b⟩ := e
      by_cases hk : k = key
      · simp [adjust, find?, hk, h.symm]
      · simp [adjust, find?, hk, ih]

@[simp] theorem overlay_cons (t : Table α) (k : String) (a : α) (u : Table α) :
    overlay t ((k, a)::u) = overlay (put t k a) u := rfl

theorem find?_overlay_of_not_mem {t u : Table α} {key : String} (h : key ∉ keys u) :
    find? (overlay t u) key = find? t key := by
  induction u generalizing t with
  | nil => rfl
  | cons e u ih =>
      obtain ⟨k, b⟩ := e
      obtain ⟨hk, hu⟩ := List.ne_and_not_mem_of_not_mem_cons h
      rw [overlay_cons, ih hu, find?_put, if_neg (Ne.symm hk)]

/-- What is written over a table stands in it. -/
theorem find?_overlay_of_mem {t u : Table α} {key : String} {a : α} (hu : (keys u).Nodup)
    (h : (key, a) ∈ u) : find? (overlay t u) key = some a := by
  induction u generalizing t with
  | nil => cases h
  | cons e u ih =>
      obtain ⟨k, b⟩ := e
      obtain ⟨hnew, hrest⟩ := List.nodup_cons.mp hu
      rcases List.mem_cons.mp h with he | h
      · cases he
        rw [overlay_cons, find?_overlay_of_not_mem hnew, find?_put, if_pos rfl]
      · exact ih hrest h

@[simp] theorem keys_cons (k : String) (a : α) (t : Table α) :
    keys ((k, a)::t) = k::keys t := rfl

theorem keys_put (t : Table α) (key : String) (a : α) :
    keys (put t key a) = if key ∈ keys t then keys t else keys t ++ [key] := by
  induction t with
  | nil => simp [put, keys]
  | cons e t ih =>
      obtain ⟨k, b⟩ := e
      by_cases h : k = key
      · simp [put, h]
      · simp only [put, h, ↓reduceIte, keys_cons, ih, List.mem_cons, Ne.symm h, false_or]
        split <;> simp

theorem nodup_keys_put {t : Table α} (h : (keys t).Nodup) (key : String) (a : α) :
    (keys (put t key a)).Nodup := by
  rw [keys_put]
  split
  · exact h
  · rename_i hnew
    refine List.nodup_append.mpr ⟨h, by simp, fun k hk other ho => ?_⟩
    obtain rfl := List.mem_singleton.mp ho
    exact fun he => hnew (he ▸ hk)

/-- An entry that stands in a table changes nothing when it is put there again. -/
theorem put_of_mem {t : Table α} {key : String} {a : α} (ht : (keys t).Nodup)
    (h : (key, a) ∈ t) : put t key a = t := by
  induction t with
  | nil => cases h
  | cons e t ih =>
      obtain ⟨k, b⟩ := e
      obtain ⟨hnew, hrest⟩ := List.nodup_cons.mp ht
      rcases List.mem_cons.mp h with he | h
      · cases he
        rw [put, if_pos rfl]
      · have hne : k ≠ key := fun he => hnew (he ▸ List.mem_map.mpr ⟨_, h, rfl⟩)
        rw [put, if_neg hne, ih hrest h]

/-- Nor do entries that stand in a table change it when they are written over it. -/
theorem overlay_of_subset {t u : Table α} (ht : (keys t).Nodup) (h : u ⊆ t) :
    overlay t u = t := by
  induction u with
  | nil => rfl
  | cons e u ih =>
      obtain ⟨hmem, hrest⟩ := List.cons_subset.mp h
      rw [overlay_cons, put_of_mem ht hmem, ih hrest]

theorem find?_append (t u : Table α) (key : String) :
    find? (t ++ u) key = (find? t key).or (find? u key) := by
  induction t with
  | nil => rfl
  | cons e t ih =>
      obtain ⟨k, b⟩ := e
      by_cases h : k = key <;> simp [find?, h, ih]

/-- Of all values under a key the last one counts. -/
theorem find?_overlay (t u : Table α) (key : String) :
    find? (overlay t u) key = find? (u.reverse ++ t) key := by
  induction u generalizing t with
  | nil => rfl
  | cons e u ih =>
      obtain ⟨k, b⟩ := e
      rw [overlay_cons, ih, List.reverse_cons, List.append_assoc, find?_append, find?_append,
        find?_put]
      rfl

/-- The keys keep their places; new ones follow in the order in which they first stand in `u`. -/
theorem keys_overlay (t u : Table α) :
    keys (overlay t u) = keys t ++ ((keys u).filter (· ∉ keys t)).eraseDups := by
  induction u generalizing t with
  | nil => exact (List.append_nil _).symm
  | cons e u ih =>
      obtain ⟨k, b⟩ := e
      rw [overlay_cons, ih, keys_put, keys_cons]
      by_cases hk : k ∈ keys t
      · rw [if_pos hk, List.filter_cons_of_neg (by simpa using hk)]
      · have hrest : (keys u).filter (· ∉ keys t ++ [k]) =
            ((keys u).filter (· ∉ keys t)).filter fun other => !other == k := by
          rw [List.filter_filter]
          refine List.filter_congr fun other _ => ?_
          by_cases ho : other = k <;> simp [ho]
        rw [if_neg hk, List.filter_cons_of_pos (by simpa using hk), List.eraseDups_cons, hrest,
          List.append_assoc, List.singleton_append]

end Table
end ScreenBinding
