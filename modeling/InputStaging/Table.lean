/-!
# Tables

A finite map that remembers the order in which its keys first came in. Writing to a
key that is there keeps its place. `get?` and `keys` are the two views; each operation
says what it does to both.
-/

namespace InputStaging

structure Table (κ α : Type) where
  entries : List (κ × α)
  nodup : (entries.map Prod.fst).Nodup

namespace Table

variable {κ α : Type}

def empty : Table κ α := ⟨[], by simp⟩

instance : EmptyCollection (Table κ α) := ⟨empty⟩

instance : Inhabited (Table κ α) := ⟨empty⟩

def keys (t : Table κ α) : List κ := t.entries.map Prod.fst

def size (t : Table κ α) : Nat := t.entries.length

theorem nodup_keys (t : Table κ α) : t.keys.Nodup := t.nodup

variable [DecidableEq κ]

/-- The value beside the first pair with this key. -/
def find (k : κ) : List (κ × α) → Option α
  | [] => none
  | (k', v) :: rest => if k' = k then some v else find k rest

def get? (t : Table κ α) (k : κ) : Option α := find k t.entries

def contains (t : Table κ α) (k : κ) : Bool := (t.get? k).isSome

/-- Replace the value where the key stands, or add the pair at the end. -/
def put (k : κ) (v : α) : List (κ × α) → List (κ × α)
  | [] => [(k, v)]
  | (k', v') :: rest => if k' = k then (k', v) :: rest else (k', v') :: put k v rest

theorem keys_put (k : κ) (v : α) (l : List (κ × α)) :
    (put k v l).map Prod.fst =
      if k ∈ l.map Prod.fst then l.map Prod.fst else l.map Prod.fst ++ [k] := by
  induction l with
  | nil => simp [put]
  | cons e rest ih =>
    obtain ⟨k', v'⟩ := e
    by_cases h : k' = k
    · simp [put, h]
    · by_cases hm : k ∈ rest.map Prod.fst <;> simp_all [put, Ne.symm h]

theorem find_put (k k' : κ) (v : α) (l : List (κ × α)) :
    find k' (put k v l) = if k' = k then some v else find k' l := by
  induction l with
  | nil => simp [put, find, eq_comm]
  | cons e rest ih =>
    obtain ⟨k₀, v₀⟩ := e
    by_cases h : k₀ = k
    · subst h
      simp only [put, if_true, find, eq_comm]
      split <;> rfl
    · by_cases h' : k₀ = k'
      · subst h'
        simp [put, find, h]
      · simp [put, find, h, h', ih]

theorem find_eq_none_iff {k : κ} {l : List (κ × α)} :
    find k l = none ↔ k ∉ l.map Prod.fst := by
  induction l with
  | nil => simp [find]
  | cons e rest ih =>
    obtain ⟨k₀, v₀⟩ := e
    by_cases h : k₀ = k <;> simp_all [find, eq_comm]

theorem find_append (k : κ) (l l' : List (κ × α)) :
    find k (l ++ l') = (find k l).or (find k l') := by
  induction l with
  | nil => rfl
  | cons e rest ih =>
    obtain ⟨k₀, v₀⟩ := e
    by_cases h : k₀ = k
    · simp [find, h]
    · simp [find, h, ih]

theorem mem_of_find {k : κ} {v : α} {l : List (κ × α)} (h : find k l = some v) : (k, v) ∈ l := by
  induction l with
  | nil => cases h
  | cons e rest ih =>
    rw [find] at h
    split at h
    next hk => exact List.mem_cons.mpr (.inl (Prod.ext hk.symm (Option.some.inj h).symm))
    next => exact List.mem_cons_of_mem _ (ih h)

/-- Where no key stands twice, the pairs are the values found. -/
theorem find_eq_some_iff {k : κ} {v : α} {l : List (κ × α)} (h : (l.map Prod.fst).Nodup) :
    find k l = some v ↔ (k, v) ∈ l := by
  induction l with
  | nil => simp [find]
  | cons e rest ih =>
    obtain ⟨k₀, v₀⟩ := e
    rw [List.map_cons, List.nodup_cons] at h
    by_cases hk : k₀ = k
    · subst hk
      have absent : (k₀, v) ∉ rest := fun hm => h.1 (List.mem_map.mpr ⟨_, hm, rfl⟩)
      simp [find, absent, eq_comm]
    · simp [find, hk, Ne.symm hk, ih h.2]

def insert (t : Table κ α) (k : κ) (v : α) : Table κ α where
  entries := put k v t.entries
  nodup := by
    rw [keys_put]
    split
    · exact t.nodup
    · rename_i h
      exact List.nodup_append.mpr ⟨t.nodup, by simp, by
        intro a ha b hb hab
        simp only [List.mem_singleton] at hb
        exact h (hb ▸ hab ▸ ha)⟩

/-- Keep the value of a key that is there. -/
def insertNew (t : Table κ α) (k : κ) (v : α) : Table κ α :=
  if t.contains k then t else t.insert k v

/-- Of two pairs with one key the later value stands, at the earlier place. -/
def ofList (l : List (κ × α)) : Table κ α :=
  l.foldl (fun t e => t.insert e.1 e.2) empty

@[simp] theorem get?_empty (k : κ) : (empty : Table κ α).get? k = none := rfl

theorem get?_insert (t : Table κ α) (k k' : κ) (v : α) :
    (t.insert k v).get? k' = if k' = k then some v else t.get? k' :=
  find_put k k' v t.entries

theorem get?_eq_none_iff {t : Table κ α} {k : κ} : t.get? k = none ↔ k ∉ t.keys :=
  find_eq_none_iff

theorem contains_iff {t : Table κ α} {k : κ} : t.contains k = true ↔ k ∈ t.keys := by
  rw [contains, Option.isSome_iff_ne_none, ne_eq, get?_eq_none_iff, Decidable.not_not]

theorem get?_insertNew (t : Table κ α) (k k' : κ) (v : α) :
    (t.insertNew k v).get? k' = if k' = k then some ((t.get? k).getD v) else t.get? k' := by
  unfold insertNew contains
  cases h : t.get? k with
  | none => simp [get?_insert]
  | some w => by_cases hk : k' = k <;> simp_all

/-- A run of writes leaves the last value written, where there is one. -/
theorem get?_foldl_insert (l : List (κ × α)) (t : Table κ α) (k : κ) :
    (l.foldl (fun t e => t.insert e.1 e.2) t).get? k = (find k l.reverse).or (t.get? k) := by
  induction l generalizing t with
  | nil => simp [find]
  | cons e rest ih =>
    rw [List.foldl_cons, ih, get?_insert, List.reverse_cons, find_append, Option.or_assoc]
    by_cases h : k = e.1
    · simp [find, h]
    · simp [find, h, Ne.symm h]

theorem get?_ofList (l : List (κ × α)) (k : κ) : (ofList l).get? k = find k l.reverse := by
  rw [ofList, get?_foldl_insert, get?_empty, Option.or_none]

/-- A run of writes to keys that are not there yet leaves the first value written. -/
theorem get?_foldl_insertNew (l : List (κ × α)) (t : Table κ α) (k : κ) :
    (l.foldl (fun t e => t.insertNew e.1 e.2) t).get? k = (t.get? k).or (find k l) := by
  induction l generalizing t with
  | nil => simp [find]
  | cons e rest ih =>
    rw [List.foldl_cons, ih, get?_insertNew]
    by_cases h : k = e.1
    · subst h
      cases t.get? e.1 <;> simp [find]
    · simp [find, h, Ne.symm h]

end Table

end InputStaging
