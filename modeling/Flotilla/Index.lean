/-!
# Maps in key order

An `Index` is a finite map kept as its entries in strictly ascending key order.
The order is part of the type, so two indexes that answer every question alike
are equal, and whatever lists an index lists it in key order.
-/

namespace Flotilla

universe u v

/-- A finite map from `κ` to `α`, listed by strictly ascending key. -/
structure Index (κ : Type u) (α : Type v) [LT κ] where
  /-- The entries, by ascending key. -/
  entries : List (κ × α)
  /-- Keys ascend strictly, so no key has two entries. -/
  sorted : entries.Pairwise (fun a b => a.1 < b.1)

namespace Index

variable {κ : Type u} {α : Type v}

/-- Entries with `value` at `key`, in place of what the key held. -/
def insertEntry [LT κ] [DecidableLT κ] (key : κ) (value : α) : List (κ × α) → List (κ × α)
  | [] => [(key, value)]
  | entry :: rest =>
    if key < entry.1 then (key, value) :: entry :: rest
    else if entry.1 < key then entry :: insertEntry key value rest
    else (key, value) :: rest

/-- The value that the entries hold at `key`. -/
def lookupEntry [DecidableEq κ] (key : κ) : List (κ × α) → Option α
  | [] => none
  | entry :: rest => if entry.1 = key then some entry.2 else lookupEntry key rest

section Order

variable [LT κ] [DecidableLT κ] [LE κ] [Std.IsLinearOrder κ] [Std.LawfulOrderLT κ]

omit [DecidableLT κ] in
theorem eq_of_not_lt {a b : κ} (hab : ¬ a < b) (hba : ¬ b < a) : a = b :=
  Std.le_antisymm (Std.not_lt.mp hba) (Std.not_lt.mp hab)

omit [LE κ] [Std.IsLinearOrder κ] [Std.LawfulOrderLT κ] in
theorem mem_insertEntry {key : κ} {value : α} {entries : List (κ × α)} {entry : κ × α}
    (h : entry ∈ insertEntry key value entries) : entry = (key, value) ∨ entry ∈ entries := by
  induction entries with
  | nil => simpa [insertEntry] using h
  | cons head rest ih =>
    unfold insertEntry at h
    split at h
    · simpa using h
    · split at h
      · rcases List.mem_cons.mp h with rfl | h
        · simp
        · rcases ih h with rfl | h
          · simp
          · simp [h]
      · rcases List.mem_cons.mp h with rfl | h
        · simp
        · simp [h]

theorem sorted_insertEntry {key : κ} {value : α} {entries : List (κ × α)}
    (h : entries.Pairwise (fun a b => a.1 < b.1)) :
    (insertEntry key value entries).Pairwise (fun a b => a.1 < b.1) := by
  induction entries with
  | nil => simp [insertEntry]
  | cons head rest ih =>
    obtain ⟨hhead, hrest⟩ := List.pairwise_cons.mp h
    unfold insertEntry
    split
    · next hlt =>
      refine List.pairwise_cons.mpr ⟨?_, h⟩
      intro entry hentry
      rcases List.mem_cons.mp hentry with rfl | hmem
      · exact hlt
      · exact Std.lt_trans hlt (hhead entry hmem)
    · next hnlt =>
      split
      · next hgt =>
        refine List.pairwise_cons.mpr ⟨?_, ih hrest⟩
        intro entry hentry
        rcases mem_insertEntry hentry with rfl | hmem
        · exact hgt
        · exact hhead entry hmem
      · next hngt =>
        have hkey : key = head.1 := eq_of_not_lt hnlt hngt
        refine List.pairwise_cons.mpr ⟨?_, hrest⟩
        intro entry hentry
        simpa [hkey] using hhead entry hentry

theorem lookupEntry_insertEntry [DecidableEq κ] {key k : κ} {value : α}
    {entries : List (κ × α)} (h : entries.Pairwise (fun a b => a.1 < b.1)) :
    lookupEntry k (insertEntry key value entries) =
      if k = key then some value else lookupEntry k entries := by
  induction entries with
  | nil => simp only [insertEntry, lookupEntry, eq_comm]
  | cons head rest ih =>
    obtain ⟨hhead, hrest⟩ := List.pairwise_cons.mp h
    unfold insertEntry
    split
    · next hlt => simp only [lookupEntry, eq_comm (a := key)]
    · next hnlt =>
      split
      · next hgt =>
        simp only [lookupEntry, ih hrest]
        split
        · next hk =>
          have : k ≠ key := by
            rintro rfl
            exact Std.lt_irrefl (hk ▸ hgt)
          simp [this]
        · rfl
      · next hngt =>
        have hkey : key = head.1 := eq_of_not_lt hnlt hngt
        subst hkey
        simp only [lookupEntry, eq_comm (a := head.1)]
        split <;> rfl

omit [DecidableLT κ] [Std.IsLinearOrder κ] in
theorem lookupEntry_eq_none [DecidableEq κ] {k : κ} {entries : List (κ × α)}
    (h : ∀ entry ∈ entries, k < entry.1) : lookupEntry k entries = none := by
  induction entries with
  | nil => rfl
  | cons head rest ih =>
    have hhead := h head (by simp)
    have hne : head.1 ≠ k := by
      intro heq
      exact Std.lt_irrefl (heq ▸ hhead)
    simp [lookupEntry, hne, ih fun entry hentry => h entry (by simp [hentry])]

omit [LT κ] [DecidableLT κ] [LE κ] [Std.IsLinearOrder κ] [Std.LawfulOrderLT κ] in
theorem mem_map_iff_lookupEntry [DecidableEq κ] {k : κ} {entries : List (κ × α)} :
    k ∈ entries.map (·.1) ↔ (lookupEntry k entries).isSome = true := by
  induction entries with
  | nil => simp [lookupEntry]
  | cons head rest ih =>
    by_cases h : head.1 = k
    · simp [lookupEntry, h]
    · simpa [lookupEntry, h, Ne.symm h] using ih

theorem length_insertEntry [DecidableEq κ] {key : κ} {value : α} {entries : List (κ × α)}
    (h : entries.Pairwise (fun a b => a.1 < b.1)) :
    (insertEntry key value entries).length =
      if (lookupEntry key entries).isSome then entries.length else entries.length + 1 := by
  induction entries with
  | nil => simp [insertEntry, lookupEntry]
  | cons head rest ih =>
    obtain ⟨hhead, hrest⟩ := List.pairwise_cons.mp h
    unfold insertEntry
    split
    · next hlt =>
      have hnone : lookupEntry key (head :: rest) = none := by
        apply lookupEntry_eq_none
        intro entry hentry
        rcases List.mem_cons.mp hentry with rfl | hmem
        · exact hlt
        · exact Std.lt_trans hlt (hhead entry hmem)
      simp [hnone]
    · next hnlt =>
      split
      · next hgt =>
        have hne : head.1 ≠ key := fun heq => Std.lt_irrefl (heq ▸ hgt)
        simp only [lookupEntry, hne, if_false, List.length_cons, ih hrest]
        split <;> rfl
      · next hngt =>
        have heq : head.1 = key := eq_of_not_lt hngt hnlt
        simp [lookupEntry, heq]

omit [DecidableLT κ] in
theorem eq_of_lookupEntry_eq [DecidableEq κ] {xs ys : List (κ × α)}
    (hx : xs.Pairwise (fun a b => a.1 < b.1)) (hy : ys.Pairwise (fun a b => a.1 < b.1))
    (h : ∀ k, lookupEntry k xs = lookupEntry k ys) : xs = ys := by
  induction xs generalizing ys with
  | nil =>
    cases ys with
    | nil => rfl
    | cons y ys => simpa [lookupEntry] using h y.1
  | cons x xs ih =>
    cases ys with
    | nil => simpa [lookupEntry] using h x.1
    | cons y ys =>
      obtain ⟨hx₁, hx₂⟩ := List.pairwise_cons.mp hx
      obtain ⟨hy₁, hy₂⟩ := List.pairwise_cons.mp hy
      have below {k : κ} {head : κ × α} {rest : List (κ × α)} (hk : k < head.1)
          (hrest : ∀ entry ∈ rest, head.1 < entry.1) : lookupEntry k (head :: rest) = none :=
        lookupEntry_eq_none fun entry hentry => by
          rcases List.mem_cons.mp hentry with rfl | hmem
          · exact hk
          · exact Std.lt_trans hk (hrest entry hmem)
      have hkey : x.1 = y.1 := by
        refine eq_of_not_lt (fun hlt => ?_) (fun hgt => ?_)
        · have := h x.1
          rw [below hlt hy₁] at this
          simp [lookupEntry] at this
        · have := h y.1
          rw [below hgt hx₁] at this
          simp [lookupEntry] at this
      have hvalue : x.2 = y.2 := by simpa [lookupEntry, hkey] using h x.1
      have hhead : x = y := Prod.ext hkey hvalue
      subst hhead
      congr 1
      refine ih hx₂ hy₂ fun k => ?_
      by_cases hk : x.1 = k
      · subst hk
        rw [lookupEntry_eq_none hx₁, lookupEntry_eq_none hy₁]
      · simpa [lookupEntry, hk] using h k

end Order

section Operations

variable [LT κ]

/-- The map without entries. -/
def empty : Index κ α := ⟨[], List.Pairwise.nil⟩

instance : EmptyCollection (Index κ α) := ⟨empty⟩

/-- The value held at `key`. -/
def get? [DecidableEq κ] (m : Index κ α) (key : κ) : Option α := lookupEntry key m.entries

/-- Whether `key` holds a value. -/
def contains [DecidableEq κ] (m : Index κ α) (key : κ) : Bool := (m.get? key).isSome

/-- How many keys hold a value. -/
def size (m : Index κ α) : Nat := m.entries.length

/-- Whether no key holds a value. -/
def isEmpty (m : Index κ α) : Bool := m.entries.isEmpty

/-- The keys that hold a value, ascending. -/
def keys (m : Index κ α) : List κ := m.entries.map (·.1)

/-- The map without the entry of `key`. -/
def erase [DecidableEq κ] (m : Index κ α) (key : κ) : Index κ α :=
  ⟨m.entries.filter fun entry => entry.1 ≠ key, m.sorted.filter _⟩

/-- The map with `value` at `key`. -/
def insert [DecidableLT κ] [LE κ] [Std.IsLinearOrder κ] [Std.LawfulOrderLT κ]
    (m : Index κ α) (key : κ) (value : α) : Index κ α :=
  ⟨insertEntry key value m.entries, sorted_insertEntry m.sorted⟩

/-- The entries of a list, the last one of a key winning. -/
def ofList [DecidableLT κ] [LE κ] [Std.IsLinearOrder κ] [Std.LawfulOrderLT κ]
    (entries : List (κ × α)) : Index κ α :=
  entries.foldl (fun m entry => m.insert entry.1 entry.2) empty

/-- The map with `f` applied to every value. -/
def mapValues {β : Type v} (f : α → β) (m : Index κ α) : Index κ β :=
  ⟨m.entries.map fun entry => (entry.1, f entry.2), by
    simpa [List.pairwise_map] using m.sorted⟩

end Operations

section Laws

variable [LT κ] [DecidableLT κ] [LE κ] [Std.IsLinearOrder κ] [Std.LawfulOrderLT κ]
  [DecidableEq κ]

omit [DecidableLT κ] [LE κ] [Std.IsLinearOrder κ] [Std.LawfulOrderLT κ] in
@[simp] theorem get?_empty (key : κ) : (empty : Index κ α).get? key = none := rfl

@[simp] theorem get?_insert (m : Index κ α) (key k : κ) (value : α) :
    (m.insert key value).get? k = if k = key then some value else m.get? k :=
  lookupEntry_insertEntry m.sorted

omit [DecidableLT κ] [LE κ] [Std.IsLinearOrder κ] [Std.LawfulOrderLT κ] in
@[simp] theorem get?_erase (m : Index κ α) (key k : κ) :
    (m.erase key).get? k = if k = key then none else m.get? k := by
  obtain ⟨entries, sorted⟩ := m
  unfold get? erase
  induction entries with
  | nil => simp [lookupEntry]
  | cons head rest ih =>
    obtain ⟨hhead, hrest⟩ := List.pairwise_cons.mp sorted
    specialize ih hrest
    by_cases hk : head.1 = key
    · simp only [List.filter_cons, hk, ne_eq, not_true, decide_false] at ih ⊢
      simp only [Bool.false_eq_true, if_false, ih, lookupEntry]
      by_cases h : k = key
      · simp [h]
      · have : head.1 ≠ k := by
          rintro rfl
          exact h hk
        simp [h, this]
    · simp only [List.filter_cons, ne_eq, hk, not_false_iff, decide_true, if_true, lookupEntry, ih]
      by_cases h : head.1 = k
      · subst h
        simp [hk]
      · simp [h]

/-- A new key makes a map larger by one. -/
theorem size_insert (m : Index κ α) (key : κ) (value : α) :
    (m.insert key value).size = if (m.get? key).isSome then m.size else m.size + 1 :=
  length_insertEntry m.sorted

omit [DecidableLT κ] [LE κ] [Std.IsLinearOrder κ] [Std.LawfulOrderLT κ] in
theorem mem_keys (m : Index κ α) (key : κ) : key ∈ m.keys ↔ (m.get? key).isSome = true :=
  mem_map_iff_lookupEntry

omit [DecidableLT κ] [Std.IsLinearOrder κ] [DecidableEq κ] in
theorem nodup_keys (m : Index κ α) : m.keys.Nodup := by
  unfold keys
  refine List.pairwise_map.mpr (m.sorted.imp ?_)
  intro a b hlt heq
  exact Std.lt_irrefl (heq ▸ hlt)

omit [DecidableLT κ] [Std.IsLinearOrder κ] in
/-- The entries of a map are what its keys hold. -/
theorem mem_entries_iff (m : Index κ α) (entry : κ × α) :
    entry ∈ m.entries ↔ m.get? entry.1 = some entry.2 := by
  obtain ⟨entries, sorted⟩ := m
  unfold get?
  induction entries with
  | nil => simp [lookupEntry]
  | cons head rest ih =>
    obtain ⟨hhead, hrest⟩ := List.pairwise_cons.mp sorted
    by_cases h : head.1 = entry.1
    · -- no later entry has the key of the first one
      have hnotMem : entry ∉ rest := by
        intro hmem
        exact Std.lt_irrefl (h ▸ hhead entry hmem)
      have hpair : entry = head ↔ head.2 = entry.2 := by
        constructor
        · rintro rfl
          rfl
        · intro hvalue
          exact Prod.ext h.symm hvalue.symm
      simp [lookupEntry, h, hnotMem, hpair]
    · have hne : entry ≠ head := by
        rintro rfl
        exact h rfl
      simp [lookupEntry, h, hne, ih hrest]

/-- A map made from a list holds at a key what the last entry of that key says. -/
theorem get?_ofList (entries : List (κ × α)) (key : κ) :
    (ofList entries).get? key =
      (entries.reverse.find? fun entry => entry.1 = key).map fun entry => entry.2 := by
  have hfold (m : Index κ α) : (entries.foldl (fun m entry => m.insert entry.1 entry.2) m).get? key =
      ((entries.reverse.find? fun entry => entry.1 = key).map fun entry => entry.2).or
        (m.get? key) := by
    induction entries generalizing m with
    | nil => rfl
    | cons head rest ih =>
      rw [List.foldl_cons, ih, get?_insert, List.reverse_cons, List.find?_append]
      cases rest.reverse.find? fun entry => entry.1 = key with
      | some entry => rfl
      | none =>
        by_cases h : key = head.1
        · simp [h]
        · simp [h, Ne.symm h]
  simpa [ofList] using hfold empty

omit [DecidableLT κ] in
/-- Maps that hold the same value at every key are equal. -/
theorem ext_get? {m n : Index κ α} (h : ∀ key, m.get? key = n.get? key) : m = n := by
  obtain ⟨xs, hx⟩ := m
  obtain ⟨ys, hy⟩ := n
  obtain rfl := eq_of_lookupEntry_eq hx hy h
  rfl

end Laws

instance [LT κ] [DecidableEq κ] [DecidableEq α] : DecidableEq (Index κ α) := fun m n =>
  if h : m.entries = n.entries then
    isTrue (by cases m; cases n; simp_all)
  else
    isFalse fun heq => h (congrArg entries heq)

end Index

end Flotilla
