import Flotilla.Proofs.Json.Keeping

/-!
# The cells of a record

What a record is read as, whatever its members are. An object fills the cells of its columns with
what stands under their names; it is taken exactly if every name can be read, no column is given
twice and each column takes what it is given. Members that have no column are passed over. An array
is taken as the object that has its items under the names of the columns, in order.
-/

namespace Flotilla

namespace Tree

variable {name : String} {tree : Tree} {members : List (Tree × Tree)}

/-- A member with a name that can be read. -/
def entry? : Tree × Tree → Option (String × Tree)
  | (.text (some name), tree) => some (name, tree)
  | _ => none

/-- The members that have a name that can be read. -/
def entries (members : List (Tree × Tree)) : List (String × Tree) := members.filterMap entry?

/-- All that stands under a name, from front to back. -/
def given (name : String) (members : List (Tree × Tree)) : List Tree :=
  ((entries members).filter fun entry => entry.1 = name).map (·.2)

/-- The first tree under a name. A member that is missing says as much as `null`. -/
def said (name : String) (members : List (Tree × Tree)) : Tree :=
  (given name members).head?.getD .null

/-- Every name can be read. -/
def Named (members : List (Tree × Tree)) : Prop := ∀ member ∈ members, member.1 ≠ .text none

@[simp] theorem entries_nil : entries [] = [] := rfl

@[simp] theorem entries_cons (name : String) (tree : Tree) (members : List (Tree × Tree)) :
    entries ((.text (some name), tree) :: members) = (name, tree) :: entries members := rfl

@[simp] theorem mem_given : tree ∈ given name members ↔ (name, tree) ∈ entries members := by
  simp [given]

theorem said_eq_null_or_mem (name : String) (members : List (Tree × Tree)) :
    said name members = .null ∨ said name members ∈ given name members := by
  unfold said
  cases given name members <;> simp

end Tree

/-- A column with a default takes what its decoder reads. -/
theorem Column.check_defaulted_iff {α : Type} {name : String} {decode : Decoder α} {depth : Nat}
    {tree : Tree} : (defaulted name decode).check depth tree = .ok () ↔
      ∃ a, decode depth tree = .ok a := by
  change (decode depth tree).map (fun _ => ()) = .ok () ↔ _
  cases decode depth tree <;> simp [Except.map]

namespace Row

variable {columns : List Column} {depth : Nat} {name : String} {cells found : List (String × Tree)}
  {members : List (Tree × Tree)} {items : List Tree} {row : Row}

/-- The cells that members fill: those of the entries that have a column. -/
def cellsOf (columns : List Column) (members : List (Tree × Tree)) : List (String × Tree) :=
  (Tree.entries members).filter fun entry => (columns.find? (·.name = entry.1)).isSome

/-- Some column takes the tree in a cell. -/
def Takes (columns : List Column) (depth : Nat) (cell : String × Tree) : Prop :=
  ∃ column, columns.find? (·.name = cell.1) = some column ∧ column.check depth cell.2 = .ok ()

/-- Reading members fills their cells, unless a name cannot be read, a cell is filled already or a
column does not take what it is given. -/
theorem ofMembers_eq_ok_iff (whole : Tree.haveWhole members = true)
    (distinct : cells.Pairwise (·.1 ≠ ·.1)) :
    ofMembers columns depth cells members = .ok found ↔
      Tree.Named members ∧ (∀ cell ∈ cellsOf columns members, Takes columns depth cell) ∧
        (cells ++ cellsOf columns members).Pairwise (·.1 ≠ ·.1) ∧
        found = cells ++ cellsOf columns members := by
  induction members generalizing cells with
  | nil => simp [ofMembers, cellsOf, Tree.Named, distinct, eq_comm]
  | cons member members ih =>
    match member with
    | (.null, _) | (.bool _, _) | (.number _, _) | (.array _ _, _) | (.object _ _, _)
    | (.broken, _) => simp [Tree.haveWhole] at whole
    | (.text none, tree) => simp [ofMembers, Tree.Named]
    | (.text (some name), tree) =>
      rw [Tree.haveWhole, Bool.and_eq_true] at whole
      have hnamed : Tree.Named ((.text (some name), tree) :: members) ↔ Tree.Named members := by
        simp [Tree.Named]
      rw [ofMembers, hnamed]
      cases hcolumn : columns.find? (·.name = name) with
      | none =>
          have hcells : cellsOf columns ((.text (some name), tree) :: members) =
              cellsOf columns members := by simp [cellsOf, hcolumn]
          simp only [whole.1, if_true, hcells]
          exact ih whole.2 distinct
      | some column =>
          have hcells : cellsOf columns ((.text (some name), tree) :: members) =
              (name, tree) :: cellsOf columns members := by simp [cellsOf, hcolumn]
          have htakes : Takes columns depth (name, tree) ↔ column.check depth tree = .ok () := by
            simp [Takes, hcolumn]
          rw [hcells, List.forall_mem_cons, htakes]
          simp only
          split
          next filled =>
            obtain ⟨cell, hcell, hname⟩ := List.any_eq_true.mp filled
            simp only [reduceCtorEq, false_iff, not_and]
            intro _ _ hpairwise
            have hne := (List.pairwise_append.mp hpairwise).2.2
            exact absurd (of_decide_eq_true hname) (hne cell hcell (name, tree) (by simp))
          next vacant =>
            have hdistinct : (cells ++ [(name, tree)]).Pairwise (·.1 ≠ ·.1) := by
              refine List.pairwise_append.mpr ⟨distinct, List.pairwise_singleton _ _, ?_⟩
              intro cell hcell other hother heq
              obtain rfl := List.mem_singleton.mp hother
              exact vacant (List.any_eq_true.mpr ⟨cell, hcell, decide_eq_true heq⟩)
            cases hcheck : column.check depth tree with
            | error fault => simp [bind, Except.bind]
            | ok _ => simpa [bind, Except.bind] using ih whole.2 hdistinct

section Columns

theorem isSome_find?_iff :
    (columns.find? (·.name = name)).isSome = true ↔ ∃ column ∈ columns, column.name = name := by
  simp [List.find?_isSome]

/-- As many cells of a column are filled as trees stand under its name. -/
theorem count_cellsOf {column : Column} (h : column ∈ columns) :
    ((cellsOf columns members).map (·.1)).count column.name =
      (Tree.given column.name members).length := by
  have hfound : (columns.find? (·.name = column.name)).isSome = true :=
    isSome_find?_iff.mpr ⟨column, h, rfl⟩
  rw [List.count, List.countP_map, cellsOf, List.countP_filter, Tree.given, List.length_map,
    ← List.countP_eq_length_filter]
  refine List.countP_congr fun entry _ => ?_
  simp only [Function.comp_apply, Bool.and_eq_true, beq_iff_eq, decide_eq_true_eq]
  exact ⟨And.left, fun heq => ⟨heq, heq ▸ hfound⟩⟩

/-- No cell is filled twice exactly if no column is given twice. -/
theorem pairwise_cellsOf_iff :
    (cellsOf columns members).Pairwise (·.1 ≠ ·.1) ↔
      ∀ column ∈ columns, (Tree.given column.name members).length ≤ 1 := by
  rw [← List.pairwise_map (f := Prod.fst) (R := (· ≠ ·)), ← List.Nodup, List.nodup_iff_count]
  constructor
  · intro h column hcolumn
    exact count_cellsOf hcolumn ▸ h column.name
  · intro h name
    by_cases hcolumn : ∃ column ∈ columns, column.name = name
    · obtain ⟨column, hmem, rfl⟩ := hcolumn
      exact count_cellsOf hmem ▸ h column hmem
    · rw [List.count_eq_zero_of_not_mem]
      · exact Nat.zero_le 1
      · intro hmem
        obtain ⟨cell, hcell, rfl⟩ := List.mem_map.mp hmem
        exact hcolumn (isSome_find?_iff.mp (List.mem_filter.mp hcell).2)

/-- What an object has to be for a record: its names can be read, no column is given twice, and the
columns take what they are given. -/
structure Sound (columns : List Column) (depth : Nat) (members : List (Tree × Tree)) : Prop where
  named : Tree.Named members
  single : ∀ column ∈ columns, (Tree.given column.name members).length ≤ 1
  taken : ∀ column ∈ columns, ∀ tree ∈ Tree.given column.name members,
    column.check depth tree = .ok ()

variable (distinct : (columns.map (·.name)).Nodup)
include distinct

theorem find?_column {column : Column} (h : column ∈ columns) :
    columns.find? (·.name = column.name) = some column := by
  induction columns with
  | nil => simp at h
  | cons first columns ih =>
      obtain ⟨hnotMem, hdistinct⟩ := List.nodup_cons.mp distinct
      rcases List.mem_cons.mp h with rfl | hmem
      · simp
      · have hne : first.name ≠ column.name := fun heq =>
          hnotMem (List.mem_map.mpr ⟨column, hmem, heq.symm⟩)
        simpa [hne] using ih hdistinct hmem

/-- The cells of an object are taken exactly if the columns take what they are given. -/
theorem forall_takes_iff :
    (∀ cell ∈ cellsOf columns members, Takes columns depth cell) ↔
      ∀ column ∈ columns, ∀ tree ∈ Tree.given column.name members,
        column.check depth tree = .ok () := by
  constructor
  · intro h column hcolumn tree htree
    have hcell : (column.name, tree) ∈ cellsOf columns members :=
      List.mem_filter.mpr ⟨Tree.mem_given.mp htree, isSome_find?_iff.mpr ⟨column, hcolumn, rfl⟩⟩
    obtain ⟨other, hother, hcheck⟩ := h _ hcell
    obtain rfl := Option.some.inj ((find?_column distinct hcolumn).symm.trans hother)
    exact hcheck
  · rintro h ⟨name, tree⟩ hcell
    obtain ⟨hentry, hfound⟩ := List.mem_filter.mp hcell
    obtain ⟨column, hcolumn, rfl⟩ := isSome_find?_iff.mp hfound
    exact ⟨column, find?_column distinct hcolumn, h column hcolumn tree (Tree.mem_given.mpr hentry)⟩

omit distinct in
/-- An object is read as the row of its cells, if each can be filled. -/
theorem read_object_eq_ok_iff (whole : Tree.haveWhole members = true) :
    read columns (depth + 1) (.object members true) = .ok row ↔
      Tree.Named members ∧ (∀ cell ∈ cellsOf columns members, Takes columns depth cell) ∧
        (cellsOf columns members).Pairwise (·.1 ≠ ·.1) ∧
        row = ⟨depth, cellsOf columns members⟩ := by
  have hread : read columns (depth + 1) (.object members true) = .ok row ↔
      ∃ cells, ofMembers columns depth [] members = .ok cells ∧ row = ⟨depth, cells⟩ := by
    rw [read]
    cases ofMembers columns depth [] members <;> simp [bind, Except.bind, eq_comm]
  simp only [hread, ofMembers_eq_ok_iff whole .nil, List.nil_append]
  constructor
  · rintro ⟨_, ⟨named, taken, single, rfl⟩, hrow⟩
    exact ⟨named, taken, single, hrow⟩
  · rintro ⟨named, taken, single, hrow⟩
    exact ⟨_, ⟨named, taken, single, rfl⟩, hrow⟩

/-- An object is read as a record exactly if it is sound, and its cells are the row. -/
theorem read_object_iff (whole : Tree.haveWhole members = true) :
    read columns (depth + 1) (.object members true) = .ok row ↔
      Sound columns depth members ∧ row = ⟨depth, cellsOf columns members⟩ := by
  rw [read_object_eq_ok_iff whole, forall_takes_iff distinct, pairwise_cellsOf_iff]
  constructor
  · rintro ⟨named, taken, single, hrow⟩
    exact ⟨⟨named, single, taken⟩, hrow⟩
  · rintro ⟨⟨named, single, taken⟩, hrow⟩
    exact ⟨named, taken, single, hrow⟩

omit distinct in
/-- The cell of a column holds the first tree that stands under its name. -/
theorem cell?_cellsOf {column : Column} (h : column ∈ columns) :
    (⟨depth, cellsOf columns members⟩ : Row).cell? column.name =
      (Tree.given column.name members).head? := by
  have hfound : (columns.find? (·.name = column.name)).isSome = true :=
    isSome_find?_iff.mpr ⟨column, h, rfl⟩
  rw [cell?, cellsOf, List.find?_filter, Tree.given, List.head?_map, List.head?_filter]
  congr 2
  funext entry
  by_cases heq : entry.1 = column.name
  · simp [heq, hfound]
  · simp [heq]

omit distinct in
/-- A column that may be missing is read from what is said under its name. -/
theorem optional_cellsOf {α : Type} (decode : Decoder α) {column : Column} (h : column ∈ columns) :
    (⟨depth, cellsOf columns members⟩ : Row).optional column.name decode =
      Decoder.optional decode depth (Tree.said column.name members) := by
  rw [optional, cell?_cellsOf h, Tree.said]
  cases (Tree.given column.name members).head? <;> rfl

end Columns

section Arrays

/-- The members that the items of an array stand for. -/
def listed (columns : List Column) (items : List Tree) : List (Tree × Tree) :=
  (columns.zip items).map fun pair => (.text (some pair.1.name), pair.2)

theorem entries_listed (columns : List Column) (items : List Tree) :
    Tree.entries (listed columns items) =
      (columns.zip items).map fun pair => (pair.1.name, pair.2) := by
  unfold listed
  induction columns.zip items with
  | nil => rfl
  | cons pair pairs ih => simp [ih]

theorem named_listed (columns : List Column) (items : List Tree) :
    Tree.Named (listed columns items) := by
  intro member hmem
  obtain ⟨pair, -, rfl⟩ := List.mem_map.mp hmem
  simp

theorem haveWhole_listed (whole : Tree.areWhole items = true) :
    Tree.haveWhole (listed columns items) = true := by
  induction columns generalizing items with
  | nil => rfl
  | cons column columns ih =>
      cases items with
      | nil => rfl
      | cons tree items =>
          rw [Tree.areWhole, Bool.and_eq_true] at whole
          simpa [listed, Tree.haveWhole, whole.1] using ih whole.2

theorem names_listed_sublist (columns : List Column) (items : List Tree) :
    ((Tree.entries (listed columns items)).map (·.1)).Sublist (columns.map (·.name)) := by
  rw [entries_listed]
  induction columns generalizing items with
  | nil => simp
  | cons column columns ih =>
      cases items with
      | nil => simp
      | cons tree items => exact (ih items).cons_cons column.name

/-- Every item has a column, so all of them are cells. -/
theorem cellsOf_listed (columns : List Column) (items : List Tree) :
    cellsOf columns (listed columns items) = Tree.entries (listed columns items) := by
  refine List.filter_eq_self.mpr fun entry hentry => ?_
  rw [entries_listed] at hentry
  obtain ⟨⟨column, tree⟩, hpair, rfl⟩ := List.mem_map.mp hentry
  exact isSome_find?_iff.mpr ⟨column, (List.of_mem_zip hpair).1, rfl⟩

/-- Items fill the columns in order, if there are no more of them than columns and each is taken. -/
theorem ofItems_eq_ok_iff (defaults : ∀ column ∈ columns, column.hasDefault = true) :
    ofItems depth true columns items = .ok cells ↔
      items.length ≤ columns.length ∧
        (∀ pair ∈ columns.zip items, pair.1.check depth pair.2 = .ok ()) ∧
        cells = Tree.entries (listed columns items) := by
  induction columns generalizing items cells with
  | nil => cases items <;> simp [ofItems, listed, eq_comm]
  | cons column columns ih =>
      obtain ⟨-, hdefaults⟩ := List.forall_mem_cons.mp defaults
      cases items with
      | nil =>
          have hall : (column :: columns).all (·.hasDefault) = true := List.all_eq_true.mpr defaults
          simp [ofItems, listed, hall, eq_comm]
      | cons tree items =>
          rw [ofItems]
          cases hcheck : column.check depth tree with
          | error fault => simp [bind, Except.bind, hcheck]
          | ok _ =>
              have hread : (do
                  let cells ← ofItems depth true columns items
                  return (column.name, tree) :: cells) = Except.ok cells ↔
                  ∃ rest, ofItems depth true columns items = .ok rest ∧
                    cells = (column.name, tree) :: rest := by
                cases ofItems depth true columns items <;>
                  simp [bind, Except.bind, pure, Except.pure, eq_comm]
              simp only [bind, Except.bind] at hread ⊢
              rw [hread]
              simp only [ih hdefaults, List.zip_cons_cons, List.forall_mem_cons, hcheck, true_and,
                List.length_cons, Nat.add_le_add_iff_right]
              constructor
              · rintro ⟨_, ⟨short, taken, rfl⟩, rfl⟩
                exact ⟨short, taken, rfl⟩
              · rintro ⟨short, taken, rfl⟩
                exact ⟨_, ⟨short, taken, rfl⟩, rfl⟩

/-- An array is read as the object that has its items under the names of the columns. -/
theorem read_array_iff (distinct : (columns.map (·.name)).Nodup)
    (defaults : ∀ column ∈ columns, column.hasDefault = true) (whole : Tree.areWhole items = true) :
    read columns (depth + 1) (.array items true) = .ok row ↔
      items.length ≤ columns.length ∧
        read columns (depth + 1) (.object (listed columns items) true) = .ok row := by
  have hread : read columns (depth + 1) (.array items true) = .ok row ↔
      ∃ cells, ofItems depth true columns items = .ok cells ∧ row = ⟨depth, cells⟩ := by
    rw [read]
    cases ofItems depth true columns items <;>
      simp [bind, Except.bind, pure, Except.pure, eq_comm]
  have htaken : (∀ cell ∈ Tree.entries (listed columns items), Takes columns depth cell) ↔
      ∀ pair ∈ columns.zip items, pair.1.check depth pair.2 = .ok () := by
    rw [entries_listed, List.forall_mem_map]
    refine forall₂_congr fun pair hpair => ?_
    have hcolumn := find?_column distinct (List.of_mem_zip hpair).1
    simp [Takes, hcolumn]
  have hpairwise : (Tree.entries (listed columns items)).Pairwise (·.1 ≠ ·.1) :=
    List.pairwise_map.mp (distinct.sublist (names_listed_sublist columns items))
  simp only [hread, ofItems_eq_ok_iff defaults, read_object_eq_ok_iff (haveWhole_listed whole),
    named_listed, cellsOf_listed, htaken, hpairwise, true_and]
  constructor
  · rintro ⟨_, ⟨short, taken, rfl⟩, hrow⟩
    exact ⟨short, taken, hrow⟩
  · rintro ⟨short, taken, hrow⟩
    exact ⟨_, ⟨short, taken, rfl⟩, hrow⟩

end Arrays

end Row

end Flotilla
