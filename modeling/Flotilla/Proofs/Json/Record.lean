import Flotilla.Proofs.Json.Arrangement

/-!
# Records read back

A decoder reads a value if it recovers what was written from the surface of the value, whatever the
order of its members. A record that is written with different names fills exactly the cells that
were written. So what a column holds does not depend on where it stands, and a column that was left
out is missing. The same goes for a record that is tagged with its kind.
-/

namespace Flotilla

namespace Decoder

variable {α : Type} {decode : Decoder α} {depth : Nat} {v : Json} {a : α}

/-- A decoder recovers `a` from the surface of a value, however its members are arranged. -/
def Reads (decode : Decoder α) (depth : Nat) (v : Json) (a : α) : Prop :=
  ∀ w, v.Arranges w → decode depth w.surface = .ok a

theorem reads_string (s : String) : Reads string depth (.str s) s := by
  intro w h
  rw [h.eq_of_str]
  rfl

theorem reads_parsed {parse? : String → Option α} {s : String} (h : parse? s = some a) :
    Reads (parsed parse?) depth (.str s) a := by
  intro w arranged
  simp [parsed, reads_string s w arranged, h, bind, Except.bind]

/-- A list is read if each of its items is. -/
theorem reads_list {toJson : α → Json} {values : List α}
    (each : ∀ value ∈ values, Reads decode depth (toJson value) value) :
    Reads (list decode) (depth + 1) (.arr (values.map toJson)) values := by
  have hitems (others : List Json) (h : List.Forall₂ Json.Arranges (values.map toJson) others) :
      (Json.surfaces others).mapM (decode depth) = .ok values := by
    induction values generalizing others with
    | nil =>
        cases h
        rfl
    | cons value values ih =>
        obtain ⟨hvalue, hvalues⟩ := List.forall_mem_cons.mp each
        cases h with
        | cons head tail =>
            rw [Json.surfaces, List.mapM_cons, hvalue _ head, ih hvalues _ tail]
            rfl
  have harray (others : List Json) (h : List.Forall₂ Json.Arranges (values.map toJson) others) :
      list decode (depth + 1) (Json.arr others).surface = .ok values := by
    rw [Json.surface, list, hitems others h]
    rfl
  intro w arranged
  cases arranged with
  | same => exact harray _ (List.forall₂_same.mpr fun item _ => .same item)
  | arr each => exact harray _ each

/-- A value other than `null` is read where it might be missing. -/
theorem Reads.optional (h : Reads decode depth v a) (present : v ≠ .null) :
    Reads (optional decode) depth v (some a) := by
  intro w arranged
  have hother : w.surface ≠ .null := by
    intro heq
    cases w with
    | null =>
        cases arranged
        exact present rfl
    | float x =>
        rw [Json.surface] at heq
        split at heq <;> simp at heq
    | _ => simp [Json.surface] at heq
  have hsome : Decoder.optional decode depth w.surface = (decode depth w.surface).map some := by
    unfold Decoder.optional
    split
    next heq => exact absurd heq hother
    next => rfl
  rw [hsome, h w arranged]
  rfl

/-- A value that is proper is read from the text of any arrangement of it. -/
theorem Reads.decodeText {w : Json} (h : Reads decode maxDepth v a)
    (proper : v.isProper maxDepth = true) (arranged : v.Arranges w) :
    decodeText decode w.text = .ok a := by
  have hproper : w.isProper maxDepth = true := arranged.isProper _ proper
  rw [Flotilla.decodeText, Json.text, String.toList_ofList, Document.read_render hproper]
  simp only [h w arranged, bind, Except.bind]
  rfl

end Decoder

namespace Column

variable {α : Type} {decode : Decoder α} {columns : List Column} {depth : Nat} {name : String}
  {v : Json} {a : α}

theorem check_required {tree : Tree} (h : decode depth tree = .ok a) :
    (required name decode).check depth tree = .ok () := by
  simp [required, h, Except.map]

/-- Some column takes a member, however its value is arranged. -/
def Take (columns : List Column) (depth : Nat) (member : String × Json) : Prop :=
  ∃ column, columns.find? (·.name = member.1) = some column ∧
    ∀ w, member.2.Arranges w → column.check depth w.surface = .ok ()

/-- A column takes what its decoder reads. -/
theorem take_required (found : columns.find? (·.name = name) = some (required name decode))
    (reads : Decoder.Reads decode depth v a) : Take columns depth (name, v) :=
  ⟨_, found, fun w arranged => check_required (reads w arranged)⟩

theorem take_defaulted (found : columns.find? (·.name = name) = some (defaulted name decode))
    (reads : Decoder.Reads decode depth v a) : Take columns depth (name, v) := by
  refine ⟨_, found, fun w arranged => ?_⟩
  simp [defaulted, reads w arranged, Except.map]

end Column

namespace Row

variable {columns : List Column} {members : List (String × Json)} {depth : Nat} {name : String}

/-- The row of the members of an object. -/
def ofJson (depth : Nat) (members : List (String × Json)) : Row :=
  ⟨depth, members.map fun member => (member.1, member.2.surface)⟩

/-- The cells of an object are its members, if each of them has a column that takes it. -/
theorem ofMembers_surfaces (cells : List (String × Tree))
    (distinct : (cells.map (·.1) ++ members.map (·.1)).Nodup)
    (taken : ∀ member ∈ members, ∃ column, columns.find? (·.name = member.1) = some column ∧
      column.check depth member.2.surface = .ok ()) :
    ofMembers columns depth cells (Json.memberSurfaces members) =
      .ok (cells ++ (ofJson depth members).cells) := by
  induction members generalizing cells with
  | nil => simp [Json.memberSurfaces, ofMembers, ofJson]
  | cons member members ih =>
      obtain ⟨name, value⟩ := member
      obtain ⟨⟨column, hcolumn, hcheck⟩, hmembers⟩ := List.forall_mem_cons.mp taken
      have habsent : (cells.any fun cell => cell.1 = name) = false := by
        rw [List.any_eq_false]
        intro cell hcell heq
        rw [List.nodup_append] at distinct
        exact distinct.2.2 cell.1 (List.mem_map_of_mem hcell) name (by simp) (by simpa using heq)
      have hrest := ih (cells ++ [(name, value.surface)]) (by simpa using distinct) hmembers
      rw [Json.memberSurfaces, ofMembers, hcolumn]
      simp only [habsent, hcheck, Bool.false_eq_true, if_false, bind, Except.bind]
      simpa [ofJson] using hrest

/-- An object with different names is read as the row of its members. -/
theorem read_obj (distinct : (members.map (·.1)).Nodup)
    (taken : ∀ member ∈ members, ∃ column, columns.find? (·.name = member.1) = some column ∧
      column.check depth member.2.surface = .ok ()) :
    read columns (depth + 1) (Json.obj members).surface = .ok (ofJson depth members) := by
  have hcells := ofMembers_surfaces [] (by simpa using distinct) taken
  rw [Json.surface, read, hcells]
  rfl

theorem cell?_ofJson_of_mem (distinct : (members.map (·.1)).Nodup) {member : String × Json}
    (h : member ∈ members) :
    (ofJson depth members).cell? member.1 = some member.2.surface := by
  induction members with
  | nil => simp at h
  | cons head rest ih =>
      obtain ⟨hnotMem, hrest⟩ := List.nodup_cons.mp distinct
      rcases List.mem_cons.mp h with rfl | hmem
      · simp [cell?, ofJson]
      · have hne : head.1 ≠ member.1 := by
          intro heq
          exact hnotMem (List.mem_map.mpr ⟨member, hmem, heq.symm⟩)
        simpa [cell?, ofJson, hne] using ih hrest hmem

theorem cell?_ofJson_of_not_mem (h : name ∉ members.map (·.1)) :
    (ofJson depth members).cell? name = none := by
  have hnone : (members.map fun member => (member.1, member.2.surface)).find?
      (fun cell => cell.1 = name) = none := by
    rw [List.find?_eq_none]
    intro cell hcell heq
    obtain ⟨member, hmem, rfl⟩ := List.mem_map.mp hcell
    exact h (List.mem_map.mpr ⟨member, hmem, by simpa using heq⟩)
  simp [cell?, ofJson, hnone]

/-- A row holds the members of a record, each in some arrangement, and nothing else. -/
structure Holds (row : Row) (members : List (String × Json)) : Prop where
  present : ∀ member ∈ members, ∃ w, member.2.Arranges w ∧ row.cell? member.1 = some w.surface
  absent : ∀ name ∉ members.map (·.1), row.cell? name = none

/-- However the members of a record are arranged, the record is read as a row that holds them. -/
theorem exists_read (columns : List Column) (depth : Nat) {w : Json}
    (arranged : (Json.obj members).Arranges w) (distinct : (members.map (·.1)).Nodup)
    (taken : ∀ member ∈ members, Column.Take columns depth member) :
    ∃ row, read columns (depth + 1) w.surface = .ok row ∧ row.depth = depth ∧
      row.Holds members := by
  obtain ⟨others, rfl, names, left, right⟩ := arranged.exists_of_obj
  have hdistinct : (others.map (·.1)).Nodup := names.nodup_iff.mpr distinct
  refine ⟨ofJson depth others, read_obj hdistinct ?_, rfl, ?_, ?_⟩
  · intro other hother
    obtain ⟨member, hmem, hname, hvalue⟩ := right other hother
    obtain ⟨column, hcolumn, hcheck⟩ := taken member hmem
    exact ⟨column, hname ▸ hcolumn, hcheck _ hvalue⟩
  · intro member hmem
    obtain ⟨other, hother, hname, hvalue⟩ := left member hmem
    exact ⟨other.2, hvalue, hname ▸ cell?_ofJson_of_mem hdistinct hother⟩
  · intro name habsent
    exact cell?_ofJson_of_not_mem fun hmem => habsent (names.mem_iff.mp hmem)

variable {α : Type} {row : Row} {decode : Decoder α} {v : Json} {a : α}

theorem Holds.required (h : row.Holds members) (name : String) (mem : (name, v) ∈ members)
    (reads : Decoder.Reads decode row.depth v a) : row.required name decode = .ok a := by
  obtain ⟨w, hw, hcell⟩ := h.present _ mem
  rw [Row.required, hcell]
  exact reads w hw

theorem Holds.defaulted (h : row.Holds members) (name : String) (mem : (name, v) ∈ members)
    (reads : Decoder.Reads decode row.depth v a) (value : α) :
    row.defaulted name decode value = .ok a := by
  obtain ⟨w, hw, hcell⟩ := h.present _ mem
  rw [Row.defaulted, hcell]
  exact reads w hw

/-- What is written only if it is given is read as it was. -/
theorem Holds.optional (h : row.Holds members) (name : String) (toJson : α → Json)
    (given : Option α)
    (written : ∀ v, (name, v) ∈ members ↔ v ∈ given.map toJson)
    (reads : ∀ value ∈ given, Decoder.Reads decode row.depth (toJson value) value)
    (present : ∀ value, toJson value ≠ .null) : row.optional name decode = .ok given := by
  cases given with
  | none =>
      have habsent : name ∉ members.map (·.1) := by
        rintro hmem
        obtain ⟨⟨_, v⟩, hv, rfl⟩ := List.mem_map.mp hmem
        simpa using (written v).mp hv
      rw [Row.optional, h.absent name habsent]
  | some value =>
      obtain ⟨w, hw, hcell⟩ := h.present _ ((written (toJson value)).mpr rfl)
      rw [Row.optional, hcell]
      exact (reads value rfl).optional (present value) w hw

end Row

namespace Tagged

variable {α : Type} {tag : String} {parse? : String → Option α} {depth : Nat} {kind : α}
  {members : List (String × Json)}

/-- The tag is set apart from the other members, which keep their order. -/
theorem ofMembers_surfaces (found : Option α) (distinct : (members.map (·.1)).Nodup)
    (tagged : ∀ member ∈ members, member.1 = tag →
      found = none ∧ ∃ s, member.2 = .str s ∧ parse? s = some kind)
    (proper : ∀ member ∈ members, member.2.isProper depth = true) :
    ofMembers tag parse? depth found (Json.memberSurfaces members) =
      .ok (if tag ∈ members.map (·.1) then some kind else found,
        Json.memberSurfaces (members.filter fun member => member.1 ≠ tag)) := by
  induction members generalizing found with
  | nil => simp [Json.memberSurfaces, ofMembers]
  | cons member members ih =>
      obtain ⟨name, value⟩ := member
      obtain ⟨hnotMem, hdistinct⟩ := List.nodup_cons.mp distinct
      obtain ⟨htag, htagged⟩ := List.forall_mem_cons.mp tagged
      obtain ⟨hvalue, hproper⟩ := List.forall_mem_cons.mp proper
      rw [Json.memberSurfaces, ofMembers]
      by_cases heq : name = tag
      · subst heq
        obtain ⟨rfl, s, rfl, hkind⟩ := htag rfl
        have hrest := ih (some kind) hdistinct
          (fun member hmem heq => absurd (List.mem_map.mpr ⟨member, hmem, heq⟩) hnotMem) hproper
        have hparsed : Decoder.parsed parse? depth (Json.str s).surface = .ok kind :=
          Decoder.reads_parsed hkind _ (.same _)
        simp only [if_true, Option.isSome_none, Bool.false_eq_true, if_false, hparsed, bind,
          Except.bind, hrest]
        simp
      · have hrest := ih found hdistinct htagged hproper
        have hmem : tag ∈ ((name, value) :: members).map (·.1) ↔ tag ∈ members.map (·.1) := by
          simp [Ne.symm heq]
        simp only [heq, if_false, Decoder.json_surface value hvalue, bind, Except.bind, hrest, hmem]
        simp [heq, Json.memberSurfaces, pure, Except.pure]

/-- However a tagged record is arranged, its kind is read, and what is left is an arrangement of the
rest of it. -/
theorem exists_read {s : String} {w : Json}
    (arranged : (Json.obj ((tag, .str s) :: members)).Arranges w) (named : parse? s = some kind)
    (proper : (Json.obj ((tag, .str s) :: members)).isProper (depth + 1) = true) :
    ∃ kept, read tag parse? (depth + 1) w.surface = .ok ⟨kind, (Json.obj kept).surface⟩ ∧
      (Json.obj members).Arranges (.obj kept) := by
  have hproper := arranged.isProper _ proper
  obtain ⟨_, hless, distinct, -⟩ := Json.isProper_obj_iff.mp proper
  obtain rfl := Nat.succ.inj hless
  obtain ⟨_ | ⟨first, rest⟩, others, rfl, names, each, order⟩ := arranged.exists_arranged
  · simp at names
  obtain ⟨hname, hnames⟩ := List.cons.inj names
  obtain ⟨hvalue, hvalues⟩ := List.forall₂_cons.mp each
  obtain ⟨name, value⟩ := first
  obtain rfl : tag = name := hname.symm
  obtain rfl : value = .str s := hvalue.eq_of_str
  obtain ⟨_, hless, hdistinct, hothers⟩ := Json.isProper_obj_iff.mp hproper
  obtain rfl := Nat.succ.inj hless
  have apart (member : String × Json) (hmem : member ∈ rest) : member.1 ≠ tag := fun heq =>
    (List.nodup_cons.mp distinct).1 (hnames ▸ List.mem_map.mpr ⟨member, hmem, heq⟩)
  have htagged (member : String × Json) (hmem : member ∈ others) (heq : member.1 = tag) :
      (none : Option α) = none ∧ ∃ s, member.2 = .str s ∧ parse? s = some kind := by
    rcases List.mem_cons.mp (order.mem_iff.mp hmem) with rfl | hrest
    · exact ⟨rfl, s, rfl, named⟩
    · exact absurd heq (apart member hrest)
  have hread := ofMembers_surfaces none hdistinct htagged (Json.haveProper_iff.mp hothers)
  have hmem : tag ∈ others.map (·.1) :=
    List.mem_map.mpr ⟨(tag, .str s), order.mem_iff.mpr List.mem_cons_self, rfl⟩
  rw [if_pos hmem] at hread
  refine ⟨others.filter fun member => member.1 ≠ tag, ?_, .obj hnames hvalues ?_⟩
  · rw [Json.surface, read, hread]
    rfl
  · have hfilter : (((tag, .str s) :: rest).filter fun member => member.1 ≠ tag) = rest := by
      rw [List.filter_cons_of_neg (by simp), List.filter_eq_self]
      simpa using apart
    exact hfilter ▸ order.filter _

end Tagged

end Flotilla
