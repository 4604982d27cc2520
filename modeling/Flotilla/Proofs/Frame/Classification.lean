import Mathlib.Data.List.Nodup
import Flotilla.Management.Frame
import Flotilla.Proofs.Json.Cells
import Flotilla.Proofs.Json.Soundness
import Flotilla.Proofs.Text.Pieces

/-!
# What a frame is

`Classified` says what an object is as a frame, by what stands under the four names that matter.
Some objects are spoilt whatever else they say; of the others the number and the method decide
whether it is an answer or an announcement. The decoder finds this outcome for every text of an
object, and no other. What is not an object is no frame either, except that an array is taken for
the object that has its items under the four names.
-/

namespace Flotilla

namespace Notification

/-- What a method announces: one of the known actions if it stands behind the first colon and
`notification/`, and otherwise nothing but the method. -/
inductive Announces (method : String) : Notification → Prop where
  | known {domain entry} (colon : ':' ∉ domain) (h : entry ∈ known)
      (hmethod : method.toList = domain ++ ':' :: ("notification/".toList ++ entry.1.toList)) :
      Announces method entry.2
  | other (h : ∀ domain, ':' ∉ domain → ∀ entry ∈ known,
      method.toList ≠ domain ++ ':' :: ("notification/".toList ++ entry.1.toList)) :
      Announces method (.unrecognized method)

theorem action?_eq_some_iff {method action : List Char} :
    action? method = some action ↔ ∃ domain, ':' ∉ domain ∧
      method = domain ++ ':' :: ("notification/".toList ++ action) := by
  constructor
  · intro h
    obtain ⟨⟨domain, rest⟩, hfirst, hafter⟩ := Option.bind_eq_some_iff.mp h
    obtain ⟨rfl, colon⟩ := Split.first_eq_some_iff.mp hfirst
    obtain rfl := Split.after?_eq_some_iff.mp hafter
    exact ⟨domain, colon, rfl⟩
  · rintro ⟨domain, colon, rfl⟩
    rw [action?, Split.first_append_cons colon]
    exact Split.after?_eq_some_iff.mpr rfl

/-- The known action that a method carries. -/
theorem find?_known_eq_some_iff {method : List Char} {entry : String × Notification} :
    ((action? method).bind fun action => known.find? fun entry => entry.1.toList = action) =
        some entry ↔
      entry ∈ known ∧ ∃ domain, ':' ∉ domain ∧
        method = domain ++ ':' :: ("notification/".toList ++ entry.1.toList) := by
  have hnames : (known.map (·.1)).Nodup := by decide
  rw [Option.bind_eq_some_iff]
  constructor
  · rintro ⟨action, haction, hfind⟩
    have haction := action?_eq_some_iff.mp haction
    obtain rfl : entry.1.toList = action := by simpa using List.find?_some hfind
    exact ⟨List.mem_of_find?_eq_some hfind, haction⟩
  · rintro ⟨hmem, hmethod⟩
    refine ⟨entry.1.toList, action?_eq_some_iff.mpr hmethod, ?_⟩
    have hfound : (known.find? fun other => other.1.toList = entry.1.toList).isSome := by
      rw [List.find?_isSome]
      exact ⟨entry, hmem, by simp⟩
    obtain ⟨other, hother⟩ := Option.isSome_iff_exists.mp hfound
    have heq : other.1 = entry.1 := String.toList_inj.mp (by simpa using List.find?_some hother)
    rw [hother, List.inj_on_of_nodup_map hnames (List.mem_of_find?_eq_some hother) hmem heq]

theorem ofMethod_eq_iff {method : String} {n : Notification} :
    ofMethod method = n ↔ Announces method n := by
  unfold ofMethod
  split
  next entry hentry =>
    obtain ⟨hmem, domain, colon, hmethod⟩ := find?_known_eq_some_iff.mp hentry
    constructor
    · rintro rfl
      exact .known colon hmem hmethod
    · intro h
      cases h with
      | known colon hmem hmethod =>
          have hother := find?_known_eq_some_iff.mpr ⟨hmem, _, colon, hmethod⟩
          rw [Option.some.inj (hentry.symm.trans hother)]
      | other h => exact absurd hmethod (h domain colon entry hmem)
  next hnone =>
    have habsent (domain : List Char) (colon : ':' ∉ domain) (entry : String × Notification)
        (hmem : entry ∈ known) :
        method.toList ≠ domain ++ ':' :: ("notification/".toList ++ entry.1.toList) := by
      intro hmethod
      have hentry := find?_known_eq_some_iff.mpr ⟨hmem, domain, colon, hmethod⟩
      simp [hentry] at hnone
    constructor
    · rintro rfl
      exact .other habsent
    · intro h
      cases h with
      | known colon hmem hmethod => exact absurd hmethod (habsent _ colon _ hmem)
      | other => rfl

end Notification

namespace Frame

/-- What stands under `id`: a number, or nothing if it is missing. -/
inductive Numbers : Tree → Option Nat → Prop where
  | missing : Numbers .null none
  | present {n i} (plain : n.Plain i) (small : i < idBound) : Numbers (.number n) (some i)

/-- What stands under `method`: a text, or nothing if it is missing. -/
inductive Names : Tree → Option String → Prop where
  | missing : Names .null none
  | present {s} : Names (.text (some s)) (some s)

/-- What stands under `result` and `error`: a value that is kept, or nothing if it is missing. -/
inductive Holds : Tree → Option Json → Prop where
  | missing : Holds .null none
  | present {tree v} (other : tree ≠ .null) (h : Decoder.json 126 tree = .ok v) :
      Holds tree (some v)

section Columns

variable {tree : Tree}

theorem numbers_iff {found : Option Nat} :
    Numbers tree found ↔ Decoder.optional (Decoder.natural idBound) 126 tree = .ok found := by
  rw [Decoder.optional_eq_ok_iff]
  constructor
  · intro h
    cases h with
    | missing => exact .inl ⟨rfl, rfl⟩
    | @present n i plain small =>
        have hread : Decoder.natural idBound 126 (.number n) = .ok i :=
          (Decoder.natural_eq_ok_iff (Nat.le_refl _)).mpr ⟨n, rfl, plain, small⟩
        exact .inr ⟨nofun, i, hread, rfl⟩
  · rintro (⟨rfl, rfl⟩ | ⟨-, i, hread, rfl⟩)
    · exact .missing
    · obtain ⟨n, rfl, plain, small⟩ := (Decoder.natural_eq_ok_iff (Nat.le_refl _)).mp hread
      exact .present plain small

theorem names_iff {found : Option String} :
    Names tree found ↔ Decoder.optional Decoder.string 126 tree = .ok found := by
  simp only [Decoder.optional_eq_ok_iff, Decoder.string_eq_ok_iff]
  constructor
  · intro h
    cases h with
    | missing => exact .inl ⟨rfl, rfl⟩
    | present => exact .inr ⟨nofun, _, rfl, rfl⟩
  · rintro (⟨rfl, rfl⟩ | ⟨-, s, rfl, rfl⟩)
    · exact .missing
    · exact .present

theorem holds_iff {found : Option Json} :
    Holds tree found ↔ Decoder.optional Decoder.json 126 tree = .ok found := by
  rw [Decoder.optional_eq_ok_iff]
  constructor
  · intro h
    cases h with
    | missing => exact .inl ⟨rfl, rfl⟩
    | present other h => exact .inr ⟨other, _, h, rfl⟩
  · rintro (⟨rfl, rfl⟩ | ⟨other, v, h, rfl⟩)
    · exact .missing
    · exact .present other h

/-- What is kept is what fits. -/
theorem exists_holds_iff : (∃ found, Holds tree found) ↔ tree.fits 126 = true := by
  rw [← Decoder.json_ok_iff]
  constructor
  · rintro ⟨_, h⟩
    cases h with
    | missing => exact ⟨.null, rfl⟩
    | present other h => exact ⟨_, h⟩
  · rintro ⟨v, h⟩
    by_cases missing : tree = .null
    · exact ⟨none, missing ▸ .missing⟩
    · exact ⟨some v, .present missing h⟩

end Columns

/-- The names that matter. -/
def memberNames : List String := ["id", "method", "result", "error"]

/-- What keeps an object from being a frame, whatever else it holds. -/
inductive Spoilt (members : List (Tree × Tree)) : Prop where
  | unnamed {tree} (h : (.text none, tree) ∈ members)
  | repeated {name} (column : name ∈ memberNames) (h : 2 ≤ (Tree.given name members).length)
  | number {tree} (h : tree ∈ Tree.given "id" members) (other : ∀ found, ¬Numbers tree found)
  | method {tree} (h : tree ∈ Tree.given "method" members) (other : ∀ found, ¬Names tree found)
  | value {name tree} (column : name = "result" ∨ name = "error")
      (h : tree ∈ Tree.given name members) (unfit : tree.fits 126 = false)

/-- What the members of an object are as a frame. -/
inductive Classified (members : List (Tree × Tree)) : Except FrameError Frame → Prop where
  | malformed (h : Spoilt members) : Classified members (.error .malformed)
  | failure {id error} (sound : ¬Spoilt members)
      (hid : Numbers (Tree.said "id" members) (some id))
      (hmethod : Names (Tree.said "method" members) none)
      (herror : Holds (Tree.said "error" members) (some error)) :
      Classified members (.ok (.failure id error))
  | response {id result} (sound : ¬Spoilt members)
      (hid : Numbers (Tree.said "id" members) (some id))
      (hmethod : Names (Tree.said "method" members) none)
      (herror : Holds (Tree.said "error" members) none)
      (hresult : Holds (Tree.said "result" members) result) :
      Classified members (.ok (.response id (result.getD .null)))
  | notification {method n} (sound : ¬Spoilt members)
      (hid : Numbers (Tree.said "id" members) none)
      (hmethod : Names (Tree.said "method" members) (some method))
      (h : Notification.Announces method n) : Classified members (.ok (.notification n))
  | request {id method} (sound : ¬Spoilt members)
      (hid : Numbers (Tree.said "id" members) (some id))
      (hmethod : Names (Tree.said "method" members) (some method)) :
      Classified members (.error (.request method))
  | anonymous (sound : ¬Spoilt members) (hid : Numbers (Tree.said "id" members) none)
      (hmethod : Names (Tree.said "method" members) none) :
      Classified members (.error .anonymous)

section Objects

variable {members : List (Tree × Tree)} {found : Members} {out : Except FrameError Frame}

theorem columns_distinct : (columns.map (·.name)).Nodup := by decide

/-- What is not spoilt is what the columns take. -/
theorem not_spoilt_iff : ¬Spoilt members ↔ Row.Sound columns 126 members := by
  constructor
  · intro sound
    refine ⟨?_, ?_, ?_⟩
    · rintro ⟨key, tree⟩ hmem rfl
      exact sound (.unnamed hmem)
    · intro column hcolumn
      have hname : column.name ∈ memberNames := List.mem_map_of_mem (f := Column.name) hcolumn
      exact Nat.not_lt.mp fun h => sound (.repeated hname h)
    · have hvalue {name : String} (hname : name = "result" ∨ name = "error") :
          ∀ tree ∈ Tree.given name members,
            ∃ found, Decoder.optional Decoder.json 126 tree = .ok found := by
        intro tree htree
        have hfits : tree.fits 126 = true := by
          by_contra h
          exact sound (.value hname htree (Bool.eq_false_iff.mpr h))
        obtain ⟨found, hfound⟩ := exists_holds_iff.mpr hfits
        exact ⟨found, holds_iff.mp hfound⟩
      simp only [columns, List.forall_mem_cons, Column.check_defaulted_iff]
      refine ⟨?_, ?_, hvalue (.inl rfl), hvalue (.inr rfl), nofun⟩
      · intro tree htree
        by_contra h
        exact sound (.number htree fun found hfound => h ⟨found, numbers_iff.mp hfound⟩)
      · intro tree htree
        by_contra h
        exact sound (.method htree fun found hfound => h ⟨found, names_iff.mp hfound⟩)
  · rintro ⟨named, single, taken⟩ spoilt
    simp only [columns, List.forall_mem_cons, Column.check_defaulted_iff] at taken
    obtain ⟨hid, hmethod, hresult, herror, -⟩ := taken
    cases spoilt with
    | unnamed h => exact named _ h rfl
    | repeated hname h =>
        obtain ⟨column, hcolumn, rfl⟩ := List.mem_map.mp (show _ ∈ columns.map (·.name) from hname)
        exact absurd (single column hcolumn) (Nat.not_le.mpr h)
    | number h other =>
        obtain ⟨found, hfound⟩ := hid _ h
        exact other found (numbers_iff.mpr hfound)
    | method h other =>
        obtain ⟨found, hfound⟩ := hmethod _ h
        exact other found (names_iff.mpr hfound)
    | @value name tree hname h unfit =>
        have hread : ∃ found, Decoder.optional Decoder.json 126 tree = .ok found := by
          rcases hname with rfl | rfl
          · exact hresult tree h
          · exact herror tree h
        obtain ⟨found, hfound⟩ := hread
        have hfits := exists_holds_iff.mp ⟨found, holds_iff.mpr hfound⟩
        simp [hfits] at unfit

/-- What the four columns hold. -/
structure AmountsTo (members : List (Tree × Tree)) (found : Members) : Prop where
  id : Numbers (Tree.said "id" members) found.id
  method : Names (Tree.said "method" members) found.method
  result : Holds (Tree.said "result" members) found.result
  error : Holds (Tree.said "error" members) found.error

theorem amountsTo_iff : AmountsTo members found ↔
    Decoder.optional (Decoder.natural idBound) 126 (Tree.said "id" members) = .ok found.id ∧
      Decoder.optional Decoder.string 126 (Tree.said "method" members) = .ok found.method ∧
      Decoder.optional Decoder.json 126 (Tree.said "result" members) = .ok found.result ∧
      Decoder.optional Decoder.json 126 (Tree.said "error" members) = .ok found.error := by
  rw [← numbers_iff, ← names_iff, ← holds_iff, ← holds_iff]
  exact ⟨fun ⟨a, b, c, d⟩ => ⟨a, b, c, d⟩, fun ⟨a, b, c, d⟩ => ⟨a, b, c, d⟩⟩

/-- What is not spoilt says something under each name. -/
theorem exists_amountsTo (sound : ¬Spoilt members) : ∃ found, AmountsTo members found := by
  have taken := (not_spoilt_iff.mp sound).taken
  simp only [columns, List.forall_mem_cons, Column.check_defaulted_iff] at taken
  obtain ⟨hid, hmethod, hresult, herror, -⟩ := taken
  have hsaid {α : Type} {name : String} {decode : Decoder α}
      (h : ∀ tree ∈ Tree.given name members,
        ∃ found, Decoder.optional decode 126 tree = .ok found) :
      ∃ found, Decoder.optional decode 126 (Tree.said name members) = .ok found := by
    rcases Tree.said_eq_null_or_mem name members with hnull | hmem
    · exact ⟨none, by rw [hnull]; rfl⟩
    · exact h _ hmem
  obtain ⟨id, hid⟩ := hsaid hid
  obtain ⟨method, hmethod⟩ := hsaid hmethod
  obtain ⟨result, hresult⟩ := hsaid hresult
  obtain ⟨error, herror⟩ := hsaid herror
  exact ⟨⟨id, method, result, error⟩, amountsTo_iff.mpr ⟨hid, hmethod, hresult, herror⟩⟩

/-- What is not spoilt is classified by what it holds. -/
theorem classified_iff : Classified members out ↔
    (Spoilt members ∧ out = .error .malformed) ∨
      ¬Spoilt members ∧ ∃ found, AmountsTo members found ∧ out = ofMembers found := by
  constructor
  · intro h
    cases h with
    | malformed spoilt => exact .inl ⟨spoilt, rfl⟩
    | @failure id error sound hid hmethod herror =>
        obtain ⟨found, hfound⟩ := exists_amountsTo sound
        exact .inr ⟨sound, ⟨some id, none, found.result, some error⟩,
          ⟨hid, hmethod, hfound.result, herror⟩, rfl⟩
    | @response id result sound hid hmethod herror hresult =>
        exact .inr ⟨sound, ⟨some id, none, result, none⟩, ⟨hid, hmethod, hresult, herror⟩, rfl⟩
    | @notification method n sound hid hmethod h =>
        obtain ⟨found, hfound⟩ := exists_amountsTo sound
        obtain rfl := Notification.ofMethod_eq_iff.mpr h
        exact .inr ⟨sound, ⟨none, some method, found.result, found.error⟩,
          ⟨hid, hmethod, hfound.result, hfound.error⟩, rfl⟩
    | @request id method sound hid hmethod =>
        obtain ⟨found, hfound⟩ := exists_amountsTo sound
        exact .inr ⟨sound, ⟨some id, some method, found.result, found.error⟩,
          ⟨hid, hmethod, hfound.result, hfound.error⟩, rfl⟩
    | anonymous sound hid hmethod =>
        obtain ⟨found, hfound⟩ := exists_amountsTo sound
        exact .inr ⟨sound, ⟨none, none, found.result, found.error⟩,
          ⟨hid, hmethod, hfound.result, hfound.error⟩, rfl⟩
  · rintro (⟨spoilt, rfl⟩ | ⟨sound, ⟨id, method, result, error⟩, hfound, rfl⟩)
    · exact .malformed spoilt
    · obtain ⟨hid, hmethod, hresult, herror⟩ := hfound
      cases id with
      | none =>
          cases method with
          | none => exact .anonymous sound hid hmethod
          | some method =>
              exact .notification sound hid hmethod (Notification.ofMethod_eq_iff.mp rfl)
      | some id =>
          cases method with
          | some method => exact .request sound hid hmethod
          | none =>
              cases error with
              | some error => exact .failure sound hid hmethod herror
              | none => exact .response sound hid hmethod herror hresult

/-- The members of an object are read exactly if they are not spoilt, as what they say. -/
theorem decodeMembers_object_iff (whole : Tree.haveWhole members = true) :
    decodeMembers 127 (.object members true) = .ok found ↔
      ¬Spoilt members ∧ AmountsTo members found := by
  have hread (row : Row) : Row.read columns 127 (.object members true) = .ok row ↔
      ¬Spoilt members ∧ row = ⟨126, Row.cellsOf columns members⟩ := by
    rw [not_spoilt_iff]
    exact Row.read_object_iff columns_distinct whole
  have hcell {α : Type} (decode : Decoder α) {column : Column} (hcolumn : column ∈ columns) :
      (⟨126, Row.cellsOf columns members⟩ : Row).optional column.name decode =
        Decoder.optional decode 126 (Tree.said column.name members) :=
    Row.optional_cellsOf decode hcolumn
  have hid := hcell (Decoder.natural idBound) (.head _)
  have hmethod := hcell Decoder.string (.tail _ (.head _))
  have hresult := hcell Decoder.json (.tail _ (.tail _ (.head _)))
  have herror := hcell Decoder.json (.tail _ (.tail _ (.tail _ (.head _))))
  simp only [Column.defaulted] at hid hmethod hresult herror
  rw [decodeMembers, amountsTo_iff]
  cases hrow : Row.read columns 127 (.object members true) with
  | error fault =>
      simp only [bind, Except.bind, reduceCtorEq, false_iff, not_and]
      intro sound
      have heq := (hread _).mpr ⟨sound, rfl⟩
      simp [hrow] at heq
  | ok row =>
      obtain ⟨sound, rfl⟩ := (hread row).mp hrow
      obtain ⟨other, hother⟩ := exists_amountsTo sound
      obtain ⟨oid, omethod, oresult, oerror⟩ := amountsTo_iff.mp hother
      obtain ⟨id, method, result, error⟩ := found
      simp [sound, bind, Except.bind, hid, hmethod, hresult, herror, oid, omethod, oresult, oerror,
        pure, Except.pure]

/-- What comes of the members of a frame, or of a fault in reading them. -/
def outcome : Except Fault Members → Except FrameError Frame
  | .ok found => ofMembers found
  | .error _ => .error .malformed

theorem decode_of_item {text : String} {tree : Tree} (h : Tree.Item text.toList tree) :
    decode text = outcome (decodeMembers 127 tree) := by
  rw [decode, decodeText_of_item decodeMembers h, maxDepth]
  rfl

/-- What comes of an object is what it is classified as. -/
theorem outcome_object_iff (whole : Tree.haveWhole members = true) :
    outcome (decodeMembers 127 (.object members true)) = out ↔ Classified members out := by
  rw [classified_iff]
  cases hread : decodeMembers 127 (.object members true) with
  | ok found =>
      obtain ⟨sound, hfound⟩ := (decodeMembers_object_iff whole).mp hread
      constructor
      · rintro rfl
        exact .inr ⟨sound, found, hfound, rfl⟩
      · rintro (⟨spoilt, -⟩ | ⟨-, other, hother, rfl⟩)
        · exact absurd spoilt sound
        · have heq := (decodeMembers_object_iff whole).mpr ⟨sound, hother⟩
          rw [Except.ok.inj (hread.symm.trans heq)]
          rfl
  | error fault =>
      have spoilt : Spoilt members := by
        by_contra sound
        obtain ⟨found, hfound⟩ := exists_amountsTo sound
        have heq := (decodeMembers_object_iff whole).mpr ⟨sound, hfound⟩
        simp [hread] at heq
      constructor
      · rintro rfl
        exact .inl ⟨spoilt, rfl⟩
      · rintro (⟨-, rfl⟩ | ⟨sound, -⟩)
        · rfl
        · exact absurd spoilt sound

/-- A text that is an object has the outcome of its members. -/
theorem decode_eq_iff {text : String} (h : Tree.Item text.toList (.object members true)) :
    decode text = out ↔ Classified members out := by
  rw [decode_of_item h]
  exact outcome_object_iff h.isWhole

/-- Two objects that are alike as frames: if a name of one cannot be read, some name of the other
cannot either, and under the names that matter stand the same trees in some order. What other
members there are makes no difference. -/
structure Alike (members others : List (Tree × Tree)) : Prop where
  named : Tree.Named members ↔ Tree.Named others
  given : ∀ name ∈ memberNames, (Tree.given name others).Perm (Tree.given name members)

variable {others : List (Tree × Tree)}

theorem Alike.symm (h : Alike members others) : Alike others members :=
  ⟨h.named.symm, fun name hname => (h.given name hname).symm⟩

/-- The order of the members makes no difference. -/
theorem alike_of_perm (h : members.Perm others) : Alike members others := by
  refine ⟨⟨fun named other hother => named other (h.mem_iff.mpr hother),
    fun named member hmember => named member (h.mem_iff.mp hmember)⟩, fun name _ => ?_⟩
  exact (((h.symm.filterMap Tree.entry?).filter _).map _)

/-- A member of another name makes no difference. -/
theorem alike_cons {name : String} (other : name ∉ memberNames) (tree : Tree) :
    Alike members ((.text (some name), tree) :: members) := by
  refine ⟨by simp [Tree.Named], fun counted hcounted => ?_⟩
  have hne : name ≠ counted := fun heq => other (heq ▸ hcounted)
  simp [Tree.given, hne]

theorem Alike.spoilt (h : Alike members others) (spoilt : Spoilt members) : Spoilt others := by
  have hmem {name : String} {tree : Tree} (hname : name ∈ memberNames)
      (htree : tree ∈ Tree.given name members) : tree ∈ Tree.given name others :=
    (h.given name hname).mem_iff.mpr htree
  cases spoilt with
  | unnamed hunnamed =>
      have hnamed : ¬Tree.Named others := fun named => h.named.mpr named _ hunnamed rfl
      simp only [Tree.Named, not_forall, not_not] at hnamed
      obtain ⟨⟨_, tree⟩, hother, rfl⟩ := hnamed
      exact .unnamed hother
  | repeated hname hrepeated => exact .repeated hname ((h.given _ hname).length_eq ▸ hrepeated)
  | number htree other => exact .number (hmem (by decide) htree) other
  | method htree other => exact .method (hmem (by decide) htree) other
  | value hname htree unfit =>
      refine .value hname (hmem ?_ htree) unfit
      rcases hname with rfl | rfl <;> decide

/-- What is said once is said by both. -/
theorem Alike.said_eq (h : Alike members others) (sound : ¬Spoilt members) {name : String}
    (hname : name ∈ memberNames) : Tree.said name others = Tree.said name members := by
  have hperm := h.given name hname
  have hlength : (Tree.given name members).length < 2 :=
    Nat.not_le.mp fun hrepeated => sound (.repeated hname hrepeated)
  unfold Tree.said
  match hgiven : Tree.given name members with
  | [] =>
      rw [hgiven] at hperm
      rw [List.perm_nil.mp hperm]
  | [tree] =>
      rw [hgiven] at hperm
      rw [List.perm_singleton.mp hperm]
  | _ :: _ :: _ =>
      rw [hgiven, List.length_cons, List.length_cons] at hlength
      omega

/-- Objects that are alike are the same frame. -/
theorem Alike.classified (h : Alike members others) (hout : Classified members out) :
    Classified others out := by
  rw [classified_iff] at hout ⊢
  rcases hout with ⟨spoilt, rfl⟩ | ⟨sound, found, ⟨hid, hmethod, hresult, herror⟩, rfl⟩
  · exact .inl ⟨h.spoilt spoilt, rfl⟩
  · refine .inr ⟨fun spoilt => sound (h.symm.spoilt spoilt), found, ?_, rfl⟩
    refine ⟨?_, ?_, ?_, ?_⟩
    all_goals
      rw [h.said_eq sound (by decide)]
      assumption

/-- The decoder finds what an object is as a frame, for every text of the object. Where all names
can be read, nothing counts but what stands under the four: the order of the members and the members
of other names make no difference. -/
theorem decode_object {text : String} (h : Tree.Item text.toList (.object members true)) :
    (∀ out, decode text = out ↔ Classified members out) ∧
      ∀ {other : String} {others : List (Tree × Tree)},
        Tree.Item other.toList (.object others true) → Alike members others →
          decode other = decode text := by
  refine ⟨fun out => decode_eq_iff h, fun hother alike => ?_⟩
  exact (decode_eq_iff hother).mpr (alike.classified ((decode_eq_iff h).mp rfl))

/-- An answer without a result, and the same answer behind a member that is passed over. -/
theorem decode_object_sample :
    decode "\x7b\"id\":7\x7d" = .ok (.response 7 .null) ∧
      decode "\x7b\"a\":[1e999],\"id\":7\x7d" = decode "\x7b\"id\":7\x7d" := by
  have h : Tree.Item "\x7b\"id\":7\x7d".toList
      (.object [(.text (some "id"), .number ⟨false, ['7'], [], none⟩)] true) :=
    (Document.read_iff_item _ _).mp ⟨Document.read_toList rfl rfl, rfl⟩
  have hother : Tree.Item "\x7b\"a\":[1e999],\"id\":7\x7d".toList
      (.object [(.text (some "a"),
          .array [.number ⟨false, ['1'], [], some (false, ['9', '9', '9'])⟩] true),
        (.text (some "id"), .number ⟨false, ['7'], [], none⟩)] true) :=
    (Document.read_iff_item _ _).mp ⟨Document.read_toList rfl rfl, rfl⟩
  obtain ⟨sound, hid, hmethod, hresult, herror⟩ :=
    (decodeMembers_object_iff rfl).mp (show decodeMembers 127 (.object
      [(.text (some "id"), .number ⟨false, ['7'], [], none⟩)] true) = .ok ⟨some 7, none, none, none⟩
      from rfl)
  refine ⟨((decode_object h).1 _).mpr (.response sound hid hmethod herror hresult), ?_⟩
  exact (decode_object h).2 hother (alike_cons (by decide) _)

/-- More than the four names can count. An announcement is spoilt by a result that is out of range,
though it has no use for one, and an answer by a member of any name that cannot be read. -/
theorem not_always_classified :
    (¬∀ (text : String) (members : List (Tree × Tree)) (method : String) (n : Notification),
      Tree.Item text.toList (.object members true) →
      (∀ name ∈ memberNames, (Tree.given name members).length ≤ 1) →
      Numbers (Tree.said "id" members) none → Names (Tree.said "method" members) (some method) →
      Notification.Announces method n → decode text = .ok (.notification n)) ∧
    ¬∀ (text other : String) (members others : List (Tree × Tree)),
      Tree.Item text.toList (.object members true) →
      Tree.Item other.toList (.object others true) →
      (∀ name ∈ memberNames, (Tree.given name others).Perm (Tree.given name members)) →
      decode other = decode text := by
  constructor
  · intro h
    have hitem : Tree.Item "\x7b\"method\":\"a\",\"result\":1e999\x7d".toList
        (.object [(.text (some "method"), .text (some "a")), (.text (some "result"),
          .number ⟨false, ['1'], [], some (false, ['9', '9', '9'])⟩)] true) :=
      (Document.read_iff_item _ _).mp ⟨Document.read_toList rfl rfl, rfl⟩
    have hfound := h _ _ "a" _ hitem (by decide) .missing .present
      (Notification.ofMethod_eq_iff.mp rfl)
    have hspoilt := (decode_eq_iff hitem).mpr
      (.malformed (.value (.inl rfl) (Tree.mem_given.mpr (.tail _ (.head _))) rfl))
    cases hfound.symm.trans hspoilt
  · intro h
    have hitem : Tree.Item "\x7b\"id\":1\x7d".toList
        (.object [(.text (some "id"), .number ⟨false, ['1'], [], none⟩)] true) :=
      (Document.read_iff_item _ _).mp ⟨Document.read_toList rfl rfl, rfl⟩
    have hother : Tree.Item "\x7b\"id\":1,\"\\ud800\":0\x7d".toList
        (.object [(.text (some "id"), .number ⟨false, ['1'], [], none⟩),
          (.text none, .number ⟨false, ['0'], [], none⟩)] true) :=
      (Document.read_iff_item _ _).mp ⟨Document.read_toList rfl rfl, rfl⟩
    have hspoilt := (decode_eq_iff hother).mpr (.malformed (.unnamed (.tail _ (.head _))))
    obtain ⟨sound, hid, hmethod, hresult, herror⟩ :=
      (decodeMembers_object_iff rfl).mp (show decodeMembers 127 (.object
        [(.text (some "id"), .number ⟨false, ['1'], [], none⟩)] true) =
          .ok ⟨some 1, none, none, none⟩ from rfl)
    have hfound := (decode_eq_iff hitem).mpr (.response sound hid hmethod herror hresult)
    have hsame := h _ _ _ _ hitem hother
      (by simp [memberNames, Tree.given, Tree.entries, Tree.entry?])
    cases hspoilt.symm.trans (hsame.trans hfound)

end Objects

section Others

variable {items : List Tree} {tree : Tree} {out : Except FrameError Frame}

/-- What a value that is no object is as a frame. The items of a short array stand for the members
of the four names, in order. -/
inductive Listed : Tree → Except FrameError Frame → Prop where
  | short {items : List Tree} {out : Except FrameError Frame} (h : items.length ≤ 4)
      (hout : Classified (Row.listed columns items) out) : Listed (.array items true) out
  | long {items : List Tree} (h : 4 < items.length) :
      Listed (.array items true) (.error .malformed)
  | other {tree : Tree} (h : ∀ items closed, tree ≠ .array items closed) :
      Listed tree (.error .malformed)

theorem outcome_of_fault {fault : Fault} (h : Row.read columns 127 tree = .error fault) :
    outcome (decodeMembers 127 tree) = .error .malformed := by
  rw [decodeMembers, h]
  rfl

/-- A short array comes to the same as the object it stands for, and a longer one is not read. -/
theorem outcome_array (whole : Tree.areWhole items = true) :
    outcome (decodeMembers 127 (.array items true)) =
      if items.length ≤ 4 then
        outcome (decodeMembers 127 (.object (Row.listed columns items) true))
      else .error .malformed := by
  have hread (row : Row) : Row.read columns 127 (.array items true) = .ok row ↔
      items.length ≤ 4 ∧
        Row.read columns 127 (.object (Row.listed columns items) true) = .ok row :=
    Row.read_array_iff columns_distinct (by simp [columns, Column.defaulted]) whole
  cases harray : Row.read columns 127 (.array items true) with
  | ok row =>
      obtain ⟨short, hobject⟩ := (hread row).mp harray
      rw [if_pos short, decodeMembers, decodeMembers, harray, hobject]
  | error fault =>
      rw [outcome_of_fault harray]
      split
      next short =>
        cases hobject : Row.read columns 127 (.object (Row.listed columns items) true) with
        | ok row => simp [(hread row).mpr ⟨short, hobject⟩] at harray
        | error fault => exact (outcome_of_fault hobject).symm
      next => rfl

/-- What is no object is a frame only if it is a short array, and then it is the frame that the
object of its items would be. -/
theorem decode_other {text : String} (h : Tree.Item text.toList tree)
    (other : ∀ members closed, tree ≠ .object members closed) (out : Except FrameError Frame) :
    decode text = out ↔ Listed tree out := by
  rw [decode_of_item h]
  have whole := h.isWhole
  match tree with
  | .object members closed => exact absurd rfl (other members closed)
  | .broken | .array _ false => simp [Tree.isWhole] at whole
  | .array items true =>
      rw [Tree.isWhole, Bool.true_and] at whole
      rw [outcome_array whole]
      split
      next short =>
        rw [outcome_object_iff (Row.haveWhole_listed whole)]
        constructor
        · exact .short short
        · intro h
          cases h with
          | short _ hout => exact hout
          | long h => omega
          | other h => exact absurd rfl (h items true)
      next long =>
        constructor
        · rintro rfl
          exact .long (Nat.not_le.mp long)
        · intro h
          cases h with
          | short h => exact absurd h long
          | long | other => rfl
  | .null | .bool _ | .number _ | .text _ =>
      rw [outcome_of_fault rfl]
      constructor
      · rintro rfl
        exact .other nofun
      · intro h
        cases h with
        | other => rfl

/-- A number in brackets is taken for the answer of that number. -/
theorem decode_other_sample : decode "[1]" = .ok (.response 1 .null) := by
  have h : Tree.Item "[1]".toList (.array [.number ⟨false, ['1'], [], none⟩] true) :=
    (Document.read_iff_item _ _).mp ⟨Document.read_toList rfl rfl, rfl⟩
  obtain ⟨sound, hid, hmethod, hresult, herror⟩ :=
    (decodeMembers_object_iff rfl).mp (show decodeMembers 127 (.object
      (Row.listed columns [.number ⟨false, ['1'], [], none⟩]) true) =
        .ok ⟨some 1, none, none, none⟩ from rfl)
  exact (decode_other h (by simp) _).mpr
    (.short (by decide) (.response sound hid hmethod herror hresult))

/-- Not only objects are frames. -/
theorem not_always_object :
    ¬∀ (text : String) (tree : Tree), Tree.Item text.toList tree →
      (∀ members closed, tree ≠ .object members closed) →
      ∃ error, decode text = .error error := by
  intro h
  have hitem : Tree.Item "[1]".toList (.array [.number ⟨false, ['1'], [], none⟩] true) :=
    (Document.read_iff_item _ _).mp ⟨Document.read_toList rfl rfl, rfl⟩
  have hfound : decode "[1]" = .ok (.response 1 .null) := (decode_of_item hitem).trans rfl
  obtain ⟨error, herror⟩ := h _ _ hitem (by simp)
  cases hfound.symm.trans herror

end Others

end Frame

end Flotilla
