import Flotilla.Http.Call
import Flotilla.Proofs.Text.Numeral
import Flotilla.Proofs.Text.Pieces

/-!
# Queries that are read back

A text without the four signs of a query stands for itself. So a query that is put together of such
names and values is read as just these, and a page that is asked for in one is the page that is
found.
-/

namespace Flotilla

namespace Percent

variable {cs name value : List Char}

/-- A text that is written as it is. -/
def Plain (cs : List Char) : Prop := '%' ∉ cs ∧ '+' ∉ cs ∧ '&' ∉ cs ∧ '=' ∉ cs

instance (cs : List Char) : Decidable (Plain cs) :=
  inferInstanceAs (Decidable ('%' ∉ cs ∧ '+' ∉ cs ∧ '&' ∉ cs ∧ '=' ∉ cs))

/-- Numerals are plain. -/
theorem plain_render (n : Nat) : Plain (Digits.render n) := by
  refine ⟨fun h => ?_, fun h => ?_, fun h => ?_, fun h => ?_⟩ <;>
    exact absurd (Digits.isDigit_of_mem_render h) (by decide)

theorem decode_eq_flatMap (h : '%' ∉ cs) : decode cs = cs.flatMap String.utf8EncodeChar := by
  induction cs with
  | nil => rfl
  | cons c cs ih =>
      obtain ⟨hc, hcs⟩ := List.ne_and_not_mem_of_not_mem_cons h
      rw [decode, ih hcs, List.flatMap_cons]
      rintro a b rest rfl
      exact absurd rfl hc

theorem text?_eq_some (h : '%' ∉ cs) : text? cs = some (String.ofList cs) := by
  have hbytes : (⟨(decode cs).toArray⟩ : ByteArray) = (String.ofList cs).toByteArray := by
    rw [decode_eq_flatMap h]
    exact ByteArray.ext List.data_toByteArray.symm
  rw [text?, hbytes, String.fromUTF8?, dif_pos (String.ofList cs).isValidUTF8]
  rfl

theorem formText?_eq_some (plain : Plain cs) : formText? cs = some (String.ofList cs) := by
  have hsame : (cs.map fun c => if c = '+' then ' ' else c) = cs.map id :=
    List.map_congr_left fun c hc => if_neg (ne_of_mem_of_not_mem hc plain.2.1)
  rw [formText?, hsame, List.map_id, text?_eq_some plain.1]

/-- A field as it is written. -/
def writtenField (field : List Char × List Char) : List Char := field.1 ++ '=' :: field.2

/-- A query as it is written. -/
def written (fields : List (List Char × List Char)) : List Char :=
  ['&'].intercalate (fields.map writtenField)

theorem field_writtenField (plain : Plain name) :
    field (writtenField (name, value)) = (name, value) := by
  rw [field, writtenField, Split.first_append_cons plain.2.2.2]
  rfl

theorem not_mem_writtenField (plainName : Plain name) (plain : Plain value) :
    '&' ∉ writtenField (name, value) := by
  simp [writtenField, plainName.2.2.1, plain.2.2.1]

/-- A query of plain fields is read as these fields. -/
theorem fields_written {all : List (List Char × List Char)} (present : all ≠ [])
    (plain : ∀ field ∈ all, Plain field.1 ∧ Plain field.2) :
    fields (written all) =
      all.map fun field => (some (String.ofList field.1), some (String.ofList field.2)) := by
  have cuts : Split.Cuts '&' (written all) (all.map writtenField) := by
    refine ⟨by simpa using present, ?_, rfl⟩
    rw [List.forall_mem_map]
    intro field hfield
    exact not_mem_writtenField (plain field hfield).1 (plain field hfield).2
  have hfilled : ((all.map writtenField).filter fun piece => !piece.isEmpty) =
      all.map writtenField := by
    rw [List.filter_eq_self, List.forall_mem_map]
    exact fun field _ => by simp [writtenField]
  rw [fields, Split.every_eq_iff_cuts.mpr cuts, hfilled, List.map_map]
  refine List.map_congr_left fun written hwritten => ?_
  obtain ⟨plainName, plainValue⟩ := plain written hwritten
  simp only [Function.comp_apply, field_writtenField plainName, formText?_eq_some plainName,
    formText?_eq_some plainValue]

end Percent

namespace HttpRequest

/-- The request for a page of the followed servers. -/
def listing (page : PageRequest) : HttpRequest where
  method := "GET"
  uri := ⟨[], none, "/api/v1/instances".toList, some (Percent.written
    [("page".toList, Digits.render page.page), ("per_page".toList, Digits.render page.perPage)])⟩
  headers := []
  body := ""
  handover := none

variable {request : HttpRequest} {name value : String} {usual n : Nat}

theorem number_eq_ok (written : (Percent.fields (request.uri.query.getD [])).filter
      (fun field => field.1 = some name) = [(some name, some value)])
    (signed : Digits.Signed PageRequest.bound value.toList n) :
    request.number name usual = .ok n := by
  simp [number, written, Digits.readSigned?_eq_some_iff.mpr signed]

/-- Such a request asks for its page. -/
theorem page_listing {page : PageRequest} (fits : page.page < PageRequest.bound)
    (fitsToo : page.perPage < PageRequest.bound) : (listing page).page = .ok page := by
  have hfields : Percent.fields ((listing page).uri.query.getD []) =
      [(some "page", some (String.ofList (Digits.render page.page))),
        (some "per_page", some (String.ofList (Digits.render page.perPage)))] := by
    have hnames : Percent.Plain "page".toList ∧ Percent.Plain "per_page".toList := by decide
    refine (Percent.fields_written (List.cons_ne_nil _ _) ?_).trans (by simp)
    rw [List.forall_mem_cons, List.forall_mem_singleton]
    exact ⟨⟨hnames.1, Percent.plain_render _⟩, ⟨hnames.2, Percent.plain_render _⟩⟩
  have signed {n : Nat} (h : n < PageRequest.bound) :
      Digits.Signed PageRequest.bound (String.ofList (Digits.render n)).toList n := by
    rw [String.toList_ofList]
    exact .plain (Digits.numeral_render h)
  have hpage {usual : Nat} : (listing page).number "page" usual = .ok page.page :=
    number_eq_ok (by rw [hfields]; simp) (signed fits)
  have hperPage {usual : Nat} : (listing page).number "per_page" usual = .ok page.perPage :=
    number_eq_ok (by rw [hfields]; simp) (signed fitsToo)
  simp only [HttpRequest.page, hpage, hperPage]
  rfl

end HttpRequest

end Flotilla
