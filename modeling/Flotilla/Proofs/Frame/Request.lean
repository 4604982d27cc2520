import Mathlib.Data.Int.CharZero
import Flotilla.Proofs.Frame.Classification

/-!
# Requests on the wire

A request is written as an object with a version, its number, its method and, if it has any, its
parameters. Reading the object gives all of this back, so that two requests are written alike only
if they are the same. Taken for a frame, the text of a request is the error that names its method,
whatever the method and the parameters are: a gateway that hears its own voice notices.
-/

namespace Flotilla

namespace Request

variable {request other : Request}

/-- A request that can be sent and read: its number has 64 bits, and its parameters hold no doubles
and are nested no deeper than a value inside an object may be. -/
structure Sendable (request : Request) : Prop where
  small : request.id < Frame.idBound
  proper : ∀ params ∈ request.params, params.isProper 126 = true

/-- The members of a written request. -/
def members (request : Request) : List (Tree × Tree) :=
  [(.text (some "jsonrpc"), .text (some "2.0")), (.text (some "id"), .number (.ofInt request.id)),
    (.text (some "method"), .text (some request.method))] ++
    (request.params.map fun params => (.text (some "params"), params.surface)).toList

/-- The members of a request as they are kept, by ascending name. -/
def kept (request : Request) : List (String × Json) :=
  [("id", .nat request.id), ("jsonrpc", .str "2.0"), ("method", .str request.method)] ++
    (request.params.map fun params => ("params", params.sorted)).toList

theorem surface_toJson (request : Request) :
    request.toJson.surface = .object request.members true := by
  obtain ⟨id, method, _ | params⟩ := request <;> rfl

theorem sorted_toJson (request : Request) : request.toJson.sorted = .obj request.kept := by
  have hid : "id" < "jsonrpc" ∧ ¬"jsonrpc" < "id" := by decide
  have hmethod : ¬"method" < "id" ∧ "id" < "method" ∧ ¬"method" < "jsonrpc" ∧
      "jsonrpc" < "method" := by decide
  have hparams : ¬"params" < "id" ∧ "id" < "params" ∧ ¬"params" < "jsonrpc" ∧ "jsonrpc" < "params" ∧
      ¬"params" < "method" ∧ "method" < "params" := by decide
  obtain ⟨id, method, _ | params⟩ := request <;>
    simp [toJson, kept, Json.record, Json.nat, Json.sorted, Json.sortedMembers, Json.object,
      Json.setMember, Index.insertEntry, hid, hmethod, hparams]

theorem toJson_inj (h : request.toJson = other.toJson) : request = other := by
  obtain ⟨id, method, params⟩ := request
  obtain ⟨otherId, otherMethod, otherParams⟩ := other
  cases params <;> cases otherParams <;>
    simp_all [toJson, Json.record, Json.nat]

namespace Sendable

theorem isProper (h : request.Sendable) : request.toJson.isProper maxDepth = true := by
  obtain ⟨small, proper⟩ := h
  have hid : (Json.nat request.id).isProper 126 = true := by
    have hbound : request.id < 18446744073709551616 := small
    simp only [Json.nat, Json.isProper, Bool.and_eq_true, decide_eq_true_eq]
    omega
  refine Json.isProper_obj_iff.mpr ⟨126, rfl, ?_, ?_⟩
  · cases request.params <;> simp
  · rw [Json.haveProper_iff]
    intro member hmem
    rcases List.mem_append.mp hmem with hmem | hmem
    · simp only [List.mem_cons, List.not_mem_nil, or_false] at hmem
      rcases hmem with rfl | rfl | rfl
      · rfl
      · exact hid
      · rfl
    · obtain ⟨params, hparams, rfl⟩ := Option.map_eq_some_iff.mp (Option.mem_toList.mp hmem)
      exact proper params hparams

/-- A request is written as the object of its members. -/
theorem item_text (h : request.Sendable) :
    Tree.Item request.text.toList (.object request.members true) := by
  rw [text, Json.text, String.toList_ofList, ← surface_toJson]
  exact (Tree.value_render _ h.isProper).item

/-- The number of a request is read back. -/
theorem numbers_id (h : request.Sendable) :
    Frame.Numbers (.number (.ofInt request.id)) (some request.id) := by
  have plain : (Numeral.ofInt request.id).Plain request.id :=
    ⟨by simp [Numeral.ofInt], rfl, rfl, by simp [Numeral.ofInt]⟩
  exact .present plain h.small

theorem not_spoilt (h : request.Sendable) : ¬Frame.Spoilt request.members := by
  have hgiven : Tree.given "id" request.members = [.number (.ofInt request.id)] ∧
      Tree.given "method" request.members = [.text (some request.method)] ∧
      Tree.given "result" request.members = [] ∧ Tree.given "error" request.members = [] := by
    cases hparams : request.params <;> simp [members, Tree.given, hparams]
  obtain ⟨hid, hmethod, hresult, herror⟩ := hgiven
  intro spoilt
  cases spoilt with
  | unnamed hmem => cases hparams : request.params <;> simp [members, hparams] at hmem
  | repeated hname hrepeated =>
      simp only [Frame.memberNames, List.mem_cons, List.not_mem_nil, or_false] at hname
      rcases hname with rfl | rfl | rfl | rfl <;> simp_all
  | number htree other =>
      rw [hid, List.mem_singleton] at htree
      exact other _ (htree ▸ h.numbers_id)
  | method htree other =>
      rw [hmethod, List.mem_singleton] at htree
      exact other _ (htree ▸ Frame.Names.present)
  | value hname htree => rcases hname with rfl | rfl <;> simp_all

end Sendable

/-- What is sent is what was meant. The text of a request is the object of its members, all of which
are read back from it; as a frame it is the error that names the method; and other requests have
other texts. -/
theorem text_faithful (h : request.Sendable) :
    Tree.Item request.text.toList (.object request.members true) ∧
      decodeText Decoder.json request.text = .ok (.obj request.kept) ∧
      Frame.decode request.text = .error (.request request.method) ∧
      (FrameError.request request.method).message =
        "unexpected request " ++ request.method ++ " from instance" ∧
      ∀ other : Request, other.Sendable → (request.text = other.text ↔ request = other) := by
  refine ⟨h.item_text, ?_, ?_, rfl, fun other hother => ⟨fun htext => ?_, fun heq => heq ▸ rfl⟩⟩
  · rw [decodeText_of_item Decoder.json h.item_text, ← surface_toJson, ← sorted_toJson]
    exact Decoder.json_surface _ h.isProper
  · have hsaid : Tree.said "id" request.members = .number (.ofInt request.id) ∧
        Tree.said "method" request.members = .text (some request.method) := ⟨rfl, rfl⟩
    exact (Frame.decode_eq_iff h.item_text).mpr (.request h.not_spoilt
      (hsaid.1 ▸ h.numbers_id) (hsaid.2 ▸ .present))
  · exact toJson_inj (Json.text_inj h.isProper hother.isProper htext)

/-- A request with a quote and a line end in its method and with parameters. -/
theorem text_faithful_sample :
    Frame.decode (Request.text ⟨7, "a\"\n", some (.arr [.null, .int (-1)])⟩) =
      .error (.request "a\"\n") :=
  (text_faithful ⟨by decide, by simp [Json.isProper, Json.areProper]⟩).2.2.1

end Request

end Flotilla
