import Flotilla.Viewer.Envelope
import Flotilla.Proofs.Wire.Event

/-!
# Events on the wire

What the gateway tells of an event is enough to have the event back: from the text of the event,
from the payload of its envelope and from the text of the envelope. Keeping a payload sorts the
members of its objects, and that loses nothing either.

Many texts are read as one event. Writing the event brings them all to the same text, which is read
as the event again, so what is written of events is canonical.
-/

namespace Flotilla

namespace Envelope

variable (id : String) (sent : Instant) (event : Event)

/-- The envelope of an event is read with the payload in the form in which values are kept. -/
theorem decodeText_ofEvent :
    decodeText decode (ofEvent id sent event).toJson.text =
      .ok ⟨id, .event, sent, event.toJson.sorted⟩ := by
  have hpayload : event.toJson.isProper 126 = true := event.isProper_toJson 122
  have hproper : (ofEvent id sent event).toJson.isProper maxDepth = true := by
    refine Json.isProper_obj_iff.mpr ⟨126, rfl, by simp, ?_⟩
    simp [Json.haveProper_iff, Json.isProper, Instant.toJson, ofEvent, hpayload]
  have hid : Decoder.string 126 (Json.str id).surface = .ok id :=
    Decoder.reads_string id _ (.same _)
  have hkind : MessageKind.decode 126 (Json.str MessageKind.event.name).surface = .ok .event := rfl
  have htime := sent.reads_decode 126 _ (.same _)
  have hjson := Decoder.json_surface event.toJson hpayload
  have hread : Row.read columns 127 (ofEvent id sent event).toJson.surface =
      .ok (Row.ofJson 126 [("id", .str id), ("type", .str MessageKind.event.name),
        ("timestamp", sent.toJson), ("payload", event.toJson)]) := by
    refine Row.read_obj (by simp) ?_
    simp only [List.forall_mem_cons]
    exact ⟨⟨_, rfl, Column.check_required hid⟩, ⟨_, rfl, Column.check_required hkind⟩,
      ⟨_, rfl, Column.check_required htime⟩, ⟨_, rfl, Column.check_required hjson⟩, nofun⟩
  rw [decodeText, Json.text, String.toList_ofList, Document.read_render hproper]
  simp only [decode, maxDepth, bind, Except.bind, hread]
  simp [Row.required, Row.cell?, Row.ofJson, hid, hkind, htime, hjson, pure, Except.pure]

end Envelope

namespace Event

variable (event other : Event) (now : Instant)

theorem decodeText_text : decodeText (decode now) event.toJson.text = .ok event :=
  event.decodeText_arranged now (.same _)

theorem toJson_text_inj : event.toJson.text = other.toJson.text ↔ event = other := by
  constructor
  · intro h
    have hother := other.decodeText_text event.time
    rw [← h, event.decodeText_text] at hother
    exact Except.ok.inj hother
  · rintro rfl
    rfl

/-- Events survive the wire. The text of an event and the payload of its envelope are read as the
event, whether the payload is taken as it was made or as it is kept once the text of the envelope
has been read. Reading a text, writing what was read and reading that gives the event of the first
reading, and different events have different texts. -/
theorem survives_wire :
    decodeText (decode now) event.toJson.text = .ok event ∧
      (∀ id sent,
        decodeText (decode now) (Envelope.ofEvent id sent event).payload.text = .ok event ∧
        decodeText Envelope.decode (Envelope.ofEvent id sent event).toJson.text =
          .ok ⟨id, .event, sent, (Envelope.ofEvent id sent event).payload.sorted⟩ ∧
        decodeText (decode now) (Envelope.ofEvent id sent event).payload.sorted.text = .ok event) ∧
      (∀ text earlier,
        (decodeText (decode earlier) text).bind
          (fun event => decodeText (decode now) event.toJson.text) =
          decodeText (decode earlier) text) ∧
      ∀ other : Event, event.toJson.text = other.toJson.text ↔ event = other := by
  have hsorted := Json.arranges_sorted event.toJson (event.isProper_toJson 0)
  refine ⟨event.decodeText_text now, fun id sent => ⟨event.decodeText_text now,
    Envelope.decodeText_ofEvent id sent event, event.decodeText_arranged now hsorted⟩, ?_,
    event.toJson_text_inj⟩
  intro text earlier
  cases decodeText (decode earlier) text with
  | error fault => rfl
  | ok other => exact other.decodeText_text now

end Event

end Flotilla
