import Flotilla.Proofs.Settings.Validation
import Flotilla.Proofs.Text.Filling
import Flotilla.Proofs.Wire.Identifier

/-!
# Endpoints of servers

Every template that settings are read with has a place for the identifier, so that each server has
an endpoint of its own. The identifier stands wherever the template has the mark, and nowhere in an
endpoint is there a mark left.
-/

namespace Flotilla

namespace Endpoint

/-- No mark begins or ends in an identifier, which has neither braces nor an `i`. -/
theorem inert_render (server : ServerId) : Placeholder.Inert mark server.render where
  begins c hc hmem := by
    obtain rfl : '\x7b' = c := Option.some.inj hc
    rcases Id.eq_or_isHex_of_mem_render hmem with h | h
    · exact absurd h (by decide)
    · exact h.not_prefix.1 rfl
  ends c hc hmem := by
    obtain rfl : '\x7d' = c := Option.some.inj hc
    rcases Id.eq_or_isHex_of_mem_render hmem with h | ⟨n, hn, h⟩
    · exact absurd h (by decide)
    · have hdigits : ∀ n < 16, Json.hexDigit n ≠ '\x7d' := by decide
      exact hdigits n hn h.symm
  long := by
    rw [Id.length_render]
    decide

end Endpoint

namespace Settings

variable {lookup : String → Option String} {settings : Settings}

/-- Whatever template the settings are read with, servers have the same endpoint only if they are
the same. The template falls into parts with the mark between them, and each endpoint is these parts
with the identifier between them; the mark occurs in the template nowhere else, and in the endpoints
nowhere at all. -/
theorem endpoints_distinct (accepted : read lookup = .ok settings) :
    (∀ a b, settings.endpointOf a = settings.endpointOf b ↔ a = b) ∧
    (∃ parts, Placeholder.Parts Endpoint.mark settings.template.toList parts ∧ 2 ≤ parts.length ∧
      ∀ server, (settings.endpointOf server).toList = server.render.intercalate parts) ∧
    ∀ server, ¬Endpoint.mark <:+: (settings.endpointOf server).toList := by
  have unique : '\x7b' ∉ ['i', 'd', '\x7d'] := by decide
  obtain ⟨parts, hparts, hfill⟩ := Placeholder.exists_parts unique settings.template.toList
  have two := hparts.two_le_length (read_eq_ok_iff.mp accepted).marked
  have hendpoint (server : ServerId) :
      (settings.endpointOf server).toList = server.render.intercalate parts := by
    rw [endpointOf, Endpoint.ofTemplate, String.toList_ofList, hfill]
  refine ⟨fun a b => ⟨fun heq => ?_, fun heq => heq ▸ rfl⟩, ⟨parts, hparts, two, hendpoint⟩,
    fun server => ?_⟩
  · have hlength : a.render.length = b.render.length := by rw [Id.length_render, Id.length_render]
    have hjoined := congrArg String.toList heq
    rw [hendpoint, hendpoint] at hjoined
    have hrender := Placeholder.eq_of_intercalate_eq two hlength hjoined
    exact Id.text_injective (congrArg String.ofList hrender)
  · rw [hendpoint]
    exact (Endpoint.inert_render server).not_infix_intercalate hparts.present hparts.apart

end Settings

namespace Sample

/-- A template with braces around its marks, where the text that is left looks like a mark. -/
def braced : String := "ws://\x7b\x7bid\x7did\x7d.\x7bi\x7bid\x7d\x7d"

/-- Two servers of which one has an identifier that begins with a `d`. -/
def digital : ServerId := ⟨6, by decide⟩

def lettered : ServerId := ⟨Nat.pow 2 128 - 1 - Nat.pow 2 125, by decide⟩

end Sample

namespace Settings

theorem endpoints_distinct_sample : ∃ settings,
    read (Function.update (fun _ => none) "MANAGEMENT_URL_TEMPLATE" (some Sample.braced)) =
        .ok settings ∧
      settings.template = Sample.braced ∧
      settings.endpointOf Sample.digital ≠ settings.endpointOf Sample.lettered ∧
      ¬Endpoint.mark <:+: (settings.endpointOf Sample.lettered).toList := by
  obtain ⟨settings, accepted, htemplate⟩ : ∃ settings,
      read (Function.update (fun _ => none) "MANAGEMENT_URL_TEMPLATE" (some Sample.braced)) =
        .ok settings ∧ settings.template = Sample.braced := ⟨_, rfl, rfl⟩
  obtain ⟨distinct, -, unmarked⟩ := endpoints_distinct accepted
  exact ⟨settings, accepted, htemplate, fun heq => absurd ((distinct _ _).mp heq) (by decide),
    unmarked _⟩

end Settings

end Flotilla
