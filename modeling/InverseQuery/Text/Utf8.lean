import InverseQuery.Octets

/-! Text as octets in UTF-8; octets that are not well-formed UTF-8 are no text. -/

namespace InverseQuery.Text

def decodeUtf8? (octets : Octets) : Option String := String.fromUTF8? ⟨octets.toArray⟩

def encodeUtf8 (text : String) : Octets := text.toUTF8.data.toList

/-- Octets are decoded exactly to the text that is encoded by them. -/
theorem decodeUtf8?_eq_some_iff {octets : Octets} {text : String}
    : decodeUtf8? octets = some text ↔ octets = encodeUtf8 text := by
  unfold decodeUtf8? String.fromUTF8?
  constructor
  · intro h
    split at h
    next valid =>
      obtain rfl := Option.some.inj h
      rfl
    next => cases h
  · intro h
    obtain rfl := h
    exact dif_pos text.isValidUTF8

theorem decodeUtf8?_encodeUtf8 (text : String) : decodeUtf8? (encodeUtf8 text) = some text :=
  decodeUtf8?_eq_some_iff.mpr rfl

end InverseQuery.Text
