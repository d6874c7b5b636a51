/-!
# UTF-8: text as bytes, and the byte order of texts

Texts arrive as bytes and are compared as bytes: label names are ordered by their UTF-8 encoding, and a text field whose bytes
are no valid encoding is refused.
-/

namespace Intake

namespace Utf8

/-- The encoding of a text. -/
def bytes (s : String) : List UInt8 := s.toUTF8.data.toList

/-- The text that the bytes encode, if they are a valid encoding. -/
def decode? (bs : List UInt8) : Option String := String.fromUTF8? ⟨bs.toArray⟩

/-- Strict order by encoded bytes. -/
def before (a b : String) : Bool := decide (bytes a < bytes b)

/-- Order by encoded bytes. -/
def atMost (a b : String) : Bool := !before b a

end Utf8

end Intake
