/-
Module: RecordMapping.Text.Excerpt
Purpose: Bounded excerpts of long texts, for messages.
Main exports: cutAt, excerptLimit, excerpt
-/
import RecordMapping.Text.Blank

namespace RecordMapping.Text

/-!
A statement or a parameter list quoted in a message must not make the message
unreadable.  Lengths are counted in UTF-8 bytes and a cut never splits a
character, so an excerpt is itself well-formed text.
-/

/-- The longest run of leading characters that needs at most `room` bytes. -/
def fitting : Nat → List Char → List Char
  | _, [] => []
  | room, character :: rest =>
      if character.utf8Size ≤ room then
        character :: fitting (room - character.utf8Size) rest
      else []

/-- The longest leading part of `text` of at most `limit` bytes that ends
between two characters. -/
def cutAt (text : String) (limit : Nat) : String :=
  String.ofList (fitting limit text.toList)

/-- The number of bytes an excerpt keeps of a longer text. -/
def excerptLimit : Nat := 497

/-- The text cut to `excerptLimit` bytes, without trailing blanks; three
dots mark that something was cut off. -/
def excerpt (text : String) : String :=
  trimEnd (cutAt text excerptLimit) ++
    if excerptLimit < text.utf8ByteSize then "..." else ""

/-- An excerpt's kept part is the beginning of the text. -/
theorem fitting_isPrefix (room : Nat) (text : List Char) :
    fitting room text <+: text := by
  induction text generalizing room with
  | nil => exact List.prefix_refl []
  | cons character rest inductionHypothesis =>
      unfold fitting
      split
      · exact (List.cons_prefix_cons).mpr ⟨rfl, inductionHypothesis _⟩
      · exact List.nil_prefix

end RecordMapping.Text
