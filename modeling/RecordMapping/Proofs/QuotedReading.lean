/-
Module: RecordMapping.Proofs.QuotedReading
Purpose: Quoted identifiers read back from the text that they stand in.
Main exports: Quotes.readName, Quotes.read, Quotes.read_quote
-/
import RecordMapping.Text.Quoted

namespace RecordMapping.Text.Quotes

/-!
The rule by which an engine reads a quoted identifier does not mention how one
is written: behind the opening quote, a doubled closing quote stands for one,
and the first that is not doubled ends the identifier.
-/

/-- The characters of an identifier, read from behind its opening quote, and the
text behind its closing quote. -/
def readName (quotes : Quotes) : List Char → Option (List Char × List Char)
  | [] => none
  | character :: rest =>
      if character = quotes.closing then
        match rest with
        | [] => some ([], [])
        | next :: after =>
            if next = quotes.closing then
              (quotes.readName after).map fun (name, tail) => (next :: name, tail)
            else some ([], next :: after)
      else (quotes.readName rest).map fun (name, tail) => (character :: name, tail)

/-- An identifier at the beginning of a text, and the text behind it. -/
def read (quotes : Quotes) : List Char → Option (String × List Char)
  | [] => none
  | character :: rest =>
      if character = quotes.opening then
        (quotes.readName rest).map fun (name, tail) => (String.ofList name, tail)
      else none

/-- The characters of an identifier as they are written between the quotes. -/
def doubled (quotes : Quotes) (identifier : List Char) : List Char :=
  identifier.flatMap fun character =>
    if character = quotes.closing then [character, character] else [character]

/-- The closing quote ends the identifier only where no other one follows it. -/
theorem readName_doubled (quotes : Quotes) (identifier : List Char) {tail : List Char}
    (clear : tail.head? ≠ some quotes.closing) :
    quotes.readName (quotes.doubled identifier ++ quotes.closing :: tail) =
      some (identifier, tail) := by
  induction identifier with
  | nil =>
      cases tail with
      | nil => simp [doubled, readName]
      | cons next after =>
          have apart : next ≠ quotes.closing := by simpa using clear
          simp [doubled, readName, apart]
  | cons character rest inductionHypothesis =>
      by_cases closes : character = quotes.closing
      · have written : quotes.doubled (character :: rest) =
            character :: character :: quotes.doubled rest := by
          simp [doubled, closes]
        rw [written, List.cons_append, List.cons_append, readName, if_pos closes]
        simp [closes, inductionHypothesis]
      · have written : quotes.doubled (character :: rest) =
            character :: quotes.doubled rest := by
          simp [doubled, closes]
        rw [written, List.cons_append, readName.eq_def]
        simp [closes, inductionHypothesis]

/-- An identifier is read back from its quotation, and nothing behind it is
taken, unless what follows continues the closing quote. -/
theorem read_quote (quotes : Quotes) (identifier : String) {tail : List Char}
    (clear : tail.head? ≠ some quotes.closing) :
    quotes.read ((quotes.quote identifier).toList ++ tail) = some (identifier, tail) := by
  have letters : (quotes.quote identifier).toList ++ tail =
      quotes.opening :: (quotes.doubled identifier.toList ++ quotes.closing :: tail) := by
    simp [quote, quoteList, doubled]
  rw [letters, read, if_pos rfl, readName_doubled quotes _ clear]
  simp

end RecordMapping.Text.Quotes
