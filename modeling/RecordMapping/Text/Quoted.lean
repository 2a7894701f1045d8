/-
Module: RecordMapping.Text.Quoted
Purpose: Characters replaced in a text, and identifiers between quotes.
Main exports: substitute, Quotes, Quotes.quote
-/

namespace RecordMapping.Text

/-!
An identifier between quotes may hold any character.  The closing quote is
written twice inside, so the first closing quote that is not doubled is the
end of the identifier.
-/

/-- The text with every occurrence of a character replaced by a text. -/
def substitute (search : Char) (replacement : String) (text : String) : String :=
  String.ofList (text.toList.flatMap fun character =>
    if character = search then replacement.toList else [character])

/-- The characters that open and close a quoted identifier. -/
structure Quotes where
  opening : Char
  closing : Char
deriving Repr, DecidableEq

/-- The characters of an identifier between quotes. -/
def Quotes.quoteList (quotes : Quotes) (identifier : List Char) : List Char :=
  quotes.opening ::
    identifier.flatMap (fun character =>
      if character = quotes.closing then [character, character] else [character]) ++
    [quotes.closing]

/-- An identifier between quotes. -/
def Quotes.quote (quotes : Quotes) (identifier : String) : String :=
  String.ofList (quotes.quoteList identifier.toList)

/-- Inside the quotes, each closing quote of the identifier is replaced by two. -/
theorem Quotes.quote_eq_substitute (quotes : Quotes) (identifier : String) :
    quotes.quote identifier =
      String.singleton quotes.opening ++
        substitute quotes.closing (String.ofList [quotes.closing, quotes.closing])
          identifier ++
        String.singleton quotes.closing := by
  apply String.toList_inj.mp
  simp only [Quotes.quote, Quotes.quoteList, substitute, String.toList_ofList,
    String.toList_append, String.toList_singleton, List.cons_append, List.nil_append]
  congr 2
  apply congrArg (fun f => List.flatMap f identifier.toList)
  funext character
  split
  · rename_i same
    subst same
    rfl
  · rfl

/-- A quoted identifier is never the empty text, even if the identifier is. -/
theorem Quotes.quote_ne_empty (quotes : Quotes) (identifier : String) :
    quotes.quote identifier ≠ "" := by
  intro blank
  have letters := congrArg String.toList blank
  simp [Quotes.quote, Quotes.quoteList] at letters

end RecordMapping.Text
