/-
Module: RecordMapping.Sqlite.Token
Purpose: The tokens of SQL scripts, and scripts cut into statements.
Main exports: Token, Token.spelling, Token.readings, Token.lex, Token.firstStatement,
  Token.statements
-/
import RecordMapping.Text.Column

namespace RecordMapping.Sqlite

/-!
Blanks and comments separate tokens and are otherwise of no account.  A
semicolon ends a statement and belongs to it, since a statement that ends too
early is told apart by what it ends with.  A statement without tokens is none.

Characters that begin no token end the reading: the statement before them is
never completed, and no later statement is reached.
-/

/-- A token of SQL. -/
inductive Token where
  /-- A keyword or a plain identifier. -/
  | word (spelling : String)
  /-- An identifier between double quotes. -/
  | quoted (name : String)
  | parameter
  /-- A punctuation mark. -/
  | mark (character : Char)
  /-- A numeral, which no statement here has a place for. -/
  | numeral (spelling : String)
  /-- The end of a statement. -/
  | stop
  /-- The rest of a text that begins with no token. -/
  | unknown (spelling : String)
deriving Repr, DecidableEq

namespace Token

/-- An identifier between double quotes, each inner one written twice. -/
def quotedSpelling (name : String) : String :=
  String.ofList
    ('\x22' :: name.toList.flatMap (fun character =>
      if character = '\x22' then ['\x22', '\x22'] else [character]) ++ ['\x22'])

/-- A token as it is written. -/
def spelling : Token → String
  | .word spelling => spelling
  | .quoted name => quotedSpelling name
  | .parameter => "?"
  | .mark character => String.ofList [character]
  | .numeral spelling => spelling
  | .stop => ";"
  | .unknown spelling => spelling

/-- Whether a token is a keyword, in any ASCII case. -/
def isKeyword (keyword : String) : Token → Bool
  | .word spelling => Text.sameColumn spelling keyword
  | _ => false

/-- The characters that separate tokens. -/
def isSpace (character : Char) : Bool :=
  character ∈ [' ', '\t', '\n', '\x0c', '\r']

/-- The characters that a word begins with. -/
def beginsWord (character : Char) : Bool :=
  character.isAlpha || character == '_' || 0x80 ≤ character.toNat

/-- The characters that a word consists of. -/
def continuesWord (character : Char) : Bool :=
  beginsWord character || character.isDigit || character == '$'

/-- The punctuation of the statements here. -/
def marks : List Char := ['(', ')', ',', '.', '=', '*']

/-- The text behind the end of a comment; a comment may be left open at the end
of the script. -/
def afterComment : List Char → List Char
  | '*' :: '/' :: rest => rest
  | [] => []
  | _ :: rest => afterComment rest

/-- The name up to the closing quote, and the text behind it. -/
def readQuoted : List Char → Option (List Char × List Char)
  | '\x22' :: '\x22' :: rest =>
      (readQuoted rest).map fun (name, after) => ('\x22' :: name, after)
  | '\x22' :: rest => some ([], rest)
  | [] => none
  | character :: rest =>
      (readQuoted rest).map fun (name, after) => (character :: name, after)

theorem length_afterComment (text : List Char) :
    (afterComment text).length ≤ text.length := by
  fun_induction afterComment text with
  | case1 => grind
  | case2 => simp
  | case3 => grind

theorem length_readQuoted {text name after : List Char}
    (found : readQuoted text = some (name, after)) : after.length < text.length := by
  fun_induction readQuoted text generalizing name after with
  | case1 rest inductionHypothesis =>
      obtain ⟨⟨inner, tail⟩, read, pair⟩ := Option.map_eq_some_iff.mp found
      cases pair
      have shorter := inductionHypothesis read
      grind
  | case2 => grind
  | case3 => cases found
  | case4 character rest _ _ inductionHypothesis =>
      obtain ⟨⟨inner, tail⟩, read, pair⟩ := Option.map_eq_some_iff.mp found
      cases pair
      have shorter := inductionHypothesis read
      grind

theorem length_dropWhile (keeps : Char → Bool) (text : List Char) :
    (text.dropWhile keeps).length ≤ text.length :=
  (List.dropWhile_sublist keeps).length_le

/-- The tokens of a text, each with the text behind it. -/
def readings (text : List Char) : List (Token × List Char) :=
  match text with
  | [] => []
  | '-' :: '-' :: rest => readings (rest.dropWhile (· != '\n'))
  | '/' :: '*' :: rest => readings (afterComment rest)
  | character :: rest =>
      if isSpace character then readings rest
      else if beginsWord character then
        (.word (String.ofList (character :: rest.takeWhile continuesWord)),
          rest.dropWhile continuesWord) :: readings (rest.dropWhile continuesWord)
      else if character.isDigit then
        (.numeral (String.ofList (character :: rest.takeWhile continuesWord)),
          rest.dropWhile continuesWord) :: readings (rest.dropWhile continuesWord)
      else if character = '\x22' then
        match _found : readQuoted rest with
        | some (name, after) => (.quoted (String.ofList name), after) :: readings after
        | none => [(.unknown (String.ofList (character :: rest)), [])]
      else if character = '?' then (.parameter, rest) :: readings rest
      else if character = ';' then (.stop, rest) :: readings rest
      else if marks.contains character then (.mark character, rest) :: readings rest
      else [(.unknown (String.ofList [character]), [])]
termination_by text.length
decreasing_by
  · have shorter := length_dropWhile (· != '\n') rest
    simp only [List.length_cons]
    omega
  · have shorter := length_afterComment rest
    simp only [List.length_cons]
    omega
  · simp
  · have shorter := length_dropWhile continuesWord rest
    simp only [List.length_cons]
    omega
  · have shorter := length_dropWhile continuesWord rest
    simp only [List.length_cons]
    omega
  · have shorter := length_readQuoted _found
    simp only [List.length_cons]
    omega
  · simp
  · simp
  · simp

/-- The tokens of a text. -/
def lex (text : List Char) : List Token := (readings text).map (·.1)

/-- The tokens up to the end of the first statement, and the text behind them. -/
def firstStatement (text : List Char) : List Token × List Char :=
  let (front, back) := (readings text).span (·.1 != .stop)
  match back with
  | [] => (front.map (·.1), [])
  | (ending, behind) :: _ => (front.map (·.1) ++ [ending], behind)

/-- The tokens of each statement, those in `begun` being read already, the last
first. -/
def statementsFrom (begun : List Token) : List Token → List (List Token)
  | [] => if begun.isEmpty then [] else [begun.reverse]
  | .stop :: rest =>
      if begun.isEmpty then statementsFrom [] rest
      else (Token.stop :: begun).reverse :: statementsFrom [] rest
  | token :: rest => statementsFrom (token :: begun) rest

/-- The tokens of each statement of a script. -/
def statements (script : String) : List (List Token) :=
  statementsFrom [] (lex script.toList)

end Token

end RecordMapping.Sqlite
