/-
Module: RecordMapping.Json.Token
Purpose: JSON text cut into tokens.
Main exports: Numeral, Token, Token.lex
-/
import RecordMapping.Text.Digits

namespace RecordMapping.Json

/-!
Tokens are found in bytes, because a document may hold text that is not
well-formed UTF-8 and still has to be checked up to its end.  A token keeps
texts and numerals as they are written; what they denote is decided where a
value is wanted, and never for a member that nobody asks for.
-/

/-- A numeral as written: the digits of its parts, without their values
combined. -/
structure Numeral where
  negative : Bool
  whole : List Nat
  fraction : Option (List Nat)
  exponent : Option Int
deriving Repr, DecidableEq

/-- The tokens of JSON text. -/
inductive Token where
  | openList
  | closeList
  | openObject
  | closeObject
  | colon
  | comma
  | null
  | truth (flag : Bool)
  | numeral (numeral : Numeral)
  /-- The bytes between two quotes, escapes included. -/
  | text (written : List UInt8)
deriving Repr, DecidableEq

/-- The byte of an ASCII character. -/
def byteOf (character : Char) : UInt8 := character.toNat.toUInt8

/-- The four characters that may stand between tokens. -/
def isSpace (byte : UInt8) : Bool :=
  byte == 0x20 || byte == 0x09 || byte == 0x0A || byte == 0x0D

/-- Whether a byte is a decimal digit. -/
def isDigit (byte : UInt8) : Bool := 0x30 ≤ byte && byte ≤ 0x39

/-- Whether a byte is a hexadecimal digit. -/
def isHexDigit (byte : UInt8) : Bool :=
  (Text.hexValue? (Char.ofNat byte.toNat)).isSome

/-- Whether a byte can occur in a numeral.  No byte of this class can follow a
complete numeral, so the longest run of them is the numeral or an error. -/
def isNumeralByte (byte : UInt8) : Bool :=
  isDigit byte || byte == 0x2B || byte == 0x2D || byte == 0x2E ||
    byte == 0x45 || byte == 0x65

/-- The values of digits; nothing when there is none. -/
def digitValues? (bytes : List UInt8) : Option (List Nat) :=
  if bytes.isEmpty || !bytes.all isDigit then none
  else some (bytes.map fun byte => byte.toNat - 0x30)

namespace Numeral

/-- The exponent after its mark. -/
def readExponent : List UInt8 → Option Int
  | 0x2B :: digits =>
      (digitValues? digits).map fun values => (Text.natOfDigits 10 values : Int)
  | 0x2D :: digits =>
      (digitValues? digits).map fun values => -(Text.natOfDigits 10 values : Int)
  | digits =>
      (digitValues? digits).map fun values => (Text.natOfDigits 10 values : Int)

/-- A numeral after its sign: a whole part without leading zero, an optional
fraction and an optional exponent. -/
def readUnsigned (negative : Bool) (bytes : List UInt8) : Option Numeral := do
  let whole ← digitValues? (bytes.takeWhile isDigit)
  if whole.head? = some 0 ∧ whole.length ≠ 1 then none
  let afterWhole := bytes.dropWhile isDigit
  let (fraction, afterFraction) ←
    match afterWhole with
    | 0x2E :: rest =>
        (digitValues? (rest.takeWhile isDigit)).map fun values =>
          (some values, rest.dropWhile isDigit)
    | rest => some (none, rest)
  match afterFraction with
  | [] => return ⟨negative, whole, fraction, none⟩
  | mark :: rest =>
      if mark = 0x45 ∨ mark = 0x65 then
        let exponent ← readExponent rest
        return ⟨negative, whole, fraction, some exponent⟩
      else none

/-- The numeral that consists of the given bytes. -/
def read : List UInt8 → Option Numeral
  | 0x2D :: rest => readUnsigned true rest
  | bytes => readUnsigned false bytes

end Numeral

/-- A text that continues as `tail` after the bytes in front. -/
def continued (front : List UInt8) (tail : Option (List UInt8 × List UInt8)) :
    Option (List UInt8 × List UInt8) :=
  tail.map fun (written, rest) => (front ++ written, rest)

/-- What a backslash may stand before, other than a code unit. -/
def isEscaped (byte : UInt8) : Bool :=
  byte ∈ ['\x22', '\\', '/', 'b', 'f', 'n', 'r', 't'].map byteOf

/-- The bytes up to the closing quote, and the bytes after it.  A control
character, and a backslash before anything but an escape, are errors. -/
def readText : List UInt8 → Option (List UInt8 × List UInt8)
  | [] => none
  | 0x22 :: rest => some ([], rest)
  | 0x5C :: 0x75 :: first :: second :: third :: fourth :: rest =>
      if isHexDigit first && isHexDigit second && isHexDigit third &&
          isHexDigit fourth then
        continued [0x5C, 0x75, first, second, third, fourth] (readText rest)
      else none
  | 0x5C :: escaped :: rest =>
      if isEscaped escaped then continued [0x5C, escaped] (readText rest) else none
  | byte :: rest =>
      if byte < 0x20 || byte == 0x5C then none
      else continued [byte] (readText rest)

theorem continued_eq_some {front written rest : List UInt8}
    {tail : Option (List UInt8 × List UInt8)}
    (found : continued front tail = some (written, rest)) :
    ∃ later, tail = some (later, rest) := by
  obtain ⟨⟨later, rest⟩, same, pair⟩ := Option.map_eq_some_iff.mp found
  cases pair
  exact ⟨later, same⟩

theorem length_readText {bytes written rest : List UInt8}
    (found : readText bytes = some (written, rest)) : rest.length < bytes.length := by
  fun_induction readText bytes generalizing written rest with
  | case1 => cases found
  | case2 after =>
      cases found
      simp
  | case3 _ _ _ _ after _ inductionHypothesis
  | case5 _ after _ _ inductionHypothesis
  | case8 _ after _ _ _ _ inductionHypothesis =>
      obtain ⟨later, shorter⟩ := continued_eq_some found
      have := inductionHypothesis shorter
      simp only [List.length_cons]
      omega
  | case4 | case6 | case7 => cases found

/-- The tokens that consist of one byte. -/
def punctuation? (byte : UInt8) : Option Token :=
  if byte = 0x5B then some .openList
  else if byte = 0x5D then some .closeList
  else if byte = 0x7B then some .openObject
  else if byte = 0x7D then some .closeObject
  else if byte = 0x3A then some .colon
  else if byte = 0x2C then some .comma
  else none

/-- The tokens that are spelled by a word. -/
def words : List (List UInt8 × Token) :=
  [("null".toList.map byteOf, .null), ("true".toList.map byteOf, .truth true),
    ("false".toList.map byteOf, .truth false)]

/-- The token whose word begins the bytes, with the length of the word. -/
def word? (bytes : List UInt8) : Option (Token × Nat) :=
  words.findSome? fun (spelling, token) =>
    if bytes.take spelling.length = spelling then some (token, spelling.length)
    else none

/-- The tokens of JSON text, or nothing when some bytes are no token. -/
def Token.lex (bytes : List UInt8) : Option (List Token) :=
  match bytes with
  | [] => some []
  | byte :: rest =>
      if isSpace byte then Token.lex rest
      else match punctuation? byte with
        | some token => (Token.lex rest).map (token :: ·)
        | none =>
            if byte = 0x22 then
              match found : readText rest with
              | none => none
              | some (written, after) =>
                  have _shorter := length_readText found
                  (Token.lex after).map (.text written :: ·)
            else if isNumeralByte byte then
              match Numeral.read (byte :: rest.takeWhile isNumeralByte) with
              | none => none
              | some number =>
                  (Token.lex (rest.dropWhile isNumeralByte)).map (.numeral number :: ·)
            else
              match word? (byte :: rest) with
              | none => none
              | some (token, length) =>
                  (Token.lex (rest.drop (length - 1))).map (token :: ·)
termination_by bytes.length
decreasing_by
  · simp
  · simp
  · simp only [List.length_cons]
    omega
  · have := (List.dropWhile_suffix (l := rest) isNumeralByte).length_le
    simp only [List.length_cons]
    omega
  · simp only [List.length_cons, List.length_drop]
    omega

end RecordMapping.Json
