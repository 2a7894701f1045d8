/-
Module: RecordMapping.Proofs.StatementGrammar
Purpose: Readers for the parts of which statements consist, and what they read
  of a text that was written.
Main exports: Grammar.Reader, Grammar.identifier, Grammar.placeholder, Grammar.list,
  Grammar.Reads, Grammar.reads_identifier, Grammar.reads_placeholder, Grammar.reads_list
-/
import RecordMapping.Dialect
import RecordMapping.Proofs.QuotedReading

namespace RecordMapping.Grammar

/-!
A statement is read from left to right by an engine that knows its own quotes
and placeholders and nothing of the names in the statement.  What a reader takes
from a text may depend on what follows, since a closing quote or a digit would
continue it; so each fact about a reader says in front of what it holds, and
facts are put together from left to right.
-/

/-- A reader of the beginning of a text: what it reads, and the text behind. -/
abbrev Reader := StateT (List Char) Option

/-- Whether a text comes next; it stays to be read. -/
def begins (text : String) : Reader Bool := fun input =>
  some (text.toList.isPrefixOf input, input)

/-- Whether a text comes next; if so, passes over it. -/
def skips (text : String) : Reader Bool := fun input =>
  if text.toList.isPrefixOf input then some (true, input.drop text.toList.length)
  else some (false, input)

/-- Passes over a text that must come next. -/
def require (text : String) : Reader Unit := do
  if ← skips text then return () else failure

/-- A quoted identifier. -/
def identifier (dialect : Dialect) : Reader String := dialect.quotes.read

/-- A decimal number, as far as its digits go. -/
def number : Reader Nat := fun input =>
  let digits := input.takeWhile Char.isDigit
  if digits.isEmpty then none
  else some (Nat.ofDigitChars 10 digits 0, input.dropWhile Char.isDigit)

/-- The index of the parameter of a placeholder.  A question mark takes the
parameter of its position among the placeholders; a numbered one has its own. -/
def placeholder (dialect : Dialect) (position : Nat) : Reader Nat :=
  match dialect.placeholders with
  | .mark => do
      require "?"
      return position
  | .numbered lead => do
      require lead
      match ← number with
      | 0 => failure
      | index + 1 => return index

/-- Items between separators, at most `limit + 1` of them, by their positions. -/
def listWithin {α : Type} (separator : String) (item : Nat → Reader α) :
    Nat → Nat → Reader (List α)
  | 0, position => do return [← item position]
  | limit + 1, position => do
      let first ← item position
      if ← skips separator then
        return first :: (← listWithin separator item limit (position + 1))
      else return [first]

/-- One or more items between separators, by their positions. -/
def list {α : Type} (separator : String) (item : Nat → Reader α) : Reader (List α) :=
  fun input => listWithin separator item input.length 0 input

/-- In front of anything that follows it as admitted, a text is read as a value
and nothing behind it is taken. -/
def Reads {α : Type} (reader : Reader α) (text : String) (value : α)
    (follows : List Char → Prop) : Prop :=
  ∀ rest, follows rest → reader (text.toList ++ rest) = some (value, rest)

/-! ### Composition -/

variable {α β : Type}

theorem reads_pure (value : α) {follows : List Char → Prop} :
    Reads (pure value) "" value follows :=
  fun _ _ => rfl

theorem Reads.weaken {reader : Reader α} {text : String} {value : α}
    {follows admitted : List Char → Prop} (reads : Reads reader text value follows)
    (narrower : ∀ rest, admitted rest → follows rest) :
    Reads reader text value admitted :=
  fun rest allowed => reads rest (narrower rest allowed)

/-- Two readers in sequence read two texts in sequence, if the second text may
follow the first. -/
theorem Reads.bind {first : Reader α} {second : α → Reader β} {text behind : String}
    {value : α} {result : β} {follows admitted : List Char → Prop}
    (one : Reads first text value follows)
    (two : Reads (second value) behind result admitted)
    (joins : ∀ rest, admitted rest → follows (behind.toList ++ rest)) :
    Reads (first >>= second) (text ++ behind) result admitted := by
  intro rest allowed
  rw [String.toList_append, List.append_assoc]
  change (first _ >>= fun outcome => second outcome.1 outcome.2) = _
  rw [one _ (joins rest allowed)]
  exact two rest allowed

/-- A value that is only passed on keeps what was read. -/
theorem Reads.map {reader : Reader α} {text : String} {value : α}
    {follows : List Char → Prop} (reads : Reads reader text value follows)
    (change : α → β) :
    Reads (do return change (← reader)) text (change value) follows := by
  have both : Reads (do return change (← reader)) (text ++ "") (change value) follows :=
    reads.bind (reads_pure (change value)) fun rest allowed => by simpa using allowed
  simpa using both

/-! ### Texts -/

theorem reads_begins_true (text : String) :
    Reads (begins text) "" true fun rest => text.toList <+: rest := by
  intro rest present
  simp [begins, present]

theorem reads_begins_false (text : String) :
    Reads (begins text) "" false fun rest => ¬ text.toList <+: rest := by
  intro rest absent
  have different : text.toList.isPrefixOf rest = false := by
    simpa [Bool.eq_false_iff] using absent
  simp [begins, different]

theorem reads_skips_true (text : String) : Reads (skips text) text true fun _ => True := by
  intro rest _
  simp [skips]

theorem reads_skips_false (text : String) :
    Reads (skips text) "" false fun rest => ¬ text.toList <+: rest := by
  intro rest absent
  simp [skips, absent]

theorem reads_require (text : String) : Reads (require text) text () fun _ => True := by
  have both : Reads (require text) (text ++ "") () fun _ => True :=
    (reads_skips_true text).bind (reads_pure ()) fun _ _ => trivial
  simpa using both

/-! ### Identifiers and placeholders -/

/-- A text does not continue an identifier. -/
def EndsName (dialect : Dialect) (rest : List Char) : Prop :=
  rest.head? ≠ some dialect.quotes.closing

/-- A text does not continue a number. -/
def EndsNumber (rest : List Char) : Prop :=
  ∀ character, rest.head? = some character → character.isDigit = false

/-- A character among those that are no closing quote does not continue an identifier. -/
theorem endsName_of_begins {dialect : Dialect} {ends : List Char}
    (clear : dialect.quotes.closing ∉ ends) {next : Char} {behind rest : List Char}
    (begun : next :: behind <+: rest) (known : next ∈ ends) : EndsName dialect rest := by
  obtain ⟨more, rfl⟩ := begun
  have apart : next ≠ dialect.quotes.closing := by
    rintro rfl
    exact clear known
  simpa [EndsName] using apart

theorem reads_identifier (dialect : Dialect) (name : String) :
    Reads (identifier dialect) (dialect.identifier name) name (EndsName dialect) :=
  fun _ clear => dialect.quotes.read_quote name clear

theorem reads_number (value : Nat) : Reads number (toString value) value EndsNumber := by
  intro rest clear
  have digits : (toString value).toList = Nat.toDigits 10 value := Nat.toList_repr
  have allDigits : ∀ character ∈ Nat.toDigits 10 value, character.isDigit = true :=
    fun character member => Nat.isDigit_of_mem_toDigits (by decide) (by decide) member
  have stop : rest.takeWhile Char.isDigit = [] ∧ rest.dropWhile Char.isDigit = rest := by
    cases rest with
    | nil => simp
    | cons character behind => simp [clear character rfl]
  rw [digits, number]
  simp only [List.takeWhile_append_of_pos allDigits, List.dropWhile_append_of_pos allDigits,
    stop.1, stop.2, List.append_nil, List.isEmpty_iff, Nat.toDigits_ne_nil, if_false,
    Nat.ofDigitChars_toDigits (by decide : 1 < 10) (by decide : 10 ≤ 10)]

/-- The placeholder of a parameter is read as its index where it stands at the
position of that index. -/
theorem reads_placeholder (dialect : Dialect) (index : Nat) :
    Reads (placeholder dialect index) (dialect.placeholder index) index EndsNumber := by
  unfold placeholder Dialect.placeholder
  cases dialect.placeholders with
  | mark =>
      exact ((reads_require "?").map fun _ => index).weaken fun _ _ => trivial
  | numbered lead =>
      refine (reads_require lead).bind ?_ fun _ _ => trivial
      intro rest clear
      change (number _).bind _ = _
      rw [reads_number (index + 1) rest clear]
      rfl

/-! ### Lists -/

/-- A separator that writes something takes at least as much space as the items
that stand behind one. -/
theorem length_le_intercalate {separator : String} (written : separator ≠ "")
    (items : List String) :
    items.length ≤ (separator.intercalate items).toList.length + 1 := by
  induction items with
  | nil => simp
  | cons item rest inductionHypothesis =>
      cases rest with
      | nil => simp
      | cons next more =>
          have wide : 0 < separator.toList.length := by
            rw [String.length_toList]
            exact Nat.pos_of_ne_zero fun none => written (by simpa using none)
          rw [String.intercalate_cons_cons]
          simp only [List.length_cons, String.toList_append, List.length_append]
            at inductionHypothesis ⊢
          omega

variable {separator : String} {item : Nat → Reader α} {limit position : Nat} {value : α}
  {input behind : List Char}

/-- Without a separator behind it, an item is the last one. -/
theorem listWithin_last (reads : item position input = some (value, behind))
    (absent : ¬ separator.toList <+: behind) :
    listWithin separator item limit position input = some ([value], behind) := by
  have found : skips separator behind = some (false, behind) := by simp [skips, absent]
  cases limit with
  | zero =>
      change (item position input).bind _ = _
      rw [reads]
      rfl
  | succ limit =>
      change (item position input).bind _ = _
      rw [reads]
      change (skips separator behind).bind _ = _
      rw [found]
      rfl

/-- Behind a separator, the items go on at the next position. -/
theorem listWithin_further {values : List α} {rest : List Char}
    (reads : item position input = some (value, separator.toList ++ behind))
    (others : listWithin separator item limit (position + 1) behind = some (values, rest)) :
    listWithin separator item (limit + 1) position input = some (value :: values, rest) := by
  have found : skips separator (separator.toList ++ behind) = some (true, behind) :=
    reads_skips_true separator behind trivial
  change (item position input).bind _ = _
  rw [reads]
  change (skips separator (separator.toList ++ behind)).bind _ = _
  rw [found]
  change (listWithin separator item limit (position + 1) behind).bind _ = _
  rw [others]
  rfl

/-- Written items are read back one after the other, each at its own position,
as far as no separator follows. -/
theorem reads_listWithin {write : α → String} {follows : List Char → Prop}
    (separates : ∀ rest, follows (separator.toList ++ rest)) {values : List α}
    (nonempty : values ≠ []) (fits : values.length ≤ limit + 1)
    (items : ∀ index (inside : index < values.length),
      Reads (item (position + index)) (write values[index]) values[index] follows) :
    Reads (listWithin separator item limit position)
      (separator.intercalate (values.map write)) values
      fun rest => follows rest ∧ ¬ separator.toList <+: rest := by
  induction values generalizing limit position with
  | nil => exact absurd rfl nonempty
  | cons value rest inductionHypothesis =>
      have first : Reads (item position) (write value) value follows := items 0 (by simp)
      intro tail allowed
      cases rest with
      | nil => exact listWithin_last (by simpa using first tail allowed.1) allowed.2
      | cons next more =>
          obtain ⟨fewer, rfl⟩ : ∃ fewer, limit = fewer + 1 :=
            ⟨limit - 1, by simp at fits; omega⟩
          have later : ∀ index (inside : index < (next :: more).length),
              Reads (item (position + 1 + index)) (write (next :: more)[index])
                (next :: more)[index] follows := by
            intro index inside
            rw [Nat.add_assoc, Nat.add_comm 1]
            exact items (index + 1) (by simpa using inside)
          have others := inductionHypothesis (by simp) (by simpa using fits) later
          refine listWithin_further ?_ (others tail allowed)
          simpa [String.intercalate_cons_cons, List.append_assoc] using
            first _ (separates _)

/-- A list that is not empty is read back, if a separator ends each item and the
end of the last item is no separator. -/
theorem reads_list {write : α → String} {follows : List Char → Prop}
    (written : separator ≠ "") (separates : ∀ rest, follows (separator.toList ++ rest))
    {values : List α} (nonempty : values ≠ [])
    (items : ∀ index (inside : index < values.length),
      Reads (item index) (write values[index]) values[index] follows) :
    Reads (list separator item) (separator.intercalate (values.map write)) values
      fun rest => follows rest ∧ ¬ separator.toList <+: rest := by
  intro rest allowed
  refine reads_listWithin separates nonempty ?_ (by simpa using items) rest allowed
  have bound := length_le_intercalate written (values.map write)
  rw [List.length_map] at bound
  rw [List.length_append]
  omega

end RecordMapping.Grammar
