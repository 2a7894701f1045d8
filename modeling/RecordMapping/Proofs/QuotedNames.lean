/-
Module: RecordMapping.Proofs.QuotedNames
Purpose: Identifiers between quotes, as they are written and as they are read back.
Main exports: Text.copyReplacing, Text.Quotes.write, Text.Quotes.Body, Text.Quotes.Quoted,
  Text.copyReplacing_eq, Text.Quotes.read_eq_some_iff, identifier_reads_back
-/
import RecordMapping.Dialect
import RecordMapping.Proofs.QuotedReading
import RecordMapping.Proofs.TextOffsets

namespace RecordMapping

namespace Text

/-!
A quoted identifier is written without taking the text apart into characters: what stands
between two closing quotes is copied at once, from the offset behind the last one that was
found.  The offsets count bytes, and a copy fails where they split a character.  None does,
and what comes out is the identifier with each closing quote replaced by two.
-/

/-- The characters of a text with the offsets at which they begin. -/
def charOffsets (offset : Nat) : List Char → List (Nat × Char)
  | [] => []
  | character :: rest =>
      (offset, character) :: charOffsets (offset + character.utf8Size) rest

/-- One step of a copy: in front of a character that is replaced, all is copied that was
passed since the last one. -/
def copyStep (text : String) (search : Char) (replacement : String) :
    String × Nat → Nat × Char → Option (String × Nat)
  | (out, start), (offset, character) =>
      if character = search then do
        let passed ← slice? text start offset
        some (out ++ passed ++ replacement, offset + character.utf8Size)
      else some (out, start)

/-- The end of a copy: what stands behind the last character that was replaced. -/
def copyRest (text : String) : String × Nat → Option String
  | (out, start) => do some (out ++ (← slice? text start text.utf8ByteSize))

/-- A text, copied behind another one with every occurrence of a character replaced. -/
def copyReplacing (out text : String) (search : Char) (replacement : String) :
    Option String := do
  copyRest text
    (← (charOffsets 0 text.toList).foldlM (copyStep text search replacement) (out, 0))

/-- A quoted identifier, written behind a text. -/
def Quotes.write (quotes : Quotes) (out identifier : String) : Option String := do
  let copied ← copyReplacing (out.push quotes.opening) identifier quotes.closing
    (String.ofList [quotes.closing, quotes.closing])
  some (copied.push quotes.closing)

/-! ### Copies -/

theorem substitute_cons (search : Char) (replacement : String) (character : Char)
    (rest : List Char) :
    substitute search replacement (String.ofList (character :: rest)) =
      (if character = search then replacement else String.singleton character) ++
        substitute search replacement (String.ofList rest) := by
  apply String.toList_inj.mp
  by_cases found : character = search <;> simp [substitute, found]

theorem size_append_singleton (front : String) (character : Char) :
    (front ++ String.singleton character).utf8ByteSize =
      front.utf8ByteSize + character.utf8Size := by
  rw [String.utf8ByteSize_append, String.utf8ByteSize_singleton]

theorem copyStep_of_eq {text done passed back : String} (search : Char)
    (out replacement : String) (split : text = done ++ passed ++ back) :
    copyStep text search replacement (out, done.utf8ByteSize)
        ((done ++ passed).utf8ByteSize, search) =
      some (out ++ passed ++ replacement,
        (done ++ passed ++ String.singleton search).utf8ByteSize) := by
  rw [size_append_singleton]
  simp only [copyStep, if_true, slice?_of_append split, bind, Option.bind]

theorem copyStep_of_ne {text replacement : String} {search character : Char}
    (state : String × Nat) (offset : Nat) (other : character ≠ search) :
    copyStep text search replacement state (offset, character) = some state :=
  if_neg other

theorem copyRest_of_append {text done passed : String} (out : String)
    (split : text = done ++ passed) :
    copyRest text (out, done.utf8ByteSize) = some (out ++ passed) := by
  have whole : text = done ++ passed ++ "" := by rw [String.append_empty, split]
  have copied : slice? text done.utf8ByteSize text.utf8ByteSize = some passed := by
    simpa only [← split] using slice?_of_append whole
  simp only [copyRest, copied, bind, Option.bind]

/-- What was passed since the last replacement is still to be copied, and the rest of the
text to be looked at. -/
theorem copy_from {text : String} {rest : List Char} (search : Char)
    (replacement out done passed : String)
    (split : text = done ++ passed ++ String.ofList rest) :
    ((charOffsets (done ++ passed).utf8ByteSize rest).foldlM (copyStep text search replacement)
        (out, done.utf8ByteSize)).bind (copyRest text) =
      some (out ++ passed ++ substitute search replacement (String.ofList rest)) := by
  induction rest generalizing out done passed with
  | nil => simpa [charOffsets, substitute] using copyRest_of_append out (by simpa using split)
  | cons character rest inductionHypothesis =>
      have whole : text =
          done ++ passed ++ String.singleton character ++ String.ofList rest := by
        rw [split, String.ofList_cons]
        exact (String.append_assoc ..).symm
      rw [charOffsets, List.foldlM_cons, substitute_cons, ← size_append_singleton]
      by_cases found : character = search
      · -- Nothing is passed yet behind the character that was replaced.
        subst found
        have behind := inductionHypothesis (out ++ passed ++ replacement)
          (done ++ passed ++ String.singleton character) ""
          (by rw [String.append_empty, whole])
        rw [copyStep_of_eq _ out replacement split, if_pos rfl]
        simpa [String.append_assoc] using behind
      · have behind := inductionHypothesis out done (passed ++ String.singleton character)
          (by rw [whole]; simp only [String.append_assoc])
        rw [copyStep_of_ne _ _ found, if_neg found]
        simpa only [String.append_assoc, Option.bind_eq_bind, Option.bind_some] using behind

/-- A copy never splits a character. -/
theorem copyReplacing_eq (out text : String) (search : Char) (replacement : String) :
    copyReplacing out text search replacement =
      some (out ++ substitute search replacement text) := by
  simpa [copyReplacing] using
    copy_from search replacement out "" ""
      (show text = "" ++ "" ++ String.ofList text.toList by simp)

/-- A quoted identifier is written in full behind what was there. -/
theorem Quotes.write_eq (quotes : Quotes) (out identifier : String) :
    quotes.write out identifier = some (out ++ quotes.quote identifier) := by
  simp only [Quotes.write, copyReplacing_eq, Quotes.quote_eq_substitute, bind, Option.bind,
    String.push_eq_append, String.append_assoc]

namespace Quotes

/-!
Between the quotes stands one text for each identifier.  It is written here as the rule says,
without a reader or a writer.
-/

/-- A text between quotes stands for an identifier: a closing quote is written twice, and
every other character once. -/
inductive Body (closing : Char) : List Char → List Char → Prop where
  | empty : Body closing [] []
  | once {character : Char} {body name : List Char} (other : character ≠ closing)
      (behind : Body closing body name) : Body closing (character :: body) (character :: name)
  | twice {body name : List Char} (behind : Body closing body name) :
      Body closing (closing :: closing :: body) (closing :: name)

/-- A text begins with a quoted identifier: the closing quote in front of the tail is the
first one that is not doubled. -/
def Quoted (quotes : Quotes) (whole : List Char) (identifier : String) (tail : List Char) :
    Prop :=
  ∃ body, whole = quotes.opening :: (body ++ quotes.closing :: tail) ∧
    Body quotes.closing body identifier.toList ∧ tail.head? ≠ some quotes.closing

variable {quotes : Quotes}

/-! ### Readings -/

theorem Body.eq_doubled {body name : List Char} (stands : Body quotes.closing body name) :
    body = quotes.doubled name := by
  induction stands with
  | empty => rfl
  | once other _ inductionHypothesis => simp [doubled, other, inductionHypothesis]
  | twice _ inductionHypothesis => simp [doubled, inductionHypothesis]

theorem readName_complete {body name tail : List Char} (stands : Body quotes.closing body name)
    (clear : tail.head? ≠ some quotes.closing) :
    quotes.readName (body ++ quotes.closing :: tail) = some (name, tail) := by
  rw [stands.eq_doubled]
  exact readName_doubled quotes name clear

theorem readName_sound {text name tail : List Char}
    (read : quotes.readName text = some (name, tail)) :
    ∃ body, text = body ++ quotes.closing :: tail ∧ Body quotes.closing body name ∧
      tail.head? ≠ some quotes.closing := by
  fun_induction quotes.readName text generalizing name tail with
  | case1 => simp at read
  | case2 =>
      obtain ⟨rfl, rfl⟩ : [] = name ∧ [] = tail := by simpa using read
      exact ⟨[], rfl, .empty, by simp⟩
  | case3 after inductionHypothesis =>
      obtain ⟨⟨inner, back⟩, behind, whole⟩ := Option.map_eq_some_iff.mp read
      obtain ⟨rfl, rfl⟩ : quotes.closing :: inner = name ∧ back = tail := by simpa using whole
      obtain ⟨body, rfl, stands, clear⟩ := inductionHypothesis behind
      exact ⟨quotes.closing :: quotes.closing :: body, rfl, .twice stands, clear⟩
  | case4 next after other =>
      obtain ⟨rfl, rfl⟩ : [] = name ∧ next :: after = tail := by simpa using read
      exact ⟨[], rfl, .empty, by simpa using other⟩
  | case5 character rest other inductionHypothesis =>
      obtain ⟨⟨inner, back⟩, behind, whole⟩ := Option.map_eq_some_iff.mp read
      obtain ⟨rfl, rfl⟩ : character :: inner = name ∧ back = tail := by simpa using whole
      obtain ⟨body, rfl, stands, clear⟩ := inductionHypothesis behind
      exact ⟨character :: body, rfl, .once other stands, clear⟩

/-- The reader takes what begins with a quoted identifier, and nothing else. -/
theorem read_eq_some_iff {whole tail : List Char} {identifier : String} :
    quotes.read whole = some (identifier, tail) ↔ quotes.Quoted whole identifier tail := by
  constructor
  · intro read
    cases whole with
    | nil => simp [Quotes.read] at read
    | cons first rest =>
        rw [Quotes.read] at read
        split at read
        · rename_i opens
          obtain ⟨⟨name, back⟩, behind, whole⟩ := Option.map_eq_some_iff.mp read
          obtain ⟨rfl, rfl⟩ : String.ofList name = identifier ∧ back = tail := by
            simpa using whole
          obtain ⟨body, rfl, stands, clear⟩ := readName_sound behind
          exact ⟨body, by rw [opens], by rwa [String.toList_ofList], clear⟩
        · cases read
  · rintro ⟨body, rfl, stands, clear⟩
    rw [Quotes.read, if_pos rfl, readName_complete stands clear]
    simp

/-- A closing quote behind the quotation would be taken for a part of the identifier. -/
theorem read_quote_iff {identifier : String} {tail : List Char} :
    quotes.read ((quotes.quote identifier).toList ++ tail) = some (identifier, tail) ↔
      tail.head? ≠ some quotes.closing := by
  constructor
  · intro read
    obtain ⟨_, _, _, clear⟩ := read_eq_some_iff.mp read
    exact clear
  · exact read_quote quotes identifier

theorem quote_injective (quotes : Quotes) : Function.Injective quotes.quote := by
  intro one two same
  have clear : ([] : List Char).head? ≠ some quotes.closing := by simp
  have readOne := quotes.read_quote one clear
  have readTwo := quotes.read_quote two clear
  rw [same, readTwo] at readOne
  exact (congrArg Prod.fst (Option.some.inj readOne)).symm

end Quotes

end Text

/-- What a dialect writes for an identifier is read back as that identifier, whatever its
characters are and whatever stands behind it, unless that continues the closing quote: then
the identifier would go on.  So no identifier ends early or reaches into the statement, and
two identifiers are never written alike. -/
theorem identifier_reads_back (dialect : Dialect) :
    (∀ out name, dialect.quotes.write out name = some (out ++ dialect.identifier name)) ∧
    (∀ whole name tail,
      dialect.quotes.read whole = some (name, tail) ↔ dialect.quotes.Quoted whole name tail) ∧
    (∀ name tail,
      dialect.quotes.read ((dialect.identifier name).toList ++ tail) = some (name, tail) ↔
        tail.head? ≠ some dialect.quotes.closing) ∧
    Function.Injective dialect.identifier :=
  ⟨dialect.quotes.write_eq, fun _ _ _ => Text.Quotes.read_eq_some_iff,
    fun _ _ => Text.Quotes.read_quote_iff, dialect.quotes.quote_injective⟩

example : Dialect.sqlserver.identifier "a]]b]" = "[a]]]]b]]]" ∧
    Dialect.sqlserver.quotes.read "[a]]]]b]]] = 1".toList =
      some ("a]]b]", " = 1".toList) := by cbv

end RecordMapping
