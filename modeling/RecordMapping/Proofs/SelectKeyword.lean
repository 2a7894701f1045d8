/-
Module: RecordMapping.Proofs.SelectKeyword
Purpose: Which queries are taken for complete ones, and which of those that begin with the
  keyword are not.
Main exports: BeginsWithSelect, continuesIdentifier, SelectKeyword,
  select_keyword_before_separators
-/
import Mathlib
import RecordMapping.Conformance.Sample
import RecordMapping.Proofs.FieldLists
import RecordMapping.Statement.Selection

namespace RecordMapping

/-!
A keyword ends where no letter, digit, underscore or dollar sign goes on.  The
keyword of a complete query is only looked for in front of the end of the text, a
blank, a star or an opening parenthesis, so in front of any other character that
cannot continue an identifier it is passed over.
-/

/-- A query that has, behind leading blanks, the letters of the keyword in any ASCII
case, and then a rest. -/
def BeginsWithSelect (query : String) (rest : List Char) : Prop :=
  ∃ blanks keyword, query.toList = blanks ++ keyword ++ rest ∧
    (∀ character ∈ blanks, Text.isBlank character = true) ∧
      List.Forall₂ Text.SameLetter keyword "select".toList

/-- Whether a character can continue an identifier, where `letters` are the letters and
digits beyond ASCII. -/
def continuesIdentifier (letters : Char → Bool) (character : Char) : Bool :=
  character.isAlphanum || character == '_' || character == '$' || letters character

/-- A query whose first token is the keyword, with what stands behind it. -/
def SelectKeyword (letters : Char → Bool) (query : String) (rest : List Char) : Prop :=
  BeginsWithSelect query rest ∧
    ∀ next ∈ rest.head?, continuesIdentifier letters next = false

/-- A character in front of which the keyword is recognized. -/
def Separates (character : Char) : Prop :=
  Text.isBlank character = true ∨ character = '*' ∨ character = '('

/-! ### Blanks and letters -/

/-- No blank lies among the letters and digits of ASCII, or among the next letters. -/
theorem code_of_isBlank {character : Char} (blank : Text.isBlank character = true) :
    character.toNat ≤ 32 ∨ character.toNat = 133 ∨ character.toNat = 160 ∨
      5760 ≤ character.toNat := by
  simp only [Text.isBlank, Text.blankRanges, List.any_cons, List.any_nil, Bool.or_eq_true,
    Bool.and_eq_true, decide_eq_true_eq, Bool.false_eq_true, or_false] at blank
  omega

theorem isBlank_eq_false_of_sameLetter {character : Char}
    (initial : Text.SameLetter character 's') : Text.isBlank character = false := by
  have code : ('s' : Char).toNat = 115 := rfl
  have cases : character.toNat = 115 ∨ character.toNat = 83 := by
    rcases initial with rfl | ⟨_, _, shift⟩ | ⟨_, _, shift⟩
    · exact .inl code
    · omega
    · omega
  by_contra blank
  have range := code_of_isBlank (by simpa using blank)
  omega

theorem isAlphanum_iff {character : Char} :
    character.isAlphanum = true ↔
      65 ≤ character.toNat ∧ character.toNat ≤ 90 ∨
        97 ≤ character.toNat ∧ character.toNat ≤ 122 ∨
        48 ≤ character.toNat ∧ character.toNat ≤ 57 := by
  simp only [Char.isAlphanum, Char.isAlpha, Char.isUpper, Char.isLower, Char.isDigit,
    Bool.or_eq_true, Bool.and_eq_true, decide_eq_true_eq, UInt32.le_iff_toNat_le, or_assoc]
  rfl

/-- Nothing that the keyword is recognized in front of can continue an identifier. -/
theorem continuesIdentifier_of_separates {letters : Char → Bool}
    (apart : ∀ character, letters character = true →
      127 < character.toNat ∧ Text.isBlank character = false) {character : Char}
    (separates : Separates character) : continuesIdentifier letters character = false := by
  have foreign : letters character = false := by
    by_contra letter
    obtain ⟨beyond, filled⟩ := apart character (by simpa using letter)
    rcases separates with blank | rfl | rfl
    · rw [filled] at blank
      cases blank
    · exact absurd beyond (by decide)
    · exact absurd beyond (by decide)
  by_contra continues
  simp only [continuesIdentifier, foreign, Bool.or_false, Bool.not_eq_false, Bool.or_eq_true,
    beq_iff_eq, isAlphanum_iff] at continues
  rcases separates with blank | rfl | rfl
  · have range := code_of_isBlank blank
    rcases continues with (word | rfl) | rfl
    · omega
    · simp at range
    · simp at range
  · revert continues
    decide
  · revert continues
    decide

/-- The keyword is found behind all leading blanks. -/
theorem beginsWithSelect_iff {query : String} {rest : List Char} :
    BeginsWithSelect query rest ↔
      ((query.toList.dropWhile Text.isBlank).take 6).map Char.toLower = "select".toList ∧
        (query.toList.dropWhile Text.isBlank).drop 6 = rest := by
  have spelled {keyword : List Char} : List.Forall₂ Text.SameLetter keyword "select".toList ↔
      keyword.map Char.toLower = "select".toList := by
    calc List.Forall₂ Text.SameLetter keyword "select".toList
      _ ↔ List.Forall₂ (fun here there => here.toLower = there.toLower) keyword
          "select".toList := by simp only [Text.toLower_eq_toLower_iff]
      _ ↔ keyword.map Char.toLower = "select".toList.map Char.toLower := by
          rw [← List.forall₂_eq_eq_eq, List.forall₂_map_left_iff, List.forall₂_map_right_iff]
      _ ↔ keyword.map Char.toLower = "select".toList := Iff.rfl
  constructor
  · rintro ⟨blanks, keyword, split, blank, letters⟩
    have whole : query.toList.dropWhile Text.isBlank = keyword ++ rest := by
      cases letters with
      | cons initial others =>
          rw [split, List.append_assoc, List.dropWhile_append_of_pos blank, List.cons_append,
            List.dropWhile_cons_of_neg (by simp [isBlank_eq_false_of_sameLetter initial])]
    have counted : keyword.length = 6 := letters.length_eq
    rw [whole, List.take_left' counted, List.drop_left' counted]
    exact ⟨spelled.mp letters, rfl⟩
  · rintro ⟨letters, rfl⟩
    refine ⟨query.toList.takeWhile Text.isBlank,
      (query.toList.dropWhile Text.isBlank).take 6, ?_, ?_, spelled.mpr letters⟩
    · rw [List.append_assoc, List.take_append_drop, List.takeWhile_append_dropWhile]
    · exact fun character member => List.mem_takeWhile_imp member

theorem startsWithSelect_iff {query : String} :
    startsWithSelect query = true ↔
      ∃ rest, BeginsWithSelect query rest ∧ ∀ next ∈ rest.head?, Separates next := by
  have behind : (∃ rest, BeginsWithSelect query rest ∧ ∀ next ∈ rest.head?, Separates next) ↔
      ((query.toList.dropWhile Text.isBlank).take 6).map Char.toLower = "select".toList ∧
        ∀ next ∈ ((query.toList.dropWhile Text.isBlank).drop 6).head?, Separates next := by
    simp only [beginsWithSelect_iff, and_assoc, exists_and_left, exists_eq_left']
  rw [behind]
  simp only [startsWithSelect, Text.toList_trimStart, Bool.and_eq_true, beq_iff_eq]
  refine and_congr_right fun _ => ?_
  cases (query.toList.dropWhile Text.isBlank).drop 6 <;> simp [Separates, or_assoc]

/-- What stands behind the keyword is decided by the query. -/
theorem BeginsWithSelect.unique {query : String} {first second : List Char}
    (one : BeginsWithSelect query first) (other : BeginsWithSelect query second) :
    first = second :=
  (beginsWithSelect_iff.mp one).2.symm.trans (beginsWithSelect_iff.mp other).2

/-- A query, and any class of letters beyond ASCII that has no blanks.  If the first
token of the query is the keyword, and behind it stands nothing, a blank, a star or an
opening parenthesis, the query is kept as it is, or refused for a nested target.  If
any other character stands there that cannot continue an identifier, the query is
completed by the columns of the target all the same, as is every query that does not
begin with the keyword. -/
theorem select_keyword_before_separators (dialect : Dialect) (layout : Layout) (query : String)
    {letters : Char → Bool}
    (apart : ∀ character, letters character = true →
      127 < character.toNat ∧ Text.isBlank character = false) :
    (∀ rest, SelectKeyword letters query rest → (∀ next ∈ rest.head?, Separates next) →
      dialect.select layout query =
        if layout.isJoin then misconfigured .selectIntoNested else .ok query) ∧
    (∀ rest next, SelectKeyword letters query rest → rest.head? = some next →
      ¬ Separates next →
        dialect.select layout query =
          .ok ("SELECT " ++ Text.separated ", " (layout.selectItems dialect) ++ " " ++
            Text.trimStart query)) ∧
    ((¬ ∃ rest, SelectKeyword letters query rest) →
      dialect.select layout query =
        .ok ("SELECT " ++ Text.separated ", " (layout.selectItems dialect) ++ " " ++
          Text.trimStart query)) := by
  have completed (unrecognized : ¬ startsWithSelect query = true) :
      dialect.select layout query =
        .ok ("SELECT " ++ Text.separated ", " (layout.selectItems dialect) ++ " " ++
          Text.trimStart query) := by
    simp only [Dialect.select, if_neg unrecognized]
  refine ⟨?_, ?_, ?_⟩
  · intro rest keyword separated
    have recognized : startsWithSelect query = true :=
      startsWithSelect_iff.mpr ⟨rest, keyword.1, separated⟩
    simp only [Dialect.select, if_pos recognized]
  · intro rest next keyword here other
    refine completed fun recognized => other ?_
    obtain ⟨found, begins, separated⟩ := startsWithSelect_iff.mp recognized
    obtain rfl := begins.unique keyword.1
    exact separated next here
  · intro missing
    refine completed fun recognized => missing ?_
    obtain ⟨rest, begins, separated⟩ := startsWithSelect_iff.mp recognized
    exact ⟨rest, begins, fun next here =>
      continuesIdentifier_of_separates apart (separated next here)⟩

/-- In front of a star the keyword is recognized, in lower case and behind a blank, among
letters that go up to the second extension of Latin. -/
theorem select_keyword_before_star :
    ∃ layout, Conformance.userPosts.layout = .ok layout ∧
      Dialect.sqlite.select layout " select* FROM users" =
        misconfigured .selectIntoNested := by
  let letters : Char → Bool := fun character =>
    192 ≤ character.toNat && character.toNat ≤ 591
  have apart : ∀ character, letters character = true →
      127 < character.toNat ∧ Text.isBlank character = false := by
    intro character letter
    obtain ⟨low, high⟩ : 192 ≤ character.toNat ∧ character.toNat ≤ 591 := by
      simpa [letters] using letter
    refine ⟨by omega, ?_⟩
    by_contra blank
    have range := code_of_isBlank (by simpa using blank)
    omega
  have spelled : Text.EqualButCase "select" "select" :=
    Text.sameColumn_iff_equalButCase.mp (by decide)
  have star : ∀ next ∈ "* FROM users".toList.head?, '*' = next :=
    fun next behind => Option.some.inj behind
  have begins : BeginsWithSelect " select* FROM users" "* FROM users".toList :=
    ⟨[' '], "select".toList, rfl, List.forall_mem_singleton.mpr rfl, spelled⟩
  refine ⟨_, rfl, (select_keyword_before_separators .sqlite _ " select* FROM users" apart).1 _
    ⟨begins, ?_⟩ ?_⟩
  · intro next behind
    obtain rfl := star next behind
    rfl
  · intro next behind
    obtain rfl := star next behind
    exact .inr (.inl rfl)

/-- The keyword stands in front of a quoted column, which cannot continue an
identifier.  The query is completed a second time for a record, and for two joined
records it is let through. -/
theorem select_before_quote_unrecognized :
    SelectKeyword (fun _ => false) "SELECT\"id\" FROM users" "\"id\" FROM users".toList ∧
      (∃ layout, Conformance.users.layout = .ok layout ∧ layout.isJoin = false ∧
        Dialect.sqlite.select layout "SELECT\"id\" FROM users" =
          .ok "SELECT \"id\", \"name\", \"age\", \"address\" SELECT\"id\" FROM users") ∧
      ∃ layout, Conformance.userPosts.layout = .ok layout ∧ layout.isJoin = true ∧
        ∃ sql, Dialect.sqlite.select layout "SELECT\"id\" FROM users" = .ok sql := by
  have spelled : Text.EqualButCase "SELECT" "select" :=
    Text.sameColumn_iff_equalButCase.mp (by decide)
  refine ⟨⟨⟨[], "SELECT".toList, rfl, by simp, spelled⟩, ?_⟩, ⟨_, rfl, rfl, rfl⟩,
    ⟨_, rfl, rfl, _, rfl⟩⟩
  intro next behind
  obtain rfl : '\x22' = next := Option.some.inj behind
  rfl

end RecordMapping
