/-
Module: RecordMapping.Proofs.Excerpts
Purpose: Where long texts are cut, and how long what is quoted of statements can be.
Main exports: Text.boundaryBelow, Text.cutBack, Text.LongestFront, Text.cutBack_eq,
  excerpts_within_bounds
-/
import RecordMapping.Proofs.TextOffsets
import RecordMapping.Statement

namespace RecordMapping

namespace Text

/-!
The place for a cut is looked for from the limit downwards, in bytes, and the first offset
that splits no character is taken.  A text can always be cut at its beginning, so the search
ends, and what is in front of the place it finds is the longest part that fits.
-/

/-- The last place at or in front of an offset at which a text can be cut; nothing if the
search would have to go on below zero. -/
def boundaryBelow (text : String) : Nat → Option Nat
  | 0 => if isBoundary text 0 then some 0 else none
  | offset + 1 =>
      if isBoundary text (offset + 1) then some (offset + 1) else boundaryBelow text offset

/-- A text cut at the last place that the limit allows; nothing if there is none. -/
def cutBack (text : String) (limit : Nat) : Option String :=
  if text.utf8ByteSize ≤ limit then some text
  else do slice? text 0 (← boundaryBelow text limit)

/-- The longest leading part of a text that ends between two characters and has at most
`limit` bytes. -/
structure LongestFront (text : String) (limit : Nat) (front : String) : Prop where
  leading : front.toList <+: text.toList
  within : front.utf8ByteSize ≤ limit
  longest : ∀ other : String, other.toList <+: text.toList → other.utf8ByteSize ≤ limit →
    other.toList <+: front.toList

variable {text front : String} {limit offset : Nat}

/-! ### Sizes of beginnings -/

theorem size_ofList_cons (character : Char) (rest : List Char) :
    (String.ofList (character :: rest)).utf8ByteSize =
      character.utf8Size + (String.ofList rest).utf8ByteSize := by
  rw [String.ofList_cons, String.utf8ByteSize_append, String.utf8ByteSize_singleton]

theorem exists_append_of_leading (leading : front.toList <+: text.toList) :
    ∃ back, text = front ++ back := by
  obtain ⟨back, whole⟩ := leading
  refine ⟨String.ofList back, String.toList_inj.mp ?_⟩
  rw [String.toList_append, String.toList_ofList, whole]

/-- Of two beginnings of a text, the one that is not larger is a beginning of the other. -/
theorem leading_of_size_le {other : String} (leading : front.toList <+: text.toList)
    (leadingToo : other.toList <+: text.toList)
    (smaller : other.utf8ByteSize ≤ front.utf8ByteSize) : other.toList <+: front.toList := by
  rcases List.prefix_or_prefix_of_prefix leadingToo leading with shorter | longer
  · exact shorter
  · obtain ⟨back, rfl⟩ := exists_append_of_leading longer
    have none : back = "" := by
      rw [String.utf8ByteSize_append] at smaller
      exact String.utf8ByteSize_eq_zero_iff.mp (by omega)
    simp [none]

theorem LongestFront.unique {other : String} (one : LongestFront text limit front)
    (two : LongestFront text limit other) : front = other := by
  have shorter := two.longest front one.leading one.within
  have longer := one.longest other two.leading two.within
  exact String.toList_inj.mp (shorter.eq_of_length_le longer.length_le)

theorem longestFront_self (fits : text.utf8ByteSize ≤ limit) : LongestFront text limit text :=
  ⟨List.prefix_refl _, fits, fun _ leading _ => leading⟩

/-! ### Cuts from the front -/

theorem size_fitting (room : Nat) (text : List Char) :
    (String.ofList (fitting room text)).utf8ByteSize ≤ room := by
  induction text generalizing room with
  | nil => simp [fitting]
  | cons character rest inductionHypothesis =>
      by_cases fits : character.utf8Size ≤ room
      · have behind := inductionHypothesis (room - character.utf8Size)
        rw [fitting, if_pos fits, size_ofList_cons]
        omega
      · simp [fitting, fits]

/-- What fits is taken character by character, as long as there is room. -/
theorem fitting_longest (room : Nat) {text other : List Char} (leading : other <+: text)
    (fits : (String.ofList other).utf8ByteSize ≤ room) : other <+: fitting room text := by
  induction text generalizing room other with
  | nil => exact leading
  | cons character rest inductionHypothesis =>
      cases other with
      | nil => exact List.nil_prefix
      | cons first further =>
          obtain ⟨rfl, behind⟩ := List.cons_prefix_cons.mp leading
          rw [size_ofList_cons] at fits
          rw [fitting, if_pos (by omega)]
          exact List.cons_prefix_cons.mpr ⟨rfl, inductionHypothesis _ behind (by omega)⟩

theorem longestFront_cutAt (text : String) (limit : Nat) :
    LongestFront text limit (cutAt text limit) where
  leading := by simpa [cutAt] using fitting_isPrefix limit text.toList
  within := size_fitting limit text.toList
  longest := by
    intro other leading fits
    rw [cutAt, String.toList_ofList]
    exact fitting_longest limit leading (by rwa [String.ofList_toList])

theorem cutAt_eq_self_iff : cutAt text limit = text ↔ text.utf8ByteSize ≤ limit := by
  constructor
  · intro whole
    exact whole ▸ (longestFront_cutAt text limit).within
  · exact fun fits => (longestFront_cutAt text limit).unique (longestFront_self fits)

/-! ### Cuts from the limit downwards -/

/-- The search ends at the last boundary, at the latest at the beginning of the text. -/
theorem boundaryBelow_eq (text : String) (offset : Nat) :
    ∃ place, boundaryBelow text offset = some place ∧ place ≤ offset ∧
      isBoundary text place = true ∧
      ∀ other ≤ offset, isBoundary text other = true → other ≤ place := by
  induction offset with
  | zero =>
      have start : isBoundary text 0 = true := isBoundary_iff.mpr ⟨"", text, by simp, rfl⟩
      exact ⟨0, by simp [boundaryBelow, start], Nat.le_refl 0, start, fun _ below _ => below⟩
  | succ offset inductionHypothesis =>
      by_cases here : isBoundary text (offset + 1) = true
      · exact ⟨offset + 1, by simp [boundaryBelow, here], Nat.le_refl _, here,
          fun _ below _ => below⟩
      · obtain ⟨place, found, below, boundary, last⟩ := inductionHypothesis
        refine ⟨place, by simp [boundaryBelow, here, found], by omega, boundary,
          fun other within cut => last other ?_ cut⟩
        have apart : other ≠ offset + 1 := fun same => here (same ▸ cut)
        omega

/-- The search for the cut never leaves the text, and finds what fits. -/
theorem cutBack_eq (text : String) (limit : Nat) :
    cutBack text limit = some (cutAt text limit) := by
  by_cases fits : text.utf8ByteSize ≤ limit
  · rw [cutBack, if_pos fits, cutAt_eq_self_iff.mpr fits]
  · obtain ⟨place, found, below, boundary, last⟩ := boundaryBelow_eq text limit
    obtain ⟨front, back, split, rfl⟩ := isBoundary_iff.mp boundary
    have cut : slice? text 0 front.utf8ByteSize = some front := by
      simpa using slice?_of_append (show text = "" ++ front ++ back by simpa using split)
    have leading : front.toList <+: text.toList := by simp [split]
    have longest : LongestFront text limit front := by
      refine ⟨leading, below, fun other leadingToo within => ?_⟩
      obtain ⟨behind, whole⟩ := exists_append_of_leading leadingToo
      have smaller := last _ within (isBoundary_iff.mpr ⟨other, behind, whole, rfl⟩)
      exact leading_of_size_le leading leadingToo smaller
    rw [cutBack, if_neg fits, found, ← longest.unique (longestFront_cutAt text limit)]
    exact cut

/-! ### Excerpts -/

/-- What an excerpt keeps of a text. -/
def kept (text : String) : String := trimEnd (cutAt text excerptLimit)

theorem excerpt_eq (text : String) :
    excerpt text = kept text ++ if excerptLimit < text.utf8ByteSize then "..." else "" := rfl

theorem kept_leading (text : String) : (kept text).toList <+: text.toList := by
  obtain ⟨blanks, split, _⟩ := trimEnd_append_blanks (cutAt text excerptLimit)
  have front : (kept text).toList <+: (cutAt text excerptLimit).toList :=
    ⟨blanks.toList, by rw [kept, ← String.toList_append, ← split]⟩
  exact front.trans (longestFront_cutAt text excerptLimit).leading

theorem size_kept (text : String) : (kept text).utf8ByteSize ≤ excerptLimit := by
  obtain ⟨blanks, split, _⟩ := trimEnd_append_blanks (cutAt text excerptLimit)
  have within := (longestFront_cutAt text excerptLimit).within
  rw [split, String.utf8ByteSize_append] at within
  exact Nat.le_of_add_right_le within

theorem excerpt_of_long (long : excerptLimit < text.utf8ByteSize) :
    excerpt text = kept text ++ "..." := by
  rw [excerpt_eq, if_pos long]

theorem excerpt_of_short (short : text.utf8ByteSize ≤ excerptLimit) :
    excerpt text = kept text := by
  rw [excerpt_eq, if_neg (Nat.not_lt.mpr short), String.append_empty]

/-- The dots tell the excerpt of a text that is too long from that of one that is not. -/
theorem dotted_ne_kept (text : String) : kept text ++ "..." ≠ kept text := by
  intro same
  have sizes := congrArg String.utf8ByteSize same
  rw [String.utf8ByteSize_append] at sizes
  exact absurd (Nat.add_eq_left.mp sizes) (by decide)

theorem excerpt_eq_dotted_iff :
    excerpt text = kept text ++ "..." ↔ excerptLimit < text.utf8ByteSize := by
  refine ⟨fun dotted => Nat.lt_of_not_le fun short => ?_, excerpt_of_long⟩
  exact dotted_ne_kept text (dotted.symm.trans (excerpt_of_short short))

theorem excerpt_eq_kept_iff : excerpt text = kept text ↔ text.utf8ByteSize ≤ excerptLimit := by
  refine ⟨fun whole => Nat.le_of_not_lt fun long => ?_, excerpt_of_short⟩
  exact dotted_ne_kept text ((excerpt_of_long long).symm.trans whole)

theorem size_excerpt (text : String) : (excerpt text).utf8ByteSize ≤ 500 := by
  have within : (kept text).utf8ByteSize ≤ 497 := size_kept text
  have dots : "...".utf8ByteSize = 3 := by decide
  rcases Nat.lt_or_ge excerptLimit text.utf8ByteSize with long | short
  · rw [excerpt_of_long long, String.utf8ByteSize_append]
    omega
  · rw [excerpt_of_short short]
    omega

end Text

/-- The excerpts of the text and of its parameters, with what stands around the latter. -/
theorem Statement.size_text (statement : Statement) : statement.text.utf8ByteSize ≤ 1003 := by
  have sql := Text.size_excerpt statement.sql
  have parameters := Text.size_excerpt (Text.separated ", " (statement.parameters.map Value.text))
  have brackets : " [".utf8ByteSize = 2 ∧ "]".utf8ByteSize = 1 := by decide
  rw [Statement.text, String.utf8ByteSize_append]
  split
  · rw [String.utf8ByteSize_empty]
    omega
  · rw [String.utf8ByteSize_append, String.utf8ByteSize_append]
    omega

/-- A long text is cut at the last boundary within the limit: the search for it downwards from
the limit finds one, and what is in front of it is the longest beginning that fits, the whole
text if it fits itself.  So an excerpt has at most 500 bytes.  It keeps the beginning of the
text that fits into 497 bytes without the blanks at its end, and ends in three dots exactly
if the text has more bytes.  A quoted statement has at most 1003 bytes, whatever its text
and parameters are. -/
theorem excerpts_within_bounds :
    (∀ text limit,
      Text.cutBack text limit = some (Text.cutAt text limit) ∧
      Text.LongestFront text limit (Text.cutAt text limit) ∧
      (Text.cutAt text limit = text ↔ text.utf8ByteSize ≤ limit)) ∧
    (∀ text, ∃ kept blanks,
      Text.cutBack text 497 = some (kept ++ blanks) ∧
      (∀ character ∈ blanks.toList, Text.isBlank character = true) ∧
      (∀ character, kept.toList.getLast? = some character → Text.isBlank character = false) ∧
      kept.toList <+: text.toList ∧
      (Text.excerpt text = kept ++ "..." ↔ 497 < text.utf8ByteSize) ∧
      (Text.excerpt text = kept ↔ text.utf8ByteSize ≤ 497) ∧
      (Text.excerpt text).utf8ByteSize ≤ 500) ∧
    ∀ statement : Statement, statement.text.utf8ByteSize ≤ 1003 := by
  refine ⟨fun text limit => ?_, fun text => ?_, Statement.size_text⟩
  · exact ⟨Text.cutBack_eq text limit, Text.longestFront_cutAt text limit,
      Text.cutAt_eq_self_iff⟩
  · obtain ⟨blanks, split, allBlank⟩ :=
      Text.trimEnd_append_blanks (Text.cutAt text Text.excerptLimit)
    have cut : Text.cutBack text 497 = some (Text.kept text ++ blanks) :=
      (Text.cutBack_eq text 497).trans (congrArg some split)
    exact ⟨Text.kept text, blanks, cut, allBlank, fun _ => Text.isBlank_of_getLast?_trimEnd,
      Text.kept_leading text, Text.excerpt_eq_dotted_iff, Text.excerpt_eq_kept_iff,
      Text.size_excerpt text⟩

end RecordMapping
