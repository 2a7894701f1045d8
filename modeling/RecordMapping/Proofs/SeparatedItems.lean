/-
Module: RecordMapping.Proofs.SeparatedItems
Purpose: Where separators stand in a list that is written behind a text, by any writer that
  only appends.
Main exports: Writer, Writer.writeList, Writer.writeList_eq_separated, LeavesSeparator,
  separators_between_written_items, unwritten_last_item_leaves_separator
-/
import RecordMapping.Text.Separated

namespace RecordMapping.Text

/-!
A list is written into a buffer that may hold a text already.  Whether a separator is due is
seen from the buffer alone: it is when the buffer has grown since the last item was begun.
So the separator behind an item is written before it is known whether the next item writes
anything, and if no item behind it does, the separator is left at the end.
-/

/-- A writer that only appends: from its state, the text in front and an item, its next state
and the text that it adds. -/
abbrev Writer (σ α : Type) := σ → String → α → σ × String

/-- A list that is being written. -/
structure ListProgress (σ : Type) where
  state : σ
  buffer : String
  /-- The size of the buffer when the last item was begun. -/
  mark : Nat

namespace Writer

variable {σ α : Type}

/-- Writes one more item, behind a separator if the buffer has grown since the last one was
begun; with the text that the item added. -/
def step (writer : Writer σ α) (separator : String) (progress : ListProgress σ) (item : α) :
    ListProgress σ × String :=
  let front :=
    if progress.mark < progress.buffer.utf8ByteSize then progress.buffer ++ separator
    else progress.buffer
  match writer progress.state front item with
  | (state, text) => (⟨state, front ++ text, front.utf8ByteSize⟩, text)

/-- Writes items one after the other; with the texts that they added. -/
def run (writer : Writer σ α) (separator : String) :
    ListProgress σ → List α → ListProgress σ × List String
  | progress, [] => (progress, [])
  | progress, item :: rest =>
      match writer.step separator progress item with
      | (next, text) =>
          match writer.run separator next rest with
          | (last, texts) => (last, text :: texts)

/-- Writes a list behind a text: the text with the list, and what each item added. -/
def writeList (writer : Writer σ α) (separator buffer : String) (state : σ)
    (items : List α) : String × List String :=
  match writer.run separator ⟨state, buffer, buffer.utf8ByteSize⟩ items with
  | (last, texts) => (last.buffer, texts)

/-- The writer that adds each item as it is. -/
def plain : Writer Unit String := fun _ _ item => ((), item)

end Writer

/-! ### The buffer and the items -/

/-- A text has grown by what was added to it unless that is empty. -/
theorem decide_grown (front text : String) :
    decide (front.utf8ByteSize < (front ++ text).utf8ByteSize) = (text != "") := by
  rw [String.utf8ByteSize_append, Bool.eq_iff_iff, decide_eq_true_eq, bne_iff_ne, ne_eq,
    ← String.utf8ByteSize_eq_zero_iff]
  omega

namespace Writer

variable {σ α : Type} (writer : Writer σ α) (separator : String)

theorem length_run (progress : ListProgress σ) (items : List α) :
    (writer.run separator progress items).2.length = items.length := by
  induction items generalizing progress with
  | nil => rfl
  | cons item rest inductionHypothesis => simp [run, inductionHypothesis]

/-- One item is added behind what the buffer held, and behind a separator if that was due. -/
theorem buffer_step (progress : ListProgress σ) (item : α) :
    (writer.step separator progress item).1.buffer =
      progress.buffer ++
        (if progress.mark < progress.buffer.utf8ByteSize then separator else "") ++
        (writer.step separator progress item).2 := by
  unfold step
  split <;> simp

/-- Behind an item, a separator is due if the item added anything. -/
theorem due_step (progress : ListProgress σ) (item : α) :
    decide ((writer.step separator progress item).1.mark <
        (writer.step separator progress item).1.buffer.utf8ByteSize) =
      ((writer.step separator progress item).2 != "") :=
  decide_grown _ _

/-- What a run adds to its buffer is decided by whether a separator is due at its beginning,
and by what the items add. -/
theorem buffer_run (progress : ListProgress σ) (items : List α) :
    (writer.run separator progress items).1.buffer =
      progress.buffer ++
        separatedAfter separator (progress.mark < progress.buffer.utf8ByteSize)
          (writer.run separator progress items).2 := by
  induction items generalizing progress with
  | nil => simp [run, separatedAfter]
  | cons item rest inductionHypothesis =>
      simp only [run, separatedAfter]
      rw [inductionHypothesis, due_step, buffer_step]
      simp only [decide_eq_true_eq, String.append_assoc]

/-- A list is written behind the text that was there, with its separators decided by the
texts that the items added. -/
theorem writeList_eq_separated (buffer : String) (state : σ) (items : List α) :
    (writer.writeList separator buffer state items).1 =
      buffer ++ separated separator (writer.writeList separator buffer state items).2 := by
  have whole := writer.buffer_run separator ⟨state, buffer, buffer.utf8ByteSize⟩ items
  simp only [Nat.lt_irrefl, decide_false] at whole
  exact whole

end Writer

theorem outputs_plain (separator : String) (progress : ListProgress Unit)
    (items : List String) : (Writer.plain.run separator progress items).2 = items := by
  induction items generalizing progress with
  | nil => rfl
  | cons item rest inductionHypothesis =>
      simp only [Writer.run, inductionHypothesis]
      rfl

/-- Texts that are written as they are make the list that statements have. -/
theorem writeList_plain (separator buffer : String) (items : List String) :
    (Writer.plain.writeList separator buffer () items).1 =
      buffer ++ separated separator items := by
  rw [Writer.writeList_eq_separated, Writer.writeList, outputs_plain]

/-! ### The separator at the end -/

/-- The last item adds nothing, but one in front of it does. -/
def LeavesSeparator (texts : List String) : Prop :=
  texts.getLast? = some "" ∧ ∃ text ∈ texts, text ≠ ""

instance (texts : List String) : Decidable (LeavesSeparator texts) :=
  inferInstanceAs (Decidable (_ ∧ _))

/-- The texts with the separator between those that are not empty. -/
def joined (separator : String) (texts : List String) : String :=
  separator.intercalate (texts.filter (· ≠ ""))

theorem joined_of_blank {separator : String} {texts : List String}
    (blank : ∀ text ∈ texts, text = "") : joined separator texts = "" := by
  have none : texts.filter (· ≠ "") = [] := List.filter_eq_nil_iff.mpr (by simpa using blank)
  rw [joined, none, String.intercalate_nil]

@[simp] theorem joined_empty_cons (separator : String) (texts : List String) :
    joined separator ("" :: texts) = joined separator texts := by
  simp [joined]

/-- A text that is not empty stands in front of the others, behind a separator of its own if
any of them is not. -/
theorem joined_cons {separator text : String} (written : text ≠ "") (rest : List String) :
    joined separator (text :: rest) =
      text ++
        if ∃ other ∈ rest, other ≠ "" then separator ++ joined separator rest else "" := by
  have kept : (text :: rest).filter (· ≠ "") = text :: rest.filter (· ≠ "") :=
    List.filter_cons_of_pos (by simpa using written)
  by_cases further : ∃ other ∈ rest, other ≠ ""
  · have some : rest.filter (· ≠ "") ≠ [] := by simpa using further
    rw [if_pos further, joined, kept, String.intercalate_cons_of_ne_nil some,
      String.append_assoc, joined]
  · have none : rest.filter (· ≠ "") = [] := by simpa using further
    rw [if_neg further, joined, kept, none, String.intercalate_singleton, String.append_empty]

/-- Separators stand between the items that write something, and one more is left at the end
if the last item writes nothing behind one that does. -/
theorem separated_eq_joined (separator : String) (texts : List String) :
    separated separator texts =
      joined separator texts ++ if LeavesSeparator texts then separator else "" := by
  induction texts with
  | nil => simp [joined, LeavesSeparator]
  | cons text rest inductionHypothesis =>
      by_cases empty : text = ""
      · subst empty
        have same : separated separator ("" :: rest) = separated separator rest := by
          simp [separated, separatedAfter]
        have leaves : LeavesSeparator ("" :: rest) ↔ LeavesSeparator rest := by
          cases rest with
          | nil => simp [LeavesSeparator]
          | cons next more => simp [LeavesSeparator]
        simp only [same, inductionHypothesis, leaves, joined_empty_cons]
      · cases rest with
        | nil => simp [separated, separatedAfter, joined_cons, LeavesSeparator, empty]
        | cons next more =>
            have leaves : LeavesSeparator (text :: next :: more) ↔
                (next :: more).getLast? = some "" := by
              simp [LeavesSeparator, empty]
            have behind : separated separator (text :: next :: more) =
                text ++ (separator ++ separated separator (next :: more)) := by
              rw [← separatedAfter_true_cons]
              simp [separated, separatedAfter, empty]
            rw [behind, inductionHypothesis, joined_cons empty]
            by_cases further : ∃ other ∈ next :: more, other ≠ ""
            · have same : LeavesSeparator (next :: more) ↔
                  (next :: more).getLast? = some "" := and_iff_left further
              simp only [leaves, same, if_pos further, String.append_assoc]
            · have blank : ∀ other ∈ next :: more, other = "" := by simpa using further
              have last : (next :: more).getLast? = some "" := by
                rw [List.getLast?_eq_some_getLast (List.cons_ne_nil next more)]
                exact congrArg some (blank _ (List.getLast_mem _))
              have stays : ¬ LeavesSeparator (next :: more) := fun kept => further kept.2
              rw [if_neg stays, if_pos (leaves.mpr last), if_neg further, joined_of_blank blank]
              simp

/-- A list written behind a text keeps the text, and adds what the items add, in order, with
the separator between those that add anything.  One more separator stands at its end exactly
if the last item adds nothing and an item in front of it does, so only then, and not for an
empty separator, is it another text than the items joined. -/
theorem separators_between_written_items {σ α : Type} (writer : Writer σ α)
    (separator buffer : String) (state : σ) (items : List α) :
    (writer.writeList separator buffer state items).2.length = items.length ∧
    (writer.writeList separator buffer state items).1 =
      buffer ++ separated separator (writer.writeList separator buffer state items).2 ∧
    (writer.writeList separator buffer state items).1 =
      buffer ++ (joined separator (writer.writeList separator buffer state items).2 ++
        if LeavesSeparator (writer.writeList separator buffer state items).2 then separator
        else "") ∧
    ((writer.writeList separator buffer state items).1 =
        buffer ++ joined separator (writer.writeList separator buffer state items).2 ↔
      ¬ LeavesSeparator (writer.writeList separator buffer state items).2 ∨ separator = "") := by
  have written := writer.writeList_eq_separated separator buffer state items
  refine ⟨writer.length_run separator _ items, written, ?_, ?_⟩
  · rw [written, separated_eq_joined]
  · rw [written, separated_eq_joined]
    by_cases leaves : LeavesSeparator (writer.writeList separator buffer state items).2
    · simp [leaves]
    · simp [leaves]

/-- An item that adds nothing at the end leaves a separator behind the others. -/
theorem unwritten_last_item_leaves_separator :
    Writer.plain.writeList ", " "" () ["a", ""] = ("a, ", ["a", ""]) ∧
      separated ", " ["a", ""] = "a, " ∧ joined ", " ["a", ""] = "a" ∧ "a, " ≠ "" ++ "a" := by
  decide

end RecordMapping.Text
