/-
Module: RecordMapping.Proofs.TextOffsets
Purpose: Texts cut at offsets that are counted in bytes.
Main exports: isBoundary, slice?, isBoundary_iff, slice?_of_append
-/

namespace RecordMapping.Text

/-!
An offset into a text counts bytes, and most offsets into a text with long characters lie
inside of one.  A text can be cut at the others only: at its end, and in front of each byte
that begins a character.  These are exactly the sizes of its beginnings.
-/

/-- Whether a text can be cut at an offset. -/
def isBoundary (text : String) (offset : Nat) : Bool := String.Pos.Raw.isValid text ⟨offset⟩

/-- The text from one offset to another one, if it can be cut at both and the first is not
behind the second. -/
def slice? (text : String) (first last : Nat) : Option String :=
  if cuts : String.Pos.Raw.IsValid text ⟨first⟩ ∧ String.Pos.Raw.IsValid text ⟨last⟩ ∧
      first ≤ last then
    some (text.extract (text.pos ⟨first⟩ cuts.1) (text.pos ⟨last⟩ cuts.2.1))
  else none

theorem isValid_iff {text : String} {offset : Nat} :
    String.Pos.Raw.IsValid text ⟨offset⟩ ↔
      ∃ front back, text = front ++ back ∧ front.utf8ByteSize = offset := by
  simp only [String.Pos.Raw.isValid_iff_exists_append, String.Pos.Raw.ext_iff,
    String.byteIdx_rawEndPos, eq_comm]

theorem isBoundary_iff {text : String} {offset : Nat} :
    isBoundary text offset = true ↔
      ∃ front back, text = front ++ back ∧ front.utf8ByteSize = offset := by
  rw [isBoundary, String.Pos.Raw.isValid_eq_true_iff, isValid_iff]

/-- Between the sizes of two beginnings of a text stands what one has more than the
other. -/
theorem slice?_of_append {text front middle back : String}
    (split : text = front ++ middle ++ back) :
    slice? text front.utf8ByteSize (front ++ middle).utf8ByteSize = some middle := by
  have opens : String.Pos.Raw.IsValid text ⟨front.utf8ByteSize⟩ :=
    isValid_iff.mpr ⟨front, middle ++ back, by rw [split, String.append_assoc], rfl⟩
  have ends : String.Pos.Raw.IsValid text ⟨(front ++ middle).utf8ByteSize⟩ :=
    isValid_iff.mpr ⟨front ++ middle, back, split, rfl⟩
  have order : front.utf8ByteSize ≤ (front ++ middle).utf8ByteSize := by simp
  rw [slice?, dif_pos ⟨opens, ends, order⟩]
  apply congrArg some
  apply String.toByteArray_inj.mp
  have bytes : text.toByteArray =
      front.toByteArray ++ (middle.toByteArray ++ back.toByteArray) := by
    rw [split, String.toByteArray_append, String.toByteArray_append, ByteArray.append_assoc]
  calc (text.extract _ _).toByteArray
    _ = (front.toByteArray ++ (middle.toByteArray ++ back.toByteArray)).extract
          (front.toByteArray.size + 0) (front.toByteArray.size + middle.toByteArray.size) := by
        simp [bytes]
    _ = (middle.toByteArray ++ back.toByteArray).extract 0 middle.toByteArray.size :=
        ByteArray.extract_append_size_add
    _ = middle.toByteArray := ByteArray.extract_append_eq_left rfl

end RecordMapping.Text
