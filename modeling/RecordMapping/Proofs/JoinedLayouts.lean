/-
Module: RecordMapping.Proofs.JoinedLayouts
Purpose: Which lists of parts are joined, which flaw is reported of the others, and whose
  metadata are asked for on the way.
Main exports: Layout.PartsFit, Layout.FirstFlaw, Layout.fromPartsAsking,
  join_parts_checked_exactly
-/
import Mathlib.Algebra.BigOperators.Group.List.Basic
import Mathlib.Algebra.Order.Ring.Nat
import Mathlib.Data.List.Induction
import Mathlib.Data.Set.List
import RecordMapping.Proofs.FieldLists
import RecordMapping.Record.Layout

namespace RecordMapping

/-!
Parts can be joined when there are any, each has an alias of its own, and the metadata of
each can be had.  The flaw of any other list is that of the first part which a fitting front
cannot be followed by; at that part a missing alias comes before an alias that the front has
already, and that before the part's own metadata.  Metadata are asked for part by part, so
the same check is also made with a source of metadata that may change with every question.
-/

namespace Layout

/-- The part of a join that has been checked. -/
def asPart (joined : JoinedMeta) : JoinPart :=
  ⟨joined.field, joined.tableAlias, .ok joined.metadata⟩

/-! ### Fitting and flawed parts -/

/-- Every part has an alias, no two aliases are equal but for case, and the metadata of
every part are in order. -/
structure PartsFit (parts : List JoinPart) : Prop where
  named : ∀ part ∈ parts, part.tableAlias ≠ ""
  distinct : parts.Pairwise fun first second =>
    ¬ Text.EqualButCase first.tableAlias second.tableAlias
  mapped : ∀ part ∈ parts, ∃ metadata, part.metadata = .ok metadata

/-- What is reported of a part that stands behind `front`, and which metadata have been
asked for to find it. -/
inductive PartFlaw (typeName : String) (front : List JoinPart) (part : JoinPart) :
    Failure → List JoinPart → Prop
  | unnamed (empty : part.tableAlias = "") :
      PartFlaw typeName front part (.configuration (.emptyAlias part.field typeName)) front
  | repeated (named : part.tableAlias ≠ "") {earlier : JoinPart} (member : earlier ∈ front)
      (same : Text.EqualButCase earlier.tableAlias part.tableAlias) :
      PartFlaw typeName front part
        (.configuration (.duplicateAlias part.tableAlias typeName)) front
  | unmapped (named : part.tableAlias ≠ "")
      (fresh : ∀ earlier ∈ front, ¬ Text.EqualButCase earlier.tableAlias part.tableAlias)
      {failure : Failure} (refused : part.metadata = .error failure) :
      PartFlaw typeName front part failure (front ++ [part])

/-- What is reported of a list of parts: that it is empty, or the flaw of the part behind
its longest fitting front. -/
inductive FirstFlaw (typeName : String) : List JoinPart → Failure → List JoinPart → Prop
  | empty : FirstFlaw typeName [] (.configuration (.noJoinedPart typeName)) []
  | part {front back asked : List JoinPart} {part : JoinPart} {failure : Failure}
      (passed : PartsFit front) (flaw : PartFlaw typeName front part failure asked) :
      FirstFlaw typeName (front ++ part :: back) failure asked

variable {typeName : String} {front parts : List JoinPart} {part : JoinPart}

theorem PartsFit.concat (passed : PartsFit front) (named : part.tableAlias ≠ "")
    (fresh : ∀ earlier ∈ front, ¬ Text.EqualButCase earlier.tableAlias part.tableAlias)
    {metadata : RecordMeta} (mapped : part.metadata = .ok metadata) :
    PartsFit (front ++ [part]) where
  named := by simpa [or_imp, forall_and] using ⟨passed.named, named⟩
  distinct := by
    rw [List.pairwise_append]
    refine ⟨passed.distinct, List.pairwise_singleton _ _, fun earlier member other last => ?_⟩
    rw [List.mem_singleton.mp last]
    exact fresh earlier member
  mapped := by
    intro other member
    rcases List.mem_append.mp member with earlier | last
    · exact passed.mapped other earlier
    · exact ⟨metadata, List.mem_singleton.mp last ▸ mapped⟩

/-- Every list of parts fits or has a first flaw, by induction on its last part. -/
theorem fit_or_flawed (typeName : String) (parts : List JoinPart) :
    PartsFit parts ∨ ∃ front part back failure asked, parts = front ++ part :: back ∧
      PartsFit front ∧ PartFlaw typeName front part failure asked := by
  induction parts using List.reverseRecOn with
  | nil =>
      exact .inl ⟨fun _ member => absurd member List.not_mem_nil, .nil,
        fun _ member => absurd member List.not_mem_nil⟩
  | append_singleton front part inductionHypothesis =>
      rcases inductionHypothesis with passed | ⟨front, flawed, back, failure, asked, split, found⟩
      · by_cases named : part.tableAlias = ""
        · exact .inr ⟨front, part, [], _, _, rfl, passed, .unnamed named⟩
        by_cases fresh : ∀ earlier ∈ front,
            ¬ Text.EqualButCase earlier.tableAlias part.tableAlias
        · cases mapped : part.metadata with
          | ok metadata => exact .inl (passed.concat named fresh mapped)
          | error failure =>
              exact .inr ⟨front, part, [], _, _, rfl, passed, .unmapped named fresh mapped⟩
        · obtain ⟨earlier, member, same⟩ : ∃ earlier ∈ front,
              Text.EqualButCase earlier.tableAlias part.tableAlias := by
            simpa only [not_forall, not_not, exists_prop] using fresh
          exact .inr ⟨front, part, [], _, _, rfl, passed, .repeated named member same⟩
      · exact .inr ⟨front, flawed, back ++ [part], failure, asked, by simp [split], found⟩

/-- Parts that fit are those of a join. -/
theorem PartsFit.exists_joined (passed : PartsFit parts) :
    ∃ joined : List JoinedMeta, joined.map asPart = parts := by
  rw [← Set.mem_range, Set.range_list_map]
  intro part member
  obtain ⟨metadata, mapped⟩ := passed.mapped part member
  exact ⟨⟨part.tableAlias, part.field, metadata⟩, by rw [asPart, ← mapped]⟩

/-! ### The check -/

section Asking

variable {σ : Type} {ask : JoinPart → σ → Outcome RecordMeta × σ}

/-- Checks the parts that follow those in `done`, as `checkParts` does, but asks for the
metadata of a part. -/
def checkPartsAsking (ask : JoinPart → σ → Outcome RecordMeta × σ) (typeName : String)
    (done : List JoinedMeta) : List JoinPart → σ → Outcome (List JoinedMeta) × σ
  | [], state => (.ok done.reverse, state)
  | part :: rest, state =>
      if part.tableAlias.isEmpty then (misconfigured (.emptyAlias part.field typeName), state)
      else if done.any fun earlier => Text.sameColumn earlier.tableAlias part.tableAlias then
        (misconfigured (.duplicateAlias part.tableAlias typeName), state)
      else
        match ask part state with
        | (.error failure, after) => (.error failure, after)
        | (.ok metadata, after) =>
            checkPartsAsking ask typeName
              (⟨part.tableAlias, part.field, metadata⟩ :: done) rest after

/-- The layout of a joined type, as of `fromParts`, where the metadata of the parts are
asked for. -/
def fromPartsAsking (ask : JoinPart → σ → Outcome RecordMeta × σ) (typeName : String)
    (parts : List JoinPart) (state : σ) : Outcome Layout × σ :=
  if parts.isEmpty then (misconfigured (.noJoinedPart typeName), state)
  else
    match checkPartsAsking ask typeName [] parts state with
    | (outcome, after) => (outcome.map .join, after)

/-- Whoever is asked answers with the metadata that the parts have. -/
def Answers (ask : JoinPart → σ → Outcome RecordMeta × σ) : Prop :=
  ∀ part state, (ask part state).1 = part.metadata

/-- The state of a source that has been asked for the metadata of parts, one by one. -/
def stateAfter (ask : JoinPart → σ → Outcome RecordMeta × σ) (asked : List JoinPart)
    (state : σ) : σ :=
  asked.foldl (fun state part => (ask part state).2) state

theorem stateAfter_concat (front : List JoinPart) (part : JoinPart) (state : σ) :
    stateAfter ask (front ++ [part]) state = (ask part (stateAfter ask front state)).2 := by
  simp [stateAfter, List.foldl_append]

theorem checkPartsAsking_fst (answers : Answers ask) (done : List JoinedMeta)
    (parts : List JoinPart) (state : σ) :
    (checkPartsAsking ask typeName done parts state).1 = checkParts typeName done parts := by
  induction parts generalizing done state with
  | nil => rfl
  | cons part rest inductionHypothesis =>
      unfold checkPartsAsking checkParts
      split
      · rfl
      · split
        · rfl
        · have answered := answers part state
          cases asked : ask part state with
          | mk outcome after =>
              rw [asked] at answered
              rw [← answered]
              cases outcome with
              | error failure => rfl
              | ok metadata => exact inductionHypothesis _ after

/-- Asking changes nothing about the layout. -/
theorem fromPartsAsking_fst (answers : Answers ask) (parts : List JoinPart) (state : σ) :
    (fromPartsAsking ask typeName parts state).1 = fromParts typeName parts := by
  unfold fromPartsAsking fromParts
  split
  · rfl
  · exact congrArg (Except.map Layout.join) (checkPartsAsking_fst answers [] parts state)

theorem any_sameColumn_iff {joined : List JoinedMeta} {name : String} :
    (joined.reverse.any fun earlier => Text.sameColumn earlier.tableAlias name) = true ↔
      ∃ earlier ∈ joined.map asPart, Text.EqualButCase earlier.tableAlias name := by
  simp [Text.sameColumn_iff_equalButCase, asPart]

/-- The check runs through a front that fits, and asks for the metadata of each part of
it once. -/
theorem checkPartsAsking_append (typeName : String) (answers : Answers ask)
    (front middle : List JoinedMeta) (rest : List JoinPart) (state : σ)
    (passed : PartsFit ((front ++ middle).map asPart)) :
    checkPartsAsking ask typeName front.reverse (middle.map asPart ++ rest) state =
      checkPartsAsking ask typeName (front ++ middle).reverse rest
        (stateAfter ask (middle.map asPart) state) := by
  induction middle generalizing front state with
  | nil => simp [stateAfter]
  | cons next middle inductionHypothesis =>
      have named : ¬ (asPart next).tableAlias.isEmpty = true := by
        simpa using passed.named (asPart next) (by simp)
      have fresh : ¬ (front.reverse.any fun earlier =>
          Text.sameColumn earlier.tableAlias (asPart next).tableAlias) = true := by
        rw [any_sameColumn_iff]
        rintro ⟨earlier, member, same⟩
        have distinct := passed.distinct
        rw [List.map_append, List.pairwise_append] at distinct
        exact distinct.2.2 earlier member (asPart next) (by simp) same
      have answered : ask (asPart next) state =
          (.ok next.metadata, (ask (asPart next) state).2) :=
        Prod.ext (answers _ _) rfl
      have further := inductionHypothesis (front ++ [next]) (ask (asPart next) state).2
        (by simpa using passed)
      rw [List.reverse_append, List.append_assoc] at further
      rw [List.map_cons, List.cons_append, checkPartsAsking, if_neg named, if_neg fresh,
        answered]
      exact further

/-- The check stops at a flawed part. -/
theorem checkPartsAsking_flawed (answers : Answers ask) (front : List JoinedMeta)
    (back : List JoinPart) (state : σ) {failure : Failure} {asked : List JoinPart}
    (flaw : PartFlaw typeName (front.map asPart) part failure asked) :
    checkPartsAsking ask typeName front.reverse (part :: back)
        (stateAfter ask (front.map asPart) state) =
      (.error failure, stateAfter ask asked state) := by
  rw [checkPartsAsking]
  cases flaw with
  | unnamed empty => rw [if_pos (by simp [empty])]; rfl
  | repeated named member same =>
      rw [if_neg (by simpa using named), if_pos (any_sameColumn_iff.mpr ⟨_, member, same⟩)]
      rfl
  | unmapped named fresh refused =>
      have unused : ¬ (front.reverse.any fun earlier =>
          Text.sameColumn earlier.tableAlias part.tableAlias) = true := by
        rw [any_sameColumn_iff]
        rintro ⟨earlier, member, same⟩
        exact fresh earlier member same
      have answered := (answers part (stateAfter ask (front.map asPart) state)).trans refused
      rw [if_neg (by simpa using named), if_neg unused]
      cases asked : ask part (stateAfter ask (front.map asPart) state) with
      | mk outcome after =>
          rw [asked] at answered
          obtain rfl : outcome = .error failure := answered
          rw [stateAfter_concat, asked]

theorem fromPartsAsking_of_fit (typeName : String) (answers : Answers ask) (filled : parts ≠ [])
    (passed : PartsFit parts) (state : σ) :
    ∃ joined, joined.map asPart = parts ∧
      fromPartsAsking ask typeName parts state =
        (.ok (.join joined), stateAfter ask parts state) := by
  obtain ⟨joined, rfl⟩ := passed.exists_joined
  refine ⟨joined, rfl, ?_⟩
  have through := checkPartsAsking_append typeName answers [] joined [] state passed
  rw [List.reverse_nil, List.append_nil, List.nil_append] at through
  rw [fromPartsAsking, if_neg (by simpa using filled), through]
  simp [checkPartsAsking, Except.map]

theorem fromPartsAsking_of_flaw (answers : Answers ask) {failure : Failure}
    {asked : List JoinPart} (flaw : FirstFlaw typeName parts failure asked) (state : σ) :
    fromPartsAsking ask typeName parts state = (.error failure, stateAfter ask asked state) := by
  cases flaw with
  | empty => rfl
  | @part front back asked part failure passed flaw =>
      obtain ⟨joined, rfl⟩ := passed.exists_joined
      have through := checkPartsAsking_append typeName answers [] joined
        (part :: back) state passed
      rw [List.reverse_nil, List.nil_append] at through
      rw [fromPartsAsking, if_neg (by simp), through,
        checkPartsAsking_flawed answers joined back state flaw]
      rfl

end Asking

/-- The source that has the metadata at hand. -/
theorem answers_at_hand : Answers fun (part : JoinPart) (_ : Unit) => (part.metadata, ()) :=
  fun _ _ => rfl

theorem fromParts_of_fit (typeName : String) (filled : parts ≠ []) (passed : PartsFit parts) :
    ∃ joined, joined.map asPart = parts ∧ fromParts typeName parts = .ok (.join joined) := by
  obtain ⟨joined, same, made⟩ := fromPartsAsking_of_fit typeName answers_at_hand filled passed ()
  exact ⟨joined, same, (fromPartsAsking_fst answers_at_hand parts ()).symm.trans
    (congrArg Prod.fst made)⟩

theorem fromParts_of_flaw {failure : Failure} {asked : List JoinPart}
    (flaw : FirstFlaw typeName parts failure asked) :
    fromParts typeName parts = .error failure :=
  (fromPartsAsking_fst answers_at_hand parts ()).symm.trans
    (congrArg Prod.fst (fromPartsAsking_of_flaw answers_at_hand flaw ()))

/-- A list of parts can be joined, or has a first flaw. -/
theorem joined_or_flawed (typeName : String) (parts : List JoinPart) :
    (parts ≠ [] ∧ PartsFit parts) ∨ ∃ failure asked, FirstFlaw typeName parts failure asked := by
  by_cases empty : parts = []
  · subst empty
    exact .inr ⟨_, _, .empty⟩
  rcases fit_or_flawed typeName parts with
    passed | ⟨front, part, back, failure, asked, rfl, passed, flaw⟩
  · exact .inl ⟨empty, passed⟩
  · exact .inr ⟨failure, asked, .part passed flaw⟩

/-! ### Columns of a join -/

theorem width_join (joined : List JoinedMeta) :
    (Layout.join joined).width = (joined.map fun part => part.metadata.fields.length).sum := by
  simp [width, metadatas, List.length_flatMap, Function.comp_def]

/-- Every part has a column at least. -/
theorem length_le_width (joined : List JoinedMeta) :
    joined.length ≤ (Layout.join joined).width := by
  have counted : ∀ count ∈ joined.map fun part => part.metadata.fields.length, 1 ≤ count := by
    intro count member
    obtain ⟨part, -, rfl⟩ := List.mem_map.mp member
    have mapped := (RecordMeta.index_eq_ok_iff _).mp ⟨_, part.metadata.indexed⟩
    exact List.length_pos_of_ne_nil mapped.1
  have sum := List.length_le_sum_of_one_le _ counted
  rwa [List.length_map, ← width_join] at sum

/-- The flaw of parts with metadata of field lists is one of the configuration. -/
theorem FirstFlaw.isConfiguration {failure : Failure} {asked : List JoinPart}
    (flaw : FirstFlaw typeName parts failure asked)
    (built : ∀ part ∈ parts, ∃ name fields, part.metadata = RecordMeta.build name fields) :
    failure.isConfiguration = true := by
  cases flaw with
  | empty => rfl
  | part passed flaw =>
      cases flaw with
      | unnamed _ => rfl
      | repeated _ _ _ => rfl
      | unmapped _ _ refused =>
          obtain ⟨name, fields, listed⟩ := built _ (List.mem_append_right _ List.mem_cons_self)
          obtain ⟨fault, _, rfl⟩ := RecordMeta.build_eq_error_iff.mp (listed.symm.trans refused)
          rfl

end Layout

/-- Parts are joined exactly if there are any and they fit, and then they are kept as they
are, in their order, with as many columns as their records have fields.  Otherwise the flaw
behind the longest fitting front is reported, which is one of the configuration if metadata
are those of field lists.  Whoever is asked for metadata is asked once for each part of the
front, and for those of the flawed part only if its alias is in order. -/
theorem join_parts_checked_exactly (typeName : String) (parts : List JoinPart) :
    ((∃ layout, Layout.fromParts typeName parts = .ok layout) ↔
      parts ≠ [] ∧ Layout.PartsFit parts) ∧
    (∀ layout, Layout.fromParts typeName parts = .ok layout →
      ∃ joined, layout = .join joined ∧ joined.map Layout.asPart = parts ∧
        layout.width = (joined.map fun part => part.metadata.fields.length).sum ∧
        parts.length ≤ layout.width) ∧
    (∀ failure, Layout.fromParts typeName parts = .error failure ↔
      ∃ asked, Layout.FirstFlaw typeName parts failure asked) ∧
    (∀ failure, Layout.fromParts typeName parts = .error failure →
      (∀ part ∈ parts, ∃ name fields, part.metadata = RecordMeta.build name fields) →
        failure.isConfiguration = true) ∧
    ∀ {σ : Type} (ask : JoinPart → σ → Outcome RecordMeta × σ) (state : σ),
      Layout.Answers ask →
        ∃ asked,
          Layout.fromPartsAsking ask typeName parts state =
            (Layout.fromParts typeName parts, Layout.stateAfter ask asked state) ∧
          ((∃ layout, Layout.fromParts typeName parts = .ok layout) → asked = parts) ∧
          ∀ failure, Layout.fromParts typeName parts = .error failure →
            Layout.FirstFlaw typeName parts failure asked := by
  rcases Layout.joined_or_flawed typeName parts with ⟨filled, passed⟩ | ⟨failure, asked, flaw⟩
  · obtain ⟨joined, same, made⟩ := Layout.fromParts_of_fit typeName filled passed
    have accepted : ∀ failure, Layout.fromParts typeName parts ≠ .error failure := by
      intro failure refused
      rw [made] at refused
      cases refused
    refine ⟨iff_of_true ⟨_, made⟩ ⟨filled, passed⟩, fun layout built => ?_, fun failure => ?_,
      fun failure refused => absurd refused (accepted failure), fun ask state answers => ?_⟩
    · obtain rfl : .join joined = layout := by rw [made] at built; exact Except.ok.inj built
      refine ⟨joined, rfl, same, Layout.width_join joined, ?_⟩
      rw [← same, List.length_map]
      exact Layout.length_le_width joined
    · exact iff_of_false (accepted failure)
        fun ⟨_, flaw⟩ => accepted failure (Layout.fromParts_of_flaw flaw)
    · obtain ⟨_, _, asking⟩ :=
        Layout.fromPartsAsking_of_fit typeName answers filled passed state
      refine ⟨parts, Prod.ext (Layout.fromPartsAsking_fst answers parts state) ?_, fun _ => rfl,
        fun failure refused => absurd refused (accepted failure)⟩
      rw [asking]
  · have refused := Layout.fromParts_of_flaw flaw
    have only : ∀ other, Layout.fromParts typeName parts = .error other → other = failure :=
      fun other again => Except.error.inj (again.symm.trans refused)
    have unjoined : ¬ ∃ layout, Layout.fromParts typeName parts = .ok layout := by
      rintro ⟨layout, made⟩
      rw [refused] at made
      cases made
    refine ⟨iff_of_false unjoined ?_, fun layout made => absurd ⟨layout, made⟩ unjoined,
      fun other => ⟨?_, fun ⟨_, found⟩ => Layout.fromParts_of_flaw found⟩,
      fun other again built => ?_, fun ask state answers => ?_⟩
    · rintro ⟨filled, passed⟩
      obtain ⟨joined, -, made⟩ := Layout.fromParts_of_fit typeName filled passed
      exact unjoined ⟨_, made⟩
    · intro again
      rw [only other again]
      exact ⟨asked, flaw⟩
    · rw [only other again]
      exact flaw.isConfiguration built
    · refine ⟨asked, ?_, fun joined => absurd joined unjoined, fun other again => ?_⟩
      · rw [refused]
        exact Layout.fromPartsAsking_of_flaw answers flaw state
      · rw [only other again]
        exact flaw

end RecordMapping
