/-
Module: RecordMapping.Proofs.KeyOrder
Purpose: What the order in which a map enumerates its entries has to do with the values
  that it gives to identifying columns.
Main exports: Candidate, Settled, settled_of_distinct_columns, settled_of_named,
  map_order_matters, map_order_hidden_where_settled
-/
import Mathlib.Data.List.Nodup
import RecordMapping.Proofs.KeyResolution

namespace RecordMapping

/-!
A hash map enumerates its entries in an order that nobody has chosen, and the order is
another one in the next process.  A column that is not in the map under its very name
takes the first entry whose name differs from its own in case only, so two such entries
are in contention for it.  A map is settled for columns if this happens to none of them,
what the columns in front have taken being gone.  Settled maps give the same in every
order; of the others it can be said that they fail together as long as all their values
identify something.
-/

variable {id : String} {ids rest : List String}
  {fields order behind : List (String × Value)} {entry : String × Value}

/-- The entries that a column takes in one order of a map or another: the one under its
very name, and if there is none all those under its name in some ASCII case. -/
inductive Candidate (id : String) (entries : List (String × Value))
    (entry : String × Value) : Prop
  | named (member : entry ∈ entries) (same : entry.1 = id)
  | unnamed (absent : ∀ other ∈ entries, other.1 ≠ id) (member : entry ∈ entries)
      (same : Text.sameColumn entry.1 id = true)

/-- A map has no more than one candidate for each column when its turn comes. -/
inductive Settled : List String → List (String × Value) → Prop
  | nil {entries : List (String × Value)} : Settled [] entries
  | cons {id : String} {rest : List String} {entries : List (String × Value)}
      (single : ∀ first second, Candidate id entries first → Candidate id entries second →
        first = second)
      (others : ∀ taken, Candidate id entries taken →
        Settled rest (entries.filter fun entry => entry.1 != taken.1)) :
      Settled (id :: rest) entries

/-! ### Candidates and what is taken -/

/-- The map that is left once an entry is taken, with the entry in front, is the map in
another order. -/
theorem cons_filter_perm (distinct : (fields.map Prod.fst).Nodup) (member : entry ∈ fields) :
    (entry :: fields.filter fun other => other.1 != entry.1).Perm fields := by
  have rest : (fields.filter fun other => other.1 != entry.1) = fields.erase entry := by
    rw [distinct.of_map.erase_eq_filter]
    refine List.filter_congr fun other present => ?_
    rw [Bool.eq_iff_iff, bne_iff_ne, bne_iff_ne]
    exact not_congr ⟨List.inj_on_of_nodup_map distinct present member, fun same => by rw [same]⟩
  rw [rest]
  exact (List.perm_cons_erase member).symm

theorem exists_firstEntry (accepts : String → Bool) (member : entry ∈ fields)
    (accepted : accepts entry.1 = true) : ∃ first, FirstEntry accepts fields first := by
  have found : (fields.find? fun entry => accepts entry.1).isSome = true :=
    List.find?_isSome.mpr ⟨entry, member, accepted⟩
  obtain ⟨first, held⟩ := Option.isSome_iff_exists.mp found
  exact ⟨first, (find?_eq_some_iff_firstEntry accepts).mp held⟩

theorem FirstEntry.member {accepts : String → Bool} (first : FirstEntry accepts fields entry) :
    entry ∈ fields := by
  obtain ⟨front, behind, rfl, _⟩ := first
  simp

theorem Takes.candidate (takes : Takes id fields entry) : Candidate id fields entry := by
  cases takes with
  | named first => exact .named first.member (eq_of_beq first.accepted)
  | unnamed absent first => exact .unnamed absent first.member first.accepted

namespace Candidate

theorem member (candidate : Candidate id fields entry) : entry ∈ fields := by
  cases candidate with
  | named member _ => exact member
  | unnamed _ member _ => exact member

theorem sameColumn (candidate : Candidate id fields entry) :
    Text.sameColumn entry.1 id = true := by
  cases candidate with
  | named _ same => simp [same]
  | unnamed _ _ same => exact same

theorem of_perm (same : order.Perm fields) (candidate : Candidate id fields entry) :
    Candidate id order entry := by
  cases candidate with
  | named member named => exact .named (same.mem_iff.mpr member) named
  | unnamed absent member alike =>
      exact .unnamed (fun other present => absent other (same.mem_iff.mp present))
        (same.mem_iff.mpr member) alike

/-- A column for which there is a candidate takes one. -/
theorem exists_takes (candidate : Candidate id fields entry) :
    ∃ taken, Takes id fields taken := by
  cases candidate with
  | named member same =>
      obtain ⟨first, found⟩ := exists_firstEntry (· == id) member (by simp [same])
      exact ⟨first, .named found⟩
  | unnamed absent member same =>
      obtain ⟨first, found⟩ := exists_firstEntry (Text.sameColumn · id) member same
      exact ⟨first, .unnamed absent found⟩

/-- A candidate that is enumerated first is taken. -/
theorem takes_head (candidate : Candidate id (entry :: behind) entry) :
    Takes id (entry :: behind) entry := by
  cases candidate with
  | named _ same => exact .named ⟨[], behind, rfl, by simp [same], by simp⟩
  | unnamed absent _ same => exact .unnamed absent ⟨[], behind, rfl, same, by simp⟩

end Candidate

/-- Whether a column takes an entry depends on the keys of the names only. -/
theorem exists_takes_iff : (∃ entry, Takes id fields entry) ↔
    Text.columnKey id ∈ fields.map fun entry => Text.columnKey entry.1 := by
  rw [List.mem_map]
  constructor
  · rintro ⟨entry, takes⟩
    exact ⟨entry, takes.candidate.member, Text.sameColumn_iff.mp takes.candidate.sameColumn⟩
  · rintro ⟨entry, member, same⟩
    by_cases own : ∃ other ∈ fields, other.1 = id
    · obtain ⟨other, present, named⟩ := own
      exact (Candidate.named present named).exists_takes
    · have absent : ∀ other ∈ fields, other.1 ≠ id := fun other present named =>
        own ⟨other, present, named⟩
      exact (Candidate.unnamed absent member (Text.sameColumn_iff.mpr same)).exists_takes

/-! ### Maps that are settled -/

/-- A map in which no two names differ in case only is settled for any columns. -/
theorem settled_of_distinct_columns
    (distinct : (fields.map fun entry => Text.columnKey entry.1).Nodup) :
    Settled ids fields := by
  induction ids generalizing fields with
  | nil => exact .nil
  | cons id rest inductionHypothesis =>
      refine .cons (fun first second one two => ?_) fun taken _ => ?_
      · have alike : Text.columnKey first.1 = Text.columnKey second.1 :=
          (Text.sameColumn_iff.mp one.sameColumn).trans
            (Text.sameColumn_iff.mp two.sameColumn).symm
        exact List.inj_on_of_nodup_map distinct one.member two.member alike
      · exact inductionHypothesis (distinct.sublist (List.filter_sublist.map _))

/-- A map that has each of the columns under its very name is settled for them. -/
theorem settled_of_named (distinct : (fields.map Prod.fst).Nodup) (apart : ids.Nodup)
    (named : ∀ id ∈ ids, ∃ value, (id, value) ∈ fields) : Settled ids fields := by
  induction ids generalizing fields with
  | nil => exact .nil
  | cons id rest inductionHypothesis =>
      obtain ⟨fresh, apart⟩ := List.nodup_cons.mp apart
      obtain ⟨⟨value, held⟩, named⟩ := List.forall_mem_cons.mp named
      have own : ∀ taken, Candidate id fields taken → taken = (id, value) := by
        intro taken candidate
        cases candidate with
        | named member same => exact List.inj_on_of_nodup_map distinct member held same
        | unnamed absent => exact absurd rfl (absent _ held)
      refine .cons (fun first second one two => (own first one).trans (own second two).symm)
        fun taken candidate => ?_
      obtain rfl := own taken candidate
      refine inductionHypothesis (distinct.sublist (List.filter_sublist.map _)) apart ?_
      intro column member
      obtain ⟨other, present⟩ := named column member
      have unlike : column ≠ id := fun same => fresh (same ▸ member)
      exact ⟨other, List.mem_filter.mpr ⟨present, by simpa using unlike⟩⟩

/-! ### One column and the ones behind it -/

namespace DeleteKey

theorem resolveFields_cons_of_takes (takes : Takes id fields entry) :
    resolveFields (id :: rest) fields = checkId id entry.2 >>= fun value =>
      (resolveFields rest (fields.filter fun other => other.1 != entry.1)).map
        ((id, value) :: ·) := by
  obtain ⟨named, held⟩ := takes_iff.mp takes
  conv_lhs => unfold resolveFields
  simp only [named, held, Option.map_some, Option.getD_some]
  cases checkId id entry.2 <;> rfl

theorem resolveFields_cons_of_none (nothing : ∀ entry, ¬ Takes id fields entry) :
    resolveFields (id :: rest) fields = misconfigured (.missingKey id) := by
  unfold resolveFields
  cases named : fieldName? fields id with
  | none => rfl
  | some name =>
      obtain ⟨value, takes⟩ := exists_takes_of_fieldName? named
      exact absurd takes (nothing _)

/-- A settled map gives the columns the same in every order. -/
theorem resolveFields_of_settled (settled : Settled ids fields) (same : order.Perm fields) :
    resolveFields ids order = resolveFields ids fields := by
  induction settled generalizing order with
  | nil => rfl
  | @cons id rest fields single _ inductionHypothesis =>
      by_cases held : ∃ entry, Takes id fields entry
      · obtain ⟨entry, takes⟩ := held
        obtain ⟨taken, again⟩ := (takes.candidate.of_perm same).exists_takes
        obtain rfl := single _ _ takes.candidate (again.candidate.of_perm same.symm)
        rw [resolveFields_cons_of_takes takes, resolveFields_cons_of_takes again,
          inductionHypothesis entry takes.candidate (same.filter _)]
      · have nothing : ∀ entry, ¬ Takes id fields entry := not_exists.mp held
        have still : ∀ entry, ¬ Takes id order entry := fun entry takes =>
          held (takes.candidate.of_perm same.symm).exists_takes
        rw [resolveFields_cons_of_none nothing, resolveFields_cons_of_none still]

/-- A map that gives the same in every order is settled, unless it has a value twice. -/
theorem settled_of_resolveFields {keys : List (String × Value)}
    (distinct : (fields.map Prod.fst).Nodup) (unlike : (fields.map Prod.snd).Nodup)
    (resolves : ∀ order, order.Perm fields → resolveFields ids order = .ok keys) :
    Settled ids fields := by
  induction ids generalizing fields keys with
  | nil => exact .nil
  | cons id rest inductionHypothesis =>
      -- a candidate is moved to the front, where the column takes it
      have moved : ∀ taken behind, Candidate id fields taken →
          (taken :: behind).Perm fields → ∃ others, keys = (id, taken.2) :: others ∧
            resolveFields rest (behind.filter fun other => other.1 != taken.1) = .ok others := by
        intro taken behind candidate same
        have resolved := resolves _ same
        rw [resolveFields_cons_of_takes (candidate.of_perm same).takes_head] at resolved
        obtain ⟨value, checked, resolved⟩ := ok_of_bind resolved
        obtain ⟨_, rfl⟩ := checkId_eq_ok_iff.mp checked
        obtain ⟨others, later, rfl⟩ := Outcome.map_eq_ok_iff.mp resolved
        exact ⟨others, rfl, by simpa using later⟩
      refine .cons (fun first second one two => ?_) fun taken candidate => ?_
      · obtain ⟨_, early, _⟩ := moved first _ one (cons_filter_perm distinct one.member)
        obtain ⟨_, late, _⟩ := moved second _ two (cons_filter_perm distinct two.member)
        have equal : (id, first.2) = (id, second.2) := (List.cons.inj (early.symm.trans late)).1
        exact List.inj_on_of_nodup_map unlike one.member two.member (Prod.mk.inj equal).2
      · have later : ∀ order, order.Perm (fields.filter fun other => other.1 != taken.1) →
            resolveFields rest order = .ok keys.tail := by
          intro order same
          have whole : (taken :: order).Perm fields :=
            (same.cons taken).trans (cons_filter_perm distinct candidate.member)
          have kept : (order.filter fun other => other.1 != taken.1) = order :=
            List.filter_eq_self.mpr fun other present =>
              (List.mem_filter.mp (same.mem_iff.mp present)).2
          obtain ⟨others, rfl, resolved⟩ := moved taken order candidate whole
          rwa [kept] at resolved
        exact inductionHypothesis (distinct.sublist (List.filter_sublist.map _))
          (unlike.sublist (List.filter_sublist.map _)) later

/-- What is left of a map behind an entry that a column has taken: it has the keys of the
names that the map has, but one of those that the column has. -/
theorem keys_perm_of_takes (distinct : (fields.map Prod.fst).Nodup)
    (takes : Takes id fields entry) :
    (Text.columnKey id :: (fields.filter fun other => other.1 != entry.1).map
        fun other => Text.columnKey other.1).Perm
      (fields.map fun other => Text.columnKey other.1) := by
  have same := (cons_filter_perm distinct takes.candidate.member).map
    fun other => Text.columnKey other.1
  rwa [List.map_cons, Text.sameColumn_iff.mp takes.candidate.sameColumn] at same

/-- A column that takes a value which identifies something leaves it to the others whether
the key has everything. -/
theorem resolveFields_cons_eq_error_iff {failure : Failure}
    (identify : ∀ entry ∈ fields, entry.2.Identifies) (takes : Takes id fields entry) :
    resolveFields (id :: rest) fields = .error failure ↔
      resolveFields rest (fields.filter fun other => other.1 != entry.1) = .error failure := by
  have checked : checkId id entry.2 = .ok entry.2 :=
    checkId_eq_ok_iff.mpr ⟨identify entry takes.candidate.member, rfl⟩
  rw [resolveFields_cons_of_takes takes, checked]
  cases resolveFields rest (fields.filter fun other => other.1 != entry.1) <;>
    simp [bind, Except.bind, Except.map]

/-- Two maps of values that identify something fail alike if their names have the same
keys, each as often. -/
theorem resolveFields_eq_error_iff {failure : Failure}
    (distinct : (fields.map Prod.fst).Nodup) (apart : (order.map Prod.fst).Nodup)
    (identify : ∀ entry ∈ fields, entry.2.Identifies)
    (identified : ∀ entry ∈ order, entry.2.Identifies)
    (alike : (order.map fun entry => Text.columnKey entry.1).Perm
      (fields.map fun entry => Text.columnKey entry.1)) :
    resolveFields ids order = .error failure ↔ resolveFields ids fields = .error failure := by
  induction ids generalizing fields order with
  | nil => rfl
  | cons id rest inductionHypothesis =>
      have together : (∃ entry, Takes id order entry) ↔ ∃ entry, Takes id fields entry := by
        rw [exists_takes_iff, exists_takes_iff, alike.mem_iff]
      by_cases held : ∃ entry, Takes id fields entry
      · obtain ⟨other, again⟩ := together.mpr held
        obtain ⟨entry, takes⟩ := held
        have left := (keys_perm_of_takes apart again).trans
          (alike.trans (keys_perm_of_takes distinct takes).symm)
        rw [resolveFields_cons_eq_error_iff identify takes,
          resolveFields_cons_eq_error_iff identified again]
        exact inductionHypothesis (distinct.sublist (List.filter_sublist.map _))
          (apart.sublist (List.filter_sublist.map _))
          (fun entry member => identify entry (List.mem_filter.mp member).1)
          (fun entry member => identified entry (List.mem_filter.mp member).1)
          (List.perm_cons _ |>.mp left)
      · rw [resolveFields_cons_of_none (not_exists.mp held),
          resolveFields_cons_of_none (not_exists.mp fun taken => held (together.mp taken))]

/-! ### Maps as keys of a delete -/

/-- The order of a map that has a column under two names, neither of them its own, decides
which of the two values selects the rows. -/
theorem map_order_matters :
    ¬ ∀ (table : Table) (fields order : List (String × Value)),
      table.validate = .ok () → (fields.map Prod.fst).Nodup → order.Perm fields →
        ∀ keys, (byFields order).resolve table = .ok keys ↔
          (byFields fields).resolve table = .ok keys := by
  intro always
  have swapped := always (.named "t") [("ID", .ofInt .int64 1), ("Id", .ofInt .int64 2)]
    [("Id", .ofInt .int64 2), ("ID", .ofInt .int64 1)] rfl (by decide)
    (List.Perm.swap _ _ _) [("id", .ofInt .int64 1)]
  exact absurd (swapped.mpr rfl) (by decide)

/-- A map that is settled for the identifying columns of a table is resolved to the same
in every order, failures included.  A map that resolves and has no value twice is settled
if it gives the same in every order.  Whatever the order, maps of values that identify
something fail together and in the same way. -/
theorem map_order_hidden_where_settled (table : Table)
    (distinct : (fields.map Prod.fst).Nodup) :
    (Settled table.ids fields → ∀ order, order.Perm fields →
        (byFields order).resolve table = (byFields fields).resolve table) ∧
      (∀ keys, (fields.map Prod.snd).Nodup →
        (∀ order, order.Perm fields → (byFields order).resolve table = .ok keys) →
          Settled table.ids fields) ∧
      ((∀ entry ∈ fields, entry.2.Identifies) → ∀ order, order.Perm fields → ∀ failure,
        (byFields order).resolve table = .error failure ↔
          (byFields fields).resolve table = .error failure) := by
  have opened : ∀ order, (byFields order).resolve table =
      table.validate >>= fun _ => resolveFields table.ids order := fun _ => rfl
  simp only [opened]
  cases table.validate with
  | error failure =>
      refine ⟨fun _ _ _ => rfl, fun keys _ resolves => ?_, fun _ _ _ _ => Iff.rfl⟩
      cases resolves fields (.refl _)
  | ok _ =>
      refine ⟨fun settled order same => resolveFields_of_settled settled same,
        fun keys unlike resolves => settled_of_resolveFields distinct unlike resolves, ?_⟩
      intro identify order same failure
      exact resolveFields_eq_error_iff distinct ((same.map _).nodup_iff.mpr distinct) identify
        (fun entry member => identify entry (same.mem_iff.mp member)) (same.map _)

/-- The own name of the column is found behind another spelling, wherever it stands, and
names that differ by more than their case are found in both orders; two spellings of one
column leave the other without a value in both. -/
theorem map_order_hidden_where_settled_own_name :
    let one : Value := .ofInt .int64 1
    let two : Value := .ofInt .int64 2
    let pair : Table := ⟨"t", ["id", "mark"]⟩
    (byFields [("id", two), ("ID", one)]).resolve (.named "t") = .ok [("id", two)] ∧
      (byFields [("MARK", two), ("Id", one)]).resolve pair = .ok [("id", one), ("mark", two)] ∧
      (byFields [("Id", two), ("ID", one)]).resolve pair = misconfigured (.missingKey "mark") := by
  intro one two pair
  refine ⟨?_, ?_, ?_⟩
  · have settled : Settled (Table.named "t").ids [("ID", one), ("id", two)] :=
      settled_of_named (by decide) (by decide) (by simp [Table.named])
    obtain ⟨hidden, _, _⟩ := map_order_hidden_where_settled (.named "t")
      (show ([("ID", one), ("id", two)].map Prod.fst).Nodup by decide)
    rw [hidden settled _ (.swap _ _ _)]
    rfl
  · have settled : Settled pair.ids [("Id", one), ("MARK", two)] :=
      settled_of_distinct_columns (by decide)
    obtain ⟨hidden, _, _⟩ := map_order_hidden_where_settled pair
      (show ([("Id", one), ("MARK", two)].map Prod.fst).Nodup by decide)
    rw [hidden settled _ (.swap _ _ _)]
    decide
  · have identify : ∀ entry ∈ [("ID", one), ("Id", two)], entry.2.Identifies := by
      simp only [List.forall_mem_cons, Value.Identifies, ← Value.isZero_iff]
      decide
    have fails : (byFields [("ID", one), ("Id", two)]).resolve pair =
        misconfigured (.missingKey "mark") := by decide
    obtain ⟨_, _, together⟩ := map_order_hidden_where_settled pair
      (show ([("ID", one), ("Id", two)].map Prod.fst).Nodup by decide)
    exact (together identify _ (.swap _ _ _) _).mpr fails

end DeleteKey

end RecordMapping
