/-
Module: RecordMapping.Proofs.DealtParameters
Purpose: The statements of a script take their parameters in order, and a shortage stops
  the run at the statement that it hits.
Main exports: Machine.Declares, Machine.Untroubled, parameters_dealt_in_order
-/
import Mathlib
import RecordMapping.Proofs.ScriptRuns
import RecordMapping.Proofs.ScriptStatements

namespace RecordMapping.Sqlite

/-!
How many parameters a statement has can be read off its text, but whether it
compiles and what it does depends on the state in which its turn comes.  So the
numbers are said of the script alone, and that nothing else goes wrong is said of
one run of it.
-/

section Shares

/-- Pieces that are laid end to end are found again by the sums of their lengths. -/
theorem piece_eq_slice {α : Type} {pieces : List (List α)} {counts : List Nat} (rest : List α)
    (lengths : pieces.map List.length = counts.take pieces.length) {index : Nat}
    {piece : List α} (found : pieces[index]? = some piece) :
    piece = ((pieces.flatten ++ rest).drop (counts.take index).sum).take
      (counts.getD index 0) := by
  induction pieces generalizing counts index with
  | nil => simp at found
  | cons first pieces inductionHypothesis =>
      cases counts with
      | nil => simp at lengths
      | cons count counts =>
          obtain ⟨counted, lengths⟩ : first.length = count ∧
              pieces.map List.length = counts.take pieces.length := by simpa using lengths
          cases index with
          | zero =>
              obtain rfl : first = piece := by simpa using found
              simp [← counted]
          | succ index =>
              rw [inductionHypothesis lengths (by simpa using found)]
              simp [← counted, ← List.drop_drop]

theorem sum_take_le_sum_take (counts : List Nat) {first second : Nat} (order : first ≤ second) :
    (counts.take first).sum ≤ (counts.take second).sum :=
  (List.take_sublist_take_left order).sum_le_sum (by simp)

theorem sum_take_le_sum (counts : List Nat) (index : Nat) :
    (counts.take index).sum ≤ counts.sum :=
  (List.take_sublist index counts).sum_le_sum (by simp)

theorem sum_take_succ_of_getElem? {counts : List Nat} {index count : Nat}
    (found : counts[index]? = some count) :
    (counts.take (index + 1)).sum = (counts.take index).sum + count := by
  obtain ⟨inside, rfl⟩ := List.getElem?_eq_some_iff.mp found
  exact List.sum_take_succ counts index inside

end Shares

namespace Machine

variable {σ π : Type}

/-- The statements of a text from a place on have these numbers of parameters, in
whatever state they are compiled, if they are compiled at all. -/
inductive Declares (machine : Machine σ π) (text : List Char) : Nat → List Nat → Prop
  | ended {place : Nat} (outside : text.length ≤ place) : Declares machine text place []
  | blank {place next : Nat} {counts : List Nat} (inside : place < text.length)
      (nothing : ∀ state answer, machine.compile (text.drop place) state = .ok answer →
        answer.1 = none ∧ placeBehind text.length place answer.2 = next)
      (rest : Declares machine text next counts) : Declares machine text place counts
  | statement {place next count : Nat} {counts : List Nat} (inside : place < text.length)
      (declares : ∀ state answer, machine.compile (text.drop place) state = .ok answer →
        (∃ statement, answer.1 = some statement ∧ machine.parameterCount statement = count) ∧
          placeBehind text.length place answer.2 = next)
      (rest : Declares machine text next counts) : Declares machine text place (count :: counts)

/-- In a run from a place on, every statement whose turn comes compiles, its
parameters can be bound as far as there are any, and it runs to its end once it is
bound. -/
inductive Untroubled (machine : Machine σ π) (text : List Char) :
    Nat → List Value → σ → Prop
  | ended {place : Nat} {parameters : List Value} {state : σ} (outside : text.length ≤ place) :
      Untroubled machine text place parameters state
  | blank {place : Nat} {parameters : List Value} {state : σ} {taken : Option Nat}
      (inside : place < text.length)
      (compiled : machine.compile (text.drop place) state = .ok (none, taken))
      (rest : Untroubled machine text (placeBehind text.length place taken) parameters state) :
      Untroubled machine text place parameters state
  | short {place : Nat} {parameters : List Value} {state : σ} {statement : π}
      {taken : Option Nat} {data : List Datum} (inside : place < text.length)
      (compiled : machine.compile (text.drop place) state = .ok (some statement, taken))
      (few : parameters.length < machine.parameterCount statement)
      (bound : Binds machine.hold parameters data) : Untroubled machine text place parameters state
  | statement {place : Nat} {parameters rest : List Value} {state : σ} {statement : π}
      {taken : Option Nat} {data : List Datum} (inside : place < text.length)
      (compiled : machine.compile (text.drop place) state = .ok (some statement, taken))
      (bound : bindAll machine.hold (machine.parameterCount statement)
        (machine.parameterCount statement) parameters = .ok (data, rest))
      (finished : (machine.execute statement data state).ending = none)
      (later : Untroubled machine text (placeBehind text.length place taken) rest
        (machine.execute statement data state).last) :
      Untroubled machine text place parameters state

variable {machine : Machine σ π} {text : List Char} {place : Nat} {counts : List Nat}
  {parameters : List Value} {state : σ}

/-- A place at which nothing is compiled does not count. -/
theorem Declares.behind_blank (declares : machine.Declares text place counts)
    (inside : place < text.length) {taken : Option Nat}
    (compiled : machine.compile (text.drop place) state = .ok (none, taken)) :
    machine.Declares text (placeBehind text.length place taken) counts := by
  cases declares with
  | ended outside => omega
  | blank _ nothing rest => exact (nothing state _ compiled).2 ▸ rest
  | statement _ found rest =>
      obtain ⟨⟨statement, impossible, _⟩, _⟩ := found state _ compiled
      cases impossible

/-- The first number is that of the statement compiled first. -/
theorem Declares.behind_statement (declares : machine.Declares text place counts)
    (inside : place < text.length) {statement : π} {taken : Option Nat}
    (compiled : machine.compile (text.drop place) state = .ok (some statement, taken)) :
    ∃ later, counts = machine.parameterCount statement :: later ∧
      machine.Declares text (placeBehind text.length place taken) later := by
  cases declares with
  | ended outside => omega
  | blank _ nothing rest =>
      have impossible := (nothing state _ compiled).1
      cases impossible
  | @statement _ next count later _ found rest =>
      obtain ⟨⟨other, same, rfl⟩, rfl⟩ := found state _ compiled
      cases same
      exact ⟨later, rfl, rest⟩

theorem Declares.of_outside (declares : machine.Declares text place counts)
    (outside : text.length ≤ place) : counts = [] := by
  cases declares with
  | ended _ => rfl
  | blank inside _ _ => omega
  | statement inside _ _ => omega

/-- How far a run comes in which nothing goes wrong: to the end of the text, or to
the first statement that declares more parameters than are left. -/
theorem Untroubled.exists_visits (untroubled : machine.Untroubled text place parameters state)
    (declares : machine.Declares text place counts) :
    ∃ visits reached after rest, machine.Visits text place state visits reached after ∧
      parameters = visits.flatMap Visit.share ++ rest ∧
      visits.map (·.share.length) = counts.take visits.length ∧
      (visits.length = counts.length ∧ text.length ≤ reached ∨
        ∃ statement taken data, reached < text.length ∧
          machine.compile (text.drop reached) after = .ok (some statement, taken) ∧
          counts[visits.length]? = some (machine.parameterCount statement) ∧
          rest.length < machine.parameterCount statement ∧
            Binds machine.hold rest data) := by
  induction untroubled generalizing counts with
  | @ended place parameters state outside =>
      obtain rfl := declares.of_outside outside
      exact ⟨[], place, state, parameters, .refl _ _, rfl, rfl, .inl ⟨rfl, outside⟩⟩
  | blank inside compiled _ inductionHypothesis =>
      obtain ⟨visits, reached, after, rest, run, dealt, lengths, outcome⟩ :=
        inductionHypothesis (declares.behind_blank inside compiled)
      exact ⟨visits, reached, after, rest, .blank inside compiled run, dealt, lengths, outcome⟩
  | @short place parameters state statement taken data inside compiled few bound =>
      obtain ⟨later, rfl, _⟩ := declares.behind_statement inside compiled
      exact ⟨[], place, state, parameters, .refl _ _, rfl, rfl,
        .inr ⟨statement, taken, data, inside, compiled, rfl, few, bound⟩⟩
  | @statement place parameters left state statement taken data inside compiled bound finished _
      inductionHypothesis =>
      obtain ⟨later, rfl, others⟩ := declares.behind_statement inside compiled
      obtain ⟨share, rfl, counted, binds⟩ := bindAll_eq_ok_iff.mp bound
      obtain ⟨visits, reached, after, rest, run, rfl, lengths, outcome⟩ :=
        inductionHypothesis others
      let visit : Visit σ π := ⟨statement, share, data, state⟩
      have completes : visit.Completes machine := ⟨counted, binds, finished⟩
      refine ⟨visit :: visits, reached, after, rest, .statement inside compiled completes run,
        by simp [visit], ?_, ?_⟩
      · simp [lengths, visit, counted]
      · simpa using outcome

section Ended

variable {sql : String} {visits : List (Visit σ π)} {reached : Nat} {after : σ}
  {rest : List Value}

/-- A run that comes to the end of its script reports the parameters that are left. -/
theorem run_to_end (clear : nulPosition? sql = none)
    (visited : machine.Visits sql.toList 0 state visits reached after)
    (dealt : parameters = visits.flatMap Visit.share ++ rest)
    (outside : sql.toList.length ≤ reached) :
    machine.run ⟨sql, parameters⟩ state =
      ⟨state, visits.flatMap (·.items machine) ++
        (if rest.length = 0 then []
        else [(.error (Fault.unusedParameters rest.length).failure, after)]), after⟩ := by
  cases rest with
  | nil => exact run_of_visits clear visited dealt (.finished outside)
  | cons value others =>
      exact run_of_visits clear visited dealt (.unused outside (List.cons_ne_nil _ _))

/-- A run that comes to a statement with too few parameters left ends in front of it. -/
theorem run_to_shortage (clear : nulPosition? sql = none)
    (visited : machine.Visits sql.toList 0 state visits reached after)
    (dealt : parameters = visits.flatMap Visit.share ++ rest)
    (inside : reached < sql.toList.length) {statement : π} {taken : Option Nat}
    (compiled : machine.compile (sql.toList.drop reached) after = .ok (some statement, taken))
    {data : List Datum} (few : rest.length < machine.parameterCount statement)
    (bound : Binds machine.hold rest data) :
    machine.run ⟨sql, parameters⟩ state =
      ⟨state, visits.flatMap (·.items machine) ++
        [(.error (Fault.missingParameters (machine.parameterCount statement)).failure, after)],
        after⟩ :=
  run_of_visits clear visited dealt
    (.unbound inside compiled (bindAll_of_short few bound))

end Ended

end Machine

/-! ### Scripts on the machine of SQLite -/

section Scripts

variable {text : List Char} {place : Nat} {counts : List Nat} {parameters : List Value}
  {session : Session}

/-- How many parameters the statement with the given tokens has. -/
def declaredCount (tokens : List Token) : Except Fault Nat :=
  (Command.read tokens).map (·.2)

theorem parameterCount_of_compileTokens {tokens : List Token} {count : Nat}
    {compiled : Compiled} (declared : declaredCount tokens = .ok count)
    (answer : compileTokens tokens session = .ok compiled) :
    compiled.parameterCount = count := by
  obtain ⟨⟨command, number⟩, words, answer⟩ := ok_of_bind answer
  obtain ⟨plan, _, answer⟩ := ok_of_bind answer
  cases answer
  rw [declaredCount, words] at declared
  cases declared
  rfl

/-- The numbers that a script declares are those of its statements. -/
theorem declares_of_declaredCount
    (declared : (statementsAt text place).map declaredCount = counts.map .ok) :
    machine.Declares text place counts := by
  induction place using place_induction text generalizing counts with
  | ended place outside =>
      obtain rfl : counts = [] := by simpa [statementsAt_end outside] using declared
      exact .ended (Nat.le_of_not_lt outside)
  | blank place taken inside split compiles inductionHypothesis =>
      refine .blank inside ?_ (inductionHypothesis (split ▸ declared))
      intro state answer compiled
      cases compiled.symm.trans (compiles state)
      exact ⟨rfl, rfl⟩
  | statement place taken tokens inside split compiles inductionHypothesis =>
      rw [split] at declared
      cases counts with
      | nil => cases declared
      | cons count counts =>
          obtain ⟨here, others⟩ := List.cons.inj declared
          refine .statement inside ?_ (inductionHypothesis others)
          intro state answer compiled
          have same := compiled.symm.trans (compiles state)
          cases known : compileTokens tokens state with
          | error fault => simp [known] at same
          | ok plan =>
              rw [known] at same
              cases same
              exact ⟨⟨plan, rfl, parameterCount_of_compileTokens here known⟩, rfl⟩

/-- A shortage is found when all parameters that are left have been bound. -/
theorem short_of_bindAll_error {hold : Holding} {expected count number : Nat}
    (refused : bindAll hold expected count parameters = .error (.missingParameters number)) :
    parameters.length < count ∧ ∃ data, Binds hold parameters data := by
  induction count generalizing parameters with
  | zero => cases refused
  | succ count inductionHypothesis =>
      cases parameters with
      | nil => exact ⟨Nat.zero_lt_succ _, [], .nil⟩
      | cons value rest =>
          unfold bindAll at refused
          split at refused
          · -- A parameter that cannot be bound is another fault than a shortage.
            rename_i refusal _
            cases refusal <;> cases refused
          · rename_i datum here
            split at refused
            · rename_i fault there
              cases refused
              obtain ⟨few, data, binds⟩ := inductionHypothesis there
              exact ⟨by simpa using few, datum :: data, .cons here binds⟩
            · cases refused

/-- Whether statements run one after the other, at least up to one that gets too
few parameters. -/
def proceeds : List (List Token) → List Value → Session → Bool
  | [], _, _ => true
  | tokens :: later, parameters, session =>
      match compileTokens tokens session with
      | .error _ => false
      | .ok compiled =>
          match bindAll machine.hold compiled.parameterCount compiled.parameterCount
            parameters with
          | .error fault => fault == .missingParameters compiled.parameterCount
          | .ok (data, rest) =>
              match compiled.plan.run data session with
              | .error _ => false
              | .ok (_, after) => proceeds later rest after

/-- A script is untroubled if its statements proceed. -/
theorem untroubled_of_proceeds
    (runs : proceeds (statementsAt text place) parameters session = true) :
    machine.Untroubled text place parameters session := by
  induction place using place_induction text generalizing parameters session with
  | ended place outside => exact .ended (Nat.le_of_not_lt outside)
  | blank place taken inside split compiles inductionHypothesis =>
      exact .blank inside (compiles session) (inductionHypothesis (split ▸ runs))
  | statement place taken tokens inside split compiles inductionHypothesis =>
      rw [split, proceeds] at runs
      have answer := compiles session
      cases read : compileTokens tokens session with
      | error fault => simp [read] at runs
      | ok compiled =>
          rw [read] at answer
          simp only [read] at runs
          cases bound : bindAll machine.hold compiled.parameterCount compiled.parameterCount
            parameters with
          | error fault =>
              obtain rfl : fault = .missingParameters compiled.parameterCount := by
                simpa [bound] using runs
              obtain ⟨few, data, binds⟩ := short_of_bindAll_error bound
              exact .short inside answer few binds
          | ok share =>
              obtain ⟨data, rest⟩ := share
              simp only [bound] at runs
              cases done : compiled.plan.run data session with
              | error fault => simp [done] at runs
              | ok result =>
                  obtain ⟨rows, after⟩ := result
                  simp only [done] at runs
                  refine .statement inside answer bound ?_ ?_
                  · simp [machine, execute, done]
                  · simpa [machine, execute, done] using inductionHypothesis runs

end Scripts

/-- A script whose statements declare some numbers of parameters, run with a list of
parameters while nothing else goes wrong.  Each place lies behind the last one, so
the end of the script is reached.  The statements are run in order, each bound to
its own slice of the list.  If there are parameters for all, all are run, and those
left over are reported at the very end.  Otherwise the run ends in front of the
first statement that does not get its number, with the items and the state of those
before it. -/
theorem parameters_dealt_in_order {σ π : Type} (machine : Machine σ π) {sql : String}
    {counts : List Nat} {parameters : List Value} {state : σ}
    (clear : nulPosition? sql = none) (declares : machine.Declares sql.toList 0 counts)
    (untroubled : machine.Untroubled sql.toList 0 parameters state) :
    (∀ place taken, place < sql.toList.length →
      place < Machine.placeBehind sql.toList.length place taken ∧
        Machine.placeBehind sql.toList.length place taken ≤ sql.toList.length) ∧
    ∃ visits reached after,
      machine.Visits sql.toList 0 state visits reached after ∧
      (∀ index visit, visits[index]? = some visit →
        visit.share =
          (parameters.drop (counts.take index).sum).take (counts.getD index 0)) ∧
      (counts.sum ≤ parameters.length →
        visits.length = counts.length ∧ reached = sql.toList.length ∧
        machine.run ⟨sql, parameters⟩ state =
          ⟨state, visits.flatMap (·.items machine) ++
            (if parameters.length = counts.sum then []
            else [(.error (Fault.unusedParameters (parameters.length - counts.sum)).failure,
              after)]), after⟩) ∧
      (parameters.length < counts.sum →
        ∃ statement taken,
          (∀ earlier ≤ visits.length, (counts.take earlier).sum ≤ parameters.length) ∧
          parameters.length < (counts.take (visits.length + 1)).sum ∧
          reached < sql.toList.length ∧
          machine.compile (sql.toList.drop reached) after = .ok (some statement, taken) ∧
          counts[visits.length]? = some (machine.parameterCount statement) ∧
          machine.run ⟨sql, parameters⟩ state =
            ⟨state, visits.flatMap (·.items machine) ++
              [(.error (Fault.missingParameters (machine.parameterCount statement)).failure,
                after)], after⟩) := by
  refine ⟨fun place taken inside =>
    ⟨Machine.lt_placeBehind inside taken, Machine.placeBehind_le inside taken⟩, ?_⟩
  obtain ⟨visits, reached, after, rest, visited, dealt, lengths, outcome⟩ :=
    untroubled.exists_visits declares
  have shares : (visits.map Visit.share).map List.length =
      counts.take (visits.map Visit.share).length := by
    simpa [Function.comp_def] using lengths
  have taken : (visits.flatMap Visit.share).length = (counts.take visits.length).sum := by
    rw [← lengths, List.length_flatMap]
  have total : parameters.length = (counts.take visits.length).sum + rest.length := by
    rw [dealt, List.length_append, taken]
  refine ⟨visits, reached, after, visited, ?_, ?_, ?_⟩
  · intro index visit found
    have piece : (visits.map Visit.share)[index]? = some visit.share := by simp [found]
    have slice := piece_eq_slice rest shares piece
    rwa [← List.flatMap_def, ← dealt] at slice
  · intro enough
    rcases outcome with ⟨all, outside⟩ | ⟨statement, _, _, _, _, counted, few, _⟩
    · have whole : (counts.take visits.length).sum = counts.sum := by
        rw [all, List.take_length]
      have left : rest.length = parameters.length - counts.sum := by omega
      refine ⟨all, Nat.le_antisymm (visited.reached_le (Nat.zero_le _)) outside, ?_⟩
      rw [Machine.run_to_end clear visited dealt outside, left]
      refine congrArg (fun ending => (⟨state, _ ++ ending, after⟩ : Reply σ)) ?_
      exact if_congr (by omega) rfl rfl
    · have next := sum_take_le_sum counts (visits.length + 1)
      rw [sum_take_succ_of_getElem? counted] at next
      omega
  · intro shortage
    rcases outcome with ⟨all, _⟩ | ⟨statement, taken, data, inside, compiled, counted, few, bound⟩
    · rw [all, List.take_length] at total
      omega
    · refine ⟨statement, taken, fun earlier order => ?_, ?_, inside, compiled, counted,
        Machine.run_to_shortage clear visited dealt inside compiled few bound⟩
      · have before := sum_take_le_sum_take counts order
        omega
      · rw [sum_take_succ_of_getElem? counted]
        omega

/-- A script of three statements, with a comment and an empty statement in it. -/
def notesScript : String :=
  "CREATE TABLE t (id INTEGER PRIMARY KEY, n); -- x\nINSERT INTO t (n) VALUES (?); ; DELETE FROM t WHERE n = ? AND id = ?"

/-- With two parameters, the second statement takes its one, and the third one is a
parameter short. -/
theorem shortage_at_third_statement :
    ∃ (visits : List (Visit Session Compiled)) (after : Session),
      visits.map Visit.share = [[], [.varchar (some "a")]] ∧
      machine.run ⟨notesScript, [.varchar (some "a"), .varchar (some "b")]⟩ .fresh =
        ⟨.fresh, visits.flatMap (·.items machine) ++
          [(.error (Fault.missingParameters 2).failure, after)], after⟩ := by
  have clear : nulPosition? notesScript = none := by cbv
  have split : statementsAt notesScript.toList 0 =
      [[.word "CREATE", .word "TABLE", .word "t", .mark '(', .word "id", .word "INTEGER",
          .word "PRIMARY", .word "KEY", .mark ',', .word "n", .mark ')', .stop],
        [.word "INSERT", .word "INTO", .word "t", .mark '(', .word "n", .mark ')',
          .word "VALUES", .mark '(', .parameter, .mark ')', .stop],
        [.word "DELETE", .word "FROM", .word "t", .word "WHERE", .word "n", .mark '=',
          .parameter, .word "AND", .word "id", .mark '=', .parameter]] := by cbv
  have declares : machine.Declares notesScript.toList 0 [0, 1, 2] :=
    declares_of_declaredCount (by rw [split]; rfl)
  have untroubled : machine.Untroubled notesScript.toList 0
      [.varchar (some "a"), .varchar (some "b")] .fresh :=
    untroubled_of_proceeds (by rw [split]; rfl)
  obtain ⟨_, visits, reached, after, _, shares, _, short⟩ :=
    parameters_dealt_in_order machine clear declares untroubled
  obtain ⟨statement, taken, enough, few, _, _, counted, ran⟩ := short (by decide)
  -- Two parameters are enough for the sums 0 and 1, and not for the sum 3.
  have third : visits.length = 2 := by
    have near : visits.length < 3 := by
      by_contra far
      exact absurd (enough 3 (Nat.le_of_not_lt far)) (by decide)
    obtain zero | one | two : visits.length = 0 ∨ visits.length = 1 ∨ visits.length = 2 := by
      omega
    · simp [zero] at few
    · simp [one] at few
    · exact two
  obtain ⟨first, second, rfl⟩ := List.length_eq_two.mp third
  have number : machine.parameterCount statement = 2 := by simpa using counted.symm
  rw [number] at ran
  refine ⟨_, after, ?_, ran⟩
  rw [List.map_cons, List.map_cons, shares 0 first rfl, shares 1 second rfl]
  rfl

end RecordMapping.Sqlite
