/-
Module: RecordMapping.Proofs.ScriptRuns
Purpose: What a machine has done when it has come to a place of a script, and how a run
  can end there.
Main exports: Binds, Visit, Machine.Visits, Machine.Ends, Machine.exists_visits,
  Machine.run_of_visits, Machine.run_cases
-/
import Mathlib.Data.List.Forall2
import RecordMapping.Sqlite.Machine

namespace RecordMapping.Sqlite

/-!
A run of a script is told apart into the statements that came to their end and
what stopped it.  The first part is a relation between places and states; it does
not say how parameters are dealt out, only which of them each statement took.
Every run is of this form, and the form decides its items.
-/

/-- Parameters and what is held of them. -/
def Binds (hold : Holding) (share : List Value) (data : List Datum) : Prop :=
  List.Forall₂ (fun value datum => bindValue hold value = .ok datum) share data

section Binding

variable {hold : Holding} {expected count : Nat} {parameters rest : List Value}
  {data : List Datum}

theorem bindAll_eq_ok_iff :
    bindAll hold expected count parameters = .ok (data, rest) ↔
      ∃ share, parameters = share ++ rest ∧ share.length = count ∧ Binds hold share data := by
  induction count generalizing parameters data with
  | zero =>
      constructor
      · intro bound
        cases bound
        exact ⟨[], rfl, rfl, .nil⟩
      · rintro ⟨share, rfl, blank, binds⟩
        obtain rfl := List.length_eq_zero_iff.mp blank
        cases binds
        rfl
  | succ count inductionHypothesis =>
      constructor
      · intro bound
        cases parameters with
        | nil => cases bound
        | cons value others =>
            unfold bindAll at bound
            split at bound
            · cases bound
            · rename_i datum here
              split at bound
              · cases bound
              · rename_i behind left there
                cases bound
                obtain ⟨share, rfl, rfl, binds⟩ := inductionHypothesis.mp there
                exact ⟨value :: share, rfl, rfl, .cons here binds⟩
      · rintro ⟨share, rfl, counted, binds⟩
        cases binds with
        | nil => cases counted
        | @cons value datum share data here binds =>
            have there : bindAll hold expected count (share ++ rest) = .ok (data, rest) :=
              inductionHypothesis.mpr ⟨share, rfl, by simpa using counted, binds⟩
            simp only [List.cons_append, bindAll, here, there]

/-- Fewer parameters than a statement declares are a shortage, unless one of them
cannot be bound. -/
theorem bindAll_of_short (few : parameters.length < count)
    (binds : Binds hold parameters data) :
    bindAll hold expected count parameters = .error (.missingParameters expected) := by
  induction binds generalizing count with
  | nil =>
      cases count with
      | zero => cases few
      | succ count => rfl
  | cons here binds inductionHypothesis =>
      cases count with
      | zero => cases few
      | succ count =>
          have there : bindAll hold expected count _ = .error (.missingParameters expected) :=
            inductionHypothesis (by simpa using few)
          simp only [bindAll, here, there]

end Binding

/-- A statement that has run to its end. -/
structure Visit (σ π : Type) where
  statement : π
  /-- The parameters that it took. -/
  share : List Value
  /-- What it was bound to. -/
  data : List Datum
  before : σ

namespace Visit

variable {σ π : Type}

/-- The steps of the statement. -/
def execution (visit : Visit σ π) (machine : Machine σ π) : Execution σ :=
  machine.execute visit.statement visit.data visit.before

/-- The state that the statement left behind. -/
def after (visit : Visit σ π) (machine : Machine σ π) : σ := (visit.execution machine).last

/-- The items of the statement: its rows, and what it changed if it can write. -/
def items (visit : Visit σ π) (machine : Machine σ π) : List (Outcome Response × σ) :=
  machine.rowItems visit.statement (visit.execution machine) ++
    machine.changeItems visit.statement visit.before (visit.after machine)

/-- A statement runs to its end with all the parameters that it declares. -/
structure Completes (visit : Visit σ π) (machine : Machine σ π) : Prop where
  taken : visit.share.length = machine.parameterCount visit.statement
  bound : Binds machine.hold visit.share visit.data
  finished : (visit.execution machine).ending = none

end Visit

namespace Machine

variable {σ π : Type}

/-- Statements that the machine finds one after the other in a text, from one
place and state to another, and that all run to their end. -/
inductive Visits (machine : Machine σ π) (text : List Char) :
    Nat → σ → List (Visit σ π) → Nat → σ → Prop
  | refl (place : Nat) (state : σ) : Visits machine text place state [] place state
  /-- Only blanks and comments were left up to the end of a statement. -/
  | blank {place reached : Nat} {state after : σ} {taken : Option Nat}
      {visits : List (Visit σ π)} (inside : place < text.length)
      (compiled : machine.compile (text.drop place) state = .ok (none, taken))
      (rest : Visits machine text (placeBehind text.length place taken) state visits
        reached after) :
      Visits machine text place state visits reached after
  | statement {place reached : Nat} {after : σ} {taken : Option Nat}
      {visit : Visit σ π} {visits : List (Visit σ π)} (inside : place < text.length)
      (compiled : machine.compile (text.drop place) visit.before =
        .ok (some visit.statement, taken))
      (completes : visit.Completes machine)
      (rest : Visits machine text (placeBehind text.length place taken)
        (visit.after machine) visits reached after) :
      Visits machine text place visit.before (visit :: visits) reached after

/-- The end of a run that has come to a place with some parameters left: its last
items, and the state at the end. -/
inductive Ends (machine : Machine σ π) (text : List Char) (place : Nat) (state : σ) :
    List Value → List (Outcome Response × σ) → σ → Prop
  | finished (outside : text.length ≤ place) : Ends machine text place state [] [] state
  | unused {parameters : List Value} (outside : text.length ≤ place)
      (left : parameters ≠ []) :
      Ends machine text place state parameters
        [(.error (Fault.unusedParameters parameters.length).failure, state)] state
  | refused {parameters : List Value} {failure : Failure} (inside : place < text.length)
      (answer : machine.compile (text.drop place) state = .error failure) :
      Ends machine text place state parameters [(.error failure, state)] state
  | unbound {parameters : List Value} {statement : π} {taken : Option Nat} {fault : Fault}
      (inside : place < text.length)
      (compiled : machine.compile (text.drop place) state = .ok (some statement, taken))
      (unbound : bindAll machine.hold (machine.parameterCount statement)
        (machine.parameterCount statement) parameters = .error fault) :
      Ends machine text place state parameters [(.error fault.failure, state)] state
  | broken {parameters rest : List Value} {statement : π} {taken : Option Nat}
      {data : List Datum} {failure : Failure} (inside : place < text.length)
      (compiled : machine.compile (text.drop place) state = .ok (some statement, taken))
      (bound : bindAll machine.hold (machine.parameterCount statement)
        (machine.parameterCount statement) parameters = .ok (data, rest))
      (broke : (machine.execute statement data state).ending = some failure) :
      Ends machine text place state parameters
        (machine.rowItems statement (machine.execute statement data state) ++
          [(.error failure, (machine.execute statement data state).last)])
        (machine.execute statement data state).last

variable {machine : Machine σ π} {text : List Char} {place reached : Nat} {state after : σ}
  {visits : List (Visit σ π)}

theorem itemsFrom_of_ends {parameters : List Value} {items : List (Outcome Response × σ)}
    {closed : σ} (ends : machine.Ends text place state parameters items closed) :
    machine.itemsFrom text place parameters state = (items, closed) := by
  unfold itemsFrom
  cases ends with
  | finished outside => simp [Nat.not_lt.mpr outside]
  | unused outside left => simp [Nat.not_lt.mpr outside, left]
  | refused inside answer => simp [inside, answer]
  | unbound inside compiled unbound => simp [inside, compiled, unbound]
  | broken inside compiled bound broke => simp [inside, compiled, bound, broke]

namespace Visits

/-- No place lies behind the end of the text. -/
theorem reached_le (run : machine.Visits text place state visits reached after)
    (inside : place ≤ text.length) : reached ≤ text.length := by
  induction run with
  | refl place state => exact inside
  | blank before compiled _ inductionHypothesis =>
      exact inductionHypothesis (placeBehind_le before _)
  | statement before compiled completes _ inductionHypothesis =>
      exact inductionHypothesis (placeBehind_le before _)

/-- Each statement of a run is executed in the state that those in front of it
left behind. -/
theorem before (run : machine.Visits text place state visits reached after)
    {front back : List (Visit σ π)} {visit : Visit σ π} (split : visits = front ++ visit :: back) :
    visit.Completes machine ∧
      ∃ between, machine.Visits text place state front between visit.before := by
  induction run generalizing front with
  | refl place state => simp at split
  | blank inside compiled _ inductionHypothesis =>
      obtain ⟨completes, between, run⟩ := inductionHypothesis split
      exact ⟨completes, between, .blank inside compiled run⟩
  | statement inside compiled completes _ inductionHypothesis =>
      cases front with
      | nil =>
          cases split
          exact ⟨completes, _, .refl _ _⟩
      | cons first front =>
          obtain ⟨rfl, rest⟩ := List.cons.inj split
          obtain ⟨here, between, run⟩ := inductionHypothesis rest
          exact ⟨here, between, .statement inside compiled completes run⟩

/-- The items of a run are those of its statements in order, if the parameters
are their shares in order, and then what follows from the place reached. -/
theorem itemsFrom_eq (run : machine.Visits text place state visits reached after)
    (parameters : List Value) :
    machine.itemsFrom text place (visits.flatMap Visit.share ++ parameters) state =
      (visits.flatMap (·.items machine) ++ (machine.itemsFrom text reached parameters after).1,
        (machine.itemsFrom text reached parameters after).2) := by
  induction run with
  | refl place state => rfl
  | blank inside compiled _ inductionHypothesis =>
      rw [itemsFrom]
      simp [inside, compiled, inductionHypothesis]
  | @statement place reached after taken visit visits inside compiled completes _
      inductionHypothesis =>
      have bound : bindAll machine.hold (machine.parameterCount visit.statement)
          (machine.parameterCount visit.statement)
          (visit.share ++ (visits.flatMap Visit.share ++ parameters)) =
          .ok (visit.data, visits.flatMap Visit.share ++ parameters) :=
        bindAll_eq_ok_iff.mpr ⟨visit.share, rfl, completes.taken, completes.bound⟩
      have finished := completes.finished
      unfold Visit.execution at finished
      rw [itemsFrom]
      simp only [inside, dite_true, compiled, List.flatMap_cons, List.append_assoc, bound,
        finished]
      have later := inductionHypothesis
      unfold Visit.after Visit.execution at later
      rw [later]
      simp [Visit.items, Visit.after, Visit.execution]

end Visits

/-- Every run of a script consists of statements that came to their end, each with
its share of the parameters, and of an end. -/
theorem exists_visits (machine : Machine σ π) (text : List Char) (place : Nat)
    (parameters : List Value) (state : σ) :
    ∃ visits reached after rest items closed,
      machine.Visits text place state visits reached after ∧
        parameters = visits.flatMap Visit.share ++ rest ∧
        machine.Ends text reached after rest items closed := by
  fun_induction machine.itemsFrom text place parameters state with
  | case1 place parameters state inside failure answer =>
      exact ⟨[], place, state, parameters, _, _, .refl _ _, rfl, .refused inside answer⟩
  | case2 place parameters state inside taken compiled inductionHypothesis =>
      obtain ⟨visits, reached, after, rest, items, closed, run, dealt, ends⟩ :=
        inductionHypothesis
      exact ⟨visits, reached, after, rest, items, closed, .blank inside compiled run, dealt, ends⟩
  | case3 place parameters state inside statement taken compiled count fault unbound =>
      exact ⟨[], place, state, parameters, _, _, .refl _ _, rfl, .unbound inside compiled unbound⟩
  | case4 place parameters state inside statement taken compiled count data rest bound
      execution rows failure broke =>
      exact ⟨[], place, state, parameters, _, _, .refl _ _, rfl,
        .broken inside compiled bound broke⟩
  | case5 place parameters state inside statement taken compiled count data rest bound
      execution rows finished later closed others inductionHypothesis =>
      obtain ⟨share, rfl, counted, binds⟩ := bindAll_eq_ok_iff.mp bound
      obtain ⟨visits, reached, after, left, items, closed, run, rfl, ends⟩ := inductionHypothesis
      let visit : Visit σ π := ⟨statement, share, data, state⟩
      have completes : visit.Completes machine := ⟨counted, binds, finished⟩
      exact ⟨visit :: visits, reached, after, left, items, closed,
        .statement inside compiled completes run, by simp [visit], ends⟩
  | case6 place parameters state outside spent =>
      obtain rfl := List.isEmpty_iff.mp spent
      exact ⟨[], place, state, [], _, _, .refl _ _, rfl, .finished (Nat.not_lt.mp outside)⟩
  | case7 place parameters state outside left =>
      exact ⟨[], place, state, parameters, _, _, .refl _ _, rfl,
        .unused (Nat.not_lt.mp outside) (by simpa using left)⟩

/-- A script whose run comes to a place and ends there gives the items of the
statements that it came past, and then those of its end. -/
theorem run_of_visits {script : Statement} {rest : List Value}
    {items : List (Outcome Response × σ)} {closed : σ} (clear : nulPosition? script.sql = none)
    (visited : machine.Visits script.sql.toList 0 state visits reached after)
    (dealt : script.parameters = visits.flatMap Visit.share ++ rest)
    (ends : machine.Ends script.sql.toList reached after rest items closed) :
    machine.run script state = ⟨state, visits.flatMap (·.items machine) ++ items, closed⟩ := by
  have whole := visited.itemsFrom_eq rest
  rw [← dealt, itemsFrom_of_ends ends] at whole
  simp only [run, clear, whole]

/-- A script is refused as a whole, or run as far as it goes. -/
theorem run_cases (machine : Machine σ π) (script : Statement) (state : σ) :
    (∃ position, machine.run script state =
        ⟨state, [(.error (Fault.nulInScript position).failure, state)], state⟩) ∨
      ∃ visits reached after rest items closed,
        machine.Visits script.sql.toList 0 state visits reached after ∧
          script.parameters = visits.flatMap Visit.share ++ rest ∧
          machine.Ends script.sql.toList reached after rest items closed ∧
          machine.run script state =
            ⟨state, visits.flatMap (·.items machine) ++ items, closed⟩ := by
  cases clear : nulPosition? script.sql with
  | some position => exact .inl ⟨position, by simp only [run, clear]⟩
  | none =>
      obtain ⟨visits, reached, after, rest, items, closed, visited, dealt, ends⟩ :=
        machine.exists_visits script.sql.toList 0 script.parameters state
      exact .inr ⟨visits, reached, after, rest, items, closed, visited, dealt, ends,
        run_of_visits clear visited dealt ends⟩

end Machine

end RecordMapping.Sqlite
