/-
Module: RecordMapping.Proofs.ScriptStatements
Purpose: Scripts run on the machine of SQLite, told statement by statement.
Main exports: Token.statements_firstStatement, runStatement, runStatements, itemsAndEnd,
  run_eq_itemsAndEnd
-/
import Mathlib
import RecordMapping.Sqlite.Run

namespace RecordMapping.Sqlite

/-!
The machine finds the statements of a script by places in its text.  Where a
statement ends depends on its tokens alone, so the same run can be told without
places: the script is cut into its statements once, and they are run in order.
-/

/-! ### Statements of a text -/

namespace Token

theorem suffix_afterComment (text : List Char) : afterComment text <:+ text := by
  fun_induction afterComment text with
  | case1 rest => exact ⟨['*', '/'], rfl⟩
  | case2 => exact List.suffix_refl _
  | case3 character rest _ inductionHypothesis =>
      exact inductionHypothesis.trans (List.suffix_cons character rest)

theorem suffix_readQuoted {text name after : List Char}
    (found : readQuoted text = some (name, after)) : after <:+ text := by
  fun_induction readQuoted text generalizing name after with
  | case1 rest inductionHypothesis =>
      obtain ⟨⟨inner, tail⟩, read, pair⟩ := Option.map_eq_some_iff.mp found
      cases pair
      exact (inductionHypothesis read).trans ⟨['\x22', '\x22'], rfl⟩
  | case2 rest _ =>
      cases found
      exact List.suffix_cons '\x22' _
  | case3 => cases found
  | case4 character rest _ _ inductionHypothesis =>
      obtain ⟨⟨inner, tail⟩, read, pair⟩ := Option.map_eq_some_iff.mp found
      cases pair
      exact (inductionHypothesis read).trans (List.suffix_cons character rest)

/-- The tokens behind one are those of the text behind it, which is shorter by
the token. -/
theorem readings_behind {text behind : List Char} {token : Token}
    {more : List (Token × List Char)} (read : readings text = (token, behind) :: more) :
    more = readings behind ∧ behind <:+ text ∧ behind.length < text.length := by
  have past {front : List Char} {whole : List Char} (shorter : front.length < whole.length)
      (suffix : front <:+ whole) (found : more = readings behind ∧ behind <:+ front ∧
        behind.length < front.length) :
      more = readings behind ∧ behind <:+ whole ∧ behind.length < whole.length :=
    ⟨found.1, found.2.1.trans suffix, found.2.2.trans shorter⟩
  have kept (character : Char) {front rest : List Char} (suffix : front <:+ rest) :
      front <:+ character :: rest ∧ front.length < (character :: rest).length :=
    ⟨suffix.trans (List.suffix_cons character rest),
      by simpa using Nat.lt_succ_of_le suffix.length_le⟩
  fun_induction readings text with
  | case1 => cases read
  | case2 rest inductionHypothesis =>
      have inner := kept '-' (List.dropWhile_suffix (l := rest) (· != '\n'))
      have outer := kept '-' inner.1
      exact past outer.2 outer.1 (inductionHypothesis read)
  | case3 rest inductionHypothesis =>
      have inner := kept '*' (suffix_afterComment rest)
      have outer := kept '/' inner.1
      exact past outer.2 outer.1 (inductionHypothesis read)
  | case4 character rest _ _ _ inductionHypothesis =>
      have inner := kept character (List.suffix_refl rest)
      exact past inner.2 inner.1 (inductionHypothesis read)
  | case5 character rest =>
      cases read
      exact ⟨rfl, kept character (List.dropWhile_suffix continuesWord)⟩
  | case6 character rest =>
      cases read
      exact ⟨rfl, kept character (List.dropWhile_suffix continuesWord)⟩
  | case7 rest name after found =>
      cases read
      exact ⟨rfl, kept _ (suffix_readQuoted found)⟩
  | case8 rest =>
      cases read
      exact ⟨by simp [readings], kept _ (List.nil_suffix)⟩
  | case9 rest =>
      cases read
      exact ⟨rfl, kept _ (List.suffix_refl _)⟩
  | case10 rest =>
      cases read
      exact ⟨rfl, kept _ (List.suffix_refl _)⟩
  | case11 character rest =>
      cases read
      exact ⟨rfl, kept _ (List.suffix_refl _)⟩
  | case12 character rest =>
      cases read
      exact ⟨by simp [readings], kept _ (List.nil_suffix)⟩

theorem readings_nil : readings [] = [] := by simp [readings]

/-- Behind any token stand the tokens of the text behind it. -/
theorem readings_behind_append {text behind : List Char} {token : Token}
    {front more : List (Token × List Char)}
    (read : readings text = front ++ (token, behind) :: more) :
    more = readings behind ∧ behind <:+ text ∧ behind.length < text.length := by
  induction front generalizing text with
  | nil => exact readings_behind read
  | cons first front inductionHypothesis =>
      obtain ⟨earlier, between⟩ := first
      obtain ⟨rest, suffix, shorter⟩ := readings_behind read
      obtain ⟨same, within, less⟩ := inductionHypothesis rest.symm
      exact ⟨same, within.trans suffix, less.trans shorter⟩

/-- Tokens that do not end a statement are gathered. -/
theorem statementsFrom_append {front : List Token} (plain : ∀ token ∈ front, token ≠ .stop)
    (begun rest : List Token) :
    statementsFrom begun (front ++ rest) = statementsFrom (front.reverse ++ begun) rest := by
  induction front generalizing begun with
  | nil => rfl
  | cons token front inductionHypothesis =>
      obtain ⟨here, others⟩ := List.forall_mem_cons.mp plain
      have gathered : statementsFrom begun (token :: (front ++ rest)) =
          statementsFrom (token :: begun) (front ++ rest) := by
        cases token with
        | stop => exact absurd rfl here
        | _ => rfl
      rw [List.cons_append, gathered, inductionHypothesis others]
      simp

/-- The first statement has all tokens up to the first that ends one. -/
theorem firstStatement_cases (text : List Char) :
    ∃ front : List (Token × List Char), (∀ entry ∈ front, entry.1 ≠ .stop) ∧
      ((readings text = front ∧ firstStatement text = (front.map (·.1), [])) ∨
        ∃ behind more, readings text = front ++ (.stop, behind) :: more ∧
          firstStatement text = (front.map (·.1) ++ [.stop], behind)) := by
  let goesOn : Token × List Char → Bool := fun entry => entry.1 != .stop
  have whole : (readings text).takeWhile goesOn ++ (readings text).dropWhile goesOn =
      readings text := List.takeWhile_append_dropWhile
  have parts : (readings text).span (fun entry => entry.1 != .stop) =
      ((readings text).takeWhile goesOn, (readings text).dropWhile goesOn) :=
    List.span_eq_takeWhile_dropWhile _ _
  refine ⟨(readings text).takeWhile goesOn, ?_, ?_⟩
  · intro entry member
    simpa [goesOn] using List.mem_takeWhile_imp member
  · cases rest : (readings text).dropWhile goesOn with
    | nil =>
        rw [rest] at whole parts
        exact .inl ⟨by simpa using whole.symm, by simp only [firstStatement, parts]⟩
    | cons entry more =>
        obtain ⟨ending, behind⟩ := entry
        have ends : ending = .stop := by
          have filled : (readings text).dropWhile goesOn ≠ [] := by simp [rest]
          have stopped := List.head_dropWhile_not goesOn filled
          simpa [goesOn, rest] using stopped
        subst ends
        rw [rest] at whole parts
        exact .inr ⟨behind, more, whole.symm, by simp only [firstStatement, parts]⟩

/-- The statements of a text are its first one, if it has any tokens, and those of
the text behind it. -/
theorem statements_firstStatement {text : List Char} {tokens : List Token}
    {behind : List Char} (first : firstStatement text = (tokens, behind)) :
    statementsFrom [] (lex text) =
      (if isBlank tokens then [] else [tokens]) ++ statementsFrom [] (lex behind) := by
  obtain ⟨front, plain, ⟨whole, read⟩ | ⟨rest, more, whole, read⟩⟩ := firstStatement_cases text
  · cases first.symm.trans read
    have tokens : lex text = front.map (·.1) ++ [] := by simp [lex, whole]
    rw [tokens, statementsFrom_append (by simpa using plain)]
    cases front with
    | nil => simp [lex, readings_nil, statementsFrom, isBlank]
    | cons entry front =>
        have here := plain entry (by simp)
        simp [lex, readings_nil, statementsFrom, isBlank, here]
  · cases first.symm.trans read
    obtain ⟨behindStop, _, _⟩ := readings_behind_append whole
    have tokens : lex text = front.map (·.1) ++ .stop :: lex behind := by
      simp [lex, whole, behindStop]
    rw [tokens, statementsFrom_append (by simpa using plain)]
    cases front with
    | nil => simp [statementsFrom, isBlank]
    | cons entry front =>
        have here := plain entry (by simp)
        simp [statementsFrom, isBlank, here]

/-- What stands behind the first statement of a text is a shorter end of it. -/
theorem behind_firstStatement {text : List Char} {tokens : List Token} {behind : List Char}
    (first : firstStatement text = (tokens, behind)) (filled : text ≠ []) :
    behind <:+ text ∧ behind.length < text.length := by
  obtain ⟨front, _, ⟨_, read⟩ | ⟨rest, more, whole, read⟩⟩ := firstStatement_cases text
  · cases first.symm.trans read
    exact ⟨List.nil_suffix, List.length_pos_iff.mpr filled⟩
  · cases first.symm.trans read
    exact (readings_behind_append whole).2

end Token

/-! ### Runs of statements -/

/-- What a statement changed: the growth of the count of changes, and the last
key if it is another one than before. -/
def changesBetween (before after : Session) : RowsAffected :=
  ⟨after.changes - before.changes,
    if after.lastKey = before.lastKey then none else some after.lastKey⟩

/-- The items of a statement that ran: its rows, and what it changed if it can
write. -/
def itemsOf (plan : Plan) (rows : List (List Datum)) (before after : Session) :
    List Response :=
  rows.map (fun row => .row ⟨plan.outputs.map (·.label), row.map Datum.toValue⟩) ++
    if plan.isReadOnly then [] else [.affected (changesBetween before after)]

/-- Runs the statement with the given tokens: its items, the parameters that
are left, and the state after it. -/
def runStatement (tokens : List Token) (parameters : List Value) (session : Session) :
    Except Fault (List Response × List Value × Session) := do
  let (command, count) ← Command.read tokens
  let plan ← command.prepare session.database
  let (data, rest) ← bindAll machine.hold count count parameters
  let (rows, after) ← plan.run data session
  return (itemsOf plan rows session after, rest, after)

/-- Runs statements in order: every item with the state behind it, and the
state at the end. -/
def runStatements : List (List Token) → List Value → Session →
    List (Except Fault Response × Session) × Session
  | [], parameters, session =>
      if parameters.isEmpty then ([], session)
      else ([(.error (.unusedParameters parameters.length), session)], session)
  | tokens :: rest, parameters, session =>
      match runStatement tokens parameters session with
      | .error fault => ([(.error fault, session)], session)
      | .ok (items, parameters, after) =>
          let (later, final) := runStatements rest parameters after
          (items.map (fun item => (.ok item, after)) ++ later, final)

/-- The items of a script, each with the state behind it, and the last state. -/
def itemsAndEnd (statement : Statement) (session : Session) :
    List (Except Fault Response × Session) × Session :=
  match nulPosition? statement.sql with
  | some position => ([(.error (.nulInScript position), session)], session)
  | none =>
      runStatements (Token.statements statement.sql) statement.parameters session

/-- Items with their faults as failures. -/
def reported (items : List (Except Fault Response × Session)) :
    List (Outcome Response × Session) :=
  items.map fun (item, state) => (item.mapError Fault.failure, state)

/-- A statement that was compiled runs as it is executed with its share of the
parameters. -/
theorem runStatement_of_compileTokens {tokens : List Token} {session : Session}
    {compiled : Compiled} (read : compileTokens tokens session = .ok compiled)
    (parameters : List Value) :
    runStatement tokens parameters session = do
      let (data, rest) ← bindAll machine.hold compiled.parameterCount compiled.parameterCount
        parameters
      let (rows, after) ← compiled.plan.run data session
      return (itemsOf compiled.plan rows session after, rest, after) := by
  obtain ⟨⟨command, count⟩, words, read⟩ := ok_of_bind read
  obtain ⟨plan, prepared, read⟩ := ok_of_bind read
  cases read
  simp only [runStatement, words, prepared, bind, Except.bind]

theorem runStatement_of_uncompiled {tokens : List Token} {session : Session} {fault : Fault}
    (refused : compileTokens tokens session = .error fault) (parameters : List Value) :
    runStatement tokens parameters session = .error fault := by
  unfold compileTokens at refused
  unfold runStatement
  cases words : Command.read tokens with
  | error other =>
      rw [words] at refused
      cases refused
      rfl
  | ok both =>
      obtain ⟨command, count⟩ := both
      rw [words] at refused
      cases prepared : command.prepare session.database with
      | error other =>
          simp only [bind, Except.bind, prepared] at refused
          cases refused
          simp [bind, Except.bind, prepared]
      | ok plan =>
          simp only [bind, Except.bind, prepared] at refused
          cases refused

/-! ### The machine at a place -/

/-- The statements of a text from a place on. -/
def statementsAt (text : List Char) (place : Nat) : List (List Token) :=
  Token.statementsFrom [] (Token.lex (text.drop place))

theorem statementsAt_end {text : List Char} {place : Nat} (outside : ¬place < text.length) :
    statementsAt text place = [] := by
  have nothing : text.drop place = [] := List.drop_eq_nil_iff.mpr (Nat.le_of_not_lt outside)
  simp [statementsAt, nothing, Token.lex, Token.readings_nil, Token.statementsFrom]

/-- The machine goes on behind the statement that it compiled. -/
theorem drop_placeBehind {text behind : List Char} {place : Nat} {tokens : List Token}
    (inside : place < text.length)
    (first : Token.firstStatement (text.drop place) = (tokens, behind)) :
    text.drop (Machine.placeBehind text.length place
      (some ((text.drop place).length - behind.length))) = behind := by
  obtain ⟨suffix, shorter⟩ := Token.behind_firstStatement first (by simpa using inside)
  have length : (text.drop place).length = text.length - place := List.length_drop
  have next : Machine.placeBehind text.length place
      (some ((text.drop place).length - behind.length)) =
      place + ((text.drop place).length - behind.length) := by
    simp only [Machine.placeBehind]
    omega
  rw [next, ← List.drop_drop]
  exact (List.suffix_iff_eq_drop.mp suffix).symm

section Places

variable {text : List Char} {place : Nat} {session : Session} {taken : Option Nat}

/-- What the machine compiles at a place, and where it says that this ends, depends
on the tokens from there on: either they are none but the end of a statement, or
those of the first statement. -/
theorem compile_cases (inside : place < text.length) :
    ∃ taken,
      (statementsAt text place =
          statementsAt text (Machine.placeBehind text.length place taken) ∧
        ∀ session, machine.compile (text.drop place) session = .ok (none, taken)) ∨
      ∃ tokens,
        statementsAt text place =
          tokens :: statementsAt text (Machine.placeBehind text.length place taken) ∧
        ∀ session, machine.compile (text.drop place) session =
          match compileTokens tokens session with
          | .ok compiled => .ok (some compiled, taken)
          | .error fault => .error fault.failure := by
  cases first : Token.firstStatement (text.drop place) with
  | mk tokens behind =>
      refine ⟨some ((text.drop place).length - behind.length), ?_⟩
      have split : statementsAt text place =
          (if isBlank tokens then [] else [tokens]) ++
            statementsAt text (Machine.placeBehind text.length place
              (some ((text.drop place).length - behind.length))) := by
        rw [statementsAt, statementsAt, drop_placeBehind inside first,
          Token.statements_firstStatement first]
      cases blank : isBlank tokens with
      | true =>
          left
          exact ⟨by simpa [blank] using split,
            fun session => by simp [machine, compile, first, blank]⟩
      | false =>
          right
          refine ⟨tokens, by simpa [blank] using split, fun session => ?_⟩
          cases read : compileTokens tokens session <;>
            simp [machine, compile, first, blank, read]

/-- Induction over the places of a script, from its end to its beginning. -/
theorem place_induction {motive : Nat → Prop} (text : List Char)
    (ended : ∀ place, ¬place < text.length → motive place)
    (blank : ∀ place taken, place < text.length →
      statementsAt text place =
        statementsAt text (Machine.placeBehind text.length place taken) →
      (∀ session, machine.compile (text.drop place) session = .ok (none, taken)) →
      motive (Machine.placeBehind text.length place taken) → motive place)
    (statement : ∀ place taken tokens, place < text.length →
      statementsAt text place =
        tokens :: statementsAt text (Machine.placeBehind text.length place taken) →
      (∀ session, machine.compile (text.drop place) session =
        match compileTokens tokens session with
        | .ok compiled => .ok (some compiled, taken)
        | .error fault => .error fault.failure) →
      motive (Machine.placeBehind text.length place taken) → motive place)
    (place : Nat) : motive place := by
  by_cases inside : place < text.length
  · obtain ⟨taken, found⟩ := compile_cases inside
    have behind := Machine.lt_placeBehind inside taken
    have rest := place_induction text ended blank statement
      (Machine.placeBehind text.length place taken)
    rcases found with ⟨split, compiles⟩ | ⟨tokens, split, compiles⟩
    · exact blank place taken inside split compiles rest
    · exact statement place taken tokens inside split compiles rest
  · exact ended place inside
termination_by text.length - place

/-- Where nothing is compiled, there is only the end of a statement. -/
theorem statementsAt_of_blank (inside : place < text.length)
    (answer : machine.compile (text.drop place) session = .ok (none, taken)) :
    statementsAt text place =
      statementsAt text (Machine.placeBehind text.length place taken) := by
  obtain ⟨found, ⟨split, compiles⟩ | ⟨tokens, split, compiles⟩⟩ := compile_cases inside
  · cases answer.symm.trans (compiles session)
    exact split
  · have compiled := answer.symm.trans (compiles session)
    cases read : compileTokens tokens session <;> simp [read] at compiled

/-- What is compiled is the first statement from the place on. -/
theorem statementsAt_of_compiled {compiled : Compiled} (inside : place < text.length)
    (answer : machine.compile (text.drop place) session = .ok (some compiled, taken)) :
    ∃ tokens, compileTokens tokens session = .ok compiled ∧
      statementsAt text place =
        tokens :: statementsAt text (Machine.placeBehind text.length place taken) := by
  obtain ⟨found, ⟨split, compiles⟩ | ⟨tokens, split, compiles⟩⟩ := compile_cases inside
  · cases answer.symm.trans (compiles session)
  · have same := answer.symm.trans (compiles session)
    cases read : compileTokens tokens session with
    | error fault => simp [read] at same
    | ok other =>
        rw [read] at same
        cases same
        exact ⟨tokens, read, split⟩

/-- What cannot be compiled is the first statement from the place on. -/
theorem statementsAt_of_refused {failure : Failure} (inside : place < text.length)
    (answer : machine.compile (text.drop place) session = .error failure) :
    ∃ tokens rest fault, compileTokens tokens session = .error fault ∧
      failure = fault.failure ∧ statementsAt text place = tokens :: rest := by
  obtain ⟨found, ⟨split, compiles⟩ | ⟨tokens, split, compiles⟩⟩ := compile_cases inside
  · cases answer.symm.trans (compiles session)
  · have same := answer.symm.trans (compiles session)
    cases read : compileTokens tokens session with
    | ok compiled => simp [read] at same
    | error fault =>
        rw [read] at same
        cases same
        exact ⟨tokens, _, fault, read, rfl, split⟩

end Places

theorem changesBetween_machine (before after : Session) :
    machine.changesBetween before after = changesBetween before after := by
  have counted : ((after.changes : Int) - before.changes).toNat =
      after.changes - before.changes := by omega
  simp only [Machine.changesBetween, changesBetween, machine, counted]
  rfl

/-- The items that the machine gives for a statement are those of the statement. -/
theorem items_of_execution (compiled : Compiled) (rows : List (List Datum))
    (session after : Session) :
    machine.rowItems compiled ⟨rows.map fun row => (row, after), none, after⟩ ++
        machine.changeItems compiled session after =
      reported ((itemsOf compiled.plan rows session after).map fun item => (.ok item, after)) := by
  have rowsShown : machine.rowItems compiled ⟨rows.map fun row => (row, after), none, after⟩ =
      reported ((rows.map fun row =>
        (.row ⟨compiled.plan.outputs.map (·.label), row.map Datum.toValue⟩ : Response)).map
          fun item => (.ok item, after)) := by
    simp [Machine.rowItems, reported, machine, Except.mapError]
  have changeShown : machine.changeItems compiled session after =
      reported ((if compiled.plan.isReadOnly then []
        else [Response.affected (changesBetween session after)]).map
          fun item => (.ok item, after)) := by
    have writes : machine.isReadOnly compiled = compiled.plan.isReadOnly := rfl
    rw [Machine.changeItems, changesBetween_machine, writes]
    cases compiled.plan.isReadOnly <;> rfl
  rw [rowsShown, changeShown]
  simp [itemsOf, reported]

/-- From a place on, the machine runs the statements that begin there. -/
theorem itemsFrom_eq_runStatements (text : List Char) (place : Nat) (parameters : List Value)
    (session : Session) :
    machine.itemsFrom text place parameters session =
      (reported (runStatements (statementsAt text place) parameters session).1,
        (runStatements (statementsAt text place) parameters session).2) := by
  fun_induction machine.itemsFrom text place parameters session with
  | case1 place parameters session inside failure answer =>
      obtain ⟨tokens, rest, fault, refused, rfl, split⟩ := statementsAt_of_refused inside answer
      simp [split, runStatements, runStatement_of_uncompiled refused, reported, Except.mapError]
  | case2 place parameters session inside taken answer inductionHypothesis =>
      rw [statementsAt_of_blank inside answer]
      exact inductionHypothesis
  | case3 place parameters session inside compiled taken answer count fault unbound =>
      obtain ⟨tokens, read, split⟩ := statementsAt_of_compiled inside answer
      have stopped : runStatement tokens parameters session = .error fault := by
        rw [runStatement_of_compileTokens read]
        exact congrArg (· >>= _) unbound
      simp [split, runStatements, stopped, reported, Except.mapError]
  | case4 place parameters session inside compiled taken answer count data rest bound execution
      rows failure broken =>
      obtain ⟨tokens, read, split⟩ := statementsAt_of_compiled inside answer
      cases ran : compiled.plan.run data session with
      | ok result => simp [execution, machine, execute, ran] at broken
      | error fault =>
          have stopped : runStatement tokens parameters session = .error fault := by
            rw [runStatement_of_compileTokens read]
            have share : bindAll machine.hold compiled.parameterCount compiled.parameterCount
                parameters = .ok (data, rest) := bound
            simp [share, ran, bind, Except.bind]
          simp only [execution, machine, execute, ran, Option.some.injEq] at broken
          simp [split, runStatements, stopped, reported, Except.mapError, rows, execution,
            Machine.rowItems, machine, execute, ran, broken]
  | case5 place parameters session inside compiled taken answer count data rest bound execution
      rows finished later closed others inductionHypothesis =>
      obtain ⟨tokens, read, split⟩ := statementsAt_of_compiled inside answer
      cases ran : compiled.plan.run data session with
      | error fault => simp [execution, machine, execute, ran] at finished
      | ok result =>
          obtain ⟨found, after⟩ := result
          have done : runStatement tokens parameters session =
              .ok (itemsOf compiled.plan found session after, rest, after) := by
            rw [runStatement_of_compileTokens read]
            have share : bindAll machine.hold compiled.parameterCount compiled.parameterCount
                parameters = .ok (data, rest) := bound
            simp [share, ran, bind, Except.bind, pure, Except.pure]
          have executed : execution = ⟨found.map fun row => (row, after), none, after⟩ := by
            simp [execution, machine, execute, ran]
          rw [split, runStatements, done]
          rw [others] at inductionHypothesis
          rw [executed] at inductionHypothesis
          simp only [Prod.mk.injEq] at inductionHypothesis
          simp only [rows, executed, items_of_execution]
          rw [inductionHypothesis.1, inductionHypothesis.2]
          simp [reported]
  | case6 place parameters session outside spent =>
      simp [statementsAt_end outside, runStatements, spent, reported]
  | case7 place parameters session outside left =>
      simp [statementsAt_end outside, runStatements, left, reported, Except.mapError]

/-- A script is run statement by statement. -/
theorem run_eq_itemsAndEnd (statement : Statement) (session : Session) :
    run statement session =
      ⟨session, reported (itemsAndEnd statement session).1, (itemsAndEnd statement session).2⟩ := by
  unfold run Machine.run itemsAndEnd
  cases nulPosition? statement.sql with
  | some position => rfl
  | none =>
      simp only [itemsFrom_eq_runStatements, statementsAt, List.drop_zero]
      rfl

end RecordMapping.Sqlite
