/-
Module: RecordMapping.Provider.Chunks
Purpose: Query results handed to a callback in chunks.
Main exports: ChunkQuery, CallEnd, bufferLimit, TargetType.Gathers, Provider.queryChunks
-/
import RecordMapping.Provider

namespace RecordMapping

/-!
The rows of a query are scanned and gathered into chunks of a given size.  A
full chunk is handed over at once, the last one when the rows have ended
without failure.  The callback ends the iteration by failing; the wish to stop
is the one failure that the iteration does not report.

The buffer for a chunk is asked for in full before the first row is read.  A
buffer of more bytes than an allocation can have is no failure of the iteration:
the call panics, and the caller is left without an outcome.  A smaller buffer is
taken to be granted, whatever memory the machine has left.
-/

/-- A query whose rows are handed over in chunks. -/
structure ChunkQuery where
  text : String
  parameters : List Value
  size : Nat

/-- A callback with its own state `κ`. -/
abbrev ChunkCallback (κ : Type) := κ → List Target → Outcome Unit × κ

/-- How a call ends. -/
inductive CallEnd where
  | returned (outcome : Outcome Unit)
  /-- The call panics, as it asks for a buffer of more than `bufferLimit` bytes. -/
  | overflow

/-- The most bytes of one buffer: the largest signed number of 64 bits. -/
def bufferLimit : Nat := 9223372036854775807

/-- A number of targets that a buffer can be asked for. -/
def TargetType.Gathers (type : TargetType) (count : Nat) : Prop :=
  count * type.footprint ≤ bufferLimit

instance (type : TargetType) (count : Nat) : Decidable (type.Gathers count) :=
  inferInstanceAs (Decidable (count * type.footprint ≤ bufferLimit))

namespace Provider

variable {σ κ : Type}

/-- The end of an iteration by its callback: a wish to stop is a success. -/
def settled : Outcome Unit → Outcome Unit
  | .ok () => .ok ()
  | .error failure => if failure.isAbort then .ok () else .error failure

/-- Gathers rows into chunks, from `gathered` on, and hands them over. -/
def handOver (context : Context) (size : Nat) (callback : ChunkCallback κ)
    (closed : σ) (scanner : Scanner) (gathered : List Target) (held : κ) :
    List (Outcome LabeledRow × σ) → Outcome Unit × κ × σ
  | [] =>
      if gathered.isEmpty then (.ok (), held, closed)
      else
        match callback held gathered with
        | (outcome, held) => (settled outcome, held, closed)
  | (.error failure, state) :: _ => (.error (failure.within context), held, state)
  | (.ok row, state) :: rest =>
      match scanner.scan row with
      | (_, .error failure) => (.error failure, held, state)
      | (scanner, .ok target) =>
          let gathered := gathered ++ [target]
          if gathered.length < size then
            handOver context size callback closed scanner gathered held rest
          else
            match callback held gathered with
            | (.ok (), held) =>
                handOver context size callback closed scanner [] held rest
            | (.error failure, held) => (settled (.error failure), held, state)

/-- Hands the rows of a query to a callback in chunks. -/
def queryChunks (provider : Provider σ) (type : TargetType) (query : ChunkQuery)
    (callback : ChunkCallback κ) (held : κ) (state : σ) : CallEnd × κ × σ :=
  if query.size = 0 then (.returned (misconfigured .emptyChunk), held, state)
  else
    match provider.prepare type query.text with
    | .error failure => (.returned (.error failure), held, state)
    | .ok (scanner, sql) =>
        let reply := provider.executor.run ⟨sql, query.parameters⟩ state
        if type.Gathers query.size then
          match handOver (.runningQuery sql) query.size callback reply.closed scanner []
            held reply.rows with
          | (outcome, left, after) => (.returned outcome, left, after)
        else (.overflow, held, reply.opened)

variable {provider : Provider σ} {type : TargetType} {query : ChunkQuery}
  {callback : ChunkCallback κ} {held : κ} {state : σ} {scanner : Scanner} {sql : String}

/-- With room for a chunk, the rows of the reply are handed over. -/
theorem queryChunks_of_gathers (filled : query.size ≠ 0)
    (prepared : provider.prepare type query.text = .ok (scanner, sql))
    (room : type.Gathers query.size) :
    let reply := provider.executor.run ⟨sql, query.parameters⟩ state
    let handed := handOver (.runningQuery sql) query.size callback reply.closed scanner [] held
      reply.rows
    provider.queryChunks type query callback held state = (.returned handed.1, handed.2) := by
  simp only [queryChunks, filled, if_false, prepared, room, if_true]

/-- Without room for a chunk, nothing is read of the reply. -/
theorem queryChunks_of_overflow (filled : query.size ≠ 0)
    (prepared : provider.prepare type query.text = .ok (scanner, sql))
    (beyond : ¬ type.Gathers query.size) :
    provider.queryChunks type query callback held state =
      (.overflow, held, (provider.executor.run ⟨sql, query.parameters⟩ state).opened) := by
  simp only [queryChunks, filled, if_false, prepared, beyond]

end Provider

end RecordMapping
