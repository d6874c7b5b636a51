import Intake.Event

/-!
# Batch writes: the protocol of writing one batch

A batch is first brought into rows, all of them or none (`stageBatch`). Then the write makes one call to the store after the
other, each when the one before was answered: it reserves a session, creates the staging table, loads it, inserts labels and
values, and releases the session. The first call that fails is the last one but for the release, which always follows once a
session was reserved.

The protocol does not know the store: `BatchWrite` is a machine that says which call it is waiting for (`waiting`) and takes the
answer (`BatchWrite.reply`), so it can be driven by any store and interleaved with any other write.
-/

namespace Intake

/-- The rows of a batch in order, with a line of the dump for each if asked for. The first sample whose time does not fit ends
it. -/
def stageBatch (dump : Bool) : List Sample → Except StorageError (List StagedRow) × List Event
  | [] => (.ok [], [])
  | s :: rest =>
    match StagedRow.ofSample? s with
    | none => (.error (.timestampOutOfRange s.timestampMs), [])
    | some row =>
      let r := stageBatch dump rest
      (r.1.map (row :: ·), if dump then .sampleLine row.displayLine :: r.2 else r.2)

/-- A batch write that is under way. -/
structure BatchWrite where
  rows : List StagedRow
  /-- The call that the write waits for. -/
  waiting : WritePhase := .acquire
  /-- How many label sets the store had not seen. -/
  newLabelSets : Nat := 0
  /-- The first failure, once a session was reserved. -/
  failure : Option StorageError := none
  deriving Inhabited

/-- What an answer leads to: another call, or the end. -/
inductive WriteProgress where
  | going (w : BatchWrite)
  | finished (result : Except StorageError Unit)

namespace BatchWrite

/-- Begins a write: all samples must fit. -/
def start (dump : Bool) (samples : List Sample) : Except StorageError BatchWrite × List Event :=
  match stageBatch dump samples with
  | (.ok rows, events) => (.ok { rows }, events)
  | (.error e, events) => (.error e, events ++ [.batchRejected e])

/-- Takes the answer to the call that the write waits for: a count, or why it failed. -/
def reply (w : BatchWrite) (answer : Except StorageError Nat) : WriteProgress × List Event :=
  match w.waiting, answer with
  | .acquire, .ok _ => (.going { w with waiting := .createStaging }, [])
  | .acquire, .error e => (.finished (.error e), [.acquireFailed e])
  | .createStaging, .ok _ => (.going { w with waiting := .bulkLoad }, [])
  | .bulkLoad, .ok _ => (.going { w with waiting := .insertLabels }, [])
  | .insertLabels, .ok n => (.going { w with waiting := .insertValues, newLabelSets := n }, [])
  | .insertValues, .ok n => (.going { w with waiting := .release }, [.batchCommitted w.newLabelSets n])
  | .release, _ =>
    match w.failure with
    | some e => (.finished (.error e), [.batchFailed e])
    | none => (.finished (.ok ()), [.batchWritten w.rows.length])
  | _, .error e => (.going { w with waiting := .release, failure := some e }, [])

end BatchWrite

end Intake
