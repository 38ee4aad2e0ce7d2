/-!
# Check points

A census can be cancelled through a handle that its caller keeps.  The census
looks at the handle at certain points only: before each event of the walks, before
each file, after the files, and after the queries.  What it finds there is all
that it knows of the handle, so `CheckPoints` stands for everything that callers
can do to the handle while a census runs.
-/

namespace TestCensus

/-- A handle through which a census is cancelled. -/
structure CancelHandle where
  /-- The census is to end. -/
  isCancelled : Bool
deriving DecidableEq

namespace CancelHandle

/-- A handle that was not used. -/
def fresh : CancelHandle := ⟨false⟩

/-- Asks the census to end. -/
def cancel (_ : CancelHandle) : CancelHandle := ⟨true⟩

/-- Takes back that the census is to end. -/
def reset (_ : CancelHandle) : CancelHandle := ⟨false⟩

end CancelHandle

/-- Whether a census finds its handle cancelled, at each of its check points. -/
structure CheckPoints where
  /-- Before the event with the given number. -/
  atEvent : Nat → Bool
  /-- Before the file with the given number. -/
  atFile : Nat → Bool
  /-- After all files. -/
  afterFiles : Bool
  /-- After all queries. -/
  afterQueries : Bool

/-- The check points of a census during which nobody uses the handle. -/
def CancelHandle.unused (h : CancelHandle) : CheckPoints :=
  ⟨fun _ => h.isCancelled, fun _ => h.isCancelled, h.isCancelled, h.isCancelled⟩

/-- The check points of a census that nobody cancels. -/
def CheckPoints.never : CheckPoints := CancelHandle.fresh.unused

/-- A census that nobody cancels passes over no file. -/
theorem CheckPoints.any_atFile_never (n : Nat) : (List.range n).any never.atFile = false :=
  List.any_eq_false.2 fun _ _ => Bool.false_ne_true

end TestCensus
