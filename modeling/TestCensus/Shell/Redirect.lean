import TestCensus.Shell.Utilities

/-!
# Where channels go

A channel goes to a sink, and a redirection gives it another one.  A path stands
for a file, except for a few that stand for channels themselves (`openSink`).
-/

namespace TestCensus.Shell

open TestCensus.Files

/-- The sink of a channel, if it is open. -/
def Channels.sink? (c : Channels) : Nat → Option Sink
  | 0 => some .nowhere
  | 1 => some c.output
  | 2 => some c.errors
  | n => c.others.lookup n

/-- The channels with a sink for one of them. -/
def Channels.withSink (c : Channels) (channel : Nat) (sink : Sink) : Channels :=
  match channel with
  | 0 => c
  | 1 => { c with output := sink }
  | 2 => { c with errors := sink }
  | n => { c with others := (n, sink) :: c.others }

/-- The channels with one of them closed. -/
def Channels.closing (c : Channels) : Nat → Channels
  | 0 => { c with input := [] }
  | 1 => { c with output := .nowhere }
  | 2 => { c with errors := .nowhere }
  | n => { c with others := c.others.filter fun o => o.1 != n }

/-- The sink that a path stands for, and the tree in which its file is ready. -/
def openSink (t : Tree) (keeps : Bool) (path : String) : Except PathError (Sink × Tree) :=
  if path = "/dev/null" then .ok (.nowhere, t)
  else if path = "/dev/stdout" then .ok (.output, t)
  else if path = "/dev/stderr" then .ok (.errors, t)
  else do
    let before := if keeps then (t.readBytes ⟨path⟩).toOption.getD [] else []
    let ready ← t.write ⟨path⟩ before
    return (.file (t.current.join path), ready)

/-- The text of an error of the shell; `missing` is that of a path that leads
nowhere. -/
def shellMessage (missing : String) : PathError → String
  | .notFound => missing
  | .notDirectory => missing
  | e => plainMessage e

/-- The redirection is one of the input. -/
def Redirection.isInput : Redirection → Bool
  | .fromFile _ => true
  | .fromText _ => true
  | .closed channel => channel == 0
  | _ => false

end TestCensus.Shell
