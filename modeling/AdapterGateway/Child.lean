import AdapterGateway.Call
/-!
# Adapter processes

A started process, and what may be done with it. Once the system has said how a process ended, the
answer is kept and the system is not asked again: the number of a process that is reaped may belong
to another one.
-/
namespace AdapterGateway
open Text

/-- What is known about a process that was started. -/
structure Child where
  /-- How it ended, once that is known. -/
  reaped : Option ExitStatus := none
  /-- Whether its streams were taken. -/
  captured : Bool := false
deriving DecidableEq, Repr

/-- What a process wrote to its two streams, as text. -/
structure Diagnostics where
  output : String := ""
  errors : String := ""
deriving DecidableEq, Repr

/-- The text of one stream. A stream that others hold open is given up. -/
def streamText : Option Octets → String
  | some octets => lossy octets
  | none => ""

namespace Child

def tryWait (c : Child) : Program (Except IoError (Option ExitStatus) × Child) :=
  match c.reaped with
  | some status => return (.ok (some status), c)
  | none => do
    match ← call .tryWait with
    | .ok status => return (.ok status, { c with reaped := status })
    | .error e => return (.error e, c)

/-- Waits until the process has ended or the wait has lasted so many milliseconds. It is followed
for so many rounds as `patience` says. -/
def waitFor (c : Child) (milliseconds : Nat) :
    Nat → Program (Except IoError (Option ExitStatus) × Child)
  | 0 => .suspended
  | patience + 1 => do
    let (status, c) ← c.tryWait
    match status with
    | .ok none =>
      if ← call (.isOver milliseconds) then return (.ok none, c)
      else c.waitFor milliseconds patience
    | status => return (status, c)

/-- Kills the process and reaps it. A process that is gone already only has to be reaped. -/
def terminate (c : Child) : Program (Except Fault ExitStatus × Child) :=
  match c.reaped with
  | some status => return (.ok status, c)
  | none => do
    match ← call .kill with
    | .failed text => return (.error (.system text), c)
    | .sent | .gone =>
      match ← call .wait with
      | .ok status => return (.ok status, { c with reaped := some status })
      | .error e => return (.error (.io e), c)

/-- Takes what the process wrote to its streams; a second time there is nothing left. -/
def finish (c : Child) : Program (Diagnostics × Child) :=
  if c.captured then return ({}, c)
  else do
    let streams ← call .capture
    return (⟨streamText streams.output, streamText streams.errors⟩, { c with captured := true })

/-- Gives the process up: one that is not reaped is killed. -/
def release (c : Child) : Program Child :=
  match c.reaped with
  | some _ => return c
  | none => do
    let (_, c) ← c.terminate
    return c

end Child
end AdapterGateway
