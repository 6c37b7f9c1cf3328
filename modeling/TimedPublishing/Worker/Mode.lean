import TimedPublishing.Text.Basic
import TimedPublishing.Text.Quoted

/-!
# The arguments and the log format of a worker process

The first argument of a worker says what it does: poll until it is told to stop, which is
also what it does without an argument, or drain the due jobs once. Nothing may follow. Its
log lines are objects, unless a readable form is asked for.
-/

namespace TimedPublishing.Worker

/-- What a worker process does. -/
inductive Mode
  /-- Run the poller until the process is told to stop. -/
  | poll
  /-- Drain the due jobs once. -/
  | runOnce
deriving DecidableEq, Repr

/-- The word that asks for a mode. -/
def Mode.word : Mode → String
  | .poll => "poll"
  | .runOnce => "run-once"

/-- Why arguments are refused. -/
inductive ArgumentFault
  | unknownMode (argument : String)
  | unexpected (argument : String)
deriving DecidableEq, Repr

/-- The wording of a fault. -/
def ArgumentFault.message : ArgumentFault → String
  | .unknownMode argument =>
    "unknown mode " ++ Text.quoted argument ++ " (expected \x60poll\x60 or \x60run-once\x60)"
  | .unexpected argument => "unexpected argument " ++ Text.quoted argument

/-- The mode that a word asks for. -/
def Mode.ofWord : String → Except ArgumentFault Mode
  | "poll" => .ok .poll
  | "run-once" => .ok .runOnce
  | other => .error (.unknownMode other)

/-- The mode that the arguments ask for. An unknown mode is found before an argument too
many. -/
def Mode.ofArguments : List String → Except ArgumentFault Mode
  | [] => .ok .poll
  | word :: rest => do
    let mode ← Mode.ofWord word
    match rest with
    | [] => return mode
    | extra :: _ => .error (.unexpected extra)

/-- How log lines are written. -/
inductive LogFormat
  /-- One object to a line. -/
  | json
  /-- For people to read. -/
  | pretty
deriving DecidableEq, Repr

/-- The format that a value asks for, in either case of letters and up to white space
around it. Whatever is not the readable format is the other one. -/
def LogFormat.ofText (value : String) : LogFormat :=
  let word := String.ofList ((Text.trim value.toList).map Char.toLower)
  if word = "pretty" ∨ word = "text" then .pretty else .json

end TimedPublishing.Worker
