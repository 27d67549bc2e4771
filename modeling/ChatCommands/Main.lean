import ChatCommands.Console
import ChatCommands.Sample.Demo

/-!
# The command line

Runs the demonstration under the flags of the environment and shows its events on the console.
-/

open ChatCommands

/-- Shows lines on an outlet. -/
def showLines (shown : Outlet × List String) : IO Unit :=
  shown.2.forM fun line =>
    match shown.1 with
    | .output => IO.println line
    | .error => IO.eprintln line

/-- Runs the demonstration; an error ends the program with status one. -/
def main : IO UInt32 := do
  let h := Demo.host (← IO.getEnv "HELMSMAN_ENV")
  let run := Demo.session h
  run.events.forM fun e => showLines (e.lines h.isDevelopment)
  match run.outcome with
  | .ok _ => return 0
  | .error e =>
    IO.eprintln e.message
    return 1
