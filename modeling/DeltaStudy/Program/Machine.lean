import DeltaStudy.Event
import DeltaStudy.Report.Campaign
import DeltaStudy.Script.Program
import DeltaStudy.Storage.Requests

/-!
# Machines

What the program asks of the machine that it runs on. Everything that the
program does to the world goes through a `Machine`, so that the program itself
is the same definition on a real machine and in a rehearsal.
-/

namespace DeltaStudy.Program

/-- A machine, whose services have effects in `m`. -/
structure Machine (m : Type → Type) where
  /-- The files. -/
  storage : Storage m
  /-- The directory that relative paths start from. -/
  workingDirectory : m Path
  /-- The variables of the environment. -/
  environment : m Settings.Bindings
  /-- The number of processors. -/
  processors : m Nat
  /-- The time. -/
  now : m Report.Moment
  /-- Start a program with these variables and arguments, and wait for it. -/
  start : Path → Settings.Bindings → List String → m (Except SystemRefusal Script.Finished)
  /-- Write to the output. -/
  print : String → m Unit
  /-- Write to the error output. -/
  complain : String → m Unit
  /-- Show an event. -/
  tell : Event → m Unit

end DeltaStudy.Program
