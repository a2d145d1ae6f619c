import DeltaStudy.CommandLine.Help
import DeltaStudy.Program.Commands

/-!
# The program

The program as a whole: from its arguments to its exit code, on any machine.
-/

namespace DeltaStudy.Program

variable {m : Type → Type} [Monad m]

/-- Answer arguments that there is nothing to carry out for. -/
def answerProblem (machine : Machine m) (problem : CommandLine.Problem) : m Nat := do
  machine.print problem.output
  machine.complain problem.errorOutput
  return problem.exitCode

/-- Carry out a command and report how it failed, if it did. -/
def carryOutCommand (circumstances : Circumstances m) (command : CommandLine.Command) :
    m Nat := do
  circumstances.note .loggingReady
  match ← (circumstances.carryOut command).run with
  | .ok () => return 0
  | .error failure =>
    circumstances.machine.complain (failure.message ++ "\n")
    return failure.exitCode

/-- Run the program with arguments; the result is its exit code. -/
def conduct (machine : Machine m) (arguments : List String) : m Nat := do
  let bindings ← machine.bindings
  match CommandLine.read arguments with
  | .error problem => answerProblem machine problem
  | .ok invocation =>
    carryOutCommand (.of machine bindings invocation.verbosity) invocation.command

end DeltaStudy.Program
