import DeltaStudy.Program.Machine
import DeltaStudy.Storage.FileTree

/-!
# Rehearsals

A machine that only exists as a value. A rehearsal holds the files, the
environment and the time, and collects what the program writes and tells. Its
programs are the executable files of its tree.
-/

namespace DeltaStudy.Program

open DeltaStudy.Storage

/-- The state of a machine in a rehearsal. -/
structure Rehearsal where
  /-- The files. -/
  tree : FileTree
  /-- The variables of the environment. -/
  environment : Settings.Bindings
  /-- The number of processors. -/
  processors : Nat
  /-- The time, which stands still. -/
  moment : Report.Moment
  /-- What was written to the output. -/
  printed : String
  /-- What was written to the error output. -/
  complaints : String
  /-- The events that were shown. -/
  told : List Event
deriving DecidableEq

namespace Rehearsal

/-- The directories that every machine has. -/
def standardDirectories : List Location :=
  [["bin"], ["etc"], ["tmp"], ["usr"], ["usr", "bin"]]

/-- The programs that every machine has. -/
def standardPrograms : List (String × String) :=
  [ ("true", "#!/bin/sh\nexit 0\n")
  , ("false", "#!/bin/sh\nexit 1\n")
  , ("echo", "#!/bin/sh\nprintf '%s\\n' \"$*\"\n") ]

/-- Install a program. -/
def install (tree : FileTree) (program : String × String) : FileTree :=
  let file := Node.file (Text.encodeUtf8 program.2) true
  (tree.put ["bin", program.1] file).put ["usr", "bin", program.1] file

/-- The files of a machine that is used for the first time, in a directory that
is empty. -/
def freshTree (workingDirectory : Location) : FileTree :=
  let tree := standardDirectories.foldl (fun tree location => tree.put location .directory)
    (.ofWorkingDirectory workingDirectory)
  standardPrograms.foldl install tree

/-- A rehearsal before the program starts. -/
def before (tree : FileTree) (environment : Settings.Bindings) (moment : Report.Moment) :
    Rehearsal :=
  ⟨tree, environment, 1, moment, "", "", []⟩

/-- Do something to the files of a rehearsal. -/
def onTree {α : Type} (action : StateM FileTree α) : StateM Rehearsal α := fun rehearsal =>
  let (result, tree) := action.run rehearsal.tree
  (result, { rehearsal with tree })

/-- Start a program. -/
def start (program : Path) (bindings : Settings.Bindings) (arguments : List String) :
    StateM Rehearsal (Except SystemRefusal Script.Finished) :=
  let look (path : Path) : StateM FileTree (Except SystemRefusal (List UInt8)) :=
    return (← get).programAt path
  onTree (Script.startProgram FileTree.storage look program bindings arguments)

/-- A rehearsal as a machine. -/
def machine : Machine (StateM Rehearsal) where
  storage := FileTree.storage.through onTree
  workingDirectory := return ⟨"/" ++ Text.joined "/" (← get).tree.workingDirectory⟩
  environment := return (← get).environment
  processors := return (← get).processors
  now := return (← get).moment
  start := start
  print text := modify fun rehearsal => { rehearsal with printed := rehearsal.printed ++ text }
  complain text :=
    modify fun rehearsal => { rehearsal with complaints := rehearsal.complaints ++ text }
  tell event := modify fun rehearsal => { rehearsal with told := rehearsal.told ++ [event] }

end Rehearsal

end DeltaStudy.Program
