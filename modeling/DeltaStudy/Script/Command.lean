import DeltaStudy.Script.Pattern

/-!
# Commands

The commands of a script. A simulator may be a script in this language, which is
a small part of the command language of POSIX shells: simple commands with
assignments and redirections, lists, conditions, choices and loops over words.
There is nothing in it that could run for ever.
-/

namespace DeltaStudy.Script

/-- A part of a word. -/
inductive Part where
  /-- A character outside quotes. -/
  | bare (character : Char)
  /-- Text inside quotes, which stands for itself. -/
  | quoted (text : List Char)
  /-- The value of a parameter, with a pattern taken off if one is given. -/
  | value (quoted : Bool) (parameter : String) (trim : Option (Trim × Pattern))
deriving DecidableEq, Repr

abbrev Word := List Part

/-- Where a redirection leads. -/
inductive Target where
  /-- To a file, whose content is replaced or kept. -/
  | file (path : Word) (append : Bool)
  /-- To where another descriptor leads. -/
  | copy (descriptor : Nat)
  /-- Input, which no command of the language reads. -/
  | input (path : Word)
deriving DecidableEq, Repr

/-- A redirection of a descriptor. -/
structure Redirection where
  descriptor : Nat
  /-- Where it leads. -/
  target : Target
deriving DecidableEq, Repr

/-- What is written for a command without parts that are commands. -/
structure Simple where
  /-- The line that the command starts in. -/
  line : Nat
  /-- The assignments in front. -/
  assignments : List (String × Word)
  /-- The name of the command and its arguments. -/
  words : List Word
  /-- The redirections in their order. -/
  redirections : List Redirection
deriving DecidableEq, Repr

inductive Command where
  /-- The empty command. -/
  | nothing
  /-- A simple command. -/
  | simple (command : Simple)
  /-- One command and then another one. -/
  | sequence (first second : Command)
  /-- The second command only if the first one succeeds. -/
  | andThen (first second : Command)
  /-- The second command only if the first one fails. -/
  | orElse (first second : Command)
  /-- A command with its success turned round. -/
  | negated (command : Command)
  /-- One of two commands, depending on a third one. -/
  | branch (test success failure : Command)
  /-- A command for every field of some words. -/
  | each (name : String) (words : List Word) (body : Command)
  /-- A command if a word matches one of some patterns, else another one. -/
  | choice (subject : Word) (patterns : List Word) (body otherwise : Command)
deriving Repr

end DeltaStudy.Script
