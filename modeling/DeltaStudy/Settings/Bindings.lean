/-!
# Bindings

Names bound to values: the environment of a program, the assignments of a
settings file, and what a script has assigned.
-/

namespace DeltaStudy.Settings

/-- Names with their values. If a name is bound more than once, its first value
counts. -/
abbrev Bindings := List (String × String)

/-- The value of a name. -/
def valueIn (bindings : Bindings) (name : String) : Option String :=
  (bindings.find? fun entry => entry.1 = name).map Prod.snd

/-- Bind a name to a value in place of the one before. -/
def rebind (bindings : Bindings) (name value : String) : Bindings :=
  (name, value) :: bindings.filter fun entry => entry.1 ≠ name

end DeltaStudy.Settings
