import DeltaStudy.Text.Split

/-!
# Paths

A path is kept as it was spelled and compared by its components: repeated
slashes, a slash at the end and a `.` inside do not count, a `.` in front of a
relative path does. Nothing here looks at a file system, so `..` is a component
like any other.
-/

namespace DeltaStudy

/-- One component of a path. The order of the constructors is the order in which
components sort. -/
inductive Component where
  /-- The slash in front of an absolute path. -/
  | root
  /-- A `.` in front of a relative path. -/
  | current
  /-- A `..`. -/
  | parent
  | name (text : String)
deriving DecidableEq, Repr

namespace Component

/-- The place of a kind of component in the order. -/
def rank : Component → Nat
  | .root => 0
  | .current => 1
  | .parent => 2
  | .name _ => 3

/-- Components are ordered by kind, and names by their characters. -/
def precedes : Component → Component → Bool
  | .name left, .name right => decide (left < right)
  | left, right => decide (left.rank < right.rank)

end Component

/-- A path in the spelling it was given in. -/
structure Path where
  /-- The spelling, which is also how the path is printed. -/
  text : String
deriving DecidableEq, Repr

namespace Path

/-- Whether the path starts at the root. -/
def isAbsolute (path : Path) : Bool :=
  path.text.toList.head? == some '/'

/-- The component that a piece between slashes stands for, unless it stands for
nothing. -/
def componentOf? (piece : List Char) : Option Component :=
  if piece = [] ∨ piece = ['.'] then none
  else if piece = ['.', '.'] then some .parent
  else some (.name (String.ofList piece))

/-- What the path is compared by. -/
def components (path : Path) : List Component :=
  let pieces := Text.splitAt (· == '/') path.text.toList
  let front :=
    if path.isAbsolute then [Component.root]
    else if pieces.head? == some ['.'] then [Component.current]
    else []
  front ++ pieces.filterMap componentOf?

/-- Whether two paths have the same components. -/
def same (left right : Path) : Bool :=
  left.components == right.components

/-- Whether one list of components sorts before another. -/
def componentsPrecede : List Component → List Component → Bool
  | [], [] => false
  | [], _ :: _ => true
  | _ :: _, [] => false
  | left :: lefts, right :: rights =>
    if left = right then componentsPrecede lefts rights else left.precedes right

/-- The order of paths by components. -/
def precedes (left right : Path) : Bool :=
  componentsPrecede left.components right.components

/-- A path below another one. An absolute path is below no other path and stands
for itself. -/
def join (directory entry : Path) : Path :=
  if entry.isAbsolute || directory.text = "" then entry
  else if directory.text.toList.getLast? == some '/' then ⟨directory.text ++ entry.text⟩
  else ⟨directory.text ++ "/" ++ entry.text⟩

/-- The components of the directory that holds the path. The root and the empty
path are held by nothing. -/
def parentComponents? (path : Path) : Option (List Component) :=
  match path.components.getLast? with
  | none => none
  | some .root => none
  | some _ => some path.components.dropLast

/-- The last component, if it is a name. -/
def fileName? (path : Path) : Option String :=
  match path.components.getLast? with
  | some (.name text) => some text
  | _ => none

/-- Split a file name at its last point. A name without a point, or with its
only point in front, has no second part. -/
def splitName (name : String) : String × Option String :=
  let characters := name.toList
  let after := (characters.reverse.takeWhile (· != '.')).reverse
  let before := (characters.take (characters.length - after.length)).dropLast
  if before = [] then (name, none)
  else (String.ofList before, some (String.ofList after))

/-- The file name without its extension. -/
def stem? (path : Path) : Option String :=
  path.fileName?.map fun name => (splitName name).1

/-- The part of the file name after its last point. -/
def extension? (path : Path) : Option String :=
  path.fileName?.bind fun name => (splitName name).2

/-- Whether the path has a given extension, up to the case of ASCII letters. -/
def hasExtension (path : Path) (extension : String) : Bool :=
  match path.extension? with
  | some actual => Text.equalIgnoringCase actual extension
  | none => false

/-- The stem of the file name; a path without a file name is named as a whole. -/
def label (path : Path) : String :=
  path.stem?.getD path.text

end Path

end DeltaStudy
