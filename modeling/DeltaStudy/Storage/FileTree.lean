import DeltaStudy.Storage.Requests

/-!
# File trees

The files of a machine: a tree of directories and files with a working
directory in it. A path is followed step by step from the root or the working
directory, and every step has to start in a directory. There are no links and
no restrictions on reading and writing; a file may only be started if it is
executable.

Refusals are those of the operating system. Which failure a refusal becomes
depends on what was asked.
-/

namespace DeltaStudy.Storage

/-- Where something is: the names that lead to it from the root. -/
abbrev Location := List String

/-- What a tree holds at a location. -/
inductive Node where
  | file (content : List UInt8) (executable : Bool)
  | directory
deriving DecidableEq

/-- Files and directories by location, with a working directory. The root is
always there and is not listed. -/
structure FileTree where
  /-- What is where. -/
  nodes : List (Location × Node)
  /-- Where relative paths start. -/
  workingDirectory : Location
deriving DecidableEq

namespace FileTree

/-- What is at a location. -/
def node? (tree : FileTree) (location : Location) : Option Node :=
  if location = [] then some .directory
  else (tree.nodes.find? fun entry => entry.1 = location).map Prod.snd

/-- Put something at a location, in place of what was there. -/
def put (tree : FileTree) (location : Location) (node : Node) : FileTree :=
  { tree with nodes := (location, node) :: tree.nodes.filter fun entry => entry.1 ≠ location }

/-- The pieces of a path between its slashes. -/
def piecesOf (path : Path) : List String :=
  (Text.splitAt (· == '/') path.text.toList).map String.ofList

/-- Where a path starts. -/
def startOf (tree : FileTree) (path : Path) : Location :=
  if path.isAbsolute then [] else tree.workingDirectory

/-- One step from a directory. -/
def stepFrom (location : Location) (piece : String) : Location :=
  if piece = "" ∨ piece = "." then location
  else if piece = ".." then location.dropLast
  else location ++ [piece]

/-- Follow pieces from a location. Every step starts in a directory, so only the
last step may lead to something that is not there. -/
def follow (tree : FileTree) : Location → List String → Except SystemRefusal Location
  | location, [] => .ok location
  | location, piece :: rest =>
    match tree.node? location with
    | none => .error .notFound
    | some (.file _ _) => .error .notDirectory
    | some .directory => tree.follow (stepFrom location piece) rest

/-- The location that a path leads to. -/
def locate (tree : FileTree) (path : Path) : Except SystemRefusal Location :=
  if path.text = "" then .error .notFound else tree.follow (tree.startOf path) (piecesOf path)

/-- What a path leads to. -/
def lookup (tree : FileTree) (path : Path) : Except SystemRefusal Node := do
  match tree.node? (← tree.locate path) with
  | some node => return node
  | none => throw .notFound

/-- Whether a path leads to a file. -/
def isFile (tree : FileTree) (path : Path) : Bool :=
  match tree.lookup path with
  | .ok (.file _ _) => true
  | _ => false

/-- The content of the file that a path leads to. -/
def contentOf (tree : FileTree) (path : Path) : Except SystemRefusal (List UInt8) := do
  match ← tree.lookup path with
  | .file content _ => return content
  | .directory => throw .isDirectory

/-- The content of the program that a path leads to. Only an executable file may
be started. -/
def programAt (tree : FileTree) (path : Path) : Except SystemRefusal (List UInt8) := do
  match ← tree.lookup path with
  | .file content true => return content
  | _ => throw .permissionDenied

/-- Pieces without empty ones at the end. -/
def withoutSlashes (pieces : List String) : List String :=
  (pieces.reverse.dropWhile (· = "")).reverse

/-- Store content where a path leads. A new file is not executable; a file that
was there stays what it was. A slash at the end asks for a directory. -/
def store (tree : FileTree) (path : Path) (content : List UInt8) :
    Except SystemRefusal FileTree := do
  if path.text = "" then
    throw .notFound
  let pieces := piecesOf path
  let location ← tree.follow (tree.startOf path) (withoutSlashes pieces)
  if pieces.getLast? = some "" then
    throw .isDirectory
  match tree.node? location with
  | some .directory => throw .isDirectory
  | some (.file _ executable) => return tree.put location (.file content executable)
  | none => return tree.put location (.file content false)

/-- The names in a directory. -/
def namesIn (tree : FileTree) (directory : Location) : List String :=
  tree.nodes.filterMap fun entry =>
    if entry.1.dropLast = directory then entry.1.getLast? else none

/-- The files with an extension in the directory that a path leads to, in the
order of paths. -/
def filesIn (tree : FileTree) (directory : Path) (extension : String) :
    Except SystemRefusal (List Path) := do
  let location ← tree.locate directory
  match tree.node? location with
  | none => throw .notFound
  | some (.file _ _) => throw .notDirectory
  | some .directory =>
    let paths := (tree.namesIn location).map fun name => directory.join ⟨name⟩
    let files := paths.filter fun path => tree.isFile path && path.hasExtension extension
    return files.mergeSort fun left right => !right.precedes left

/-- Make one directory where pieces lead. -/
def makeOne (tree : FileTree) (start : Location) (pieces : List String) :
    Except SystemRefusal FileTree := do
  let location ← tree.follow start (withoutSlashes pieces)
  if (tree.node? location).isSome then
    throw .alreadyExists
  return tree.put location .directory

/-- Whether pieces lead to a directory. -/
def leadsToDirectory (tree : FileTree) (start : Location) (pieces : List String) : Bool :=
  match tree.follow start pieces with
  | .ok location => tree.node? location == some .directory
  | .error _ => false

/-- Make one directory unless it is there. -/
def ensureOne (tree : FileTree) (start : Location) (pieces : List String) :
    Option SystemRefusal × FileTree :=
  match tree.makeOne start pieces with
  | .ok made => (none, made)
  | .error refusal =>
    (if tree.leadsToDirectory start pieces then none else some refusal, tree)

/-- Make a directory where pieces lead. If something above it is missing, it is
made first; `above` holds the names above, the nearest one in front. What has
been made stays even if the rest is refused. -/
def ensureAll (tree : FileTree) (start : Location) (pieces : List String) :
    List String → Option SystemRefusal × FileTree
  | [] => tree.ensureOne start pieces
  | nearest :: above =>
    match tree.makeOne start pieces with
    | .error .notFound =>
      match tree.ensureAll start (nearest :: above).reverse above with
      | (none, made) => made.ensureOne start pieces
      | refused => refused
    | _ => tree.ensureOne start pieces

/-- The piece of a path that a component stands for. -/
def pieceOf : Component → String
  | .root => ""
  | .current => "."
  | .parent => ".."
  | .name text => text

/-- Make a directory with everything above it. The empty path is the working
directory, which is there. -/
def ensureDirectory (tree : FileTree) (directory : Path) : Option SystemRefusal × FileTree :=
  if directory.text = "" then (none, tree)
  else
    let above := (directory.components.dropLast.map pieceOf).reverse
    tree.ensureAll (tree.startOf directory) (piecesOf directory) above

/-- A tree that holds nothing but the directories above some location. -/
def ofWorkingDirectory (location : Location) : FileTree :=
  { nodes := (List.range location.length).map fun depth =>
      (location.take (depth + 1), .directory)
    workingDirectory := location }

/-- The failure of a refusal to read. A file that is not there is told apart. -/
def readFailure (path : Path) : SystemRefusal → Failure
  | .notFound => .artifactNotFound path
  | refusal => .unreadableArtifact path refusal

/-- A file tree as a storage. -/
def storage : Storage (StateM FileTree) where
  isFile path := return (← get).isFile path
  read path := return ((← get).contentOf path).mapError (readFailure path)
  write path content := do
    match (← get).store path content with
    | .ok tree =>
      set tree
      return .ok ()
    | .error refusal => return .error (.unwrittenFile path refusal)
  list directory extension :=
    return ((← get).filesIn directory extension).mapError (.unlistedDirectory directory)
  makeDirectory directory := do
    let (refusal, tree) := (← get).ensureDirectory directory
    set tree
    match refusal with
    | none => return .ok ()
    | some refusal => return .error (.unmadeDirectory directory refusal)

end FileTree

end DeltaStudy.Storage
