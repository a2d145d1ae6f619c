import DeltaStudy.Storage.Requests

/-!
# Archives

A storage in memory. An archive holds content under paths that differ in their
components, in the order of paths. It has no directories of its own: a path
below another one needs nothing above it, and a directory is whatever paths
name as their parent.

Content that is stored again under another spelling of its path keeps the first
spelling.
-/

namespace DeltaStudy.Storage

/-- Content under paths, in their order. -/
structure Archive where
  /-- The paths and what is stored there. -/
  files : List (Path × List UInt8)
deriving DecidableEq

namespace Archive

/-- An archive that holds nothing. -/
def empty : Archive := ⟨[]⟩

/-- Put content among files that are in the order of their paths. -/
def insertAmong (path : Path) (content : List UInt8) :
    List (Path × List UInt8) → List (Path × List UInt8)
  | [] => [(path, content)]
  | (other, stored) :: rest =>
    if path.same other then (other, content) :: rest
    else if path.precedes other then (path, content) :: (other, stored) :: rest
    else (other, stored) :: insertAmong path content rest

/-- Store content under a path, in place of what was there. -/
def insert (archive : Archive) (path : Path) (content : List UInt8) : Archive :=
  ⟨insertAmong path content archive.files⟩

/-- The archive of files that are stored one after the other. -/
def ofFiles (files : List (Path × List UInt8)) : Archive :=
  files.foldl (fun archive (path, content) => archive.insert path content) empty

/-- What is stored under a path. -/
def get? (archive : Archive) (path : Path) : Option (List UInt8) :=
  (archive.files.find? fun (other, _) => path.same other).map Prod.snd

/-- Whether something is stored under a path. -/
def contains (archive : Archive) (path : Path) : Bool :=
  (archive.get? path).isSome

/-- The content under a path, which fails where nothing is stored. -/
def read (archive : Archive) (path : Path) : Except Failure (List UInt8) :=
  match archive.get? path with
  | some content => .ok content
  | none => .error (.artifactNotFound path)

/-- Whether a path is listed for a directory and an extension. -/
def isListed (directory : Path) (extension : String) (path : Path) : Bool :=
  path.parentComponents? == some directory.components && path.hasExtension extension

/-- The stored paths directly below a directory that have an extension. -/
def list (archive : Archive) (directory : Path) (extension : String) : List Path :=
  (archive.files.map Prod.fst).filter (isListed directory extension)

/-- An archive as a storage. Only reading can fail. -/
def storage : Storage (StateM Archive) where
  isFile path := return (← get).contains path
  read path := return (← get).read path
  write path content := do
    modify (·.insert path content)
    return .ok ()
  list directory extension := return .ok ((← get).list directory extension)
  makeDirectory _ := return .ok ()

end Archive

end DeltaStudy.Storage
