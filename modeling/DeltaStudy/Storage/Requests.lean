import DeltaStudy.Failure

/-!
# Storage

What a study asks of the place where its files are. The place is abstract: a
study works against the files of a machine as well as against an archive that
only exists in memory.

A `Call` is one such request as a value and an `Answer` what comes back, so that
two places can be asked the same things and their answers compared.
-/

namespace DeltaStudy

/-- A place for files, whose requests have effects in `m`. -/
structure Storage (m : Type → Type) where
  /-- Whether there is a file. -/
  isFile : Path → m Bool
  /-- The content of a file. -/
  read : Path → m (Except Failure (List UInt8))
  /-- Make a file or replace its content. -/
  write : Path → List UInt8 → m (Except Failure Unit)
  /-- The files with an extension in a directory, in the order of paths. -/
  list : Path → String → m (Except Failure (List Path))
  /-- Make a directory with everything above it. -/
  makeDirectory : Path → m (Except Failure Unit)

namespace Storage

/-- A storage whose requests are carried into another monad. -/
def through {n m : Type → Type} (carry : {α : Type} → n α → m α) (storage : Storage n) :
    Storage m where
  isFile path := carry (storage.isFile path)
  read path := carry (storage.read path)
  write path content := carry (storage.write path content)
  list directory extension := carry (storage.list directory extension)
  makeDirectory directory := carry (storage.makeDirectory directory)

/-- A request. -/
inductive Call where
  /-- Whether there is a file. -/
  | isFile (path : Path)
  /-- The content of a file. -/
  | read (path : Path)
  /-- Make a file or replace its content. -/
  | write (path : Path) (content : List UInt8)
  /-- The files with an extension in a directory. -/
  | list (directory : Path) (extension : String)
  /-- Make a directory with everything above it. -/
  | makeDirectory (directory : Path)
deriving DecidableEq

/-- What comes back from a request. -/
inductive Answer where
  /-- The request has a truth value. -/
  | truth (value : Bool)
  /-- The request has the content of a file. -/
  | content (bytes : List UInt8)
  /-- The request has paths. -/
  | paths (found : List Path)
  /-- The request was carried out. -/
  | done
  /-- The request failed. -/
  | failed (failure : Failure)
deriving DecidableEq

/-- The answer of a request that can fail. -/
def answerOf {α : Type} (answer : α → Answer) : Except Failure α → Answer
  | .ok value => answer value
  | .error failure => .failed failure

variable {m : Type → Type} [Monad m]

/-- Make one request. -/
def perform (storage : Storage m) : Call → m Answer
  | .isFile path => Answer.truth <$> storage.isFile path
  | .read path => answerOf .content <$> storage.read path
  | .write path content => answerOf (fun _ => .done) <$> storage.write path content
  | .list directory extension => answerOf .paths <$> storage.list directory extension
  | .makeDirectory directory => answerOf (fun _ => .done) <$> storage.makeDirectory directory

/-- Make requests one after the other, whatever comes back. -/
def performAll (storage : Storage m) (calls : List Call) : m (List Answer) :=
  calls.mapM storage.perform

end Storage

end DeltaStudy
