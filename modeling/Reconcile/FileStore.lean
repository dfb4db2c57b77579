/-!
# A store of files

Settings are read from and written to files. The store holds files and
directories under one root, addressed by relative paths, and fails the way
a file system does: a name with a NUL byte is refused before anything else,
a path of 4096 bytes or more is too long before it is followed, a step of
more than 255 bytes is too long, a path through a missing
directory is not found, a path through a file is not a directory, reading or
writing a directory is an error, and making a directory where something
already is fails.

A path is split at `/`; empty parts and `.` stand for no step, so `a//b`
and `./a/b` name the same place as `a/b`. A path that ends in `/` or `/.`
names a directory: writing there is an error even where nothing is, and a
file there is not a directory. The empty path names nothing.
-/

namespace Reconcile

/-- Why an operation on the store fails, with the operating system's
wording. -/
inductive IoError where
  | notFound
  | notADirectory
  | isADirectory
  | alreadyExists
  | nameTooLong
  | nulInName
  deriving DecidableEq, Repr, Inhabited

/-- The text of a failure. -/
def IoError.text : IoError → String
  | .notFound => "No such file or directory (os error 2)"
  | .notADirectory => "Not a directory (os error 20)"
  | .isADirectory => "Is a directory (os error 21)"
  | .alreadyExists => "File exists (os error 17)"
  | .nameTooLong => "File name too long (os error 36)"
  | .nulInName => "file name contained an unexpected NUL byte"

/-- The most bytes one step of a path may have. -/
def nameLimit : Nat := 255

/-- The most bytes a whole path may have. -/
def pathLimit : Nat := 4095

/-- Refuses the text of a path before it is followed: a NUL byte, then a
path too long. -/
def checkPathText (path : String) : Except IoError Unit :=
  if path.toList.contains '\x00' then .error .nulInName
  else if path.utf8ByteSize > pathLimit then .error .nameTooLong
  else .ok ()

/-- What a path holds. -/
inductive Stored where
  | file (text : String)
  | directory
  deriving DecidableEq, Repr, Inhabited

/-- The steps of a path. -/
def pathSteps (path : String) : List String :=
  (path.splitOn "/").filter fun part => part ≠ "" && part ≠ "."

/-- The text of the directory a path is in, as the path writes it: the path
up to its last step, without the slashes and `.` parts that end it. `none`
for a path with no steps. -/
def parentText? (path : String) : Option String :=
  let parts := path.splitOn "/"
  let isStep := fun (i : Nat) (part : String) => part ≠ "" && (part ≠ "." || i = 0)
  let indexed := (List.range parts.length).zip parts
  match (indexed.filter fun (i, part) => isStep i part).getLast? with
  | none => none
  | some (last, _) =>
    let before := (indexed.take last).reverse.dropWhile (fun (i, part) => !isStep i part)
    some ("/".intercalate (before.reverse.map Prod.snd))

/-- Files and directories under one root, by their steps. -/
structure FileStore where
  entries : List (List String × Stored) := []
  deriving Repr, Inhabited

namespace FileStore

/-- What a place holds; the root is a directory. -/
def find? (s : FileStore) (steps : List String) : Option Stored :=
  if steps.isEmpty then some .directory
  else (s.entries.find? (·.1 = steps)).map Prod.snd

/-- Whether a place is a directory. -/
def isDirectory (s : FileStore) (steps : List String) : Bool := s.find? steps = some .directory

/-- Checks one step of a path below a directory: not too long, and, when
the path goes on through it, a directory. -/
def enter (s : FileStore) (steps : List String) (through : Bool) : Except IoError Unit :=
  if (steps.getLast?.map String.utf8ByteSize).getD 0 > nameLimit then .error .nameTooLong
  else if !through then .ok ()
  else match s.find? steps with
    | some .directory => .ok ()
    | some (.file _) => .error .notADirectory
    | none => .error .notFound

/-- Checks the way to a place step by step: every step is short enough, and
every one the path goes on through is a directory, the last one too when
`throughLast` says so. -/
def walk (s : FileStore) (steps : List String) (throughLast : Bool := false) : Except IoError Unit :=
  ((List.range steps.length).map fun i => (steps.take (i + 1), i + 1 < steps.length || throughLast)).forM
    fun (p, through) => s.enter p through

/-- Follows the text of a path: the steps of the place it names, and whether
it names that place as a directory, by a trailing `/` or `/.`. A trailing
`.` looks into the place, so that place must already be a directory. -/
def locate (s : FileStore) (path : String) : Except IoError (List String × Bool) := do
  checkPathText path
  let parts := path.splitOn "/"
  let last := (parts.getLast?).getD ""
  let asDirectory := (last = "" || last = ".") && parts.length > 1
  let steps := pathSteps path
  (s.walk steps (last = ".")).map fun () => (steps, asDirectory)

/-- Sets what a place holds. -/
def put (s : FileStore) (steps : List String) (v : Stored) : FileStore :=
  { entries := (steps, v) :: s.entries.filter (·.1 ≠ steps) }

/-- The text of a file. -/
def read (s : FileStore) (path : String) : Except IoError String :=
  if path.isEmpty then .error .notFound
  else do
    let (steps, asDirectory) ← s.locate path
    match s.find? steps with
    | none => .error .notFound
    | some .directory => .error .isADirectory
    | some (.file text) => if asDirectory then .error .notADirectory else .ok text

/-- Writes a file, replacing what it held. -/
def write (s : FileStore) (path : String) (text : String) : Except IoError FileStore :=
  if path.isEmpty then .error .notFound
  else do
    let (steps, asDirectory) ← s.locate path
    match s.find? steps with
    | some .directory => .error .isADirectory
    | some (.file _) => if asDirectory then .error .notADirectory else .ok (s.put steps (.file text))
    | none => if asDirectory then .error .isADirectory else .ok (s.put steps (.file text))

/-- Makes one directory. -/
def makeDirectory (s : FileStore) (steps : List String) : Except IoError FileStore := do
  s.walk steps
  match s.find? steps with
  | some _ => .error .alreadyExists
  | none => .ok (s.put steps .directory)

/-- Makes a directory and every missing one on the way to it, by its steps:
the store after the attempt, where the directories made on the way stay even
when a later one fails, and whether it worked. A place that is already a
directory is fine. -/
def makeDirectories (s : FileStore) : List String → FileStore × Except IoError Unit
  | [] => (s, .ok ())
  | step :: rest =>
    let steps := step :: rest
    let settle (s : FileStore) (e : IoError) : FileStore × Except IoError Unit :=
      if s.isDirectory steps then (s, .ok ()) else (s, .error e)
    match s.makeDirectory steps with
    | .ok s => (s, .ok ())
    | .error .notFound =>
      match s.makeDirectories steps.dropLast with
      | (s, .error e) => (s, .error e)
      | (s, .ok ()) =>
        match s.makeDirectory steps with
        | .ok s => (s, .ok ())
        | .error e => settle s e
    | .error e => settle s e
termination_by steps => steps.length
decreasing_by simp

/-- Makes the directory a path names and every missing one on the way. The
places on the way have shorter paths, so only the whole path can be too
long. -/
def makeDirectoriesAt (s : FileStore) (path : String) : FileStore × Except IoError Unit :=
  match checkPathText path with
  | .error e => (s, .error e)
  | .ok () => s.makeDirectories (pathSteps path)

end FileStore

end Reconcile
