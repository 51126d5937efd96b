/-
`TableTest.Program.Files` — the files that the program reads

The program reads files by their paths and writes none, so the file system is to it a
function from paths to what stands there.  A tree of files is such a function: a path leads
through its directories from the working directory, or from the top if it begins with a slash.
-/
import TableTest.Failure

namespace TableTest.Program

/-- Why a file cannot be read. -/
inductive FileFault where
  | notFound
  | notADirectory
  | isADirectory
  | nameTooLong
  /-- The file holds bytes that are no text in UTF-8. -/
  | notText
  | other (reason : String)
deriving DecidableEq, Repr

def FileFault.describe : FileFault → String
  | notFound => "No such file or directory (os error 2)"
  | notADirectory => "Not a directory (os error 20)"
  | isADirectory => "Is a directory (os error 21)"
  | nameTooLong => "File name too long (os error 36)"
  | notText => "stream did not contain valid UTF-8"
  | other reason => reason

/-- What a path leads to. -/
inductive Found where
  /-- Nothing: the path cannot even be looked up. -/
  | nothing (fault : FileFault)
  /-- Something that cannot be read as a text. -/
  | unreadable (fault : FileFault)
  | text (content : String)
deriving DecidableEq, Repr

abbrev Files := String → Found

namespace Files

/-- Reads a file that must be there. -/
def load (files : Files) (path : String) : Except Failure String :=
  match files path with
  | .text content => .ok content
  | .nothing fault | .unreadable fault => .error (.fileUnreadable path fault.describe)

/-! ## Paths -/

def segments (path : String) : List String := path.splitOn "/"

def isLongName (name : String) : Bool := 255 < name.utf8ByteSize

def isLongPath (path : String) : Bool := 4095 < path.utf8ByteSize

/-- A place in the file system: the names that lead to it from the top. -/
abbrev Place := List String

/-- The place that a name along a path leads to: the empty name and `.` stay at a place, and
`..` goes up, but not beyond the top. -/
def step (place : Place) (name : String) : Place :=
  if name == "" || name == "." then place
  else if name == ".." then place.dropLast
  else place ++ [name]

/-- The places that names lead through from a place, both ends included. -/
def trail : Place → List String → List Place
  | place, [] => [place]
  | place, name :: names => place :: trail (step place name) names

/-! ## Trees of files -/

/-- Files at their places, with what reading them gives.  A directory is where files are below;
an empty one is kept by a file without a name, which no path leads to. -/
abbrev Tree := List (Place × Except FileFault String)

/-- What keeps a directory. -/
def directory (place : Place) : Place × Except FileFault String := (place ++ [""], .ok "")

def fileAt? (tree : Tree) (place : Place) : Option (Except FileFault String) :=
  tree.lookup place

def isDirectory (tree : Tree) (place : Place) : Bool :=
  place.isEmpty || tree.any fun (names, _) => place.isPrefixOf names && place != names

def walk (tree : Tree) : Place → List String → Except FileFault Place
  | place, [] => .ok place
  | place, name :: names =>
    if (fileAt? tree place).isSome then .error .notADirectory
    else if !isDirectory tree place then .error .notFound
    else if isLongName name then .error .nameTooLong
    else walk tree (step place name) names

def foundAt (tree : Tree) (place : Place) : Found :=
  match fileAt? tree place with
  | some (.ok content) => .text content
  | some (.error fault) => .unreadable fault
  | none => if isDirectory tree place then .unreadable .isADirectory else .nothing .notFound

def follow (tree : Tree) (place : Place) (names : List String) : Found :=
  match walk tree place names with
  | .ok place => foundAt tree place
  | .error fault => .nothing fault

/-- What a path leads to from a working directory. -/
def find (tree : Tree) (working : Place) (path : String) : Found :=
  if isLongPath path then .nothing .nameTooLong
  else
    match segments path with
    | [""] => .nothing .notFound
    | "" :: names => follow tree [] names
    | names => follow tree working names

/-! ## A working directory and the system around it -/

def workingPlace : Place := ["tmp", "working"]

/-- The directories at the top of every system. -/
def topDirectories : List String :=
  ["bin", "boot", "dev", "etc", "home", "lib", "media", "mnt", "opt", "proc", "root", "run",
   "sbin", "srv", "sys", "tmp", "usr", "var"]

/-- The system around a working directory: the null device, which is empty, and some files
that are neither a suite nor a configuration. -/
def system : Tree :=
  [(["dev", "null"], .ok ""),
   (["etc", "group"], .ok "root:x:0:\n"),
   (["etc", "hostname"], .ok "localhost\n"),
   (["etc", "hosts"], .ok "127.0.0.1\tlocalhost\n"),
   (["etc", "passwd"], .ok "root:x:0:0:root:/root:/bin/sh\n"),
   (["bin", "sh"], .error .notText),
   directory workingPlace] ++ topDirectories.map fun name => directory [name]

/-- A file with its path in the working directory, and the directories that the path leads
through. -/
def placed (path text : String) : Tree :=
  let names := segments path
  (names.foldl step workingPlace, .ok text) ::
    (trail workingPlace names.dropLast).map directory

/-- The files of a list of paths in the working directory with their texts; of two at one place
the later counts. -/
def ofList (entries : List (String × String)) : Files :=
  find (entries.reverse.flatMap (fun (path, text) => placed path text) ++ system) workingPlace

end Files

end TableTest.Program
