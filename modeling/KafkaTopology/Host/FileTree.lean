import KafkaTopology.Path
/-!
# Directory trees

The files and directories that a session can see, as a value. A path is followed component by
component from the working directory or from the root: everything before the last component has
to be a directory. The working directory, what is above it and the root always exist.
-/
namespace KafkaTopology

/-- What a file holds. -/
inductive Content where
  | text (s : String)
  /-- Bytes that are no text. -/
  | binary
deriving DecidableEq, Repr, Inhabited

/-- What a path can name. -/
inductive FileEntry where
  | file (content : Content) (executable : Bool)
  | directory
deriving DecidableEq, Repr, Inhabited

/-- Why a file operation is refused. -/
inductive FileError where
  | notFound
  | denied
  | alreadyExists
  | notDirectory
  | isDirectory
  | nameTooLong
  /-- A path cannot hold the character that ends a name for the operating system. -/
  | nulInPath
  | notText
deriving DecidableEq, Repr, Inhabited

def FileError.message : FileError → String
  | .notFound => "No such file or directory (os error 2)"
  | .denied => "Permission denied (os error 13)"
  | .alreadyExists => "File exists (os error 17)"
  | .notDirectory => "Not a directory (os error 20)"
  | .isDirectory => "Is a directory (os error 21)"
  | .nameTooLong => "File name too long (os error 36)"
  | .nulInPath => "file name contained an unexpected NUL byte"
  | .notText => "stream did not contain valid UTF-8"

/-- A place in a directory tree: the names from the working directory down, or `/` and the names
from the root. -/
abbrev Location := List String

/-- Files and directories by location. -/
structure FileTree where
  entries : List (Location × FileEntry)
deriving DecidableEq, Inhabited

namespace Location

/-- Where a path starts, and the names to follow from there. -/
def ofPath (path : String) : Location × List String :=
  match path.splitOn "/" with
  | "" :: names => (["/"], names)
  | names => ([], names)

/-- The place that a name leads to from a directory. -/
def step (l : Location) (name : String) : Location :=
  if name.isEmpty || name == "." then l
  else if name == ".." then
    if l == ["/"] then l else if l.all (· == "..") then ".." :: l else l.dropLast
  else l ++ [name]

def isTooLong (name : String) : Bool := 255 < name.utf8ByteSize

/-- Whether a directory exists whatever a tree holds. -/
def isBase (l : Location) : Bool := l == ["/"] || l.all (· == "..")

end Location

namespace FileTree

def empty : FileTree := ⟨[]⟩

def find? (t : FileTree) (l : Location) : Option FileEntry :=
  if l.isBase then some .directory else t.entries.lookup l

def put (t : FileTree) (l : Location) (e : FileEntry) : FileTree :=
  ⟨(l, e) :: t.entries.filter (fun (k, _) => k != l)⟩

/-- Refuses a path that cannot be handed over: one with a NUL character or of 4096 octets. -/
def checkPath (path : String) : Except FileError Unit :=
  if path.contains '\x00' then .error .nulInPath
  else if 4096 ≤ path.utf8ByteSize then .error .nameTooLong
  else .ok ()

/-- Follows names from a location. -/
def follow (t : FileTree) : Location → List String → Except FileError Location
  | l, [] => .ok l
  | l, name :: rest =>
    match t.find? l with
    | some .directory =>
      if Location.isTooLong name then .error .nameTooLong else t.follow (l.step name) rest
    | some (.file _ _) => .error .notDirectory
    | none => .error .notFound

/-- The location of a path. What is there need not exist. -/
def locate (t : FileTree) (path : String) : Except FileError Location := do
  checkPath path
  if path.isEmpty then .error .notFound
  else
    let (l, names) := Location.ofPath path
    t.follow l names

/-- What a path names. -/
def entry (t : FileTree) (path : String) : Except FileError FileEntry := do
  match t.find? (← t.locate path) with
  | some e => .ok e
  | none => .error .notFound

def holds (t : FileTree) (path : String) : Bool := (t.entry path).isOk

def isFile (t : FileTree) (path : String) : Bool :=
  match t.entry path with
  | .ok (.file _ _) => true
  | _ => false

/-- Whether a path names a file that can be run. -/
def checkExecutable (t : FileTree) (path : String) : Except FileError Unit := do
  match ← t.entry path with
  | .file _ true => .ok ()
  | _ => .error .denied

def readText (t : FileTree) (path : String) : Except FileError String := do
  match ← t.entry path with
  | .file (.text s) _ => .ok s
  | .file .binary _ => .error .notText
  | .directory => .error .isDirectory

/-- Writes a file. A path that ends in a slash, below a directory, stands for a directory whatever
is there. -/
def writeText (t : FileTree) (path text : String) : Except FileError FileTree := do
  if path.endsWith "/" then
    checkPath path
    let (l, names) := Location.ofPath path
    let above := (names.reverse.dropWhile (·.isEmpty)).drop 1
    let _ ← t.follow l (above.reverse ++ [""])
    .error .isDirectory
  else
    let l ← t.locate path
    match t.find? l with
    | some .directory => .error .isDirectory
    | some (.file _ executable) => .ok (t.put l (.file (.text text) executable))
    | none => .ok (t.put l (.file (.text text) false))

/-- Makes the directory that names lead to from a location, unless it exists. What is above it has
to exist. -/
def makeDirectory (t : FileTree) (l : Location) (names : List String) :
    Except FileError FileTree := do
  let l ← t.follow l names
  match t.find? l with
  | some .directory => .ok t
  | some (.file _ _) => .error .alreadyExists
  | none => .ok (t.put l .directory)

/-- Makes the directory that names lead to from a location, the last of them first, after the
missing ones above it. A failure leaves those that were made. -/
def makeAlong (l : Location) : List String → FileTree → Except FileError Unit × FileTree
  | [], t => (.ok (), t)
  | name :: above, t =>
    let names := (name :: above).reverse
    match t.makeDirectory l names with
    | .ok t' => (.ok (), t')
    | .error .notFound =>
      match makeAlong l above t with
      | (.ok (), t') =>
        match t'.makeDirectory l names with
        | .ok made => (.ok (), made)
        | .error e => (.error e, t')
      | failed => failed
    | .error e => (.error e, t)

/-- Makes a directory with all directories above it, as far as that succeeds. -/
def makeDirectories (t : FileTree) (path : String) : Except FileError Unit × FileTree :=
  match checkPath path with
  | .error e => (.error e, t)
  | .ok () =>
    let (l, names) := Location.ofPath path
    makeAlong l (names.filter (fun n => !n.isEmpty && n != ".")).reverse t

/-- A tree with a file and the directories above it, if none of those is a file. -/
def putFile (t : FileTree) (path : String) (content : Content) (executable : Bool) : FileTree :=
  let made := (t.makeDirectories ((Path.parent? path).getD "")).2
  match made.locate path with
  | .ok l => made.put l (.file content executable)
  | .error _ => made

end FileTree
end KafkaTopology
