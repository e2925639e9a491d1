/-!
# Paths

Paths as texts, with `/` between their components. Nothing here looks at files.
-/
namespace KafkaTopology.Path

def components (path : String) : List String :=
  match path.splitOn "/" with
  | [] => []
  | first :: rest =>
    (if first.isEmpty then [] else [first]) ++ rest.filter (fun c => !c.isEmpty && c != ".")

/-- The last component of a path if it names a file. -/
def fileName? (path : String) : Option String :=
  match (components path).getLast? with
  | some c => if c == ".." || c == "." then none else some c
  | none => none

/-- What follows the last point of a file name that does not begin with it. -/
def extension? (path : String) : Option String := do
  let name ← fileName? path
  let (after, before) := name.toList.reverse.span (· != '.')
  match before with
  | [] => none
  | ['.'] => none
  | _ => some (String.ofList after.reverse)

def isAbsolute (path : String) : Bool := path.startsWith "/"

/-- A path below a directory; an absolute one stands alone. -/
def join (directory path : String) : String :=
  if isAbsolute path then path
  else if directory.isEmpty || directory.endsWith "/" then directory ++ path
  else directory ++ "/" ++ path

/-- A reversed path without the separators and the components `.` at its end. -/
def dropTail : List Char → List Char
  | '/' :: c :: rest => dropTail (c :: rest)
  | '.' :: '/' :: rest => dropTail ('/' :: rest)
  | cs => cs
termination_by cs => cs.length

/-- The directory that a path names an entry of. It is empty for a single component. -/
def parent? (path : String) : Option String :=
  match dropTail path.toList.reverse with
  | [] => none
  | ['/'] => none
  | cs => some (String.ofList (dropTail (cs.dropWhile (· != '/'))).reverse)

end KafkaTopology.Path
