import RobotPhrase.Text.Blank

/-!
# Directories

The files and folders that a run of the program can see, by place.  A path leads to a place from the working directory,
or from the root if it begins with a slash; every part of it goes on from a folder that is there, and two points lead
back to the folder around.  Paths that lead to one place are spellings of one file.  There are no links.
-/

namespace RobotPhrase

/-- Files and folders by place: the names on the way from the root, with slashes between them. -/
structure Directory where
  files : List (String × ByteArray) := []
  /-- The folders, apart from the working directory and those around it. -/
  folders : List String := []

namespace Directory

/-- The parts of a path between slashes. -/
def parts (path : String) : List String := (Text.pieces (· == '/') path.toList).map String.ofList

/-- The place with given names on the way to it. -/
def placeOf (names : List String) : String := "/".intercalate names

/-- Whether there is a folder with given names on the way to it, when `here` are those of the working directory. -/
def isFolder (d : Directory) (here names : List String) : Bool :=
  names.isPrefixOf here || d.folders.contains (placeOf names)

/-- Where a part of a path leads from a folder.  The folder around the root is the root itself. -/
def step (names : List String) : String → List String
  | "" | "." => names
  | ".." => names.dropLast
  | name => names ++ [name]

/-- Where parts of a path lead, if there is a folder before each of them. -/
def follow? (d : Directory) (here names : List String) : List String → Option (List String)
  | [] => some names
  | part :: rest => if d.isFolder here names then d.follow? here (step names part) rest else none

/-- Where a path leads. -/
def names? (d : Directory) (path : String) (here : List String := []) : Option (List String) :=
  match path.toList with
  | [] => none
  | '/' :: _ => d.follow? here [] (parts path)
  | _ => d.follow? here here (parts path)

/-- The place of the file that a path names, whether there is one or not. -/
def place? (d : Directory) (path : String) (here : List String := []) : Option String :=
  ((d.names? path here).filter fun names => !d.isFolder here names).map placeOf

/-- The bytes of a file. -/
def bytes? (d : Directory) (path : String) (here : List String := []) : Option ByteArray :=
  (d.place? path here).bind fun place => d.files.lookup place

/-- The text of a file, if it is there and its bytes spell one. -/
def read? (d : Directory) (path : String) (here : List String := []) : Option String :=
  (d.bytes? path here).bind String.fromUTF8?

/-- Files with one of them replaced, or added at the end. -/
def put (place : String) (content : ByteArray) : List (String × ByteArray) → List (String × ByteArray)
  | [] => [(place, content)]
  | file :: rest => if file.1 == place then (place, content) :: rest else file :: put place content rest

/-- The directory with a text written to a file, if there can be one at the path and writing it is not refused. -/
def write? (d : Directory) (path text : String) (here : List String := []) (refuses : String → Bool := fun _ => false) :
    Option Directory :=
  (d.place? path here).bind fun place =>
    if refuses place then none else some { d with files := put place text.toUTF8 d.files }

end Directory

end RobotPhrase
