import CortexFlags.Text.Cut

/-! Text files, found by path, read, and opened for more text at their end. Paths start
at a working directory or at the root, which is known as far as the files go; there
is also the null device. Of the directories above the working directory it is known
that they are there. -/

namespace CortexFlags

/-- The names on the way to a file: from the working directory, or after a slash from
the root. -/
abbrev Place := List String

/-- Files with their texts. A directory is there if a file is below it. -/
abbrev Files := List (Place × String)

/-- What a path leads to. -/
inductive PathTarget
  | file (content : String)
  | nullDevice
  | directory
  | nothing
  | throughFile
  | tooLong
deriving DecidableEq, Repr

/-- Why a path cannot be opened, or why what is there cannot be read as text. -/
inductive FileFault
  | noSuchFile | isDirectory | notDirectory | nameTooLong | nullInName | denied
  | undecodable (why : String)
deriving DecidableEq, Repr

def FileFault.message : FileFault → String
  | noSuchFile => "No such file or directory"
  | isDirectory => "Is a directory"
  | notDirectory => "Not a directory"
  | nameTooLong => "File name too long"
  | nullInName => "embedded null byte"
  | denied => "Permission denied"
  | undecodable why => why

/-! ## Places -/

namespace Place

/-- The directory at which a path starts. -/
def start (path : String) : Place := if path.startsWith "/" then ["/"] else []

/-- The names in a path, one after the other. A slash at the end asks for a directory,
as a dot does. -/
def names (path : String) : List String :=
  (Text.pieces '/' path).filter (· ≠ "") ++ if path.endsWith "/" then ["."] else []

/-- The working directory, or one above it, which has a name for each step up. -/
def isAbove (place : Place) : Bool := place.all (· = "..")

/-- The directory that holds a place. The root holds itself. -/
def parent (place : Place) : Place :=
  if place = ["/"] then place
  else if isAbove place then place ++ [".."]
  else place.dropLast

/-- The place that names lead to, taken word by word. -/
def walk : Place → List String → Place
  | place, [] => place
  | place, name :: more =>
      if name = "." then walk place more
      else walk (if name = ".." then parent place else place ++ [name]) more

/-- The place of a path, taken word by word. -/
def ofPath (path : String) : Place := walk (start path) (names path)

/-- A place below the working directory. -/
def isBelow (place : Place) : Bool := place.head? ≠ some "/" && place.head? ≠ some ".."

/-- A place split into the directory at which it starts and the names after that. -/
def split : Place → Place × List String
  | "/" :: names => (["/"], names)
  | names => ([], names)

/-- The path of a place. -/
def path : Place → String
  | "/" :: names => "/" ++ "/".intercalate names
  | names => "/".intercalate names

def nullDevice : Place := ["/", "dev", "null"]

end Place

/-! ## Limits -/

/-- The most bytes of a name. -/
def maxNameBytes : Nat := 255

/-- The most bytes of a path. -/
def maxPathBytes : Nat := 4095

def isNameTooLong (name : String) : Bool := name.utf8ByteSize > maxNameBytes

/-- Why a path is refused before it is followed. -/
def pathFault? (path : String) : Option FileFault :=
  if path.toList.contains '\x00' then some .nullInName
  else if path.utf8ByteSize > maxPathBytes then some .nameTooLong
  else none

/-! ## Following paths -/

namespace Files

/-- The directories at which paths start are always there. -/
def isDirectory (files : Files) (place : Place) : Bool :=
  Place.isAbove place || place = ["/"] ||
    (files.map Prod.fst ++ [Place.nullDevice]).any fun file =>
      place.isPrefixOf file && file != place

def look (files : Files) (place : Place) : PathTarget :=
  if place = Place.nullDevice then .nullDevice
  else
    match files.lookup place with
    | some content => .file content
    | none => if files.isDirectory place then .directory else .nothing

/-- Follow names from a place; a name is looked up in a directory only. -/
def follow (files : Files) (place : Place) : List String → PathTarget
  | [] => files.look place
  | name :: more =>
      match files.look place with
      | .directory =>
          if name = "." then files.follow place more
          else if name = ".." then files.follow (Place.parent place) more
          else if isNameTooLong name then .tooLong
          else files.follow (place ++ [name]) more
      | .file _ | .nullDevice => .throughFile
      | other => other

/-- What a path leads to. -/
def find (files : Files) (path : String) : PathTarget :=
  if path.isEmpty then .nothing else files.follow (Place.start path) (Place.names path)

/-- A file that is not a device. -/
def isRegular (files : Files) (path : String) : Bool :=
  match pathFault? path, files.find path with
  | none, .file _ => true
  | _, _ => false

/-! ## Reading -/

/-- Line ends of any kind become line feeds. -/
def plainLines : List Char → List Char
  | '\r' :: '\n' :: rest => '\n' :: plainLines rest
  | '\r' :: rest => '\n' :: plainLines rest
  | c :: rest => c :: plainLines rest
  | [] => []

def plainText (content : String) : String := String.ofList (plainLines content.toList)

/-- The text that a path leads to. -/
def read (files : Files) (path : String) : Except FileFault String :=
  match pathFault? path, files.find path with
  | some fault, _ => .error fault
  | none, .file content => .ok (plainText content)
  | none, .nullDevice => .ok ""
  | none, .directory => .error .isDirectory
  | none, .nothing => .error .noSuchFile
  | none, .throughFile => .error .notDirectory
  | none, .tooLong => .error .nameTooLong

/-! ## Writing -/

/-- Put a text at a path, whatever was there. -/
def write (files : Files) (path content : String) : Files :=
  (Place.ofPath path, content) :: files.filter (·.1 ≠ Place.ofPath path)

/-- Create an empty file in a directory that is there. -/
def create (files : Files) (place : Place) : Except FileFault Files :=
  match files.follow place.split.1 place.split.2.dropLast with
  | .directory =>
      if isNameTooLong (place.getLastD "") then .error .nameTooLong
      else .ok ((place, "") :: files)
  | .file _ | .throughFile | .nullDevice => .error .notDirectory
  | .nothing => .error .noSuchFile
  | .tooLong => .error .nameTooLong

/-- Open a file for more text at its end, making it if it is not there. -/
def openToAppend (files : Files) (path : String) : Except FileFault (Files × Place) :=
  let place := Place.ofPath path
  match pathFault? place.path, files.look place with
  | some fault, _ => .error fault
  | none, .file _ | none, .nullDevice => .ok (files, place)
  | none, .directory => .error .isDirectory
  | none, _ => do return (← files.create place, place)

/-- Add text at the end of an opened file; the null device keeps none. -/
def append (files : Files) (place : Place) (text : String) : Files :=
  files.map fun file => if file.1 = place then (file.1, file.2 ++ text) else file

end Files

end CortexFlags
