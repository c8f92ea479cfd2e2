namespace ConstructorAction.Files

/-!
A directory as a value: files with their bytes, and the directories they are in. It is the working
directory of a program; what lies outside of it are directories without known content, and a few
devices.
-/

/-- Why a file cannot be read or written. -/
inductive FileError where
  | notFound
  | notDirectory
  | isDirectory
  | denied
  /-- There is no such stream. -/
  | closed
  | noDevice
  | noRoom
  | nameTooLong
  deriving DecidableEq, Repr

/-- The wording of a file error. -/
def FileError.reason : FileError → String
  | notFound => "No such file or directory"
  | notDirectory => "Not a directory"
  | isDirectory => "Is a directory"
  | denied => "Permission denied"
  | closed => "Bad file descriptor"
  | noDevice => "No such device or address"
  | noRoom => "No space left on device"
  | nameTooLong => "File name too long"

/-- The number that the system has for an error. -/
def FileError.number : FileError → Nat
  | notFound => 2
  | notDirectory => 20
  | isDirectory => 21
  | denied => 13
  | closed => 9
  | noDevice => 6
  | noRoom => 28
  | nameTooLong => 36

def FileError.message (error : FileError) : String :=
  s!"{error.reason} (os error {error.number})"

/-- Gives the bytes of files by their paths. -/
abbrev FileReader := String → Except FileError (List UInt8)

/-- The way from the top to a file or directory. -/
abbrev Route := List String

/-- Empty routes stand for the directory itself. -/
structure Tree where
  files : List (Route × List UInt8) := []
  directories : List Route := []
  deriving Repr, Inhabited

/-- Files of the system that are not on a disk; some stand for a stream of the program that opens
them. -/
inductive Device where
  /-- Empty to read, and takes what is written to it. -/
  | nowhere
  /-- Endless NUL characters. -/
  | zeros
  /-- There is no room to write. -/
  | full
  | stdin
  | stdout
  | stderr
  deriving DecidableEq, Repr, Inhabited

/-- What a path leads to. -/
inductive Node where
  | file (route : Route) (bytes : List UInt8)
  | directory (route : Route)
  /-- A directory of the system, by its absolute route. -/
  | system (route : Route)
  /-- A directory that the working directory lies in. -/
  | above
  | device (device : Device)
  deriving DecidableEq, Repr, Inhabited

/-- The directories that every system has. -/
def systemDirectories : List Route :=
  [[], ["bin"], ["dev"], ["dev", "fd"], ["etc"], ["home"], ["lib"], ["opt"], ["proc"], ["root"],
   ["run"], ["sbin"], ["sys"], ["tmp"], ["usr"], ["usr", "bin"], ["usr", "lib"], ["var"],
   ["var", "tmp"]]

def devices : List (Route × Device) :=
  [(["dev", "null"], .nowhere), (["dev", "zero"], .zeros), (["dev", "full"], .full),
   (["dev", "stdin"], .stdin), (["dev", "stdout"], .stdout), (["dev", "stderr"], .stderr),
   (["dev", "fd", "0"], .stdin), (["dev", "fd", "1"], .stdout), (["dev", "fd", "2"], .stderr)]

/-- What the system has at an absolute route. -/
def systemNode? (route : Route) : Option Node :=
  match devices.lookup route with
  | some device => some (.device device)
  | none => if systemDirectories.contains route then some (.system route) else none

/-- The directories of the system that files may be put into. -/
def openDirectories : List Route := [["tmp"], ["var", "tmp"]]

/-- The absolute route of the working directory. -/
def ownRoute : Route := ["work"]

/-- Files outside of the working directory have routes that start with a slash. -/
def outside (route : Route) : Route := "/" :: route

namespace Tree

/-- Whether a directory is listed, or a file is below it. -/
def hasDirectory (tree : Tree) (route : Route) : Bool :=
  route.isEmpty || tree.directories.any (fun other => route.isPrefixOf other) ||
    tree.files.any (fun file => route.isPrefixOf file.1 && route != file.1)

def node? (tree : Tree) (route : Route) : Option Node :=
  match tree.files.lookup route with
  | some bytes => some (.file route bytes)
  | none => if tree.hasDirectory route then some (.directory route) else none

/-- The entry of a directory. -/
def entry? (tree : Tree) (part : String) : Node → Option Node
  | .directory route => tree.node? (route ++ [part])
  | .system route =>
      let route := route ++ [part]
      if route = ownRoute then some (.directory [])
      else
        match systemNode? route, tree.files.lookup (outside route) with
        | some node, _ => some node
        | none, some bytes => some (.file (outside route) bytes)
        | none, none => none
  | _ => none

/-- The directory that a directory lies in. -/
def parent : Node → Node
  | .directory route => if route.isEmpty then .above else .directory route.dropLast
  | .system route => .system route.dropLast
  | other => other

/-- The most bytes of a name, and of a path. -/
def nameLimit : Nat := 255

def pathLimit : Nat := 4095

/-- Follows the parts of a path. An empty part and `.` stay, `..` goes up, and every part needs a
directory to start from. -/
def walk (tree : Tree) : Node → List String → Except FileError Node
  | at_, [] => .ok at_
  | .file _ _, _ :: _ | .device _, _ :: _ => .error .notDirectory
  | at_, part :: later =>
      if part = "" ∨ part = "." then walk tree at_ later
      else if part = ".." then walk tree (parent at_) later
      else if nameLimit < part.utf8ByteSize then .error .nameTooLong
      else
        match tree.entry? part at_ with
        | none => .error .notFound
        | some next => walk tree next later

/-- The parts of a path between slashes. -/
def parts (path : String) : List String := path.splitOn "/"

/-- Follows a path from a directory. -/
def findFrom (tree : Tree) (here : Node) (path : String) : Except FileError Node :=
  if path.isEmpty then .error .notFound
  else if pathLimit < path.utf8ByteSize then .error .nameTooLong
  else if path.startsWith "/" then tree.walk (.system []) (parts path)
  else tree.walk here (parts path)

def find (tree : Tree) (path : String) : Except FileError Node := tree.findFrom (.directory []) path

/-- The bytes of a file. The standard input is taken to be empty. -/
def read (tree : Tree) (path : String) : Except FileError (List UInt8) :=
  match tree.find path with
  | .error reason => .error reason
  | .ok (.file _ bytes) => .ok bytes
  | .ok (.device _) => .ok []
  | .ok _ => .error .isDirectory

/-- The names in a directory that is known. -/
def entries (tree : Tree) (route : Route) : List String :=
  let below := (tree.files.map (·.1) ++ tree.directories).filter fun other =>
    route.isPrefixOf other && route.length < other.length
  ((below.filterMap fun other => other[route.length]?).filter (· != "/")).eraseDups

/-- The files in the working directory. -/
def ownFiles (tree : Tree) : List (Route × List UInt8) :=
  tree.files.filter fun file => file.1.head? != some "/"

/-- Replaces the bytes at a route, or adds a file there. -/
def put (tree : Tree) (route : Route) (bytes : List UInt8) : Tree :=
  if (tree.files.lookup route).isSome then
    { tree with
      files := tree.files.map fun file => if file.1 = route then (route, bytes) else file }
  else { tree with files := tree.files ++ [(route, bytes)] }

/-- Where a path leads that is to be written to: to what is there, or to a new file in a directory
that is there. -/
def findOrCreate (tree : Tree) (here : Node) (path : String) : Except FileError Node :=
  match tree.findFrom here path with
  | .ok node => .ok node
  | .error .notFound =>
      let steps := parts path
      match steps.getLast? with
      | none | some "" | some "." | some ".." => .error .notFound
      | some name =>
          let start := if path.startsWith "/" then .system [] else here
          match tree.walk start steps.dropLast with
          | .ok (.directory route) => .ok (.file (route ++ [name]) [])
          | .ok (.system route) =>
              if openDirectories.contains route then .ok (.file (outside (route ++ [name])) [])
              else .error .denied
          | .ok (.file _ _) | .ok (.device _) => .error .notDirectory
          | .ok .above => .error .denied
          | .error reason => .error reason
  | .error reason => .error reason

/-- Replaces the bytes of a file, or adds it to a directory that is there. -/
def write (tree : Tree) (path : String) (bytes : List UInt8) : Except FileError Tree :=
  match tree.findOrCreate (.directory []) path with
  | .error reason => .error reason
  | .ok (.file route _) => .ok (tree.put route bytes)
  | .ok (.device _) => .ok tree
  | .ok _ => .error .isDirectory

end Tree

end ConstructorAction.Files
