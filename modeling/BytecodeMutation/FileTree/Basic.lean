import BytecodeMutation.Path

/-! Trees of files and directories. The place of a node is the list of the names that lead to it
from the root. A path is followed name by name through directories that exist, from the root or from
the working directory. Every file holds text, and there are no links. -/

namespace BytecodeMutation

inductive FileNode where
  | file (text : String)
  | directory
  deriving DecidableEq, Inhabited

abbrev Place := List String

structure FileTree where
  workingDirectory : Place
  /-- What there is below the root, which is a directory itself. -/
  nodes : List (Place × FileNode)
  deriving DecidableEq, Inhabited

namespace FileTree

def node? (t : FileTree) (place : Place) : Option FileNode :=
  if place.isEmpty then some .directory else t.nodes.lookup place

def isDirectory (t : FileTree) (place : Place) : Bool := t.node? place == some .directory

/-! ### Paths -/

/-- Follows one part of a path. Two dots lead to the parent, which the root is for itself. -/
def follow (place : Place) (part : String) : Place :=
  if part.isEmpty || part == "." then place
  else if part == ".." then place.dropLast
  else place ++ [part]

/-- Follows the parts of a path, all but the last through directories. -/
def walk? (t : FileTree) (place : Place) : List String → Option Place
  | [] => some place
  | part :: rest => if t.isDirectory place then t.walk? (follow place part) rest else none

/-- The limits on the sizes of a path and of its parts, in bytes. -/
def isSpeakable (path : String) : Bool :=
  !path.isEmpty && path.utf8ByteSize < 4096 && !path.toList.contains '\x00' &&
    (Path.parts path).all fun part => part.utf8ByteSize ≤ 255

/-- The place that a path leads to. There need not be anything, but its directory exists. -/
def resolve? (t : FileTree) (path : String) : Option Place :=
  if isSpeakable path then
    t.walk? (if Path.isRelative path then t.workingDirectory else []) (Path.parts path)
  else none

def lookup? (t : FileTree) (path : String) : Option FileNode := (t.resolve? path).bind t.node?

def isFile (t : FileTree) (path : String) : Bool :=
  match t.lookup? path with
  | some (.file _) => true
  | _ => false

def isPresent (t : FileTree) (path : String) : Bool := (t.lookup? path).isSome

def readText? (t : FileTree) (path : String) : Option String :=
  match t.lookup? path with
  | some (.file text) => some text
  | _ => none

/-! ### Changes -/

/-- Puts a node at a place, over what is there. -/
def put (t : FileTree) (place : Place) (node : FileNode) : FileTree :=
  { t with nodes :=
      if (t.nodes.lookup place).isSome then
        t.nodes.map fun (p, n) => if p = place then (p, node) else (p, n)
      else t.nodes ++ [(place, node)] }

def remove (t : FileTree) (place : Place) : FileTree :=
  { t with nodes := t.nodes.filter fun (p, _) => p ≠ place }

/-- The place of a file that is there or can be made, but not that of a directory. -/
def filePlace? (t : FileTree) (path : String) : Option Place :=
  (t.resolve? path).filter fun place => !t.isDirectory place

/-- Writes a file, over one that is there; its directory has to exist. -/
def writeText? (t : FileTree) (path text : String) : Option FileTree :=
  (t.filePlace? path).map fun place => t.put place (.file text)

/-- Moves a file to another path, over a file that is there. -/
def moveFile? (t : FileTree) (source target : String) : Option FileTree := do
  let sourcePlace ← t.resolve? source
  let targetPlace ← t.filePlace? target
  match t.node? sourcePlace with
  | some (.file text) => some ((t.remove sourcePlace).put targetPlace (.file text))
  | _ => none

/-! ### Building and listing -/

/-- The places of all directories that lead to a place, from the outermost. -/
def directoriesOf (place : Place) : List Place :=
  ((List.range place.length).map fun n => place.take n).filter fun p => !p.isEmpty

def addDirectories (t : FileTree) (places : List Place) : FileTree :=
  places.foldl (fun t place => if (t.node? place).isSome then t else t.put place .directory) t

/-- Adds a file, or a directory for one without text, and the directories that lead to it. -/
def add (t : FileTree) (path : String) (text? : Option String) : FileTree :=
  let place := (Path.parts path).foldl follow t.workingDirectory
  let t := t.addDirectories (directoriesOf place)
  match text? with
  | some text => t.put place (.file text)
  | none => t.addDirectories [place]

/-- The tree with these files and directories in its working directory. -/
def ofFiles (workingDirectory : Place) (files : List (String × Option String)) : FileTree :=
  let start : FileTree :=
    ⟨workingDirectory, (directoriesOf workingDirectory ++ [workingDirectory]).map
      fun place => (place, .directory)⟩
  files.foldl (fun t (path, text?) => t.add path text?) start

/-- The files below the working directory, with their paths and texts. -/
def files (t : FileTree) : List (String × String) :=
  t.nodes.filterMap fun (place, node) =>
    match node with
    | .file text =>
      if t.workingDirectory.isPrefixOf place then
        some (String.intercalate "/" (place.drop t.workingDirectory.length), text)
      else none
    | .directory => none

end FileTree

end BytecodeMutation
