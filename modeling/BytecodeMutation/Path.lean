/-! Paths as texts, with slashes between their parts. -/

namespace BytecodeMutation.Path

def isRelative (path : String) : Bool := path.toList.head? != some '/'

/-- A path relative to a directory; an absolute path stays as it is. -/
def join (directory path : String) : String :=
  if !isRelative path then path
  else if directory.isEmpty || directory.toList.getLast? == some '/' then directory ++ path
  else directory ++ "/" ++ path

/-- The parts between the slashes; there is at least one. -/
def parts (path : String) : List String :=
  let add (c : Char) : List (List Char) → List (List Char)
    | [] => [[c]]
    | part :: rest => if c == '/' then [] :: part :: rest else (c :: part) :: rest
  (path.toList.foldr add [[]]).map String.ofList

/-- Drops slashes and single dots from the front of a reversed path, down to its last part. -/
def dropIdle : List Char → List Char
  | '/' :: c :: rest => dropIdle (c :: rest)
  | '.' :: '/' :: rest => dropIdle ('/' :: rest)
  | reversed => reversed

/-- The directory that a path to a file leads through; empty for a bare name. -/
def parent (path : String) : String :=
  String.ofList (dropIdle (path.toList.reverse.dropWhile (· != '/'))).reverse

/-- A name without its extension. A dot that is the first character begins no extension. -/
def stem (name : List Char) : List Char :=
  match name.reverse.dropWhile (· != '.') with
  | [] | [_] => name
  | _ :: reversed => reversed.reverse

/-- The path with another extension; a path that does not end with a name stays as it is. -/
def withExtension (path extension : String) : String :=
  let reversed := dropIdle path.toList.reverse
  let name := (reversed.takeWhile (· != '/')).reverse
  if ["", ".", ".."].contains (String.ofList name) then path
  else
    String.ofList ((reversed.dropWhile (· != '/')).reverse ++ stem name) ++ "." ++ extension

end BytecodeMutation.Path
