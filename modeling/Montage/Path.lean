/-!
# File paths

A path is a text of segments between slashes. An empty segment, and a single
dot anywhere but at the front, name nothing. Joining keeps both texts as they
are.
-/

namespace Montage.Path

/-- Whether a path starts at the root. -/
def isAbsolute (path : String) : Bool := path.toList.head? == some '/'

/-- Continue a directory with a path; an absolute path replaces it. -/
def join (directory path : String) : String :=
  if isAbsolute path || directory.toList.isEmpty then path
  else if directory.toList.getLast? == some '/' then directory ++ path
  else directory ++ "/" ++ path

/-- The segments between slashes of a text's characters. -/
def splitChars : List Char → List (List Char)
  | [] => [[]]
  | c :: rest =>
    match splitChars rest with
    | [] => [[c]]
    | segment :: segments =>
      if c = '/' then [] :: segment :: segments else (c :: segment) :: segments

/-- The segments between slashes. -/
def segments (path : String) : List String := (splitChars path.toList).map String.ofList

/-- Drop segments from the end, given in reverse, while they name nothing. The
first segment of the path, the last one here, is the root or may be a dot. -/
def dropNameless : List String → List String
  | [] => []
  | [first] => [first]
  | segment :: rest =>
    if segment.isEmpty || segment == "." then dropNameless rest else segment :: rest

/-- The reversed segments of a path up to its last name. -/
def reversedNames (path : String) : List String := dropNameless (segments path).reverse

/-- The text of reversed segments; the root is a slash. -/
def ofReversed : List String → String
  | [] => ""
  | [""] => "/"
  | reversed => "/".intercalate reversed.reverse

/-- The directory part of a path, if there is a name to take off. -/
def parent? (path : String) : Option String :=
  match reversedNames path with
  | [] => none
  | [""] => none
  | [_] => some ""
  | _ :: rest => some (ofReversed (dropNameless rest))

/-- The path of reversed segments and all paths above it, longest first, the
empty one last. -/
def upFrom : List String → List String
  | [] => [""]
  | segment :: rest =>
    if (segment.isEmpty || segment == ".") && !rest.isEmpty then upFrom rest
    else ofReversed (segment :: rest) :: upFrom rest

/-- A path and all paths above it, longest first. -/
def ancestors (path : String) : List String := upFrom (segments path).reverse

/-- The last name of a path, unless the path ends elsewhere: at the root, or
in a step up. -/
def fileName? (path : String) : Option String :=
  match reversedNames path with
  | [] => none
  | name :: _ => if name.isEmpty || name == "." || name == ".." then none else some name

/-- What follows the last dot of a file name, if anything precedes that dot. -/
def extensionOfName? (name : String) : Option String :=
  let reversed := name.toList.reverse
  match reversed.dropWhile (· ≠ '.') with
  | [] => none
  | [_] => none
  | _ :: _ => some (String.ofList (reversed.takeWhile (· ≠ '.')).reverse)

/-- The extension of a path's file name. -/
def extension? (path : String) : Option String := (fileName? path).bind extensionOfName?

end Montage.Path
