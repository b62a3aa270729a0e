import PlayableCards.Stream.Source

/-!
# Directories of files

The files of one directory and of those below it that their names imply. Each directory has one
above it, up to the root, and nothing is outside of the first but these and what was put there.
Where a path leads is found one name at a time.
-/

namespace PlayableCards

/-- Names from the directory down to a file. Outside of it a name starts with the steps that lead
there: `..` for each directory up, or a slash for the root. -/
abbrev FileName := List String

namespace FileName

def root : FileName := ["/"]

def isInside : FileName → Bool
  | [] => true
  | first :: _ => first != ".." && first != "/"

def isAbove (name : FileName) : Bool := name.all (· == "..")

/-- The directory that holds one. The root holds itself. -/
def parent (name : FileName) : FileName :=
  if name = root then root else if name.isAbove then name ++ [".."] else name.dropLast

end FileName

structure Directory where
  files : List (FileName × Bytes)

inductive Place where
  | file (name : FileName) (content : Bytes)
  | directory
  /-- No file is here, and one could be. -/
  | vacant (name : FileName)
  /-- A slash at its end says that the path leads to a directory, and it does not. -/
  | noDirectory (fault : IoFault)
  | nowhere (fault : IoFault)

namespace Directory

def empty : Directory := ⟨[]⟩

def content? (d : Directory) (name : FileName) : Option Bytes := d.files.lookup name

/-- Whether there is a directory of this name: the whole one or one above it, the root, or part of
a file's name. -/
def holds (d : Directory) (name : FileName) : Bool :=
  name.isAbove || name = .root ||
    d.files.any fun file => name.isPrefixOf file.1 && name != file.1

def putFile (name : FileName) (content : Bytes) :
    List (FileName × Bytes) → List (FileName × Bytes)
  | [] => [(name, content)]
  | file :: rest =>
    if file.1 = name then (name, content) :: rest else file :: putFile name content rest

def put (d : Directory) (name : FileName) (content : Bytes) : Directory :=
  ⟨putFile name content d.files⟩

/-- The parts of a path between slashes, after the characters of `part`, last first. -/
def partsFrom (part : List Char) : List Char → List String
  | [] => [String.ofList part.reverse]
  | c :: cs =>
    if c = '/' then String.ofList part.reverse :: partsFrom [] cs else partsFrom (c :: part) cs

def nameOf (path : String) : FileName := (partsFrom [] path.toList).filter (· != "")

def isLong (part : String) : Bool := part.utf8ByteSize > 255

/-- Why a path cannot go on past `part`, where `name` is no directory. -/
def obstacle (d : Directory) (name : FileName) (part : String) : IoFault :=
  if (d.content? name).isSome then .notDirectory
  else if isLong part then .longName
  else .notFound

def destination (d : Directory) (name : FileName) (part : String) : Place :=
  match d.content? name with
  | some content => .file name content
  | none => if isLong part then .nowhere .longName else .vacant name

def follow (d : Directory) (here : FileName) : List String → Place
  | [] => .directory
  | "" :: rest => d.follow here rest
  | "." :: rest => d.follow here rest
  | ".." :: rest => d.follow here.parent rest
  | part :: rest =>
    let name := here ++ [part]
    if d.holds name then d.follow name rest
    else if rest.isEmpty then d.destination name part
    else if rest.all String.isEmpty then .noDirectory (d.obstacle name part)
    else .nowhere (d.obstacle name part)

/-- Where a path leads. An empty one leads nowhere, nor does one of 4096 bytes or more. -/
def locate (d : Directory) (path : String) : Place :=
  if path.utf8ByteSize ≥ 4096 then .nowhere .longName
  else
    match path.toList with
    | [] => .nowhere .notFound
    | '/' :: cs => d.follow .root (partsFrom [] cs)
    | cs => d.follow [] (partsFrom [] cs)

/-- Files of `after`, in the directory or below it, that `before` does not have with the same
content. -/
def changes (before after : Directory) : List (FileName × Bytes) :=
  after.files.filter fun file => file.1.isInside && before.content? file.1 != some file.2

def path (name : FileName) : String := "/".intercalate name

end Directory

end PlayableCards
