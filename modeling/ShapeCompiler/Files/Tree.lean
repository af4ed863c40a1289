import ShapeCompiler.Files.Stream

/-! A tree of directories and files with their texts, as a program finds it. Paths lead through it from the
root or from the working directory; a single dot names the directory in which it stands, two dots the one
above. -/

namespace ShapeCompiler.Files

/-- A path that starts in a slash does not start from the working directory. With `endsInSlash` only a
directory can be meant. -/
structure Path where
  startsInSlash : Bool
  names : List String
  endsInSlash : Bool
deriving DecidableEq

def Path.ofText (text : String) : Path :=
  ⟨Text.startsWith "/" text, Text.filledPieces (· = '/') text, Text.endsInSlash text⟩

def trimPathEnd : List Char → List Char
  | '/' :: rest => trimPathEnd rest
  | '.' :: '/' :: rest => trimPathEnd rest
  | rest => rest

/-- The path of the directory in which a path lies; none if the path is a single name. -/
def parent? (text : String) : Option String :=
  let rest := (trimPathEnd text.toList.reverse).dropWhile (· != '/')
  match trimPathEnd rest with
  | [] => if rest.isEmpty || (trimPathEnd text.toList.reverse).isEmpty then none else some "/"
  | parent => some (String.ofList parent.reverse)

def extension? (text : String) : Option String :=
  match ((Path.ofText text).names.filter (· ≠ ".")).getLast? with
  | none => none
  | some name =>
      match name.toList.reverse.span (· != '.') with
      | (ending, '.' :: _ :: _) => if name = ".." then none else some (String.ofList ending.reverse)
      | _ => none

abbrev Place := List String

def Place.step (place : Place) (name : String) : Place :=
  if name = "." then place else if name = ".." then place.dropLast else place ++ [name]

inductive Entry where
  | file (text : String)
  | directory
deriving DecidableEq

/-- What the system refuses for reasons that are not in the tree, such as a permission that is missing, a
disk that is full, or bytes that are no text. When it fails to write at a path, it tells what the file
holds then, unless that is as it was. -/
structure System where
  reading : String → Option Fault
  making : Place → Option Fault
  writing : String → Option (Fault × Option String)

structure Tree where
  workingDirectory : Place
  files : List (Place × String)
  directories : List Place
  stdout : Stream
  system : System

namespace Tree

def ofFiles (files : List (String × String)) : Tree where
  workingDirectory := ["work"]
  files := files.map fun file => ("work" :: (Path.ofText file.1).names, file.2)
  directories := []
  stdout := ⟨[], []⟩
  system := ⟨fun _ => none, fun _ => none, fun _ => none⟩

def start (tree : Tree) (path : Path) : Place :=
  if path.startsInSlash then [] else tree.workingDirectory

def content? (tree : Tree) (place : Place) : Option String :=
  tree.files.lookup place

def leadsOn (tree : Tree) (place : Place) : Bool :=
  place.isPrefixOf tree.workingDirectory || tree.files.any fun file => place.isPrefixOf file.1

def entryAt? (tree : Tree) (place : Place) : Option Entry :=
  match tree.content? place with
  | some text => some (.file text)
  | none =>
      if tree.directories.contains place || tree.leadsOn place then some .directory else none

def isTooLong (name : String) : Bool :=
  name.utf8ByteSize > 255

def refusal? (path : String) : Option Fault :=
  if path.toList.contains '\x00' then some .zeroCharacter
  else if path.utf8ByteSize > 4095 then some .nameTooLong
  else if path = "" then some .notFound
  else none

def locate (tree : Tree) (place : Place) : List String → Except Fault Place
  | [] => .ok place
  | name :: names =>
      match tree.entryAt? place with
      | some .directory =>
          if isTooLong name then .error .nameTooLong else locate tree (place.step name) names
      | some (.file _) => .error .notDirectory
      | none => .error .notFound

def find (tree : Tree) (text : String) : Except Fault Place :=
  match refusal? text with
  | some fault => .error fault
  | none => tree.locate (tree.start (Path.ofText text)) (Path.ofText text).names

def read (tree : Tree) (text : String) : Except Fault String :=
  match tree.system.reading text with
  | some fault => .error fault
  | none => do
      match tree.entryAt? (← tree.find text) with
      | none => .error .notFound
      | some .directory => .error .isDirectory
      | some (.file content) =>
          if (Path.ofText text).endsInSlash then .error .notDirectory else .ok content

def addDirectory (tree : Tree) (place : Place) : Tree :=
  if (tree.entryAt? place).isSome then tree
  else { tree with directories := place :: tree.directories }

/-- Makes the directories along names that are not there yet. Those made before a refusal stay. -/
def makeAlong (tree : Tree) (place : Place) : List String → Tree × Option Fault
  | [] =>
      match tree.entryAt? place with
      | some (.file _) => (tree, some .exists)
      | _ => (tree, none)
  | name :: names =>
      match tree.entryAt? place with
      | some (.file _) => (tree, some .notDirectory)
      | _ =>
          if isTooLong name then (tree, some .nameTooLong)
          else
            match tree.system.making (place.step name) with
            | some fault => (tree, some fault)
            | none => makeAlong (tree.addDirectory (place.step name)) (place.step name) names

def makeDirectories (tree : Tree) (text : String) : Tree × Option Fault :=
  let path := Path.ofText text
  match refusal? text with
  | some fault => (tree, some fault)
  | none => tree.makeAlong (tree.start path) path.names

def put (tree : Tree) (place : Place) (content : String) : Tree :=
  if (tree.content? place).isSome then
    { tree with files := tree.files.map fun file =>
        if file.1 = place then (place, content) else file }
  else { tree with files := tree.files ++ [(place, content)] }

/-- The names that are looked up to write at a path: not the last one, if a slash follows it. -/
def namesToWrite (path : Path) : List String :=
  if path.endsInSlash then path.names.dropLast ++ ["."] else path.names

def placeToWrite (tree : Tree) (text : String) : Except Fault Place :=
  match refusal? text with
  | some fault => .error fault
  | none => do
      let place ← tree.locate (tree.start (Path.ofText text)) (namesToWrite (Path.ofText text))
      match tree.entryAt? place with
      | some .directory => .error .isDirectory
      | _ => .ok place

def write (tree : Tree) (text content : String) : Tree × Option Fault :=
  match tree.placeToWrite text with
  | .error fault => (tree, some fault)
  | .ok place =>
      match tree.system.writing text with
      | none => (tree.put place content, none)
      | some (fault, none) => (tree, some fault)
      | some (fault, some left) => (tree.put place left, some fault)

def print (tree : Tree) (text : String) : Tree × Option Fault :=
  let printed := tree.stdout.print text
  ({ tree with stdout := printed.1 }, printed.2)

def printAll (tree : Tree) : List String → Tree × Option Fault
  | [] => (tree, none)
  | line :: lines =>
      match tree.print line with
      | (after, some fault) => (after, some fault)
      | (after, none) => printAll after lines

def changesSince (tree before : Tree) : List (String × String) :=
  tree.files.filterMap fun file =>
    match tree.workingDirectory.isPrefixOf? file.1 with
    | some names =>
        if tree.content? file.1 = before.content? file.1 then none
        else some ("/".intercalate names, file.2)
    | none => none

end Tree

end ShapeCompiler.Files
