import ChangeCapture.Files.Path

namespace ChangeCapture

-- A name in a file tree. A temporary file is named after the file it stands
-- beside and carries a number of its own; no path leads to one.
inductive Name where
  | given (text : Text)
  | temporary (beside : Text) (serial : Nat)
  deriving DecidableEq, Repr

-- The names from the working directory down to a place. A place above it begins
-- with steps up, and one below the root of all with the root's own name: a file
-- that is asked for in both ways counts as two.
abbrev Location := List Name

inductive Item where
  | file (bytes : Bytes)
  | directory
  deriving DecidableEq, Repr

-- What stands where, each place once. Links are followed: under the name of a link
-- stands what it leads to, and nothing that is written has a second name. The
-- working directory, those above it and the root of all are always there.
structure Tree where
  entries : List (Location × Item)
  deriving DecidableEq, Repr

namespace Name

def unknownPart : Text := "<random>"

def toText : Name → Text
  | .given text => text
  | .temporary beside _ => "." ++ beside ++ "." ++ unknownPart ++ ".tmp"

def up : Name := .given ".."

def root : Name := .given "/"

end Name

namespace Location

def toText (location : Location) : Text := Text.joined "/" (location.map Name.toText)

def isAbove (location : Location) : Bool := location.all (· = Name.up)

def parent (location : Location) : Location :=
  if location.isAbove then location ++ [Name.up]
  else if location = [Name.root] then location
  else location.dropLast

def child (location : Location) (name : Text) : Location :=
  if name = Text.ofString ".." then location.parent else location ++ [.given name]

end Location

namespace Tree

def empty : Tree := ⟨[]⟩

def item? (tree : Tree) (location : Location) : Option Item :=
  if location.isAbove || location = [Name.root] then some .directory else tree.entries.lookup location

def putIn (location : Location) (item : Item) : List (Location × Item) → List (Location × Item)
  | [] => [(location, item)]
  | entry :: rest =>
    if entry.1 = location then (location, item) :: rest else entry :: putIn location item rest

def put (tree : Tree) (location : Location) (item : Item) : Tree := ⟨putIn location item tree.entries⟩

def erase (tree : Tree) (location : Location) : Tree :=
  ⟨tree.entries.filter fun entry => entry.1 ≠ location⟩

-- Every place on the way has to be a directory; the last one need not be there. A
-- name that is too long is only noticed where it is looked for.
def walk (tree : Tree) (location : Location) : List Text → Except DiskCause Location
  | [] => .ok location
  | name :: rest =>
    match tree.item? location with
    | some .directory => if Path.isLongName name then .error .longName else walk tree (location.child name) rest
    | some (.file _) => .error .notDirectory
    | none => .error .missing

def locate (tree : Tree) (path : Path) : Except DiskCause Location :=
  if path.isLong then .error .longName
  else walk tree (if path.isAbsolute then [Name.root] else []) path.names

def find (tree : Tree) (path : Path) : Except DiskCause (Location × Item) :=
  match tree.locate path with
  | .error cause => .error cause
  | .ok location =>
    match tree.item? location with
    | some item => .ok (location, item)
    | none => .error .missing

def faultAt (path : Path) (cause : DiskCause) : DiskFault := ⟨cause, path.toText, none⟩

-- What stands at a path, if anything does. Nothing stands at one that the system
-- does not take; a name that is too long is a fault even when it is only asked for.
def look (tree : Tree) (path : Path) : Except DiskFault (Option Item) :=
  match path.check with
  | .error _ => .ok none
  | .ok _ =>
    match tree.find path with
    | .ok (_, item) => .ok (some item)
    | .error .longName => .error (faultAt path .longName)
    | .error _ => .ok none

def isFile (tree : Tree) (path : Path) : Except DiskFault Bool :=
  (tree.look path).map fun
    | some (.file _) => true
    | _ => false

def isDirectory (tree : Tree) (path : Path) : Except DiskFault Bool :=
  (tree.look path).map fun item => item = some .directory

def has (tree : Tree) (path : Path) : Except DiskFault Bool := (tree.look path).map Option.isSome

def read (tree : Tree) (path : Path) : Except DiskFault Bytes :=
  match tree.find path with
  | .ok (_, .file bytes) => .ok bytes
  | .ok (_, .directory) => .error (faultAt path .isDirectory)
  | .error cause => .error (faultAt path cause)

def write (tree : Tree) (path : Path) (bytes : Bytes) : Except Mishap Tree := do
  path.check
  match tree.locate path with
  | .error cause => .error (.disk (faultAt path cause))
  | .ok location =>
    match tree.item? location with
    | some .directory => .error (.disk (faultAt path .isDirectory))
    | _ => .ok (tree.put location (.file bytes))

def makeDirectory (tree : Tree) (path : Path) : Except DiskCause Tree :=
  match tree.locate path with
  | .error cause => .error cause
  | .ok location =>
    match tree.item? location with
    | some _ => .error .exists
    | none => .ok (tree.put location .directory)

def makeDirectoriesFrom : Nat → Path → Tree → Except DiskFault Unit × Tree
  | fuel, path, tree =>
    let settle (cause : DiskCause) (tree : Tree) : Except DiskFault Unit × Tree :=
      match tree.isDirectory path with
      | .ok true => (.ok (), tree)
      | _ => (.error (faultAt path cause), tree)
    match tree.makeDirectory path with
    | .ok tree => (.ok (), tree)
    | .error .missing =>
      match fuel with
      | 0 => (.error (faultAt path .missing), tree)
      | fuel + 1 =>
        match makeDirectoriesFrom fuel path.parent tree with
        | (.error fault, tree) => (.error fault, tree)
        | (.ok _, tree) =>
          match tree.makeDirectory path with
          | .ok tree => (.ok (), tree)
          | .error .missing => (.error (faultAt path .missing), tree)
          | .error cause => settle cause tree
    | .error cause => settle cause tree

def makeDirectories (path : Path) (tree : Tree) : Except Mishap Unit × Tree :=
  match path.check with
  | .error mishap => (.error mishap, tree)
  | .ok _ =>
    let (result, tree) := makeDirectoriesFrom path.names.length path tree
    (result.mapError .disk, tree)

def namesIn (tree : Tree) (location : Location) : List Name :=
  tree.entries.filterMap fun entry =>
    match entry.1.getLast? with
    | some name => if entry.1.dropLast = location then some name else none
    | none => none

def filesIn (tree : Tree) (path : Path) : List Path :=
  match tree.find path with
  | .ok (location, .directory) =>
    (tree.namesIn location).filterMap fun
      | .given name =>
        match tree.isFile (path.child name) with
        | .ok true => some (path.child name)
        | _ => none
      | .temporary _ _ => none
  | _ => []

def files (tree : Tree) : List (Location × Bytes) :=
  tree.entries.filterMap fun
    | (location, .file bytes) => some (location, bytes)
    | (_, .directory) => none

def changedSince (after before : Tree) : List (Location × Bytes) :=
  after.files.filter fun file => before.files.lookup file.1 ≠ some file.2

end Tree

end ChangeCapture
