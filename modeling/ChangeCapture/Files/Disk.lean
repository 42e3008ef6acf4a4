import ChangeCapture.Files.Tree

namespace ChangeCapture

-- The calls of the file system that may be made to fail, and how their next
-- calls end: true for a failure. Calls beyond the script succeed.
structure Faults where
  create : List Bool
  sync : List Bool
  rename : List Bool
  deriving DecidableEq, Repr

inductive FaultyCall where
  | create
  | sync
  | rename
  deriving DecidableEq, Repr

namespace Faults

def none : Faults := ⟨[], [], []⟩

def script (faults : Faults) : FaultyCall → List Bool
  | .create => faults.create
  | .sync => faults.sync
  | .rename => faults.rename

def withScript (faults : Faults) (call : FaultyCall) (script : List Bool) : Faults :=
  match call with
  | .create => { faults with create := script }
  | .sync => { faults with sync := script }
  | .rename => { faults with rename := script }

end Faults

def FaultyCall.label : FaultyCall → Text
  | .create => "mkstemp"
  | .sync => "fsync"
  | .rename => "replace"

-- Where a tree stands: its working directory, and the names that are links, each
-- with the place that it leads to in the end.
structure Site where
  home : Text
  links : List (Path × Path)
  deriving DecidableEq, Repr

namespace Site

def follow (site : Site) (place : Path) (name : Text) : Path :=
  if name = Text.ofString ".." then place.parent
  else
    let below : Path := ⟨place.slashes, place.names ++ [name]⟩
    (site.links.lookup below).getD below

-- The place that a path leads to, told from the root of all. Two points go up from
-- where a link has led.
def resolve (site : Site) (path : Path) : Path :=
  path.names.foldl site.follow (if path.isAbsolute then ⟨1, []⟩ else .ofText site.home)

end Site

structure Disk where
  tree : Tree
  site : Site
  serial : Nat
  faults : Faults
  deriving DecidableEq, Repr

structure Temporary where
  location : Location
  text : Text
  deriving DecidableEq, Repr

namespace Disk

def withTree (disk : Disk) (tree : Tree) : Disk := { disk with tree := tree }

def call (which : FaultyCall) (disk : Disk) : Except DiskFault Unit × Disk :=
  match disk.faults.script which with
  | [] => (.ok (), disk)
  | failed :: later =>
    let disk := { disk with faults := disk.faults.withScript which later }
    (if failed then .error ⟨.injected which.label, [], none⟩ else .ok (), disk)

def absolute (disk : Disk) (path : Path) : Text :=
  let normal := path.normal
  if normal.isAbsolute then normal.toText
  else if normal.names.isEmpty then disk.site.home
  else disk.site.home ++ "/" ++ normal.toText

-- A new empty file beside a place, in a directory that is there. Its name is longer
-- than that of the place, and may be too long.
def createBeside (path : Path) (disk : Disk) : Except Mishap Temporary × Disk :=
  match disk.call .create with
  | (.error fault, disk) => (.error (.disk fault), disk)
  | (.ok _, disk) =>
    let name : Name := .temporary path.name disk.serial
    let text := disk.absolute path.parent ++ "/" ++ name.toText
    match Path.checkText text, disk.tree.locate path.parent with
    | .error mishap, _ => (.error mishap, disk)
    | .ok _, .error cause => (.error (.disk ⟨cause, text, none⟩), disk)
    | .ok _, .ok directory =>
      if Path.isLongName name.toText || (Path.ofText text).isLong then
        (.error (.disk ⟨.longName, text, none⟩), disk)
      else
        let location := directory ++ [name]
        (.ok ⟨location, text⟩, { disk with tree := disk.tree.put location (.file []), serial := disk.serial + 1 })

def fill (temporary : Temporary) (bytes : Bytes) (disk : Disk) : Disk :=
  disk.withTree (disk.tree.put temporary.location (.file bytes))

def remove (temporary : Temporary) (disk : Disk) : Disk := disk.withTree (disk.tree.erase temporary.location)

def endsInName (path : Path) : Bool := !path.names.isEmpty && path.name ≠ Text.ofString ".."

def rename (temporary : Temporary) (path : Path) (disk : Disk) : Except DiskFault Unit × Disk :=
  match disk.call .rename with
  | (.error fault, disk) => (.error fault, disk)
  | (.ok _, disk) =>
    let refused (cause : DiskCause) : Except DiskFault Unit × Disk :=
      (.error ⟨cause, temporary.text, some path.toText⟩, disk)
    match disk.tree.item? temporary.location, disk.tree.locate path with
    | some (.file bytes), .ok location =>
      if !endsInName path then refused .busy
      else
        match disk.tree.item? location with
        | some .directory => refused .isDirectory
        | _ => (.ok (), disk.withTree ((disk.tree.erase temporary.location).put location (.file bytes)))
    | some (.file _), .error cause => refused cause
    | _, _ => refused .missing

end Disk

end ChangeCapture
