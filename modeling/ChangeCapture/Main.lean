import ChangeCapture.Cli.Program

namespace ChangeCapture.Cli

-- The program reads the files that a command may look at, answers from them
-- alone, and then puts the files that came out different in their places.

def shown (text : Text) : String :=
  String.ofList (text.map fun
    | .char c => c
    | .surrogate _ => Char.ofNat 0xFFFD)

def itemAt (path : Path) : IO (Option Item) := do
  let place := (← IO.currentDir) / shown path.toText
  try
    let bytes ← IO.FS.readBinFile place
    return some (.file bytes.toList)
  catch _ =>
    try
      let _ ← place.readDir
      return some .directory
    catch _ => return none

def placeAt (path : Path) : IO (Option Path) := do
  let place := (← IO.currentDir) / shown path.toText
  try
    return some (.ofText (Text.ofString (toString (← IO.FS.realPath place))))
  catch _ => return none

-- A name is a link when it leads elsewhere than to its own place.
def linkAt (path : Path) : IO (Option (Path × Path)) := do
  match ← placeAt path.parent, ← placeAt path with
  | some above, some place =>
    let below : Path := ⟨above.slashes, above.names ++ [path.name]⟩
    return if path.name = Text.ofString ".." ∨ place = below then none else some (below, place)
  | _, _ => return none

def withItem (path : Path) (disk : Disk) : IO Disk := do
  match disk.tree.locate path with
  | .error _ => return disk
  | .ok location =>
    match ← itemAt path with
    | some item =>
      let tree := if (disk.tree.item? location).isSome then disk.tree else disk.tree.put location item
      return { disk with tree := tree, site.links := (← linkAt path).toList ++ disk.site.links }
    | none => return disk

def withPath (path : Path) (disk : Disk) : IO Disk :=
  (List.range path.names.length).foldlM (fun disk count =>
    withItem { path with names := path.names.take (count + 1) } disk) disk

def withDirectory (path : Path) (disk : Disk) : IO Disk := do
  let disk ← withPath path disk
  if (disk.tree.isDirectory path).toOption = some true then
    let entries ← ((← IO.currentDir) / shown path.toText).readDir
    entries.toList.foldlM (fun disk entry =>
      let below := path.child entry.fileName
      if Layout.specSuffixes.contains below.suffix then withItem below disk else pure disk) disk
  else return disk

def gathered (footprint : Footprint) : IO Disk := do
  let home := Text.ofString (toString (← IO.currentDir))
  let disk ← footprint.files.foldlM (fun disk path => withPath path disk) ⟨Tree.empty, ⟨home, []⟩, 0, .none⟩
  footprint.directories.foldlM (fun disk path => withDirectory path disk) disk

def keep (location : Location) (bytes : Bytes) : IO Unit := do
  let above := shown (Location.toText location.dropLast)
  if !location.dropLast.isEmpty then IO.FS.createDirAll above
  let target := shown location.toText
  let waiting := target ++ ".tmp"
  IO.FS.writeBinFile waiting ⟨bytes.toArray⟩
  IO.FS.rename waiting target

def perform (words : List Text) : IO UInt32 := do
  let footprint := match Call.ofWords words with
    | .ok call => call.command.footprint
    | .error _ => ⟨[], []⟩
  let least := match Call.ofWords words with
    | .ok call => call.shown
    | .error _ => .info
  let before ← gathered footprint
  let (outcome, desk) := (answer words).run ⟨before, []⟩
  for (location, bytes) in desk.disk.tree.changedSince before.tree do
    keep location bytes
  let (out, err) := (← IO.getStdout, ← IO.getStderr)
  for line in desk.log do
    if least.rank ≤ line.severity.rank then
      err.putStrLn (shown (line.severity.name ++ " " ++ line.message))
  out.putStr (shown outcome.out)
  err.putStr (shown outcome.err)
  match outcome.escaped with
  | some mishap => err.putStrLn (shown mishap.message)
  | none => pure ()
  return outcome.code.toUInt32

end ChangeCapture.Cli

def main (words : List String) : IO UInt32 :=
  ChangeCapture.Cli.perform (words.map ChangeCapture.Text.ofString)
