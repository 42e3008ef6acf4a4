import ChangeCapture.Files.Tree
import ChangeCapture.Text.Case

namespace ChangeCapture

structure Layout where
  root : Path
  specs : Path
  registry : Path
  flow : Path
  deriving DecidableEq, Repr

namespace Layout

def specSuffixes : List Text := [".yaml", ".yml"]

def make (root : Path) (specs registry flow : Option Path) : Layout where
  root := root
  specs := specs.getD (root.child "specs")
  registry := registry.getD (root.child "sql-registry/oracle.json")
  flow := flow.getD (root.child "flows/oracle_cdc_flow.json")

-- A location that is given as an empty text is not given.
def ofTexts (root specs registry flow : Option Text) : Layout :=
  let given : Option Text → Option Path
    | some (c :: rest) => some (.ofText (c :: rest))
    | _ => none
  make (.ofText (root.getD ".")) (given specs) (given registry) (given flow)

def specPath (layout : Layout) (table : Text) : Path := layout.specs.child (table.lower ++ ".yaml")

def specPaths (layout : Layout) (tree : Tree) : Except DiskFault (List Path) := do
  if ← tree.isDirectory layout.specs then
    let files := (tree.filesIn layout.specs).filter fun path => Layout.specSuffixes.contains path.suffix
    return Sorting.sort Path.le files
  else return []

end Layout

end ChangeCapture
