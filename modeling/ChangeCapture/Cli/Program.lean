import ChangeCapture.Cli.Arguments
import ChangeCapture.Project.Compilation
import ChangeCapture.Spec.Template

namespace ChangeCapture.Cli

inductive Line where
  | out (text : Text)
  | err (text : Text)
  deriving DecidableEq, Repr

structure Report where
  lines : List Line
  code : Nat
  escaped : Option Mishap

structure Outcome where
  code : Nat
  out : Text
  err : Text
  escaped : Option Mishap

def spelled (c : CodePoint) : Text :=
  match c with
  | .char _ => [c]
  | .surrogate _ => "\\u" ++ Text.hex 4 c.toNat

-- The lines are printed one after the other. One that cannot be encoded on the
-- plain output stops the program there.
def Report.printed (report : Report) : List Line → Outcome
  | [] => ⟨if report.escaped.isSome then ExitStatus.unexpected.code else report.code, [], [], report.escaped⟩
  | .out text :: rest =>
    let line : Text := text ++ "\n"
    match Utf8.encode line with
    | .ok _ =>
      let outcome := printed report rest
      { outcome with out := line ++ outcome.out }
    | .error error => ⟨ExitStatus.unexpected.code, [], [], some (.encoding error)⟩
  | .err text :: rest =>
    let outcome := printed report rest
    { outcome with err := text.flatMap spelled ++ "\n" ++ outcome.err }

def Report.outcome (report : Report) : Outcome := report.printed report.lines

def violationLines (violations : List Violation) : List Line :=
  violations.map fun violation => .err ("  " ++ violation.line)

def failureLines (failure : Failure) (violations : List Violation) : List Line :=
  .err ("✗ " ++ failure.kind.name ++ ": " ++ failure.text) :: violationLines violations

def successLines (layout : Layout) (compilation : Compilation) : List Line :=
  let mark : Text := if compilation.isDryRun then " (dry run)" else ""
  let keys := compilation.registry.map Prod.fst
  [.out ("✓ Compiled " ++ compilation.spec.toText ++ mark),
    .out ("  Registry: " ++ layout.registry.toText ++ " (" ++ Text.ofNat keys.length ++ " entries)")] ++
  keys.map (fun key => .out ("    + " ++ key)) ++
  [.out ("  Flow: " ++ layout.flow.toText ++ " (sql_id " ++ (compilation.sqlId.getD "None") ++ ")")] ++
  compilation.repairs.map (fun repair => .out ("    ~ " ++ repair.line)) ++
  (if !compilation.isDryRun && compilation.written.isEmpty then [.out "  No changes."] else [])

def compile (spec : Path) (isDryRun : Bool) (place : Place) : Work Report := do
  let specs := place.specs.getD spec.parent
  let layout := Layout.make place.root (some specs) place.registry place.flow
  match ← Project.compile layout spec isDryRun with
  | .error mishap =>
    Work.tell .error ("Unexpected error while compiling " ++ spec.toText)
    return ⟨[.err ("✗ Unexpected error: " ++ mishap.message)], ExitStatus.unexpected.code, none⟩
  | .ok compilation =>
    match compilation.failure with
    | some failure =>
      return ⟨failureLines failure compilation.violations, compilation.status.code, none⟩
    | none => return ⟨successLines layout compilation, ExitStatus.ok.code, none⟩

def verify (place : Place) : Work Report := do
  let layout := Layout.make place.root place.specs place.registry place.flow
  match ← (Project.verify layout).run with
  | .ok [] => return ⟨[.out "✓ All invariants hold"], ExitStatus.ok.code, none⟩
  | .ok violations =>
    let head : Text := "✗ " ++ Text.ofNat violations.length ++ " violation(s):"
    return ⟨.err head :: violationLines violations, ExitStatus.invariantViolation.code, none⟩
  | .error (.mishap mishap) => return ⟨[], ExitStatus.unexpected.code, some mishap⟩
  | .error (.failure failure) => return ⟨failureLines failure [], failure.kind.exitStatus.code, none⟩

def nextSteps (path : Path) : List Line := [
  .out ("✓ Created spec template: " ++ path.toText),
  .out "\nNext steps:",
  .out ("  1. Edit " ++ path.toText ++ " with your table details"),
  .out ("  2. Run: cdcspec compile " ++ path.toText)]

def writeTemplate (path : Path) (table : Text) (tree : Tree) : Option Mishap × Tree :=
  match Tree.makeDirectories path.parent tree with
  | (.error mishap, tree) => (some mishap, tree)
  | (.ok _, tree) =>
    let (bytes, problem) : Bytes × Option Mishap := match Utf8.encode (Spec.template table) with
      | .ok bytes => (bytes, none)
      | .error error => ([], some (.encoding error))
    match tree.write path bytes with
    | .ok tree => (problem, tree)
    | .error mishap => (some mishap, tree)

def new (table : Text) (specs : Path) : Work Report := do
  let layout := Layout.make (.ofText ".") (some specs) none none
  let path := layout.specPath table
  match (← Work.tree).has path with
  | .error fault => return ⟨[], ExitStatus.unexpected.code, some (.disk fault)⟩
  | .ok true => return ⟨[.err ("✗ Spec already exists: " ++ path.toText)], ExitStatus.unexpected.code, none⟩
  | .ok false =>
    let problem ← Work.onDisk fun disk =>
      let (problem, tree) := writeTemplate path table disk.tree
      (problem, disk.withTree tree)
    match problem with
    | none => return ⟨nextSteps path, ExitStatus.ok.code, none⟩
    | some mishap => return ⟨[], ExitStatus.unexpected.code, some mishap⟩

def run : Command → Work Report
  | .compile spec isDryRun place => compile spec isDryRun place
  | .verify place => verify place
  | .new table specs => new table specs
  | .help scope => return ⟨[.out scope.usage], ExitStatus.ok.code, none⟩

def answer (words : List Text) : Work Outcome := do
  match Call.ofWords words with
  | .ok call => return (← run call.command).outcome
  | .error (.usage usage) => return (Report.mk [.err usage.message] ExitStatus.specInvalid.code none).outcome
  | .error (.path mishap) => return (Report.mk [] ExitStatus.unexpected.code (some mishap)).outcome

structure Footprint where
  files : List Path
  directories : List Path

def Command.footprint : Command → Footprint
  | .compile spec _ place =>
    let layout := Layout.make place.root (some (place.specs.getD spec.parent)) place.registry place.flow
    ⟨[spec, layout.registry, layout.flow], [layout.specs]⟩
  | .verify place =>
    let layout := Layout.make place.root place.specs place.registry place.flow
    ⟨[layout.registry, layout.flow], [layout.specs]⟩
  | .new table specs => ⟨[(Layout.make (.ofText ".") (some specs) none none).specPath table], []⟩
  | .help _ => ⟨[], []⟩

end ChangeCapture.Cli
