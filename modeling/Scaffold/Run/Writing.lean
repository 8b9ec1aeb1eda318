import Scaffold.Archive.Bytes
import Scaffold.Project.Generate
import Scaffold.Run.Host

/-!
Projects written below a directory, file by file, and packed into an archive. No file lands
outside of the directory, and one that is there already is replaced only on demand.
-/
namespace Scaffold

structure WriteOptions where
  force : Bool := false
  dryRun : Bool := false
  deriving DecidableEq, Repr

inductive Outcome where
  | written (path : Path)
  | skipped (path : Path)
  deriving DecidableEq, Repr

namespace Outcome

def written? : Outcome → Option Path
  | written path => some path
  | skipped _ => none

def skipped? : Outcome → Option Path
  | written _ => none
  | skipped path => some path

end Outcome

abbrev Report := List Outcome

def Report.written (report : Report) : List Path :=
  report.filterMap Outcome.written?

def Report.skipped (report : Report) : List Path :=
  report.filterMap Outcome.skipped?

inductive Refusal where
  | leavesRoot (relative : String)
  | empty
  deriving DecidableEq, Repr

def Refusal.message : Refusal → String
  | leavesRoot relative => "Refusing to write outside the output directory: " ++ relative
  | empty => "Empty output path"

def target (root : Path) (relative : String) : Except Refusal Path :=
  let segments := Path.segments ⟨relative⟩
  if segments.contains ".." then .error (.leavesRoot relative)
  else if segments.isEmpty then .error .empty
  else .ok (segments.foldl Path.push root)

variable {m : Type → Type} [Monad m] [Host m]

def writeFile (root : Path) (options : WriteOptions) (file : File) : Task m Outcome := do
  match target root file.path with
  | .error refusal => throw { contexts := [refusal.message] }
  | .ok path =>
    if options.dryRun then
      Task.print ("📝 Would write " ++ path.text)
      return .written path
    let isThere ← Task.isThere path
    if isThere && !options.force then
      Task.print ("⚠️  Skipping existing file: " ++ path.text)
      return .skipped path
    match path.parent? with
    | some parent =>
      Task.attempt ("Failed to create directory " ++ parent.text) (Host.makeDirectories parent)
    | none => pure ()
    Task.attempt ("Failed to write " ++ path.text) (Host.write path file.content.toUTF8)
    Task.print ("✅ Generated " ++ path.text)
    return .written path

def writeFiles (root : Path) (options : WriteOptions) : List File → Task m Report
  | [] => return []
  | file :: rest => do
    let outcome ← writeFile root options file
    let report ← writeFiles root options rest
    return outcome :: report

def writeProject (project : Project) (root : Path) (options : WriteOptions) : Task m Report := do
  let report ← writeFiles root options project.resolved
  Task.note (.projectWritten root report.written.length report.skipped.length options.dryRun)
  return report

def writeArchive (project : Project) (path : Path) : Task m Unit := do
  let content := Archive.encode project.resolved
  match path.parent?.filter (!·.text.isEmpty) with
  | some parent =>
    Task.attempt ("Failed to create directory " ++ parent.text) (Host.makeDirectories parent)
  | none => pure ()
  Task.attempt ("Failed to write archive " ++ path.text) (Host.write path content)
  Task.note (.archiveWritten path content.size)

end Scaffold
