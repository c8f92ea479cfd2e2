import ConstructorAction.CommandLine.Response

/-!
The program: it reads the files that it is asked about, and writes what the response says.
-/

open ConstructorAction.CommandLine ConstructorAction.Files ConstructorAction.Tools

namespace ConstructorAction.Main

def fileError : IO.Error → FileError
  | .inappropriateType _ code _ => if code = 20 then .notDirectory else .isDirectory
  | .permissionDenied .. => .denied
  | _ => .notFound

def readBytes (path : String) : IO (Except FileError (List UInt8)) := do
  try
    return .ok (← IO.FS.readBinFile path).toList
  catch problem =>
    return .error (fileError problem)

/-- A reader of some files, read beforehand. -/
def fetch (paths : List String) : IO FileReader := do
  let contents ← paths.mapM fun path => do return (path, ← readBytes path)
  return fun path => (contents.lookup path).getD (.error .notFound)

/-- The directory as far as it is known from files with relative paths. -/
def fetchTree (paths : List String) : IO Tree := do
  let mut tree : Tree := {}
  for path in paths do
    let route := (Tree.parts path).filter fun part => part != "" && part != "."
    if !path.startsWith "/" && !route.contains ".." then
      if let .ok bytes ← readBytes path then
        tree := tree.put route bytes
  return tree

/-- Writes the files that another program has changed. -/
def keep (before after : Tree) : IO Unit := do
  for (route, bytes) in after.ownFiles do
    if before.files.lookup route != some bytes then
      try
        IO.FS.writeBinFile ("/".intercalate route) (ByteArray.mk bytes.toArray)
      catch _ =>
        continue

def finish (report : Report) : IO UInt32 := do
  IO.print report.stdout
  IO.eprint report.stderr
  return report.code.toUInt32

def carryOut (before : Tree) (response : Response) : IO UInt32 := do
  keep before (response.tree.getD before)
  match response.saved with
  | none => finish response.report
  | some (file, text) =>
      try
        IO.FS.writeFile file text
      catch problem =>
        return ← finish (.failure (.notWritten file (fileError problem)))
      finish response.report

end ConstructorAction.Main

open ConstructorAction.Main

def main (arguments : List String) : IO UInt32 := do
  match Invocation.parse arguments with
  | .error problem => finish (.usage problem)
  | .ok invocation =>
      let read ← fetch invocation.files
      let tree ← fetchTree (invocation.files ++ invocation.formatterWords read)
      carryOut tree (respond ⟨read, toolbox tree⟩ invocation)
