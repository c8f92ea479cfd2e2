import ConstructorAction.Tools.Shell

namespace ConstructorAction.Tools

open ConstructorAction.Files

/-!
One launcher among many: it offers the programs that formatters are usually made of, the text
filters and the command interpreter, without starting a process. With it the command line answers
by itself, and its answers can be compared with those of a system that has these programs. No
theorem depends on what they do.
-/

/-- The program that a name or a path stands for. Other files and directories are there, and cannot
be run. -/
def findProgram (tree : Tree) (name : String) : Except FileError String :=
  if name.contains '/' then
    match programAt? name, tree.find name with
    | some program, _ => .ok program
    | none, .ok _ => .error .denied
    | none, .error reason => .error reason
  else if isProgramName name then .ok name
  else if name = "." || name = ".." then .error .denied
  else .error .notFound

def toolbox (tree : Tree) : Launcher := fun name arguments input =>
  if (name :: arguments).any fun word => word.contains '\x00' then .error .nulCharacter
  else
    match findProgram tree name with
    | .error reason => .error (.unusable reason)
    | .ok program =>
        let invocation : Invocation :=
          { name, arguments := arguments.map ofString, stdin := ofBytes input, disk := { tree } }
        match filter? program with
        | some filter =>
            let done := filter invocation
            let tree := match done.disk with
              | some disk => disk.tree
              | none => tree
            .ok ⟨.code done.status, toBytes done.stdout, toBytes done.stderr, tree⟩
        | none =>
            let ended := Shell.run invocation
            .ok ⟨ended.status, toBytes ended.stdout, toBytes ended.stderr, ended.disk.tree⟩

end ConstructorAction.Tools
