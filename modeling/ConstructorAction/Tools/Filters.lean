import ConstructorAction.Tools.Copy
import ConstructorAction.Tools.Head
import ConstructorAction.Tools.LineSort
import ConstructorAction.Tools.Reverse
import ConstructorAction.Tools.StreamEditor
import ConstructorAction.Tools.Transliterate

namespace ConstructorAction.Tools

open ConstructorAction.Files

/-!
The programs that are there to be run, and where they are.
-/

def filter? (name : String) : Option (Invocation → Filtered) :=
  match name with
  | "cat" => some cat
  | "head" => some head
  | "sed" => some sed
  | "sort" => some sort
  | "tac" => some tac
  | "tr" => some tr
  | _ => none

def interpreterName : String := "sh"

def isProgramName (name : String) : Bool := name == interpreterName || (filter? name).isSome

def straightened (parts : List String) : List String :=
  (parts.foldl (fun (straight : List String) part =>
    if part = "" ∨ part = "." then straight
    else if part = ".." then straight.drop 1
    else part :: straight) []).reverse

def programAt? (path : String) : Option String :=
  match straightened (Tree.parts path) with
  | ["bin", name] | ["usr", "bin", name] =>
      if path.startsWith "/" && !path.endsWith "/" && isProgramName name then some name else none
  | _ => none

end ConstructorAction.Tools
