import ConstructorAction.Tools.Filter
import ConstructorAction.Tools.Shell.Condition
import ConstructorAction.Tools.Shell.Matching

namespace ConstructorAction.Tools.Shell

open ConstructorAction.Files

/-!
Patterns of file names. A pattern is taken apart at its slashes; every part is compared with the
names in a directory, and a name that starts with a point needs a pattern that does so, too.
-/

def hasClosingBracket (text : ByteText) : Bool :=
  let inside := match text with
    | '!' :: inside => inside
    | inside => inside
  (inside.drop 1).contains ']'

/-- Whether a part of a path stands for more than one name. -/
def isWild : ByteText → Bool
  | '\\' :: _ :: rest => isWild rest
  | '*' :: _ | '?' :: _ => true
  | '[' :: rest => hasClosingBracket rest || isWild rest
  | _ :: rest => isWild rest
  | [] => false

def withoutBackslashes : ByteText → ByteText
  | '\\' :: c :: rest => c :: withoutBackslashes rest
  | c :: rest => c :: withoutBackslashes rest
  | [] => []

def patternParts (part : ByteText) : ByteText → List ByteText
  | [] => [part.reverse]
  | '/' :: rest => part.reverse :: patternParts [] rest
  | '\\' :: '/' :: rest => part.reverse :: patternParts [] rest
  | '\\' :: c :: rest => patternParts (c :: '\\' :: part) rest
  | c :: rest => patternParts (c :: part) rest

/-- The names in a directory; the empty path is the working directory. -/
def namesIn (disk : Disk) (path : ByteText) : List ByteText :=
  match disk.find (if path.isEmpty then ['.'] else path) with
  | .ok (.directory route) =>
      ['.'] :: ['.', '.'] :: (disk.tree.entries route).map ofString
  | _ => []

def isHidden (name : ByteText) : Bool := name.head? == some '.'

def showsHidden (part : ByteText) : Bool :=
  match part with
  | '\\' :: c :: _ => c == '.'
  | c :: _ => c == '.'
  | [] => false

/-- The paths that the parts of a pattern stand for, behind a path that is there. -/
def pathsFor (disk : Disk) : List ByteText → ByteText → List ByteText
  | [], path => [path]
  | [part], path =>
      if isWild part then
        let items := pattern part
        let found := (namesIn disk path).filter fun name =>
          (!isHidden name || showsHidden part) && isMatch items name
        found.map (path ++ ·)
      else
        let path := path ++ withoutBackslashes part
        if (disk.find path).toOption.isSome then [path] else []
  | part :: later, path =>
      if isWild part then
        let items := pattern part
        let found := (namesIn disk path).filter fun name =>
          (!isHidden name || showsHidden part) && isMatch items name
        found.flatMap fun name => pathsFor disk later (path ++ name ++ ['/'])
      else pathsFor disk later (path ++ withoutBackslashes part ++ ['/'])

/-- The paths that a pattern stands for, in order of their bytes; none if it is not a pattern. -/
def globPaths (disk : Disk) (text : ByteText) : List ByteText :=
  let parts := patternParts [] text
  if parts.any isWild then
    (pathsFor disk parts []).mergeSort fun first second => !isBefore second first
  else []

end ConstructorAction.Tools.Shell
