/-! Paths and what stands under them. A path is a row of steps between slashes; a step of one point stays, a step of
two points goes back, and every other step goes on. Nothing can be reached through something that is no folder. -/
namespace Colloquy.Command

/-- What stands under a path. -/
inductive Found where
  | nothing
  | folder
  | file (text : String)
  deriving DecidableEq, Repr

/-- Where the text of a file is found, if it is one. -/
def Found.text? : Found → Option String
  | .file text => some text
  | _ => none

/-- A path without the steps that stay; none at all is a single point. Two slashes at the start are kept, more count as
one. -/
def tidyPath (path : String) : String :=
  let root := path.toList.takeWhile (· == '/')
  let root := if root.length == 2 then "//" else if root.isEmpty then "" else "/"
  let steps := (path.splitOn "/").filter fun step => !step.isEmpty && step != "."
  if root.isEmpty && steps.isEmpty then "." else root ++ "/".intercalate steps

/-- A folder in memory: its files, each with the steps that lead to it. -/
structure Folder where
  files : List (List String × String)

namespace Folder

/-- A folder with files under paths. -/
def ofFiles (files : List (String × String)) : Folder :=
  ⟨files.map fun (path, text) => ((tidyPath path).splitOn "/", text)⟩

/-- What stands at the end of a row of steps. -/
def foundAt (folder : Folder) (steps : List String) : Found :=
  match folder.files.find? fun file => file.1 == steps with
  | some file => .file file.2
  | none =>
    if steps.isEmpty || folder.files.any fun file => steps.isPrefixOf file.1 then .folder else .nothing

/-- Whether a step never leads to something that has a name. -/
def isNameless (step : String) : Bool := step.isEmpty || step == "." || step == ".."

/-- Goes further from the steps made so far, the last first. Outside of the folder nothing is known but that there is a
folder around it. -/
def follow (folder : Folder) (here : List String) : List String → Found
  | [] => folder.foundAt here.reverse
  | step :: rest =>
    match folder.foundAt here.reverse with
    | .folder =>
      if step.isEmpty || step == "." then folder.follow here rest
      else if step == ".." then
        match here with
        | _ :: outer => folder.follow outer rest
        | [] => if rest.all isNameless then .folder else .nothing
      else folder.follow (step :: here) rest
    | _ => .nothing

/-- What stands under a path. -/
def look (folder : Folder) (path : String) : Found :=
  match path.splitOn "/" with
  | [""] => .nothing
  | "" :: steps => if steps.all isNameless then .folder else .nothing
  | steps => folder.follow [] steps

end Folder
end Colloquy.Command
