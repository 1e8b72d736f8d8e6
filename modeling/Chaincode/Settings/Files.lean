import Chaincode.Bytes

namespace Chaincode.Settings

/-! Finding the settings file.

A path is a list of names from the root of the file tree on.  A relative path is
looked up from the current directory, then from each directory above it.
-/

abbrev Path := List String

inductive Node where
  | file (content : Bytes)
  | directory
deriving DecidableEq

/-- Files and directories by their paths.  What lies above them are directories. -/
structure FileTree where
  nodes : List (Path × Node) := []

namespace FileTree

/-- The tree with a file or directory at a path, in place of what was there. -/
def put (tree : FileTree) (path : Path) (node : Node) : FileTree :=
  ⟨(path, node) :: tree.nodes.filter fun other => other.1 ≠ path⟩

def file? (tree : FileTree) (path : Path) : Option Bytes :=
  tree.nodes.findSome? fun node =>
    match node with
    | (place, .file content) => if place = path then some content else none
    | (_, .directory) => none

def isDirectory (tree : FileTree) (path : Path) : Bool :=
  tree.nodes.any fun node =>
    path.isPrefixOf node.1 && (node.2 = .directory || path.length < node.1.length)

/-- The content of the regular file that is reached from a directory through the
steps; a step may lead to the directory above. -/
def walk (tree : FileTree) : Path → List String → Option Bytes
  | _, [] => none
  | directory, [last] =>
      if last = "" || last = "." || last = ".." then none else tree.file? (directory ++ [last])
  | directory, step :: steps =>
      if step = "" || step = "." then walk tree directory steps
      else if step = ".." then walk tree directory.dropLast steps
      else if tree.isDirectory (directory ++ [step]) then walk tree (directory ++ [step]) steps
      else none

/-- A settings file and where it was found. -/
structure Found where
  path : Path
  content : Bytes

/-- Empty steps and steps to the same place leave no trace in a path. -/
def significant (steps : List String) : List String :=
  steps.filter fun step => step ≠ "" && step ≠ "."

/-- Looks from a directory, and then from those above it; `fuel` is how many there
are. -/
def searchUp (tree : FileTree) (steps : List String) : Nat → Path → Option Found
  | fuel, directory =>
      match tree.walk directory steps, fuel with
      | some content, _ => some ⟨directory ++ significant steps, content⟩
      | none, 0 => none
      | none, fuel + 1 => searchUp tree steps fuel directory.dropLast

/-- The steps of a path. -/
def stepsOf (path : String) : List String := (path.toList.splitOn '/').map String.ofList

def search (tree : FileTree) (current : Path) (path : String) : Option Found :=
  let steps := stepsOf path
  match path.toList with
  | '/' :: _ => (tree.walk [] steps).map fun content => ⟨significant steps, content⟩
  | _ => tree.searchUp steps current.length current

/-- The places that the steps lead through from a directory, going down. -/
def trail : Path → List String → List Path
  | _, [] => []
  | directory, step :: steps =>
      if step = "" || step = "." then trail directory steps
      else if step = ".." then trail directory.dropLast steps
      else (directory ++ [step]) :: trail (directory ++ [step]) steps

/-- All places that a search may look at; the rest of a tree does not matter to it. -/
def places (current : Path) (path : String) : List Path :=
  let steps := stepsOf path
  match path.toList with
  | '/' :: _ => trail [] steps
  | _ =>
      (List.range (current.length + 1)).flatMap fun depth => trail (current.take depth) steps

end FileTree

namespace Path

/-- The path that is reached from a directory through the steps, when all of them lead
through directories. -/
def reach : Path → List String → Path
  | directory, [] => directory
  | directory, step :: steps =>
      if step = "" || step = "." then reach directory steps
      else if step = ".." then reach directory.dropLast steps
      else reach (directory ++ [step]) steps

/-- The path as seen from a directory. -/
def relativeTo : Path → Path → List String
  | [], base => base.map fun _ => ".."
  | path, [] => path
  | name :: path, step :: base =>
      if name = step then relativeTo path base
      else ".." :: base.map (fun _ => "..") ++ name :: path

def text (steps : List String) : String := "/".intercalate steps

end Path

end Chaincode.Settings
