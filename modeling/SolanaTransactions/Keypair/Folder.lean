/-
Module: SolanaTransactions.Keypair.Folder
Purpose: The files of the working directory, and what a path leads to.
Main exports: Folder, Place, Folder.find
-/

namespace SolanaTransactions

/-- The working directory: the names and the texts of its files. -/
structure Folder where
  files : List (String × String)
deriving Inhabited, Repr

/-- What a path leads to. -/
inductive Place where
  | nothing
  | directory
  | file (text : String)
deriving DecidableEq, Inhabited, Repr

/-- A point that is reached on the way along a path. -/
inductive PathPoint where
  | nowhere
  | root
  | elsewhere
  | here
  | file (text : String)
deriving DecidableEq, Inhabited, Repr

namespace Folder

/-- The directories that the root of every file system holds. -/
def rootDirectories : List String :=
  ["bin", "boot", "dev", "etc", "home", "lib", "media", "mnt", "opt", "proc", "root", "run",
    "sbin", "srv", "sys", "tmp", "usr", "var"]

/-- The point that one part of a path leads to from another point. -/
def follow (folder : Folder) (point : PathPoint) (part : String) : PathPoint :=
  match point with
  | .nowhere => .nowhere
  | .file _ => .nowhere
  | .root =>
      if part = "" ∨ part = "." ∨ part = ".." then .root
      else if rootDirectories.contains part then .elsewhere
      else .nowhere
  | .elsewhere => if part = "" ∨ part = "." ∨ part = ".." then .elsewhere else .nowhere
  | .here =>
      if part = "" ∨ part = "." then .here
      else if part = ".." then .elsewhere
      else
        match folder.files.lookup part with
        | some text => .file text
        | none => .nowhere

/-- What a path leads to.  The empty path leads nowhere, and a path that begins with a slash starts
at the root. -/
def find (folder : Folder) (path : String) : Place :=
  if path = "" then .nothing
  else
    let start : PathPoint := if path.startsWith "/" then .root else .here
    match (path.splitOn "/").foldl folder.follow start with
    | .nowhere => .nothing
    | .file text => .file text
    | _ => .directory

end Folder

end SolanaTransactions
