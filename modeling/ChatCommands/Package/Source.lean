import ChatCommands.Definition.Term

/-!
# Packages

Definitions live in modules, and modules in a tree of directories.  A module is a file, or a
directory: one with an initial file is a package, and a directory without one can still be loaded
by its name, but is not listed.

## Main definitions

* `ModuleSource` : what loading a module does.
* `Layout` : how the files of modules are named.
* `FileTree` : files by path.
* `FileTree.locate` : where a module is found in a directory.
* `FileTree.listed` : the modules of a directory.
-/

namespace ChatCommands

/-- What a module binds a variable to: the value of a term, or a variable of another module, which
is loaded for it. -/
inductive Binding
  | term (t : Term)
  | foreign (moduleName name : String)

/-- What loading a module does: it fails, or it binds variables in order. -/
structure ModuleSource where
  failure : Option Failure
  bindings : List (String × Binding)

/-- How the files of modules are named: the endings of their names, preferred ones first and one
that ends another after it, which of them loads from its source, and the name of the file that
makes a directory a package.  Files with the other endings are modules that cannot be loaded. -/
structure Layout where
  endings : List String
  source : String
  initial : String

namespace Layout

/-- The names that a file of a module may have. -/
def fileNames (l : Layout) (name : String) : List String :=
  l.endings.map fun ending => name ++ ending

/-- The name of the module in a file, if the file holds one. -/
def stem? (l : Layout) (file : String) : Option String :=
  (l.endings.find? fun ending => ending.toList.isSuffixOf file.toList).map fun ending =>
    String.ofList (file.toList.take (file.length - ending.length))

/-- Whether a file is loaded from its source. -/
def isSource (l : Layout) (file : String) : Bool :=
  l.source.toList.isSuffixOf file.toList

end Layout

/-- A path, from the outermost directory on. -/
abbrev Path := List String

/-- Files by path. -/
structure FileTree where
  layout : Layout
  files : List (Path × ModuleSource)

/-- Where a module is found: a file, an initial file of a directory, a bare directory, or a file
that cannot be loaded. -/
inductive Location
  | file (source : ModuleSource)
  | package (directory : Path) (source : ModuleSource)
  | bare (directory : Path)
  | unloadable

namespace FileTree

/-- A number greater than that of all files and directories: one more than the steps of all
paths. -/
def bound (tree : FileTree) : Nat :=
  tree.files.foldl (fun n f => n + f.1.length) 1

/-- The file at a path. -/
def file? (tree : FileTree) (path : Path) : Option ModuleSource :=
  tree.files.lookup path

/-- The names in a directory, each once and in order. -/
def names (tree : FileTree) (directory : Path) : List String :=
  let inside := tree.files.filterMap fun f =>
    if directory.isPrefixOf f.1 then (f.1.drop directory.length).head? else none
  inside.eraseDups.mergeSort fun a b => decide (a ≤ b)

/-- Whether a path is a directory: some file is inside. -/
def isDirectory (tree : FileTree) (path : Path) : Bool :=
  tree.files.any fun f => path.isPrefixOf f.1 && decide (path.length < f.1.length)

/-- The preferred file of a module in a directory, with its source. -/
def moduleFile? (tree : FileTree) (directory : Path) (name : String) :
    Option (String × ModuleSource) :=
  (tree.layout.fileNames name).findSome? fun file =>
    (tree.file? (directory ++ [file])).map fun source => (file, source)

/-- Where the module of a name is found in a directory.  A package is preferred to a file, and a
file to a bare directory. -/
def locate (tree : FileTree) (directory : Path) (name : String) : Option Location :=
  if name.isEmpty then none
  else
    let path := directory ++ [name]
    match tree.moduleFile? path tree.layout.initial with
    | some (file, source) =>
      some (if tree.layout.isSource file then .package path source else .unloadable)
    | none =>
      match tree.moduleFile? directory name with
      | some (file, source) =>
        some (if tree.layout.isSource file then .file source else .unloadable)
      | none => if tree.isDirectory path then some (.bare path) else none

/-- The module that a name in a directory stands for, and whether it is a package. -/
def moduleOf (tree : FileTree) (directory : Path) (name : String) : Option (String × Bool) :=
  match tree.layout.stem? name with
  | some stem =>
    if stem = tree.layout.initial ∨ stem.isEmpty ∨ stem.contains '.' then none
    else some (stem, false)
  | none =>
    if name.contains '.' then none
    else if (tree.moduleFile? (directory ++ [name]) tree.layout.initial).isSome then
      some (name, true)
    else none

/-- The modules of a directory, each name once, in the order of the file names. -/
def listed (tree : FileTree) (directory : Path) : List (String × Bool) :=
  ((tree.names directory).filterMap (tree.moduleOf directory)).foldl
    (fun kept m => if kept.any (fun k => k.1 = m.1) then kept else kept ++ [m]) []

end FileTree

end ChatCommands
