import ChatCommands.Package.Loader

/-!
# Listing packages

The modules of a package are listed in the order of their files; a subpackage is followed by its
own modules.  To look into a subpackage it has to be loaded: one that is not there to be loaded is
listed without its modules, and any other error ends the listing.

## Main definitions

* `modulesOf` : the names of a package and of the modules in it.
-/

namespace ChatCommands

/-- The name of a module in a package. -/
def memberName (package name : String) : String :=
  package ++ "." ++ name

/-- The modules of a directory, with those of its subpackages.  Each step takes a module of the
tree, and `fuel` bounds the number of steps. -/
def walk (tree : FileTree) :
    Nat → Loader → String → List (String × Bool) → Loading (List String)
  | _, l, _, [] => (l, .ok [])
  | 0, l, _, _ :: _ => (l, .ok [])
  | fuel + 1, l, package, (name, isPackage) :: rest =>
    let dotted := memberName package name
    let inner : Loading (List String) :=
      if isPackage then
        match l.load tree dotted with
        | (l, .ok ()) =>
          match (l.module? dotted).bind fun m => m.directory with
          | some directory => walk tree fuel l dotted (tree.listed directory)
          | none => (l, .ok [])
        | (l, .error e) => if e.isAboutLoading then (l, .ok []) else (l, .error e)
      else (l, .ok [])
    match inner with
    | (l, .error e) => (l, .error e)
    | (l, .ok names) =>
      match walk tree fuel l package rest with
      | (l, .ok others) => (l, .ok (dotted :: names ++ others))
      | (l, .error e) => (l, .error e)

/-- An error of loading a module that was asked for by name. -/
def LoadError.toError (name : String) (e : LoadError) : Error :=
  if e.isAboutLoading then .refusal (.moduleUnavailable name)
  else
    match e with
    | .failed e => e
    | .missing => .refusal (.moduleUnavailable name)

/-- Checks the form of a module name. -/
def checkName (name : String) : Except Refusal Unit :=
  if name.toList.head? = some '.' then .error (.packageRelative name)
  else if name.isEmpty then .error .packageNameEmpty
  else .ok ()

/-- Loads a module that is asked for by name. -/
def importModule (tree : FileTree) (l : Loader) (name : String) : Loader × Except Error Unit :=
  match checkName name with
  | .error r => (l, .error (.refusal r))
  | .ok () =>
    match l.load tree name with
    | (l, .ok ()) => (l, .ok ())
    | (l, .error e) => (l, .error (e.toError name))

/-- The modules of a directory by their dotted names. -/
def members (tree : FileTree) (l : Loader) (package : String) (directory : Path)
    (recursive : Bool) : Loader × Except Error (List String) :=
  if recursive then
    match walk tree tree.bound l package (tree.listed directory) with
    | (l, .ok names) => (l, .ok names)
    | (l, .error e) => (l, .error (e.toError package))
  else (l, .ok ((tree.listed directory).map fun m => memberName package m.1))

/-- The names of a package and of the modules in it, also of those in subpackages when
`recursive`. -/
def modulesOf (tree : FileTree) (l : Loader) (package : Value) (recursive : Bool) :
    Loader × Except Error (List String) :=
  match package with
  | .text name =>
    match importModule tree l name with
    | (l, .error e) => (l, .error e)
    | (l, .ok ()) =>
      match (l.module? name).bind fun m => m.directory with
      | none => (l, .ok [name])
      | some directory =>
        match members tree l name directory recursive with
        | (l, .ok names) => (l, .ok (name :: names))
        | (l, .error e) => (l, .error e)
  | _ => (l, .error (.refusal .packageNotText))

end ChatCommands
