import ChatCommands.Package.Source
import ChatCommands.Text.Blank

/-!
# Loading modules

A module is loaded once, after the packages it lies in; a module that fails to load leaves no
trace, while the modules loaded on its behalf stay.  A loaded module becomes a variable of its
package, in the place of a variable of its name.

## Main definitions

* `LoadedModule` : the variables of a module and the directory of a package.
* `Loader` : the loaded modules.
* `Loader.load` : loads a module by its dotted name.
* `LoadError` : why a module cannot be loaded.
-/

namespace ChatCommands

/-- The variables of a module, and the directory whose modules belong to it.  A variable that
stands for a module has no value. -/
structure LoadedModule where
  bindings : List (String × Option Value)
  directory : Option Path

namespace LoadedModule

/-- Sets a variable: in its place when it is there, at the end when it is not. -/
def put (name : String) (v : Option Value) (m : LoadedModule) : LoadedModule :=
  let isSet := m.bindings.any fun e => e.1 = name
  { m with bindings :=
      if isSet then m.bindings.map fun e => if e.1 = name then (name, v) else e
      else m.bindings ++ [(name, v)] }

/-- The value of a variable. -/
def value? (m : LoadedModule) (name : String) : Option Value :=
  (m.bindings.lookup name).join

/-- The values of all variables, in order. -/
def values (m : LoadedModule) : List Value :=
  m.bindings.filterMap Prod.snd

end LoadedModule

/-- The loaded modules by dotted name, and the next serial number. -/
structure Loader where
  modules : List (String × LoadedModule)
  serial : Nat

/-- Why a module cannot be loaded: it is not there, or loading it ended with an error. -/
inductive LoadError
  | missing
  | failed (e : Error)

/-- Whether an error says that a module could not be loaded. -/
def LoadError.isAboutLoading : LoadError → Bool
  | .missing => true
  | .failed (.raised f) => f.kind = .moduleImport || f.kind = .moduleMissing
  | .failed _ => false

/-- What an operation leaves behind, and what it ends with. -/
abbrev Loading (α : Type) := Loader × Except LoadError α

namespace Loader

/-- No module loaded. -/
def empty : Loader := ⟨[], 0⟩

def module? (l : Loader) (name : String) : Option LoadedModule :=
  l.modules.lookup name

/-- Sets a loaded module. -/
def put (l : Loader) (name : String) (m : LoadedModule) : Loader :=
  let others := l.modules.filter fun e => e.1 ≠ name
  { l with modules := others ++ [(name, m)] }

/-- Forgets a module. -/
def erase (l : Loader) (name : String) : Loader :=
  { l with modules := l.modules.filter fun e => e.1 ≠ name }

/-- Sets a variable of a module. -/
def bind (l : Loader) (moduleName name : String) (v : Option Value) : Loader :=
  match l.module? moduleName with
  | some m => l.put moduleName (m.put name v)
  | none => l

/-- The variables of the loaded modules. -/
def scope (l : Loader) : Scope := fun moduleName name =>
  (l.module? moduleName).bind fun m => m.value? name

/-- Binds a variable to the value of a term. -/
def bindTerm (l : Loader) (moduleName name : String) (t : Term) : Loading Unit :=
  match (t.build l.scope).run l.serial with
  | .ok (v, serial) => ({ l with serial := serial }.bind moduleName name (some v), .ok ())
  | .error e => (l, .error (.failed e))

/-- Binds a variable to a variable of a loaded module.  What a package has no variable for is
looked for among its modules; a module is bound without a value. -/
def bindForeign (loadOther : Loader → String → Loading Unit) (l : Loader)
    (moduleName name fromModule variableName : String) : Loading Unit :=
  match l.module? fromModule with
  | none => (l, .error .missing)
  | some source =>
    match source.bindings.lookup variableName with
    | some v => (l.bind moduleName name v, .ok ())
    | none =>
      if source.directory.isNone then (l, .error .missing)
      else
        match loadOther l (fromModule ++ "." ++ variableName) with
        | (l, .ok ()) => (l.bind moduleName name none, .ok ())
        | (l, .error e) => (l, .error e)

/-- Runs the bindings of a module in order; `loadOther` loads the modules they refer to. -/
def runBindings (loadOther : Loader → String → Loading Unit) (moduleName : String) (l : Loader) :
    List (String × Binding) → Loading Unit
  | [] => (l, .ok ())
  | (name, .term t) :: rest =>
    match l.bindTerm moduleName name t with
    | (l, .ok ()) => runBindings loadOther moduleName l rest
    | (l, .error e) => (l, .error e)
  | (name, .foreign fromModule variableName) :: rest =>
    match loadOther l fromModule with
    | (l, .error e) => (l, .error e)
    | (l, .ok ()) =>
      match bindForeign loadOther l moduleName name fromModule variableName with
      | (l, .ok ()) => runBindings loadOther moduleName l rest
      | (l, .error e) => (l, .error e)

/-- Runs a module that has just been put into the loader; a failure takes it out again. -/
def runSource (loadOther : Loader → String → Loading Unit) (name : String) (l : Loader)
    (source : ModuleSource) : Loading Unit :=
  match source.failure with
  | some f => (l.erase name, .error (.failed f.toError))
  | none =>
    match runBindings loadOther name l source.bindings with
    | (l, .ok ()) => (l, .ok ())
    | (l, .error e) => (l.erase name, .error e)

/-- Loads what was found for a name. -/
def loadLocation (loadOther : Loader → String → Loading Unit) (name : String) (l : Loader) :
    Location → Loading Unit
  | .file source => runSource loadOther name (l.put name ⟨[], none⟩) source
  | .package directory source =>
    runSource loadOther name (l.put name ⟨[], some directory⟩) source
  | .bare directory => (l.put name ⟨[], some directory⟩, .ok ())
  | .unloadable => (l, .error .missing)

/-- Loads the module `step` of a package, or of the outermost directory when there is no package,
unless it is loaded already. -/
def loadStep (tree : FileTree) (loadOther : Loader → String → Loading Unit) (l : Loader)
    (package : Option String) (step : String) : Loading Unit :=
  let name := match package with
    | some p => p ++ "." ++ step
    | none => step
  match l.module? name with
  | some _ => (l, .ok ())
  | none =>
    let directory := match package with
      | some p => (l.module? p).bind fun m => m.directory
      | none => some []
    match directory.bind fun d => tree.locate d step with
    | none => (l, .error .missing)
    | some location =>
      match loadLocation loadOther name l location with
      | (l, .error e) => (l, .error e)
      | (l, .ok ()) =>
        match package with
        | some p => (l.bind p step none, .ok ())
        | none => (l, .ok ())

/-- Loads the packages of a dotted name from the outermost on, and the module last. -/
def loadSteps (tree : FileTree) (loadOther : Loader → String → Loading Unit)
    (package : Option String) (l : Loader) : List String → Loading Unit
  | [] => (l, .ok ())
  | step :: rest =>
    match loadStep tree loadOther l package step with
    | (l, .error e) => (l, .error e)
    | (l, .ok ()) =>
      let name := match package with
        | some p => p ++ "." ++ step
        | none => step
      loadSteps tree loadOther (some name) l rest

/-- Loads a module; `fuel` bounds how deep modules load one another. -/
def loadWithin (tree : FileTree) : Nat → Loader → String → Loading Unit
  | 0, l, _ => (l, .error .missing)
  | fuel + 1, l, name => loadSteps tree (loadWithin tree fuel) none l (Text.dotted name)

/-- Loads a module by its dotted name, with the packages it lies in.  Modules that load one
another are at most as deep as there are files and directories. -/
def load (tree : FileTree) (l : Loader) (name : String) : Loading Unit :=
  loadWithin tree tree.bound l name

end Loader

end ChatCommands
