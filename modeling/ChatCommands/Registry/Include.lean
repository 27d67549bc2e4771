import ChatCommands.Package.Walk
import ChatCommands.Registry.Basic
import ChatCommands.Registry.Roots

/-!
# Registering packages

A package is registered module by module: each module of its listing is loaded and its roots are
registered before the next one.  When a module fails, what the modules before it have registered
stays, and nothing of the failing module or of a later one is registered.

## Main definitions

* `Session` : a registry with the modules loaded so far.
* `Session.includeModule` : registers the roots of one module.
* `Session.includePackage` : registers the roots of all modules of a package.
-/

namespace ChatCommands

/-- A registry with the modules loaded so far. -/
structure Session where
  registry : Registry
  loader : Loader

namespace Session

/-- Nothing registered and nothing loaded. -/
def empty : Session := ⟨Registry.empty, Loader.empty⟩

/-- Registers roots; a failure leaves the registry as it was. -/
def register (table : Converters) (s : Session) (roots : List Value) : Session × Run Unit :=
  let run := s.registry.register table roots
  match run.outcome with
  | .ok registry => ({ s with registry := registry }, ⟨run.events, .ok ()⟩)
  | .error e => (s, ⟨run.events, .error e⟩)

/-- The roots of a loaded module. -/
def rootsOf (s : Session) (name : String) : Except Error (List Command) :=
  match s.loader.module? name with
  | some m => Value.checked (ChatCommands.rootsOf m.values)
  | none => .ok []

/-- Loads a module and registers its roots. -/
def includeModule (tree : FileTree) (table : Converters) (s : Session) (name : String) :
    Session × Run (List Command) :=
  match importModule tree s.loader name with
  | (l, .error e) => ({ s with loader := l }, Run.fail e)
  | (l, .ok ()) =>
    let s := { s with loader := l }
    match s.rootsOf name with
    | .error e => (s, Run.fail e)
    | .ok roots =>
      if roots.isEmpty then (s, Run.done [])
      else
        match s.register table (roots.map Value.command) with
        | (s, run) => (s, run.andThen fun _ => Run.done roots)

/-- Loads modules one after another and registers their roots. -/
def includeModules (tree : FileTree) (table : Converters) (s : Session) :
    List String → Session × Run (List Command)
  | [] => (s, Run.done [])
  | name :: rest =>
    match includeModule tree table s name with
    | (s, run) =>
      match run.outcome with
      | .error e => (s, ⟨run.events, .error e⟩)
      | .ok roots =>
        match includeModules tree table s rest with
        | (s, others) =>
          (s, run.andThen fun _ => others.andThen fun more => Run.done (roots ++ more))

/-- Registers the roots of all modules of a package. -/
def includePackage (tree : FileTree) (table : Converters) (s : Session) (package : Value)
    (recursive : Bool) : Session × Run (List Command) :=
  match modulesOf tree s.loader package recursive with
  | (l, .error e) => ({ s with loader := l }, Run.fail e)
  | (l, .ok names) => includeModules tree table { s with loader := l } names

end Session

end ChatCommands
