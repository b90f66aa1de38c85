import SubspaceOps.Catalogue
import SubspaceOps.Declaration.Loading

/-!
# Building a registry

A registry is built from the built-in modules and the modules of declaration files, in this order,
and locked.
-/
namespace SubspaceOps.Registry

open Journal Declaration

/-- Register modules one after the other. -/
def registerAll (r : Registry) : List OperationModule → Logged Registry
  | [] => .pure r
  | m :: ms => (r.registerModuleLogged m).andThen fun r => r.registerAll ms

/-- Load and register the modules of files one after the other; the serials count from the given
one. -/
def registerFiles (r : Registry) : Nat → List SourceFile → Logged Registry
  | _, [] => .pure r
  | serial, f :: fs =>
    (Declaration.load serial f).andThen fun m =>
      (r.registerModuleLogged m).andThen fun r => r.registerFiles (serial + 1) fs

def builtEntry (r : Registry) : Entry :=
  ⟨info, "Subspace.Registry", "registry loaded: " ++ toString r.size ++ " kinds, " ++
    toString r.modules.size ++ " modules"⟩

/-- The locked registry of the built-in modules, if they are asked for, and of the files. -/
def build (builtIn : Bool) (files : List SourceFile) : Logged Registry :=
  (empty.registerAll (if builtIn then Catalogue.modules else [])).andThen fun r =>
    (r.registerFiles Catalogue.modules.length files).andThen fun r =>
      ⟨.ok r.lock, [builtEntry r]⟩

end SubspaceOps.Registry
