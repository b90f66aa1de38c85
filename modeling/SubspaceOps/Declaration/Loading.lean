import SubspaceOps.Declaration.Generation
import SubspaceOps.Declaration.Reader
import SubspaceOps.Journal
import SubspaceOps.Json.Reader

/-!
# Loading module declarations

A declaration is kept in a file, as JSON in UTF-8. Declarations are of Unicode scalar values;
documents with an unpaired surrogate lie outside, and loading stops at them with a fault of its own.
-/
namespace SubspaceOps.Declaration

open Journal

/-- A file by its path, with its bytes if it exists. -/
structure SourceFile where
  path : String
  bytes : Option ByteArray

/-- The JSON value in a file. -/
def SourceFile.json (f : SourceFile) : Except Fault Json :=
  match f.bytes with
  | none => .error .missingFile
  | some bytes =>
    match String.fromUTF8? bytes with
    | none => .error (.rejected (.unreadableDeclaration f.path .notUtf8))
    | some s =>
      match Json.read s with
      | .error flaw => .error (.rejected (.unreadableDeclaration f.path (.json flaw)))
      | .ok v =>
        match v.inCharacters? with
        | some v => .ok v
        | none => .error .unpairedSurrogate

def loadedEntry (m : OperationModule) (f : SourceFile) : Entry :=
  ⟨info, "Subspace.Schema", "module schema loaded: '" ++ m.name ++ "' from " ++ f.path⟩

/-- The module that a file declares. -/
def load (serial : Nat) (f : SourceFile) : Logged OperationModule :=
  match f.json >>= ofJson >>= fun d => d.toModule serial with
  | .ok m => ⟨.ok m, [loadedEntry m f]⟩
  | .error e => ⟨.error e, []⟩

end SubspaceOps.Declaration
