import SubspaceOps.Record.Basic

/-!
# Describing setters

A setter is given by the names of its parameters, those that may be left out behind the others, and
by its body. In most bodies the parameters have the names of the fields that they are assigned to.
-/
namespace SubspaceOps

namespace Setter

/-- Parameters without and with a default. -/
def paramsOf (needed : List String) (defaults : List (String × FieldInput)) : List SetterParam :=
  needed.map (⟨·, none⟩) ++ defaults.map fun d => ⟨d.1, some d.2⟩

def of (name : String) (needed : List String) (defaults : List (String × FieldInput))
    (body : List (String × String))
    (distinct : ((paramsOf needed defaults).map SetterParam.name).Nodup := by decide)
    (once : (body.map Prod.fst).Nodup := by decide)
    (bound : ∀ a ∈ body, a.2 ∈ (paramsOf needed defaults).map SetterParam.name := by decide) :
    Setter :=
  ⟨name, paramsOf needed defaults, body, distinct, once, bound⟩

end Setter

/-- A record type without lifecycle checks. -/
def RecordType.plain (name operation : String) (fields : List PayloadField)
    (setters : List Setter) (distinct : (fields.map PayloadField.name).Nodup := by decide) :
    RecordType :=
  { name, operation, fields, setters, role := .plain, distinct }

end SubspaceOps
