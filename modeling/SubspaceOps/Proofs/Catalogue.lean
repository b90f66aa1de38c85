import SubspaceOps.Catalogue
import SubspaceOps.Proofs.Registry.Consistency

/-!
# Facts about the built-in modules

What each built-in module and record type has to satisfy for the general theorems: its payload tags
are distinct and not reserved, it hides no part that its records need, and the registry of the
built-in modules leads from its operation to a kind and back.
-/
namespace SubspaceOps

variable {m : OperationModule} {t : RecordType}

theorem tags_builtIn : ∀ t ∈ Catalogue.modules.flatMap OperationModule.records,
    (t.fields.map PayloadField.tag).Nodup ∧ ∀ f ∈ t.fields, f.tag ∉ TagName.reserved := by
  decide +kernel

theorem unhidden_builtIn :
    ∀ t ∈ Catalogue.modules.flatMap OperationModule.records, t.Unhidden := by
  decide +kernel

theorem enrolled_builtIn :
    ∀ m ∈ Catalogue.modules, Catalogue.registry.module? m.name = some m := by
  decide +kernel

/-- No built-in module has two record types for one operation. -/
theorem recordType?_builtIn : ∀ m ∈ Catalogue.modules, ∀ t ∈ m.records,
    m.recordType? t.operation = some t := by
  decide +kernel

theorem exists_routes_builtIn (hm : m ∈ Catalogue.modules) (ht : t ∈ m.records) :
    ∃ kind, Catalogue.registry.Routes t kind :=
  (Registry.consistent_run _).exists_routes_of_module (enrolled_builtIn m hm)
    (recordType?_builtIn m hm t ht)

end SubspaceOps
