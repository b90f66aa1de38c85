import SubspaceOps.Catalogue.Governance
import SubspaceOps.Catalogue.Graphs
import SubspaceOps.Catalogue.Research
import SubspaceOps.Catalogue.Society
import SubspaceOps.Lifecycle.Operations
import SubspaceOps.Registry.Basic

/-!
# The built-in modules

The modules that a registry is filled with unless it is asked to do without them.
-/
namespace SubspaceOps.Catalogue

/-- The modules in the order of their registration. -/
def modules : List OperationModule :=
  [Lifecycle.operations, Governance.operations, CommonGraph.operations, ModelGraph.operations,
    OpenResearch.operations, Social.operations, Community.operations]

def module? (name : String) : Option OperationModule := modules.find? (·.name = name)

/-- The record type with the given name. -/
def recordType? (name : String) : Option RecordType :=
  (modules.flatMap OperationModule.records).find? (·.name = name)

/-- The registry of exactly the built-in modules, locked. -/
def registry : Registry := .run (modules.map .whole ++ [.lock])

end SubspaceOps.Catalogue
