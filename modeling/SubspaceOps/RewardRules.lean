import SubspaceOps.Table
import SubspaceOps.Text.Numeral
import SubspaceOps.Text.Split

/-!
# Reward rules

The drop ratio of a token is a list of `kind:points` segments. Segments that are not two integers
are passed over.
-/
namespace SubspaceOps.RewardRules

def segment? (s : String) : Option (Int × Int) :=
  match Text.split ':' s with
  | [kind, points] => do
    let kind ← Text.readInteger? kind
    let points ← Text.readInteger? points
    return (kind, points)
  | _ => none

/-- The points for each kind. -/
def read (s : String) : Table Int Int := .ofList ((Text.split ',' s).filterMap segment?)

end SubspaceOps.RewardRules
