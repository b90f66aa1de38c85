import SubspaceOps.OperationModule
import SubspaceOps.Record.Setter

/-!
# Governance operations

Posts, proposals, votes, invitations and the minting of tokens.
-/
namespace SubspaceOps.Governance

open PayloadField

def post : RecordType := .plain "PostEvent" Operation.post
  [named "content_type"]
  [.of "set_content_type" ["content_type"] []
      [("content_type", "content_type")]]

def propose : RecordType := .plain "ProposeEvent" Operation.propose
  [(named "proposal_id").needed, (named "rules").optional]
  [.of "set_proposal" ["proposal_id"] [("rules", .text "")]
      [("proposal_id", "proposal_id"), ("rules", "rules")]]

def vote : RecordType := .plain "VoteEvent" Operation.vote
  [(named "proposal_id").needed, (named "vote").needed]
  [.of "set_vote" ["proposal_id", "vote"] []
      [("proposal_id", "proposal_id"), ("vote", "vote")]]

def invite : RecordType := .plain "InviteEvent" Operation.invite
  [(named "inviter_addr").needed, (named "rules").optional]
  [.of "set_inviter" ["inviter_addr"] [("rules", .text "")]
      [("inviter_addr", "inviter_addr"), ("rules", "rules")]]

def mint : RecordType := .plain "MintEvent" Operation.mint
  [(named "token_name").needed, (named "token_symbol").needed, named "token_decimals",
    named "initial_supply", named "drop_ratio"]
  [.of "set_token_info" ["name", "symbol", "decimals", "initial_supply", "drop_ratio"] []
      [("token_name", "name"), ("token_symbol", "symbol"), ("token_decimals", "decimals"),
       ("initial_supply", "initial_supply"), ("drop_ratio", "drop_ratio")]]

/-- The operations that a subspace declares by default. -/
def operations : OperationModule where
  serial := 1
  name := "governance"
  package := "cip01"
  description := "Subspace governance: posts, proposals, votes, invites, token mint"
  kinds := ⟨[(Kind.post, Operation.post), (Kind.propose, Operation.propose),
      (Kind.vote, Operation.vote), (Kind.invite, Operation.invite),
      (Kind.mint, Operation.mint)], by decide⟩
  records := [post, propose, vote, invite, mint]
  declared := by decide

end SubspaceOps.Governance
