/-!
# Tag names, kinds and operation names

The numbers and names that envelopes are written with. Every operation module owns a block of a
hundred kinds.
-/
namespace SubspaceOps

/-! ## Tags of the common header -/

namespace TagName

def subspaceId : String := "sid"
def capability : String := "auth"
def parent : String := "parent"
def marker : String := "d"
def operation : String := "op"

/-- Tags that no payload field may use. -/
def reserved : List String := [subspaceId, capability, marker, operation]

end TagName

/-- The value of the marker tag of an operation envelope. -/
def operationMarker : String := "subspace_op"

/-! ## Kinds -/

namespace Kind

def subspaceCreate : Int := 30100
def subspaceJoin : Int := 30200

def project : Int := 30101
def task : Int := 30102
def entity : Int := 30103
def relation : Int := 30104
def observation : Int := 30105

def post : Int := 30300
def propose : Int := 30301
def vote : Int := 30302
def invite : Int := 30303
def mint : Int := 30304

def model : Int := 30404
def dataset : Int := 30405
def compute : Int := 30406
def algo : Int := 30407
def valid : Int := 30408
def finetune : Int := 30409
def conversation : Int := 30410
def session : Int := 30411

def paper : Int := 30501
def annotation : Int := 30502
def review : Int := 30503
def aiAnalysis : Int := 30504
def discussion : Int := 30505
def readPaper : Int := 30506
def coCreatePaper : Int := 30507

def like : Int := 30600
def collect : Int := 30601
def share : Int := 30602
def comment : Int := 30603
def tag : Int := 30604
def follow : Int := 30605
def unfollow : Int := 30606
def question : Int := 30607
def room : Int := 30608
def message : Int := 30609

def communityCreate : Int := 30700
def communityInvite : Int := 30701
def channelCreate : Int := 30702
def channelMessage : Int := 30703

end Kind

/-! ## Operations -/

namespace Operation

def subspaceCreate : String := "subspace_create"
def subspaceJoin : String := "subspace_join"

def post : String := "post"
def propose : String := "propose"
def vote : String := "vote"
def invite : String := "invite"
def mint : String := "mint"

def project : String := "project"
def task : String := "task"
def entity : String := "entity"
def relation : String := "relation"
def observation : String := "observation"

def model : String := "model"
def dataset : String := "dataset"
def compute : String := "compute"
def algo : String := "algo"
def valid : String := "valid"
def finetune : String := "finetune"
def conversation : String := "conversation"
def session : String := "session"

def paper : String := "paper"
def annotation : String := "annotation"
def review : String := "review"
def aiAnalysis : String := "ai_analysis"
def discussion : String := "discussion"
def readPaper : String := "read_paper"
def coCreatePaper : String := "co_create_paper"

def like : String := "like"
def collect : String := "collect"
def share : String := "share"
def comment : String := "comment"
def tag : String := "tag"
def follow : String := "follow"
def unfollow : String := "unfollow"
def question : String := "question"
def room : String := "room"
def message : String := "message"

def communityCreate : String := "community_create"
def communityInvite : String := "community_invite"
def channelCreate : String := "channel_create"
def channelMessage : String := "channel_message"

end Operation

/-! ## Lists of allowed operations that subspaces declare -/

namespace AllowedList

def project : String := "project=30101,task=30102"

def graph : String := "entity=30103,relation=30104,observation=30105"

def governance : String := "post=30300,propose=30301,vote=30302,invite=30303,mint=30304"

def modelGraph : String := "dataset=30405,finetune=30409,conversation=30410,session=30411"

def openResearch : String :=
  "paper=30501,annotation=30502,review=30503,ai_analysis=30504," ++
    "discussion=30505,read_paper=30506,co_create_paper=30507"

def social : String :=
  "like=30600,collect=30601,share=30602,comment=30603,tag=30604," ++
    "follow=30605,unfollow=30606,question=30607,room=30608,message=30609"

def community : String :=
  "community_create=30700,community_invite=30701," ++
    "channel_create=30702,channel_message=30703"

end AllowedList

end SubspaceOps
