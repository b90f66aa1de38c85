import SubspaceOps.OperationModule
import SubspaceOps.Record.Setter

/-!
# Social interactions and communities

Reactions to objects, follows, questions, rooms and messages; communities, invitations to them, and
their channels.
-/
namespace SubspaceOps.Social

open PayloadField

def like : RecordType := .plain "LikeEvent" Operation.like
  [(named "object_id").needed, (named "user_id").needed]
  [.of "set_like_info" ["object_id", "user_id"] []
      [("object_id", "object_id"), ("user_id", "user_id")]]

def collect : RecordType := .plain "CollectEvent" Operation.collect
  [(named "object_id").needed, (named "user_id").needed]
  [.of "set_collect_info" ["object_id", "user_id"] []
      [("object_id", "object_id"), ("user_id", "user_id")]]

def share : RecordType := .plain "ShareEvent" Operation.share
  [(named "object_id").needed, (named "user_id").needed, named "platform", named "clicks"]
  [.of "set_share_info" ["object_id", "user_id", "platform", "clicks"] []
      [("object_id", "object_id"), ("user_id", "user_id"), ("platform", "platform"),
       ("clicks", "clicks")]]

def comment : RecordType := .plain "CommentEvent" Operation.comment
  [(named "object_id").needed, (named "user_id").needed, (named "parent").optional]
  [.of "set_comment_info" ["object_id", "user_id"] [("parent", .text "")]
      [("object_id", "object_id"), ("user_id", "user_id"), ("parent", "parent")]]

def tag : RecordType := .plain "TagEvent" Operation.tag
  [(named "object_id").needed, (named "tag").needed]
  [.of "set_tag_info" ["object_id", "tag"] []
      [("object_id", "object_id"), ("tag", "tag")]]

def follow : RecordType := .plain "FollowEvent" Operation.follow
  [(named "user_id").needed, (named "target_id").needed]
  [.of "set_follow_info" ["user_id", "target_id"] []
      [("user_id", "user_id"), ("target_id", "target_id")]]

def unfollow : RecordType := .plain "UnfollowEvent" Operation.unfollow
  [(named "user_id").needed, (named "target_id").needed]
  [.of "set_unfollow_info" ["user_id", "target_id"] []
      [("user_id", "user_id"), ("target_id", "target_id")]]

def question : RecordType := .plain "QuestionEvent" Operation.question
  [(named "object_id").needed, (named "user_id").needed, named "quality"]
  [.of "set_question_info" ["object_id", "user_id", "quality"] []
      [("object_id", "object_id"), ("user_id", "user_id"), ("quality", "quality")]]

def room : RecordType := .plain "RoomEvent" Operation.room
  [(named "name").needed, named "description", (named "members").holding .list]
  [.of "set_room_info" ["name", "description"] [("members", .items [])]
      [("name", "name"), ("description", "description"), ("members", "members")]]

def message : RecordType := .plain "MessageEvent" Operation.message
  [(named "room_id").needed, (named "reply_to").optional, (named "mentions").holding .list]
  [.of "set_message_info" ["room_id"] [("reply_to", .text ""), ("mentions", .items [])]
      [("room_id", "room_id"), ("reply_to", "reply_to"), ("mentions", "mentions")]]

/-- Interactions between users. -/
def operations : OperationModule where
  serial := 5
  name := "social"
  package := "cip06"
  description := "Social interactions: reactions, follows, rooms and messages"
  kinds := ⟨[(Kind.like, Operation.like), (Kind.collect, Operation.collect),
      (Kind.share, Operation.share), (Kind.comment, Operation.comment),
      (Kind.tag, Operation.tag), (Kind.follow, Operation.follow),
      (Kind.unfollow, Operation.unfollow), (Kind.question, Operation.question),
      (Kind.room, Operation.room), (Kind.message, Operation.message)], by decide⟩
  records := [like, collect, share, comment, tag, follow, unfollow, question, room, message]
  declared := by decide

end SubspaceOps.Social

namespace SubspaceOps.Community

open PayloadField

def communityCreate : RecordType := .plain "CommunityCreateEvent" Operation.communityCreate
  [(named "community_id").needed, (named "name").needed, (named "community_type").under "type"]
  [.of "set_community_create_info" ["community_id", "name", "community_type"] []
      [("community_id", "community_id"), ("name", "name"), ("community_type", "community_type")]]

def communityInvite : RecordType := .plain "CommunityInviteEvent" Operation.communityInvite
  [(named "community_id").needed, (named "inviter_id").needed, (named "invitee_id").needed,
    named "method"]
  [.of "set_community_invite_info" ["community_id", "inviter_id", "invitee_id", "method"] []
      [("community_id", "community_id"), ("inviter_id", "inviter_id"), ("invitee_id", "invitee_id"),
       ("method", "method")]]

def channelCreate : RecordType := .plain "ChannelCreateEvent" Operation.channelCreate
  [(named "community_id").needed, (named "channel_id").needed, named "name",
    (named "channel_type").under "type"]
  [.of "set_channel_create_info" ["community_id", "channel_id", "name", "channel_type"] []
      [("community_id", "community_id"), ("channel_id", "channel_id"), ("name", "name"),
       ("channel_type", "channel_type")]]

def channelMessage : RecordType := .plain "ChannelMessageEvent" Operation.channelMessage
  [(named "channel_id").needed, (named "user_id").needed, (named "reply_to").optional]
  [.of "set_channel_message_info" ["channel_id", "user_id"] [("reply_to", .text "")]
      [("channel_id", "channel_id"), ("user_id", "user_id"), ("reply_to", "reply_to")]]

/-- Communities and channels. -/
def operations : OperationModule where
  serial := 6
  name := "community"
  package := "cip07"
  description := ""
  kinds := ⟨[(Kind.communityCreate, Operation.communityCreate),
      (Kind.communityInvite, Operation.communityInvite),
      (Kind.channelCreate, Operation.channelCreate),
      (Kind.channelMessage, Operation.channelMessage)], by decide⟩
  records := [communityCreate, communityInvite, channelCreate, channelMessage]
  declared := by decide

end SubspaceOps.Community
