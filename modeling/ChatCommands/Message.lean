import ChatCommands.Value.Basic

/-!
# Messages

An inbound message has a content, an author with permissions in the guild and in the channel, and
the channel it was sent to.

## Main definitions

* `Message` : an inbound message.
* `Message.held` : the permissions of the author in a scope.
-/

namespace ChatCommands

/-- An inbound message. -/
structure Message where
  content : Value
  author : Value
  isBot : Bool
  guildPermissions : Value
  channelPermissions : Value
  channel : Value

namespace Message

/-- What the author holds, in the channel of the message or in the whole guild. -/
def held (m : Message) (inChannel : Bool) : Value :=
  if inChannel then m.channelPermissions else m.guildPermissions

end Message

end ChatCommands
