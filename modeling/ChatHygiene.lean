import ChatHygiene.Binding.Claim
import ChatHygiene.Binding.Preclaim
import ChatHygiene.Connection.Attended
import ChatHygiene.Connection.Gate
import ChatHygiene.Connection.Loss
import ChatHygiene.Connection.Overflow
import ChatHygiene.Connection.Refused
import ChatHygiene.Connection.Window
import ChatHygiene.Detection.ZeroWidth
import ChatHygiene.Lifecycle.Blocks
import ChatHygiene.Lifecycle.Causes
import ChatHygiene.Lifecycle.DryRun
import ChatHygiene.Lifecycle.Invariant
import ChatHygiene.Lifecycle.Overtaken
import ChatHygiene.Lifecycle.Replies
import ChatHygiene.Outbox.Cleanup
import ChatHygiene.Outbox.Dispatches
import ChatHygiene.Outbox.Head
import ChatHygiene.Outbox.Spared
import ChatHygiene.Outbox.Traced
import ChatHygiene.Outbox.Stale
import ChatHygiene.Owner.Claim
import ChatHygiene.Owner.Convergence
import ChatHygiene.Retention.Purge
import ChatHygiene.Storage.KeyMaterial
import ChatHygiene.Storage.Timestamps
import ChatHygiene.System.Ingress
import ChatHygiene.Telegram.Parser
import ChatHygiene.Telegram.Retries
import ChatHygiene.Updates.Acknowledged
import ChatHygiene.Updates.Once
import ChatHygiene.Updates.Restart
import ChatHygiene.Verification.Upgrade
import ChatHygiene.Owner.Authority
