import HostLink.Session.Run
import HostLink.Proofs.Accounting
import HostLink.Proofs.Timeline
import HostLink.Proofs.Deadlines
import HostLink.Proofs.Readiness
import HostLink.Proofs.Activation
import HostLink.Proofs.Sessions
import HostLink.Proofs.Conversation
import HostLink.Proofs.Classification
import HostLink.Proofs.Receiving
import HostLink.Proofs.LocalFailure
import HostLink.Proofs.FanOut
import HostLink.Proofs.Notifications
import HostLink.Proofs.Carriage
import HostLink.Proofs.Interchange
import HostLink.Proofs.OutboundTrace
import HostLink.Proofs.Ownership
import HostLink.Proofs.Closing
import HostLink.Proofs.Freezing
import HostLink.Proofs.RequestText
import HostLink.Proofs.SubscriptionLedger
import HostLink.Proofs.Isolation
import HostLink.Proofs.IdForms
import HostLink.Proofs.Headers
import HostLink.Proofs.Lookups
import HostLink.Proofs.Settlement
import HostLink.Proofs.Flattening
import HostLink.Proofs.Timeouts
import HostLink.Proofs.Sweeping
