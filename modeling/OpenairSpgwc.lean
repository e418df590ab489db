import OpenairSpgwc.Common.LabelRoundTrip
import OpenairSpgwc.Common.LabelSafety
import OpenairSpgwc.Common.Runtime
import OpenairSpgwc.Common.UidHistory
import OpenairSpgwc.Common.UintGenerator
import OpenairSpgwc.Foundation.Index
import OpenairSpgwc.Foundation.Lifecycle
import OpenairSpgwc.Foundation.Transition
import OpenairSpgwc.Gtpv2c.Consistency
import OpenairSpgwc.Gtpv2c.Outcome
import OpenairSpgwc.Gtpv2c.Reception
import OpenairSpgwc.Itti.Timers
import OpenairSpgwc.Pfcp.Consistency
import OpenairSpgwc.Pfcp.Delivery
import OpenairSpgwc.Pfcp.Outcome
import OpenairSpgwc.Pfcp.Peers
import OpenairSpgwc.Pgw.AddressFamilies
import OpenairSpgwc.Pgw.AddressUniqueness
import OpenairSpgwc.Pgw.Addressed
import OpenairSpgwc.Pgw.ApnContexts
import OpenairSpgwc.Pgw.Answers
import OpenairSpgwc.Pgw.BearerMap
import OpenairSpgwc.Pgw.ConfiguredAddresses
import OpenairSpgwc.Pgw.CreationAnswers
import OpenairSpgwc.Pgw.RejectedCreate
import OpenairSpgwc.Pgw.Ipcp
import OpenairSpgwc.Pgw.Reports
import OpenairSpgwc.Pgw.Host
import OpenairSpgwc.Pgw.ModifyAnswers
import OpenairSpgwc.Pgw.Rollback
import OpenairSpgwc.Pgw.Routing
import OpenairSpgwc.Pgw.SetAllocator
import OpenairSpgwc.Pgw.UserPlane
import OpenairSpgwc.Sgw.Answers
import OpenairSpgwc.Sgw.BearerIdentities
import OpenairSpgwc.Sgw.BearerMap
import OpenairSpgwc.Sgw.Collision
import OpenairSpgwc.Sgw.Maps
import OpenairSpgwc.Sgw.ModifyCause
import OpenairSpgwc.Sgw.Notifications
import OpenairSpgwc.Sgw.Release
import OpenairSpgwc.Sxab.Bookkeeping
import OpenairSpgwc.Sxab.Candidates
import OpenairSpgwc.Sxab.Restoration
import OpenairSpgwc.Sxab.Selection
import OpenairSpgwc.Sxab.Supervision
import OpenairSpgwc.SubscriberContexts
import OpenairSpgwc.TeidGeneration
import OpenairSpgwc.TransactionIds
