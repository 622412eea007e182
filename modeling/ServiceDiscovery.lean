import ServiceDiscovery.Json.Service
import ServiceDiscovery.Main
import ServiceDiscovery.Scenario.BrowseSession
import ServiceDiscovery.Scenario.MulticastSession
import ServiceDiscovery.Scenario.Session
import ServiceDiscovery.Proofs.Subscription.LivePeers
import ServiceDiscovery.Proofs.Subscription.Origins
import ServiceDiscovery.Proofs.Subscription.Independence
import ServiceDiscovery.Proofs.Subscription.Resubscribing
import ServiceDiscovery.Proofs.Subscription.Waiting
import ServiceDiscovery.Proofs.Browsing.Informed
import ServiceDiscovery.Proofs.Browsing.Run
import ServiceDiscovery.Proofs.Announcer.Run
import ServiceDiscovery.Proofs.Announcer.Order
import ServiceDiscovery.Proofs.Announcer.Status
import ServiceDiscovery.Proofs.Announcer.Supervision
import ServiceDiscovery.Proofs.Announcer.Ownership
import ServiceDiscovery.Proofs.Announcer.Freshness
import ServiceDiscovery.Proofs.Announcer.Rest
import ServiceDiscovery.Proofs.Announcer.Late
import ServiceDiscovery.Proofs.Announcer.Prompt
import ServiceDiscovery.Proofs.Announcer.Publication
import ServiceDiscovery.Proofs.Announcer.Lifetime
import ServiceDiscovery.Proofs.Announcer.Conduct
import ServiceDiscovery.Proofs.Announcer.Whereabouts
import ServiceDiscovery.Proofs.Announcer.LeftBehind
import ServiceDiscovery.Proofs.Announcer.Accounting
import ServiceDiscovery.Proofs.Announcer.Handles
import ServiceDiscovery.Proofs.Multicast.Delivery
import ServiceDiscovery.Proofs.Multicast.Attendance
import ServiceDiscovery.Proofs.Multicast.Probing
import ServiceDiscovery.Proofs.Multicast.Logbook
import ServiceDiscovery.Proofs.View.Copying
import ServiceDiscovery.Proofs.View.Own
import ServiceDiscovery.Proofs.Address.Text
import ServiceDiscovery.Proofs.Json.Text
import ServiceDiscovery.Proofs.View.Digest
import ServiceDiscovery.Proofs.View.Arrangement
import ServiceDiscovery.Proofs.View.Sequence
import ServiceDiscovery.Proofs.Multicast.Vigil
import ServiceDiscovery.Proofs.Api.Peers
import ServiceDiscovery.Proofs.Announcer.Dismissal
import ServiceDiscovery.Proofs.Announcer.Attempt
import ServiceDiscovery.Proofs.Announcer.Journal
import ServiceDiscovery.Proofs.View.History
import ServiceDiscovery.Proofs.Subscription.Attempts
import ServiceDiscovery.Proofs.Subscription.Refresh
import ServiceDiscovery.Proofs.Address.Order
import ServiceDiscovery.Proofs.Directory.Watchers
import ServiceDiscovery.Proofs.Json.Reading
import ServiceDiscovery.Proofs.Json.Services
import ServiceDiscovery.Proofs.Multicast.Publishing
import ServiceDiscovery.Proofs.Time.Text
