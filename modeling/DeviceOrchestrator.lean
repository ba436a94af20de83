import DeviceOrchestrator.Verif.Drain
import DeviceOrchestrator.Verif.RunOnce
import DeviceOrchestrator.Verif.Exclusive
import DeviceOrchestrator.Verif.Retirement
import DeviceOrchestrator.Verif.Recoveries
import DeviceOrchestrator.Verif.Premise
import DeviceOrchestrator.Verif.Breaker
import DeviceOrchestrator.Verif.Suspicion
import DeviceOrchestrator.Verif.Blame
import DeviceOrchestrator.Verif.Probing
import DeviceOrchestrator.Verif.Attempts
import DeviceOrchestrator.Verif.Announcements
import DeviceOrchestrator.Verif.Leaks
import DeviceOrchestrator.Verif.SingleFlight
import DeviceOrchestrator.Verif.Sealing
import DeviceOrchestrator.Verif.Texts
import DeviceOrchestrator.Verif.Quiescence
import DeviceOrchestrator.Verif.Putbacks
import DeviceOrchestrator.Verif.Delays
import DeviceOrchestrator.Verif.Placement
import DeviceOrchestrator.Verif.Outages
import DeviceOrchestrator.Verif.Feed
import DeviceOrchestrator.Verif.Orphans
import DeviceOrchestrator.Verif.Secrecy
import DeviceOrchestrator.Verif.Identity
import DeviceOrchestrator.Verif.Realms
import DeviceOrchestrator.Verif.Wakeups
import DeviceOrchestrator.Verif.Reconciliation
import DeviceOrchestrator.Verif.Verdicts
import DeviceOrchestrator.Verif.Captured
import DeviceOrchestrator.Verif.Foreign
import DeviceOrchestrator.Verif.Openings
import DeviceOrchestrator.Verif.Rejections
import DeviceOrchestrator.Verif.Payload
import DeviceOrchestrator.Verif.Wire
import DeviceOrchestrator.Verif.Shutdown
import DeviceOrchestrator.Verif.Holding
import DeviceOrchestrator.Verif.Progress
import DeviceOrchestrator.Verif.Mirror
import DeviceOrchestrator.Verif.Console
import DeviceOrchestrator.Verif.Rollout
import DeviceOrchestrator.Verif.Lifecycle
import DeviceOrchestrator.Verif.Appium
import DeviceOrchestrator.Verif.CredentialFile
import DeviceOrchestrator.Verif.Episodes
import DeviceOrchestrator.Verif.Narration
import DeviceOrchestrator.Verif.Isolation
