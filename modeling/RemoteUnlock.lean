import RemoteUnlock.Python.Text
import RemoteUnlock.Python.Decimal
import RemoteUnlock.Python.Float64
import RemoteUnlock.Python.FloatText
import RemoteUnlock.Python.Items
import RemoteUnlock.Python.Json
import RemoteUnlock.Python.JsonPrint
import RemoteUnlock.Python.JsonParse
import RemoteUnlock.Python.JsonRoundTrip
import RemoteUnlock.Python.TextFile
import RemoteUnlock.Python.Exec
import RemoteUnlock.Python.Limits
import RemoteUnlock.Library.HashChain
import RemoteUnlock.Audit.Sha256
import RemoteUnlock.Audit.Verify
import RemoteUnlock.Audit.Tamper
import RemoteUnlock.Audit.Append
import RemoteUnlock.Audit.Runs
import RemoteUnlock.Audit.Anchor
import RemoteUnlock.Audit.Reopen
import RemoteUnlock.Library.Matching
import RemoteUnlock.Library.Runs
import RemoteUnlock.Common.SignedMessage
import RemoteUnlock.Common.Config
import RemoteUnlock.Listener.Backoff
import RemoteUnlock.Listener.Broker
import RemoteUnlock.Listener.Service
import RemoteUnlock.Listener.Session
import RemoteUnlock.Listener.Quiet
import RemoteUnlock.Listener.SessionEffect
import RemoteUnlock.Listener.Pam
import RemoteUnlock.Listener.PamEffect
import RemoteUnlock.Listener.World
import RemoteUnlock.Listener.Authorisation
import RemoteUnlock.Listener.GrantUse
import RemoteUnlock.Listener.FailClosed
import RemoteUnlock.Common.Reload
import RemoteUnlock.Listener.Coherence
import RemoteUnlock.Listener.Operations
import RemoteUnlock.Common.Save
import RemoteUnlock.Pair.Commands
import RemoteUnlock.Library.Overlap
import RemoteUnlock.Pair.Interleaving
import RemoteUnlock.Pair.Registry
import RemoteUnlock.Listener.Revocation
import RemoteUnlock.Client.Unlock
import RemoteUnlock.Client.Network
import RemoteUnlock.Client.Agreement
import RemoteUnlock.Listener.PamRequest
import RemoteUnlock.PamHelper.Request
import RemoteUnlock.PamHelper.Login
import RemoteUnlock.Listener.Alerts
import RemoteUnlock.Listener.ChallengeStore
import RemoteUnlock.Listener.Charges
import RemoteUnlock.Listener.Caps
import RemoteUnlock.Listener.Raising
import RemoteUnlock.Listener.Accounting
import RemoteUnlock.Listener.Strain
import RemoteUnlock.Listener.Locking
import RemoteUnlock.Listener.Lockout
import RemoteUnlock.Listener.GrantWaste
import RemoteUnlock.Library.BigEndian
import RemoteUnlock.Common.Encodings
import RemoteUnlock.Windows.Service
import RemoteUnlock.Windows.Handler
import RemoteUnlock.Windows.Steps
import RemoteUnlock.Windows.Backed
import RemoteUnlock.Windows.Delivery
import RemoteUnlock.Audit.Verdicts
import RemoteUnlock.Audit.Judgement
import RemoteUnlock.Listener.Counter
import RemoteUnlock.Listener.Course
import RemoteUnlock.Listener.Growth
import RemoteUnlock.Library.Unwinding
import RemoteUnlock.Python.Paired
import RemoteUnlock.Listener.Twins
import RemoteUnlock.Listener.TwinSessions
import RemoteUnlock.Listener.Avoids
import RemoteUnlock.Listener.Isolation
import RemoteUnlock.Listener.Disturbance
import RemoteUnlock.Listener.Handshake
import RemoteUnlock.Client.Completion
import RemoteUnlock.Listener.WakeUps
import RemoteUnlock.Python.Milliseconds
import RemoteUnlock.Library.SlidingWindow
import RemoteUnlock.Library.Pattern
import RemoteUnlock.Library.Reading
import RemoteUnlock.Common.Address
import RemoteUnlock.Windows.RateLimit
import RemoteUnlock.Windows.Pipe
import RemoteUnlock.Windows.Tile
import RemoteUnlock.FingerprintPrimary.Scripts
import RemoteUnlock.FingerprintPrimary.Lossless
import RemoteUnlock.FingerprintPrimary.Report
import RemoteUnlock.MobileApp.NumberText
import RemoteUnlock.MobileApp.Crypto
import RemoteUnlock.MobileApp.Network
import RemoteUnlock.Pair.Wildcard
import RemoteUnlock.Pair.KeyFiles
import RemoteUnlock.MobileApp.Agreement
import RemoteUnlock.Pair.Enrolment
