import SinoChat.Common.JsString
import SinoChat.Common.Json
import SinoChat.Common.Canonical
import SinoChat.Common.Table
import SinoChat.Common.Sorting
import SinoChat.Common.JsMap
import SinoChat.Common.Run
import SinoChat.Common.Intervals
import SinoChat.Common.Evolve
import SinoChat.Model.Account
import SinoChat.Model.Http
import SinoChat.Model.SyncToken
import SinoChat.Model.ToDeviceRequest
import SinoChat.Model.DeviceList
import SinoChat.Model.Store
import SinoChat.Model.ToDevice
import SinoChat.Model.SyncBatchTriggers
import SinoChat.Model.KeyRequest
import SinoChat.Model.KeyDirectory
import SinoChat.Model.Service
import SinoChat.ToDevice.Spec
import SinoChat.ToDevice.Log
import SinoChat.ToDevice.Script
import SinoChat.ToDevice.TokenBinding
import SinoChat.ToDevice.Window
import SinoChat.ToDevice.Lineage
import SinoChat.DeviceList.Stream
import SinoChat.DeviceList.Delta
import SinoChat.Storage.Purge
import SinoChat.ToDevice.SendOnce
import SinoChat.ToDevice.WindowLaw
import SinoChat.ToDevice.Acknowledge
import SinoChat.ToDevice.Replay
import SinoChat.KeyDirectory.Tables
import SinoChat.KeyDirectory.SingleUse
import SinoChat.Model.WebApi
import SinoChat.Model.WebTransport
import SinoChat.Model.SyncLoop
import SinoChat.Client.Language
import SinoChat.Client.Recovery
import SinoChat.Client.Pair
import SinoChat.Model.Storage
import SinoChat.Model.VersionPurge
import SinoChat.Model.Report
import SinoChat.Model.ReportClosure
import SinoChat.Reports.CaseFile
import SinoChat.Reports.Lease
import SinoChat.Reports.Closure
import SinoChat.Model.KeyClock
import SinoChat.KeyDirectory.Stamps
import SinoChat.KeyDirectory.ClockOrder
import SinoChat.Model.Attendance
import SinoChat.Model.AttendanceServices
import SinoChat.Model.AttendanceTriggers
import SinoChat.Attendance.Selection
import SinoChat.Attendance.Held
import SinoChat.Attendance.Attended
import SinoChat.Attendance.Consistent
import SinoChat.Attendance.Moved
import SinoChat.Attendance.Transactions
import SinoChat.Attendance.Operations
import SinoChat.Attendance.Commit
import SinoChat.Attendance.Script
import SinoChat.Attendance.Admitted
import SinoChat.Attendance.Safety
import SinoChat.Attendance.Resolvable
import SinoChat.Model.Invitations
import SinoChat.Attendance.Origins
import SinoChat.Common.Base64
import SinoChat.Model.Rows
import SinoChat.Model.Messages
import SinoChat.Model.Uploads
import SinoChat.Model.Retention
import SinoChat.Model.MessagePage
import SinoChat.Model.Messaging
import SinoChat.Messages.Effects
import SinoChat.Messages.Sends
import SinoChat.Messages.Drafts
import SinoChat.Messages.Idempotent
import SinoChat.Common.Utf8
import SinoChat.Common.JsonText
import SinoChat.Common.JsonReadback
import SinoChat.Common.JsonSame
import SinoChat.Common.CanonicalText
import SinoChat.Common.JsonLength
import SinoChat.Common.JsonBytes
import SinoChat.Model.CanonicalJson
import SinoChat.Model.MessagePayload
import SinoChat.Client.Sendable
import SinoChat.Model.MessageContent
import SinoChat.Client.MessageContent
import SinoChat.Client.MessageBinding
import SinoChat.Model.SecureMessages
import SinoChat.Client.ReplayMaps
import SinoChat.Client.ReplayRuns
import SinoChat.Model.RateLimit
import SinoChat.Model.SasComparison
import SinoChat.RateLimit.Window
import SinoChat.SasComparison.Stretches
import SinoChat.SasComparison.Safety
import SinoChat.Model.CrossSigning
import SinoChat.Model.SasToDevice
import SinoChat.SasToDevice.Exact
import SinoChat.Model.CrossSigningService
import SinoChat.Model.CrossSigningClient
import SinoChat.Model.Contracts
import SinoChat.CrossSigning.Chain
import SinoChat.CrossSigning.Identity
import SinoChat.CrossSigning.Answers
import SinoChat.CrossSigning.Converge
import SinoChat.Model.Auth
import SinoChat.Model.DeviceBinding
import SinoChat.Model.AuthRuns
import SinoChat.Model.AdminActivity
import SinoChat.Auth.Requests
import SinoChat.Auth.DeviceRequests
import SinoChat.Auth.Users
import SinoChat.Auth.Calls
import SinoChat.Auth.Lockout
import SinoChat.Auth.Sessions
import SinoChat.Auth.Bindings
import SinoChat.Auth.Accepted
import SinoChat.Auth.Activity
import SinoChat.Auth.Safety
import SinoChat.Auth.Credentials
import SinoChat.Auth.PasswordResets
import SinoChat.Auth.Script
import SinoChat.Client.WellFormedText
import SinoChat.Contracts.Identifiers
import SinoChat.Common.Effect
import SinoChat.Common.Chunks
import SinoChat.Model.Coordinator
import SinoChat.Client.Respecting
import SinoChat.Client.OutgoingFlush
import SinoChat.Client.Traced
import SinoChat.Client.KeyQueries
import SinoChat.Model.SyncRun
import SinoChat.Client.ControlEvents
import SinoChat.KeyUpload.Grammar
import SinoChat.KeyUpload.Agreement
import SinoChat.Model.ImageContainers
import SinoChat.Client.ImageContainers
import SinoChat.Model.ImageAttachment
import SinoChat.Client.HexDecoder
import SinoChat.Client.ImageMetadata
import SinoChat.Model.Envelopes
import SinoChat.Messages.Envelopes
import SinoChat.Common.IsoDate
import SinoChat.Model.Receipts
import SinoChat.Messages.Receipts
import SinoChat.Common.Base64Url
import SinoChat.Model.Grants
import SinoChat.Grants.Tokens
import SinoChat.Model.KeyQuery
import SinoChat.KeyDirectory.Queries
import SinoChat.KeyDirectory.Confidential
import SinoChat.Realtime.Presence
import SinoChat.PreKeys.SingleUse
import SinoChat.Auth.Adulthood
import SinoChat.Model.KeysClaim
import SinoChat.KeysClaim.Records
import SinoChat.KeysClaim.SubRequests
import SinoChat.KeysClaim.Retries
import SinoChat.Model.Quarantine
import SinoChat.Model.QuarantineServices
import SinoChat.Quarantine.Writes
import SinoChat.Quarantine.Calls
import SinoChat.Quarantine.Admissions
import SinoChat.Quarantine.Served
import SinoChat.Quarantine.Stored
import SinoChat.Quarantine.Runs
import SinoChat.Quarantine.Lifecycle
import SinoChat.Quarantine.Delivery
import SinoChat.Model.Terms
import SinoChat.Terms.Documents
import SinoChat.Terms.History
import SinoChat.Terms.Acceptances
