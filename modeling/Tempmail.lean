import Tempmail.Lib.Machine
import Tempmail.Lib.Serial
import Tempmail.Lib.Table
import Tempmail.Lib.Text
import Tempmail.Lib.Utf8
import Tempmail.Lib.Multipart
import Tempmail.Lib.Eviction
import Tempmail.Lib.Pages
import Tempmail.Lib.RowLocks
import Tempmail.Lib.SlidingWindow
import Tempmail.Lib.FixedWindow
import Tempmail.Mx.Config
import Tempmail.Mx.Reload
import Tempmail.Mx.Validation
import Tempmail.Mx.Dmarc
import Tempmail.Mx.Session
import Tempmail.Mx.Relay
import Tempmail.Mx.Removal
import Tempmail.Mx.Watcher
import Tempmail.Mx.Limits
import Tempmail.Mx.Data
import Tempmail.Mx.Database
import Tempmail.Mx.Delivery
import Tempmail.Mx.Guards
import Tempmail.Api.RateLimit
import Tempmail.Api.AdminAuth
import Tempmail.Store.Schema
import Tempmail.Store.Operations
import Tempmail.Store.Consistency
import Tempmail.Store.Preservation
import Tempmail.Store.Triggers
import Tempmail.Store.StorageCap
import Tempmail.Store.Retention
import Tempmail.Store.EmailLimit
import Tempmail.Api.Allowance
import Tempmail.Api.Creation
import Tempmail.Api.Atomicity
import Tempmail.Api.Usernames
import Tempmail.Api.Receives
import Tempmail.Api.PermanentCap
import Tempmail.Store.Mailboxes
import Tempmail.Store.Lifetimes
import Tempmail.Api.NameContest
import Tempmail.Config.Yaml
import Tempmail.Config.Settings
import Tempmail.Config.File
import Tempmail.Config.Patch
import Tempmail.Config.Commit
import Tempmail.Config.Concurrent
import Tempmail.Config.Crash
import Tempmail.Config.Rollback
import Tempmail.Config.Setup
import Tempmail.Config.SetupAtomicity
import Tempmail.Config.SetupRace
import Tempmail.Lib.Rows
import Tempmail.Lib.Like
import Tempmail.Store.Inbox
import Tempmail.Api.TokenRoutes
import Tempmail.Api.Isolation
import Tempmail.Api.AdminLists
import Tempmail.Api.ConcurrentDelete
import Tempmail.Config.Patched
import Tempmail.Config.Served
import Tempmail.Config.Dsn
import Tempmail.Config.Masking
import Tempmail.Mx.Unmarshal
import Tempmail.Mx.HotReload
import Tempmail.Mx.Readable
import Tempmail.Mx.Accepted
import Tempmail.Mx.SessionSafety
import Tempmail.Config.NumericSettings
import Tempmail.Mx.SizeLimit
import Tempmail.Mx.RateWindows
import Tempmail.Mx.Sanitize
import Tempmail.Mx.Logging
import Tempmail.Mx.ReplyClasses
import Tempmail.Mx.PartGuard
import Tempmail.Config.Edits
import Tempmail.Config.WellFormed
import Tempmail.Config.PatchOrder
import Tempmail.Lib.Ip
import Tempmail.Lib.Spf
import Tempmail.Mx.SpfVerdicts
import Tempmail.Lib.Percent
import Tempmail.Api.Downloads
import Tempmail.Store.Expiry
import Tempmail.Lib.Joins
import Tempmail.Api.PermanentStats
import Tempmail.Lib.Shell
import Tempmail.Web.Settings
import Tempmail.Web.Entrypoint
import Tempmail.Mx.TlsLoader
import Tempmail.Lib.FieldValue
import Tempmail.Config.TokenRotation
import Tempmail.Config.Undo
import Tempmail.Api.Admission
import Tempmail.Lib.Script
import Tempmail.Web.Certbot
import Tempmail.Mx.CleanLog
import Tempmail.Lib.Placeholders
import Tempmail.Web.I18n
import Tempmail.Lib.Flight
import Tempmail.Web.Client
import Tempmail.Web.HomePage
import Tempmail.Web.HomeSteps
import Tempmail.Web.Rotation
import Tempmail.Web.ShownInbox
import Tempmail.Web.MailboxPage
import Tempmail.Web.Credential
import Tempmail.Store.Keeping
import Tempmail.Store.PostOffice
import Tempmail.Lib.Holding
import Tempmail.Store.Refinement
import Tempmail.Store.LetterHistory
import Tempmail.Store.Housekeeping
import Tempmail.Store.BoundedMailbox
import Tempmail.Api.ReadMarks
import Tempmail.Web.IssueJobs
import Tempmail.Web.JobRuns
import Tempmail.Lib.UrlPath
import Tempmail.Lib.Router
import Tempmail.Lib.Locations
import Tempmail.Api.Routes
import Tempmail.Web.Edge
import Tempmail.Web.Redirects
import Tempmail.Web.InForce
import Tempmail.Web.SavedConfig
import Tempmail.Web.UntouchedConfig
import Tempmail.Api.ServedMail
import Tempmail.Web.Headers
import Tempmail.Web.AccessLog
import Tempmail.Api.Statistics
