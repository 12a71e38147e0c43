import Curb.Easy.OpenSocket
import Curb.Safety.Enforces
import Curb.Safety.Tightens
import Curb.Multi.Safety
import Curb.Multi.PolicyHistory
import Curb.Multi.NeverStale
import Curb.Multi.Attachment
import Curb.Multi.Coherent
import Curb.Multi.Closing
import Curb.Multi.Runs
import Curb.Misc.Runs
import Curb.Multi.PerformTables
import Curb.Multi.Deferred
import Curb.Multi.Dispatch
import Curb.Multi.RejectedClose
import Curb.Net.Embedded
import Curb.Multi.Rollback
import Curb.Multi.Atomic
import Curb.Multi.EasyPerform
import Curb.Multi.Http
import Curb.Multi.HttpReturns
import Curb.Multi.HttpTerminates
import Curb.Multi.HttpOverrides
import Curb.Multi.HttpRequests
import Curb.Misc.CInt
import Curb.Misc.Cached
import Curb.Multi.Waits
import Curb.Download.Multi
import Curb.Download.Consistent
import Curb.Easy.Verbs
import Curb.Easy.VerbsIsolated
import Curb.Easy.Setup
import Curb.Easy.SetupHistory
import Curb.Misc.Trim
import Curb.Net.CidrGrammar
import Curb.Net.HostText
import Curb.Net.NonPublic
import Curb.Safety.HostEntries
import Curb.Safety.HostGates
import Curb.Safety.CidrEntries
import Curb.Easy.BodyLimit
import Curb.Easy.PutData
import Curb.Easy.Upload
import Curb.Easy.PutDataSize
import Curb.Easy.PutDataAtomic
import Curb.Easy.PutDataReturns
import Curb.Misc.Table
import Curb.Scheduler.Basic
import Curb.Scheduler.Driver
import Curb.Scheduler.Settled
import Curb.Scheduler.LostWaiters
import Curb.Easy.SetOpt
import Curb.Easy.SetOptAtomic
import Curb.Download.Publication
import Curb.Download.Reports
import Curb.Download.Easy
import Curb.Download.Contained
import Curb.Multi.DeferredCloses
import Curb.Easy.FormBody
import Curb.Easy.Status
import Curb.Easy.SetupLists
import Curb.Misc.Related
import Curb.Safety.Clone
import Curb.Multi.BackReferences
import Curb.Multi.ClosedReferences
import Curb.Multi.ReferenceRuns
import Curb.Multi.SocketTables
import Curb.Multi.Collected
import Curb.Multi.Collection
import Curb.Multi.CollectionInv
import Curb.Multi.CollectionOps
import Curb.Multi.CollectionRuns
import Curb.Multi.Readiness
import Curb.Multi.Rounds
import Curb.Scheduler.Returned
import Curb.Scheduler.Once
import Curb.Safety.Idempotent
import Curb.Multi.SafeHttp
import Curb.Multipart.Basic
import Curb.Multipart.Parts
import Curb.Multipart.Sound
import Curb.Multipart.Runs
import Curb.Scheduler.Deferring
import Curb.Scheduler.Ends
import Curb.Misc.FormEncoding
import Curb.Easy.UrlParams
import Curb.Multi.Agreement
import Curb.Easy.SetupAgreement
