import StorageRouting.Console.AccessList
import StorageRouting.Console.BackendsReport
import StorageRouting.Console.BucketChange
import StorageRouting.Console.Command
import StorageRouting.Console.Listing
import StorageRouting.Console.Lookup
import StorageRouting.Console.Removal
import StorageRouting.Console.SharedLink
import StorageRouting.Console.Transfer

/-
  Commands on a session.

  Key definitions include:
    * `Command.run`
-/

------------------------------------------------------------
-- Running
------------------------------------------------------------

namespace StorageRouting

namespace Command

variable {σ : Type}

/- What is said when completions are asked of a session. -/
def completionsText : String :=
  "Completions do not need backends; run them without a session"

/- Run a command on a session. -/
def run
    (session : Session σ)
    (f : Formatter) : Command → Job σ ExitCode
| .backends health timeout =>
    BackendsReport.run session f health timeout
| .list bucket keyStart recursive maxKeys =>
    BucketListing.run session f bucket keyStart recursive maxKeys
| .get key destination bucket =>
    Download.run session f key destination bucket
| .put file key bucket contentType =>
    Upload.run session f file key bucket contentType
| .remove keys bucket => Removal.run session f keys bucket
| .stat key bucket => Lookup.run session f key bucket
| .makeBucket bucket ignoreExisting =>
    BucketChange.runMake session f bucket ignoreExisting
| .removeBucket bucket => BucketChange.runRemove session f bucket
| .getAcl key bucket => AccessList.runGet session f key bucket
| .setAcl acl key bucket => AccessList.runSet session f acl key bucket
| .share key bucket expire method =>
    SharedLink.run session f key bucket expire method
| .completions _ => do
    Job.print (f.error completionsText)
    return .usageError

end Command

end StorageRouting
