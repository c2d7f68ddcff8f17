import StorageRouting.Backend.Store
import StorageRouting.Console.ExitCode
import StorageRouting.Console.Output
import StorageRouting.Files.Tree

/-
  What commands work on, and the steps that they take.

  Key definitions include:
    * `World`
    * `Job`
    * `Job.print`
    * `Job.log`
    * `Job.ask`
    * `Job.demand`
    * `Job.report`
-/

------------------------------------------------------------
-- Jobs
------------------------------------------------------------

namespace StorageRouting

/-
  What commands work on: the state behind the backends, the
  files of the machine, and what was printed.
-/
structure World (σ : Type) where
  backends : σ
  files : FileTree
  screen : Screen

/-
  Work that changes a world and has an answer, unless it breaks
  off; what it changed until then stays.
-/
abbrev Job (σ α : Type) :=
  OptionT (StateM (World σ)) α

namespace Job

variable {σ α β : Type}

/- Work goes on with the answer of its first part. -/
theorem bind_of_some
    {j : Job σ α}
    {w w' : World σ}
    {a : α}
    (h : j w = (some a, w'))
    (k : α → Job σ β) : (j >>= k) w = k a w' := by
  change (OptionT.bind j k) w = k a w'
  simp only [OptionT.bind, OptionT.mk, bind, StateT.bind, h]

/- Print below what was printed. -/
def print (s : Screen) : Job σ Unit :=
  fun w => (some (), { w with screen := w.screen ++ s })

/- Log entries under the present time. -/
def log
    (now : σ → Moment)
    (entries : List LogEntry) : Job σ Unit :=
  fun w =>
    print (entries.map (Output.log (now w.backends))) w

/- Carry an action on the backends out. -/
def ask (a : Action σ α) : Job σ (Except Error α) :=
  fun w =>
    let (answer, backends) := a w.backends
    (some answer, { w with backends })

/- Look at the backends without a change to them. -/
def observe (f : σ → α) : Job σ α :=
  fun w => (some (f w.backends), w)

/- Look at the files. -/
def look (f : FileTree → α) : Job σ α :=
  fun w => (some (f w.files), w)

/- Change the files; a failure leaves them as they are. -/
def change
    (f : FileTree → Except FileError FileTree) :
    Job σ (Except FileError Unit) :=
  fun w =>
    match f w.files with
    | .ok files => (some (.ok ()), { w with files })
    | .error e => (some (.error e), w)

/- Go on with a value, or break off where there is none. -/
def demand (value : Option α) : Job σ α :=
  fun w => (value, w)

/- Tell of an error, and end with its exit code. -/
def report
    (f : Formatter)
    (context : String)
    (e : Error) : Job σ ExitCode := do
  print (f.error (context ++ ": " ++ e.message))
  return .ofError e

/- Tell of something by a document, or else in other words. -/
def present
    (f : Formatter)
    (document : Value)
    (otherwise : Screen) : Job σ ExitCode := do
  print (if f.json then Formatter.document document else otherwise)
  return .success

end Job

end StorageRouting
