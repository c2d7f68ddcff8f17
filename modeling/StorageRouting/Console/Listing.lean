import StorageRouting.Backend.Form
import StorageRouting.Console.Session
import StorageRouting.Number.Size

/-
  The command that lists objects.

  Key definitions include:
    * `ListSummary`
    * `ListSummary.of?`
    * `BucketListing`
    * `BucketListing.of?`
    * `BucketListing.take`
    * `BucketListing.run`
-/

------------------------------------------------------------
-- Listings
------------------------------------------------------------

namespace StorageRouting

/- The number of objects of a listing and their size. -/
structure ListSummary where
  objects : Nat
  bytes : Int
deriving DecidableEq, Repr

namespace ListSummary

/-
  A total with the size of one more entry, which is nothing when
  it is not known.  A total has 64 bits; there is none with more.
-/
def addSize?
    (total : Int)
    (o : ObjectInfo) : Option Int :=
  let sum := total + o.size.getD 0
  if Width.isSigned 64 sum then some sum else none

/-
  The summary of entries, in which directories do not count.
  The sizes are added up in order; there is no summary when one
  of the totals on the way is too large.
-/
def of? (items : List ObjectInfo) : Option ListSummary := do
  let files := items.filter (fun o => !o.isDir)
  let bytes ← files.foldlM addSize? 0
  return { objects := files.length, bytes }

/- The size in words; a negative one counts as nothing. -/
def human (s : ListSummary) : String :=
  Size.text s.bytes.toNat

/- The written form of a summary. -/
def toValue (s : ListSummary) : Value :=
  .object
    [("total_objects", .nat s.objects),
      ("total_size_bytes", .int s.bytes),
      ("total_size_human", .string s.human)]

end ListSummary

/- Entries of a place with their summary; there may be more. -/
structure BucketListing where
  place : Place
  items : List ObjectInfo
  truncated : Bool
  summary : ListSummary
  summary_eq : ListSummary.of? items = some summary
deriving DecidableEq, Repr

namespace BucketListing

/- The listing of entries, if they have a summary. -/
def of?
    (place : Place)
    (items : List ObjectInfo)
    (truncated : Bool) : Option BucketListing :=
  match h : ListSummary.of? items with
  | some summary =>
      some { place, items, truncated, summary, summary_eq := h }
  | none => none

/- The written form of a listing. -/
def toValue (l : BucketListing) : Value :=
  .object
    (l.place.fields ++
      [("items", .array (l.items.map ObjectInfo.toValue)),
        ("truncated", .bool l.truncated),
        ("summary", l.summary.toValue)])

end BucketListing

end StorageRouting

------------------------------------------------------------
-- Printing
------------------------------------------------------------

namespace StorageRouting

/- The time of the last change of an object in words. -/
def ObjectInfo.modifiedText (o : ObjectInfo) : String :=
  (o.modified.map Moment.text).getD ""

/- The size of an object, of which there is always some. -/
def ObjectInfo.bytes (o : ObjectInfo) : Nat :=
  (o.size.getD 0).toNat

namespace BucketListing

/- The line of an entry. -/
def entryLine
    (f : Formatter)
    (o : ObjectInfo) : String :=
  let date := Text.padLeft 19 o.modifiedText
  let size := if o.isDir then "0B" else Size.text o.bytes
  let role := if o.isDir then Role.start else Role.object
  "[" ++ f.paint .timestamp date ++ "] " ++
    f.paint .size (Text.padLeft 10 size) ++ " " ++ f.paint role o.key

/- The line below all entries. -/
def summaryLine
    (f : Formatter)
    (l : BucketListing) : String :=
  "\n" ++ f.paint .name l.place.text ++ ": " ++
    toString l.summary.objects ++ " objects, " ++ l.summary.human ++
    (if l.truncated then " (truncated)" else "")

/- A listing in lines. -/
def screen
    (f : Formatter)
    (l : BucketListing) : Screen :=
  l.items.flatMap (fun o => f.line (entryLine f o)) ++
    f.line (summaryLine f l)

end BucketListing

end StorageRouting

------------------------------------------------------------
-- Listing
------------------------------------------------------------

namespace StorageRouting

namespace BucketListing

variable {σ : Type}

/-
  List a bucket: one page when the number of its entries is
  given, else everything.  The entries may have no summary.
-/
def take
    (r : StorageClient.Route σ)
    (bucket : Option String)
    (options : ListOptions) :
    Action σ (Option BucketListing) := do
  let place ← Action.pure? (Session.placeOf r bucket)
  if options.maxKeys.isSome then
    let page ←
      StorageClient.standard.list r (some place.bucket) options
    return of? place page.items page.truncated
  else
    let items ←
      StorageClient.standard.listAll r (some place.bucket) options
    return of? place items false

/-
  List a bucket and print the listing.  The command breaks off
  when the entries have no summary.
-/
def run
    (session : Session σ)
    (f : Formatter)
    (bucket keyStart : Option String)
    (recursive : Bool)
    (maxKeys : Option Int) : Job σ ExitCode := do
  let r ←
    session.direct "ls"
      [("bucket", .ofString? bucket),
        ("prefix", .ofString? keyStart)]
  let options : ListOptions :=
    { keyStart, maxKeys, token := none, recursive }
  match ← Job.ask (take r bucket options) with
  | .error e => Job.report f "Failed to list objects" e
  | .ok found =>
      let l ← Job.demand found
      Job.present f l.toValue (l.screen f)

end BucketListing

end StorageRouting
