import Provisioning.Reconciliation.Policy
import Provisioning.Reconciliation.Result
set_option autoImplicit false

/-!
# Run reports

The text in which a run tells what it did.  Results fall into buckets by subject type, operation and status; the
report counts the buckets and lists the results of some of them, in the order in which they were recorded.
-/

namespace Provisioning.Reconciliation.Report

/-- A class of results that a report counts and lists together. -/
structure Bucket where
  subjectType : SubjectType
  operation : Operation
  status : ResultStatus
  deriving DecidableEq, Repr

/-- The bucket of a result. -/
def bucketOf (result : Result) : Bucket := ⟨result.subjectType, result.operation, result.status⟩

/-- The results of a bucket, in the order in which they were recorded. -/
def Bucket.results (bucket : Bucket) (results : List Result) : List Result :=
  results.filter fun result => bucketOf result == bucket

/-- The number of results in a bucket. -/
def Bucket.count (bucket : Bucket) (results : List Result) : Nat := (bucket.results results).length

/-- The subject types that a report covers: those of the results and the task's own. -/
def coveredTypes (taskType : SubjectType) (results : List Result) : List SubjectType :=
  SubjectType.all.filter fun t => t == taskType || results.any fun result => result.subjectType == t

/-- The counts of one subject type, as a summary shows them. -/
structure Counts where
  created : Nat
  createFailures : Nat
  updated : Nat
  updateFailures : Nat
  deleted : Nat
  deleteFailures : Nat
  /-- Results without an operation, failed or not. -/
  untouched : Nat
  deriving DecidableEq, Repr

/-- Count the results of one subject type. -/
def countsOf (t : SubjectType) (results : List Result) : Counts :=
  let count (operation : Operation) (status : ResultStatus) := Bucket.count ⟨t, operation, status⟩ results
  { created := count .create .success
    createFailures := count .create .failure
    updated := count .update .success
    updateFailures := count .update .failure
    deleted := count .delete .success
    deleteFailures := count .delete .failure
    untouched := count .none .success + count .none .failure }

/-- The line that shows the counts of a subject type. -/
def summaryLine (t : SubjectType) (counts : Counts) : String :=
  t.plural
    ++ s!" [created/failures]: {counts.created}/{counts.createFailures}"
    ++ s!" [updated/failures]: {counts.updated}/{counts.updateFailures}"
    ++ s!" [deleted/failures]: {counts.deleted}/{counts.deleteFailures}"
    ++ s!" [no operation/ignored]: {counts.untouched}\n"

/-- The heading over the results of a bucket. -/
def Bucket.heading (bucket : Bucket) : String :=
  bucket.subjectType.plural ++
    match bucket.status, bucket.operation with
    | .failure, .create => " failed to create"
    | .failure, .update => " failed to update"
    | .failure, .delete => " failed to delete"
    | .failure, .none => " failed to process"
    | .success, .create => " created"
    | .success, .update => " updated"
    | .success, .delete => " deleted"
    | .success, .none => " with no operation"

/-- The line that shows one result. -/
def detailLine (result : Result) : String :=
  let subject := "  " ++ result.name ++ s!" ({result.id})"
  match result.message with
  | some message => subject ++ ": " ++ message
  | none => subject

/-- The buckets of one status, by subject type and then by operation. -/
def bucketsOf (status : ResultStatus) : List Bucket :=
  SubjectType.all.flatMap fun t => Operation.all.map fun operation => ⟨t, operation, status⟩

/-- A part of a report that lists results under a heading. -/
structure Section where
  bucket : Bucket
  results : List Result
  deriving DecidableEq, Repr

/-- The sections of one status; a bucket without results has none. -/
def sectionsOf (status : ResultStatus) (results : List Result) : List Section :=
  ((bucketsOf status).map fun bucket => ⟨bucket, bucket.results results⟩).filter fun part => !part.results.isEmpty

/-- The sections that a level shows: failed results first, successful ones only when every result is shown. -/
def sections (level : TraceLevel) (results : List Result) : List Section :=
  match level with
  | .none => []
  | .failures | .summary => sectionsOf .failure results
  | .all => sectionsOf .failure results ++ sectionsOf .success results

/-- The text of a section. -/
def Section.render (part : Section) : String :=
  "\n" ++ part.bucket.heading ++ ":\n" ++ "\n".intercalate (part.results.map detailLine) ++ "\n"

/-- The summary lines that a level shows. -/
def summaries (level : TraceLevel) (taskType : SubjectType) (results : List Result) :
    List (SubjectType × Counts) :=
  match level with
  | .none | .failures => []
  | .summary | .all => (coveredTypes taskType results).map fun t => (t, countsOf t results)

/-- The first lines of a report on a dry run. -/
def dryRunNotice : String := "==> Dry run only, no modifications were made <==\n\n"

/-- The report on a run. -/
def render (taskType : SubjectType) (dryRun : Bool) (results : List Result) (level : TraceLevel) : String :=
  if level = .none then ""
  else
    (if dryRun then dryRunNotice else "")
      ++ String.join ((summaries level taskType results).map fun (t, counts) => summaryLine t counts)
      ++ String.join ((sections level results).map Section.render)

end Provisioning.Reconciliation.Report
