import Mathlib.Algebra.GroupWithZero.Nat
import Mathlib.Data.List.Basic
import Mathlib.Data.List.Nodup
import Provisioning.Proofs.Text.Numeral
import Provisioning.Reconciliation.Report
set_option autoImplicit false

/-!
# What a report accounts for

A report consists of lines that count results and of lines that show one result each.  The results are grouped by
buckets, and groups of distinct keys that cover a list neither lose nor repeat an item of it and keep the order within
each group.  So the numbers add up, every result that a level shows has its line, and results of different buckets may
be interchanged without a trace in the text.  The lines are told apart by what they stand for; that a reader finds it
in their text, the type and the numbers or the name, the id and the message, is shown for every line by itself.
-/

namespace Provisioning.Reconciliation

open Text

/-! ## Groups -/

section Groups

variable {α κ : Type} [DecidableEq κ] (key : α → κ) {keys : List κ}

/-- A group is found again among the groups of distinct keys. -/
theorem filter_flatMap_groups (hkeys : keys.Nodup) (items : List α) (k : κ) :
    (keys.flatMap fun k' => items.filter fun item => key item == k').filter (fun item => key item == k) =
      if k ∈ keys then items.filter fun item => key item == k else [] := by
  induction keys with
  | nil => rfl
  | cons first rest ih =>
    obtain ⟨hfirst, hrest⟩ := List.nodup_cons.mp hkeys
    rw [List.flatMap_cons, List.filter_append, ih hrest, List.filter_filter]
    by_cases hk : k = first
    · subst hk
      simp [hfirst]
    · have hother : ∀ item, (key item == k && key item == first) = false := by
        intro item
        by_cases hitem : key item = k <;> simp [hitem, hk]
      simp [hother, hk]

/-- Lists with the same groups hold the same items equally often. -/
theorem perm_of_groups_eq [DecidableEq α] {items items' : List α}
    (h : ∀ k, (items.filter fun item => key item == k) = items'.filter fun item => key item == k) :
    items.Perm items' := by
  refine List.perm_iff_count.mpr fun item => ?_
  have hgroup : ∀ items : List α, (items.filter fun other => key other == key item).count item = items.count item :=
    fun _ => List.count_filter (beq_self_eq_true (key item))
  rw [← hgroup items, h, hgroup items']

/-- Groups of distinct keys that cover a list are, put together, a reordering of it. -/
theorem flatMap_groups_perm [DecidableEq α] {items : List α} (hkeys : keys.Nodup)
    (hcovered : ∀ item ∈ items, key item ∈ keys) :
    (keys.flatMap fun k => items.filter fun item => key item == k).Perm items := by
  refine perm_of_groups_eq key fun k => ?_
  rw [filter_flatMap_groups key hkeys]
  split
  · rfl
  · rename_i hk
    refine (List.filter_eq_nil_iff.mpr fun item hitem hsame => hk ?_).symm
    exact beq_iff_eq.mp hsame ▸ hcovered item hitem

end Groups

namespace Report

variable {t taskType : SubjectType} {status : ResultStatus} {level : TraceLevel} {results results' : List Result}

/-! ## Counts -/

/-- The numbers of a summary line, in the order in which it shows them. -/
def Counts.numbers (counts : Counts) : List Nat :=
  [counts.created, counts.createFailures, counts.updated, counts.updateFailures, counts.deleted,
    counts.deleteFailures, counts.untouched]

/-- The buckets of one subject type. -/
def bucketsFor (t : SubjectType) : List Bucket :=
  Operation.all.flatMap fun operation => [⟨t, operation, .success⟩, ⟨t, operation, .failure⟩]

theorem mem_bucketsFor {bucket : Bucket} : bucket ∈ bucketsFor t ↔ bucket.subjectType = t := by
  obtain ⟨t', operation, status⟩ := bucket
  have hoperation := Operation.mem_all operation
  cases status <;> simp [bucketsFor, hoperation]

theorem nodup_bucketsFor (t : SubjectType) : (bucketsFor t).Nodup := by
  cases t <;> decide

/-- The results of a bucket are found among those of its type. -/
theorem Bucket.results_filter {bucket : Bucket} (h : bucket.subjectType = t) (results : List Result) :
    bucket.results (results.filter fun result => result.subjectType == t) = bucket.results results := by
  rw [Bucket.results, List.filter_filter]
  refine List.filter_congr fun result _ => ?_
  by_cases hbucket : bucketOf result = bucket
  · have htype : result.subjectType = t := h ▸ congrArg Bucket.subjectType hbucket
    simp [hbucket, htype]
  · simp [hbucket]

/-- The counts of all buckets of a type add up to the number of results of that type. -/
theorem sum_count_bucketsFor (t : SubjectType) (results : List Result) :
    ((bucketsFor t).map fun bucket => bucket.count results).sum =
      results.countP fun result => result.subjectType == t := by
  let ofType := results.filter fun result => result.subjectType == t
  have hgroups : ((bucketsFor t).flatMap fun bucket => bucket.results ofType).Perm ofType :=
    flatMap_groups_perm bucketOf (nodup_bucketsFor t) fun result hresult =>
      mem_bucketsFor.mpr (beq_iff_eq.mp (List.mem_filter.mp hresult).2)
  calc ((bucketsFor t).map fun bucket => bucket.count results).sum
      = ((bucketsFor t).map fun bucket => (bucket.results ofType).length).sum := by
        congr 1
        refine List.map_congr_left fun bucket hbucket => ?_
        rw [Bucket.count, Bucket.results_filter (mem_bucketsFor.mp hbucket)]
    _ = ofType.length := by rw [← List.length_flatMap, hgroups.length_eq]
    _ = results.countP fun result => result.subjectType == t := List.countP_eq_length_filter.symm

/-- The numbers of a summary line add up to the number of results of its type. -/
theorem sum_numbers_countsOf (t : SubjectType) (results : List Result) :
    (countsOf t results).numbers.sum = results.countP fun result => result.subjectType == t := by
  rw [← sum_count_bucketsFor]
  simp only [Counts.numbers, countsOf, bucketsFor, Operation.all, List.flatMap_cons, List.flatMap_nil, List.map_append,
    List.map_cons, List.map_nil, List.sum_append, List.sum_cons, List.sum_nil]
  omega

theorem mem_coveredTypes :
    t ∈ coveredTypes taskType results ↔ t = taskType ∨ ∃ result ∈ results, result.subjectType = t := by
  simp [coveredTypes, SubjectType.mem_all]

theorem nodup_coveredTypes (taskType : SubjectType) (results : List Result) : (coveredTypes taskType results).Nodup :=
  SubjectType.nodup_all.filter _

/-- The numbers of all summary lines add up to the number of results. -/
theorem sum_numbers_coveredTypes (taskType : SubjectType) (results : List Result) :
    ((coveredTypes taskType results).map fun t => (countsOf t results).numbers.sum).sum = results.length := by
  have hgroups : ((coveredTypes taskType results).flatMap fun t =>
      results.filter fun result => result.subjectType == t).Perm results :=
    flatMap_groups_perm Result.subjectType (nodup_coveredTypes taskType results) fun result hresult =>
      mem_coveredTypes.mpr (.inr ⟨result, hresult, rfl⟩)
  simp only [sum_numbers_countsOf, List.countP_eq_length_filter]
  rw [← List.length_flatMap, hgroups.length_eq]

/-! ## Listings -/

/-- Whether a level shows the results of a status one by one. -/
def shows : TraceLevel → ResultStatus → Bool
  | .none, _ => false
  | .failures, status | .summary, status => status == .failure
  | .all, _ => true

/-- The buckets of which a level shows the results one by one, in report order. -/
def shownBuckets : TraceLevel → List Bucket
  | .none => []
  | .failures | .summary => bucketsOf .failure
  | .all => bucketsOf .failure ++ bucketsOf .success

theorem mem_bucketsOf {bucket : Bucket} : bucket ∈ bucketsOf status ↔ bucket.status = status := by
  obtain ⟨t, operation, status'⟩ := bucket
  have htype := SubjectType.mem_all t
  have hoperation := Operation.mem_all operation
  simp [bucketsOf, htype, hoperation, eq_comm]

theorem mem_shownBuckets {bucket : Bucket} : bucket ∈ shownBuckets level ↔ shows level bucket.status = true := by
  cases level with
  | none => simp [shownBuckets, shows]
  | failures | summary => simp [shownBuckets, shows, mem_bucketsOf]
  | all =>
    simp only [shownBuckets, shows, List.mem_append, mem_bucketsOf, iff_true]
    cases bucket.status <;> simp

theorem nodup_shownBuckets (level : TraceLevel) : (shownBuckets level).Nodup := by
  cases level <;> decide

/-- The results that a report shows one by one, in the order of its lines. -/
def listed (level : TraceLevel) (results : List Result) : List Result :=
  (sections level results).flatMap Section.results

/-- Sections without results would show nothing. -/
theorem flatMap_results_sectionsOf (status : ResultStatus) (results : List Result) :
    (sectionsOf status results).flatMap Section.results =
      (bucketsOf status).flatMap fun bucket => bucket.results results := by
  rw [sectionsOf]
  induction bucketsOf status with
  | nil => rfl
  | cons bucket rest ih =>
    rw [List.map_cons, List.filter_cons, List.flatMap_cons, ← ih]
    cases hempty : (bucket.results results).isEmpty with
    | true => simp [List.isEmpty_iff.mp hempty]
    | false => simp

theorem listed_eq_flatMap (level : TraceLevel) (results : List Result) :
    listed level results = (shownBuckets level).flatMap fun bucket => bucket.results results := by
  cases level <;>
    simp only [listed, sections, shownBuckets, List.flatMap_append, flatMap_results_sectionsOf, List.flatMap_nil]

/-- Of what a level shows, a bucket has either all its results or none. -/
theorem results_filter_shows (bucket : Bucket) (results : List Result) :
    bucket.results (results.filter fun result => shows level result.status) =
      if shows level bucket.status then bucket.results results else [] := by
  have hstatus : ∀ result, bucketOf result = bucket → result.status = bucket.status :=
    fun _ hresult => congrArg Bucket.status hresult
  rw [Bucket.results, List.filter_filter]
  split
  · rename_i hshown
    refine List.filter_congr fun result _ => ?_
    by_cases hresult : bucketOf result = bucket
    · simp [hresult, hstatus result hresult, hshown]
    · simp [hresult]
  · rename_i hhidden
    refine List.filter_eq_nil_iff.mpr fun result _ => ?_
    by_cases hresult : bucketOf result = bucket
    · simp [hresult, hstatus result hresult, hhidden]
    · simp [hresult]

/-- The results of a bucket are listed in the order in which they were recorded. -/
theorem results_listed (bucket : Bucket) (level : TraceLevel) (results : List Result) :
    bucket.results (listed level results) =
      bucket.results (results.filter fun result => shows level result.status) := by
  rw [results_filter_shows, listed_eq_flatMap, Bucket.results]
  simp only [Bucket.results, filter_flatMap_groups bucketOf (nodup_shownBuckets level), mem_shownBuckets]

theorem status_of_mem_bucketsOf {result : Result}
    (h : result ∈ (bucketsOf status).flatMap fun bucket => bucket.results results) : result.status = status := by
  obtain ⟨bucket, hbucket, hresult⟩ := List.mem_flatMap.mp h
  have hsame : bucketOf result = bucket := beq_iff_eq.mp (List.mem_filter.mp hresult).2
  rw [← mem_bucketsOf.mp hbucket, ← hsame, bucketOf]

/-- No failed result is listed after a successful one. -/
theorem listed_failures_first (level : TraceLevel) (results : List Result) :
    (listed level results).Pairwise fun earlier later => later.status = .failure → earlier.status = .failure := by
  have hfailed : ((bucketsOf .failure).flatMap fun bucket => bucket.results results).Pairwise
      fun earlier later => later.status = .failure → earlier.status = .failure :=
    List.pairwise_of_forall_mem_list fun earlier hearlier _ _ _ => status_of_mem_bucketsOf hearlier
  rw [listed_eq_flatMap]
  cases level with
  | none => exact .nil
  | failures | summary => exact hfailed
  | all =>
    rw [shownBuckets, List.flatMap_append, List.pairwise_append]
    refine ⟨hfailed, ?_, fun earlier hearlier _ _ _ => status_of_mem_bucketsOf hearlier⟩
    refine List.pairwise_of_forall_mem_list fun _ _ later hlater hlate => ?_
    cases hlate.symm.trans (status_of_mem_bucketsOf hlater)

/-! ## Lines -/

/-- A line of a report. -/
inductive Line where
  | notice
  | blank
  | summary (t : SubjectType) (counts : Counts)
  | heading (bucket : Bucket)
  | detail (result : Result)

namespace Line

/-- The text of a line.  A name or a message may bring line breaks of its own. -/
def text : Line → String
  | notice => "==> Dry run only, no modifications were made <==\n"
  | blank => "\n"
  | summary t counts => summaryLine t counts
  | heading bucket => bucket.heading ++ ":\n"
  | detail result => detailLine result ++ "\n"

/-- What a summary line counts. -/
def counted? : Line → Option (SubjectType × Counts)
  | summary t counts => some (t, counts)
  | _ => none

/-- The result that a line shows. -/
def shown? : Line → Option Result
  | detail result => some result
  | _ => none

end Line

/-- The lines of a section. -/
def Section.lines (part : Section) : List Line := .blank :: .heading part.bucket :: part.results.map .detail

/-- The lines of a report. -/
def lines (taskType : SubjectType) (dryRun : Bool) (results : List Result) (level : TraceLevel) : List Line :=
  if level = .none then []
  else
    (if dryRun then [.notice, .blank] else [])
      ++ (summaries level taskType results).map (fun (t, counts) => .summary t counts)
      ++ (sections level results).flatMap Section.lines

theorem intercalate_newline {texts : List String} (h : texts ≠ []) :
    "\n".intercalate texts ++ "\n" = String.join (texts.map (· ++ "\n")) := by
  induction texts with
  | nil => exact absurd rfl h
  | cons first rest ih =>
    cases rest with
    | nil => simp
    | cons second rest =>
      rw [String.intercalate_cons_cons, List.map_cons, String.join_cons, ← ih (List.cons_ne_nil _ _)]
      simp only [String.append_assoc]

theorem render_section {part : Section} (h : part.results ≠ []) :
    part.render = String.join (part.lines.map Line.text) := by
  have hdetails : (part.results.map detailLine) ≠ [] := fun hnil => h (List.map_eq_nil_iff.mp hnil)
  rw [Section.render, String.append_assoc, intercalate_newline hdetails]
  simp [Section.lines, Line.text, String.append_assoc, Function.comp_def]

theorem results_ne_nil {part : Section} (h : part ∈ sections level results) : part.results ≠ [] := by
  have hstatus : ∀ status, part ∈ sectionsOf status results → part.results ≠ [] := by
    intro status hpart
    simpa using (List.mem_filter.mp hpart).2
  cases level with
  | none => exact absurd h List.not_mem_nil
  | failures | summary => exact hstatus .failure h
  | all => exact (List.mem_append.mp h).elim (hstatus .failure) (hstatus .success)

theorem render_sections {parts : List Section} (h : ∀ part ∈ parts, part.results ≠ []) :
    String.join (parts.map Section.render) = String.join ((parts.flatMap Section.lines).map Line.text) := by
  induction parts with
  | nil => rfl
  | cons first rest ih =>
    obtain ⟨hfirst, hrest⟩ := List.forall_mem_cons.mp h
    rw [List.map_cons, String.join_cons, List.flatMap_cons, List.map_append, String.join_append, ih hrest,
      render_section hfirst]

/-- A report is the text of its lines. -/
theorem render_eq_lines (taskType : SubjectType) (dryRun : Bool) (results : List Result) (level : TraceLevel) :
    render taskType dryRun results level =
      String.join ((lines taskType dryRun results level).map Line.text) := by
  unfold render lines
  split
  · rfl
  · rw [render_sections fun _ => results_ne_nil, List.map_append, List.map_append, String.join_append,
      String.join_append, List.map_map]
    congr 2
    cases dryRun <;> rfl

/-- What is taken from the lines of a report comes from its summaries and its sections. -/
theorem filterMap_lines {β : Type} {f : Line → Option β} (hnotice : f .notice = none) (hblank : f .blank = none)
    (taskType : SubjectType) (dryRun : Bool) (results : List Result) (level : TraceLevel) :
    (lines taskType dryRun results level).filterMap f =
      (summaries level taskType results).filterMap (fun (t, counts) => f (.summary t counts)) ++
        (sections level results).flatMap fun part => part.lines.filterMap f := by
  have hopening : (if dryRun then [Line.notice, .blank] else []).filterMap f = [] := by
    cases dryRun <;> simp [hnotice, hblank]
  unfold lines
  split
  · rename_i hlevel
    rw [hlevel]
    rfl
  · rw [List.filterMap_append, List.filterMap_append, hopening, List.nil_append, List.filterMap_map,
      List.filterMap_flatMap]
    rfl

/-- The summary lines of a report. -/
theorem filterMap_counted?_lines (taskType : SubjectType) (dryRun : Bool) (results : List Result)
    (level : TraceLevel) :
    (lines taskType dryRun results level).filterMap Line.counted? = summaries level taskType results := by
  rw [filterMap_lines rfl rfl]
  simp [Section.lines, Line.counted?]

/-- The results that the lines of a report show. -/
theorem filterMap_shown?_lines (taskType : SubjectType) (dryRun : Bool) (results : List Result)
    (level : TraceLevel) :
    (lines taskType dryRun results level).filterMap Line.shown? = listed level results := by
  have hpart : ∀ part : Section, part.lines.filterMap Line.shown? = part.results := by
    intro part
    change (part.results.map Line.detail).filterMap Line.shown? = part.results
    rw [List.filterMap_map]
    exact List.filterMap_some
  rw [filterMap_lines rfl rfl, listed]
  simp [Line.shown?, hpart]

/-! ## What the text of a line shows -/

/-- The numbers of a summary line under their labels. -/
def Counts.labelled (counts : Counts) : List (String × List Nat) :=
  [("created/failures", [counts.created, counts.createFailures]),
    ("updated/failures", [counts.updated, counts.updateFailures]),
    ("deleted/failures", [counts.deleted, counts.deleteFailures]),
    ("no operation/ignored", [counts.untouched])]

/-- A text shows counts: each number stands under its label, nothing else in the text reads as a number, and it is not
the summary line of another type or of other numbers. -/
structure ShowsCounts (t : SubjectType) (counts : Counts) (text : String) : Prop where
  labelled : text =
    t.plural
      ++ String.join (counts.labelled.map fun (label, numbers) =>
        " [" ++ label ++ "]: " ++ "/".intercalate (numbers.map toString))
      ++ "\n"
  numbers : numerals text.toList = counts.numbers
  alone : ∀ t' counts', (Line.summary t' counts').text = text → t' = t ∧ counts' = counts

/-- A text shows a result: its name, its id and its message.  A name may hold what reads like the rest of a line, but of
results of one name, only those of the same id and message have the same line. -/
structure ShowsResult (result : Result) (text : String) : Prop where
  labelled : text =
    "  " ++ result.name ++ " (" ++ toString result.id ++ ")" ++ result.message.elim "" (": " ++ ·) ++ "\n"
  alone : ∀ result' : Result, result'.name = result.name → (Line.detail result').text = text →
    result'.id = result.id ∧ result'.message = result.message

theorem summaryLine_eq (t : SubjectType) (counts : Counts) :
    summaryLine t counts = t.plural
      ++ String.join (counts.labelled.map fun (label, numbers) =>
        " [" ++ label ++ "]: " ++ "/".intercalate (numbers.map toString)) ++ "\n" := by
  have htext : ∀ text : String, toString text = text := fun _ => rfl
  -- the labels are put between their brackets before the rest is regrouped
  simp only [summaryLine, Counts.labelled, List.map_cons, List.map_nil, String.join_cons, String.join_nil,
    String.intercalate_cons_cons, String.intercalate_singleton, String.append_empty, String.reduceAppend]
  simp only [htext, String.append_assoc]

/-- The numbers of a summary line are read back from its text. -/
theorem numerals_summaryLine (t : SubjectType) (counts : Counts) :
    numerals (summaryLine t counts).toList = counts.numbers := by
  have hplural : t.plural.toList.any Char.isDigit = false := by cases t <;> decide
  have hlast : numerals (Nat.toDigits 10 counts.untouched ++ (toString "\n").toList) = [counts.untouched] := by
    rw [← List.append_nil (toString "\n").toList, numerals_toDigits_append _ (by decide) (by decide)]
    rfl
  simp only [summaryLine, String.toList_append, Nat.toString_eq_repr, Nat.toList_repr, List.append_assoc]
  rw [numerals_append_of_plain hplural]
  simp (disch := decide) only [numerals_append_of_plain, numerals_toDigits_append, hlast]
  rfl

theorem Counts.numbers_inj {counts counts' : Counts} : counts.numbers = counts'.numbers ↔ counts = counts' := by
  cases counts
  cases counts'
  simp [Counts.numbers]

theorem head?_summaryLine (t : SubjectType) (counts : Counts) :
    (summaryLine t counts).toList.head? = t.plural.toList.head? := by
  simp only [summaryLine, String.toList_append, List.append_assoc]
  cases t <;> rfl

/-- The plurals of the types begin with different letters, and the numbers are read back. -/
theorem summaryLine_inj {t t' : SubjectType} {counts counts' : Counts}
    (h : summaryLine t counts = summaryLine t' counts') : t = t' ∧ counts = counts' := by
  have hhead : t.plural.toList.head? = t'.plural.toList.head? := by
    rw [← head?_summaryLine t counts, h, head?_summaryLine]
  have hnumbers : counts.numbers = counts'.numbers := by
    rw [← numerals_summaryLine t, h, numerals_summaryLine]
  refine ⟨?_, Counts.numbers_inj.mp hnumbers⟩
  cases t <;> cases t' <;> first | rfl | exact absurd hhead (by decide)

theorem detailLine_eq (result : Result) :
    detailLine result =
      "  " ++ result.name ++ " (" ++ toString result.id ++ ")" ++ result.message.elim "" (": " ++ ·) := by
  have htext : ∀ text : String, toString text = text := fun _ => rfl
  have hcolon : ∀ message : String, ")" ++ (": " ++ message) = "): " ++ message := fun _ => by
    rw [← String.append_assoc]
    rfl
  cases hmessage : result.message <;> simp [detailLine, hmessage, String.append_assoc, htext, hcolon]

/-- Once the name is known, the digits after it are the id and what follows them is the message. -/
theorem detailLine_inj_of_name {result result' : Result} (hname : result.name = result'.name)
    (h : detailLine result = detailLine result') : result.id = result'.id ∧ result.message = result'.message := by
  rw [detailLine_eq, detailLine_eq, hname] at h
  have hrest := congrArg String.toList h
  simp only [String.toList_append, List.append_assoc, List.append_cancel_left_eq, Nat.toString_eq_repr,
    Nat.toList_repr] at hrest
  have hid : result.id = result'.id := by
    have hnumbers := congrArg numerals hrest
    simp (disch := decide) only [numerals_toDigits_append] at hnumbers
    exact (List.cons.inj hnumbers).1
  refine ⟨hid, ?_⟩
  rw [hid, List.append_cancel_left_eq, List.append_cancel_left_eq, String.toList_inj] at hrest
  cases hmessage : result.message <;> cases hmessage' : result'.message <;> simp_all

theorem showsCounts_summary (t : SubjectType) (counts : Counts) :
    ShowsCounts t counts (Line.summary t counts).text where
  labelled := summaryLine_eq t counts
  numbers := numerals_summaryLine t counts
  alone _ _ h := summaryLine_inj h

theorem showsResult_detail (result : Result) : ShowsResult result (Line.detail result).text where
  labelled := congrArg (· ++ "\n") (detailLine_eq result)
  alone _ hname h := detailLine_inj_of_name hname ((String.append_left_inj _).mp h)

/-! ## Interchanged results -/

/-- A report tells nothing but the sequence of results in every bucket. -/
theorem render_congr (h : ∀ bucket : Bucket, bucket.results results = bucket.results results')
    (taskType : SubjectType) (dryRun : Bool) (level : TraceLevel) :
    render taskType dryRun results level = render taskType dryRun results' level := by
  have hcounts : ∀ t, countsOf t results = countsOf t results' := by
    intro t
    simp only [countsOf, Bucket.count, h]
  have htypes : coveredTypes taskType results = coveredTypes taskType results' := by
    refine List.filter_congr fun t _ => ?_
    have hany : ∀ results : List Result, (results.any fun result => result.subjectType == t) =
        decide (0 < (countsOf t results).numbers.sum) := by
      intro results
      rw [sum_numbers_countsOf, Bool.eq_iff_iff, List.any_eq_true, decide_eq_true_iff, List.countP_pos_iff]
    rw [hany, hany, hcounts]
  have hsections : ∀ status, sectionsOf status results = sectionsOf status results' := by
    intro status
    simp only [sectionsOf, h]
  have hsummaries : summaries level taskType results = summaries level taskType results' := by
    cases level <;> simp only [summaries, hcounts, htypes]
  have hshown : sections level results = sections level results' := by
    cases level <;> simp only [sections, hsections]
  rw [render, render, hsummaries, hshown]

/-! ## The account -/

/-- Summary lines account for results: there is one for every subject type that occurs and for the type of the task,
its numbers add up to the results of its type, and all numbers together to the results. -/
structure Summarizes (taskType : SubjectType) (results : List Result) (summaries : List (SubjectType × Counts)) :
    Prop where
  once : (summaries.map Prod.fst).Nodup
  covered : ∀ t, t ∈ summaries.map Prod.fst ↔ t = taskType ∨ ∃ result ∈ results, result.subjectType = t
  each : ∀ t counts, (t, counts) ∈ summaries →
    counts.numbers.sum = results.countP fun result => result.subjectType == t
  total : (summaries.map fun (_, counts) => counts.numbers.sum).sum = results.length

/-- A listing accounts for results: it shows every one of them once, failed ones before successful ones, and those of
each bucket in the order in which they were recorded. -/
structure Lists (results listing : List Result) : Prop where
  once : listing.Perm results
  failuresFirst : listing.Pairwise fun earlier later => later.status = .failure → earlier.status = .failure
  inOrder : ∀ bucket : Bucket, bucket.results listing = bucket.results results

theorem summarizes (taskType : SubjectType) (results : List Result) :
    Summarizes taskType results ((coveredTypes taskType results).map fun t => (t, countsOf t results)) where
  once := by
    simpa [Function.comp_def] using nodup_coveredTypes taskType results
  covered t := by
    simpa [Function.comp_def] using mem_coveredTypes
  each t counts hmem := by
    obtain ⟨t', -, hsame⟩ := List.mem_map.mp hmem
    cases hsame
    exact sum_numbers_countsOf t results
  total := by
    rw [List.map_map]
    exact sum_numbers_coveredTypes taskType results

theorem lists_listed (level : TraceLevel) (results : List Result) :
    Lists (results.filter fun result => shows level result.status) (listed level results) where
  once := perm_of_groups_eq bucketOf fun bucket => results_listed bucket level results
  failuresFirst := listed_failures_first level results
  inOrder bucket := results_listed bucket level results

/-- A report accounts for every result exactly once.  It is the text of its lines, in which a summary line shows its
type and its numbers and a detail line the name, the id and the message of its result.  With a summary, the numbers in
the summary lines add up to the number of results; if everything is shown, the detail lines list every result, and
otherwise those that failed.  The report tells no more than the sequence of results in every bucket. -/
theorem render_accounts_for_results (taskType : SubjectType) (dryRun : Bool) (results : List Result) :
    (∀ level, render taskType dryRun results level =
      String.join ((lines taskType dryRun results level).map Line.text)) ∧
    (∀ t counts, ShowsCounts t counts (Line.summary t counts).text) ∧
    (∀ result, ShowsResult result (Line.detail result).text) ∧
    (∀ level ∈ [TraceLevel.summary, .all],
      Summarizes taskType results ((lines taskType dryRun results level).filterMap Line.counted?)) ∧
    Lists results ((lines taskType dryRun results .all).filterMap Line.shown?) ∧
    (∀ level ∈ [TraceLevel.failures, .summary],
      Lists (results.filter fun result => result.status == .failure)
        ((lines taskType dryRun results level).filterMap Line.shown?)) ∧
    ∀ results' : List Result, (∀ bucket : Bucket, bucket.results results = bucket.results results') →
      ∀ level, render taskType dryRun results level = render taskType dryRun results' level := by
  simp only [filterMap_counted?_lines, filterMap_shown?_lines]
  refine ⟨render_eq_lines taskType dryRun results, showsCounts_summary, showsResult_detail, ?_, ?_, ?_,
    fun _ h => render_congr h taskType dryRun⟩
  · intro level hlevel
    simp only [List.mem_cons, List.not_mem_nil, or_false] at hlevel
    obtain rfl | rfl := hlevel <;> exact summarizes taskType results
  · have hlists := lists_listed .all results
    simpa only [shows, List.filter_true] using hlists
  · intro level hlevel
    simp only [List.mem_cons, List.not_mem_nil, or_false] at hlevel
    obtain rfl | rfl := hlevel
    · exact lists_listed .failures results
    · exact lists_listed .summary results

end Report

end Provisioning.Reconciliation
