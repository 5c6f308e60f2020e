import DocAudit.DocSet.Report
import Mathlib.Data.List.Forall2
import Mathlib.Data.List.TakeWhile

/-!
# What the lines of a report tell

A report is read by its lines alone: a line that is not indented is a heading, the indented lines
right below belong to it (`sections`), and a line of a finding is known by the word for its severity
(`toldSeverity?`).  So read, a report tells every finding that is shown, once, in order and below
the heading of its page or of the set, and its last line counts the errors and warnings among these
lines (`findings_told`).

Reading goes part by part, because every part starts with a heading (`findings_append`).  A verbose
report has all the lines of the other one, because each of its parts has (`stacked_sublist`).
-/

namespace DocAudit.Report

open List

/-! ## Reading lines -/

/-- Whether a line is indented. -/
def isDeep (line : String) : Bool :=
  "    ".toList.isPrefixOf line.toList

/-- The severity of the finding that a line is about, if it is about one. -/
def toldSeverity? (line : String) : Option Severity :=
  [.error, .warning, .message].find? fun severity =>
    ("    " ++ severity.label ++ "[").toList.isPrefixOf line.toList

/-- Each heading with the indented lines right below it. -/
def sections : List String → List (String × List String)
  | [] => []
  | line :: rest =>
    if isDeep line then sections rest else (line, rest.takeWhile isDeep) :: sections rest

/-- Whether a line is about a finding. -/
def isTold (line : String) : Bool :=
  (toldSeverity? line).isSome

/-- Lines below a heading, if there are any. -/
def below (heading : String) (lines : List String) : Option (String × List String) :=
  if lines.isEmpty then none else some (heading, lines)

/-- The findings that the lines below a heading are about.  A name of a resource is about none. -/
def findingsBelow (heading : String) (lines : List String) : Option (String × List String) :=
  if heading = "Resources (base types first)" then none else below heading (lines.filter isTold)

/-- The findings that lines are about, below their headings. -/
def findings (lines : List String) : List (String × List String) :=
  (sections lines).filterMap fun (group : String × List String) => findingsBelow group.1 group.2

/-- The number of findings of a severity that lines tell about. -/
def toldCount (severity : Severity) (lines : List String) : ℕ :=
  ((findings lines).flatMap (·.2)).countP fun line => toldSeverity? line == some severity

variable {heading line : String} {a b lines : List String} {parts more : List (List String)}
  {verbose : Bool} {report : Report}

/-- Whether lines start with a heading, if there are any. -/
def StartsHeaded (lines : List String) : Prop := ∀ line ∈ lines.head?, isDeep line = false

lemma startsHeaded_nil : StartsHeaded [] :=
  fun _ mem => nomatch mem

lemma startsHeaded_cons (headed : isDeep heading = false) (lines : List String) :
    StartsHeaded (heading :: lines) := by
  rintro line mem
  rw [head?_cons, Option.mem_some_iff] at mem
  exact mem ▸ headed

lemma StartsHeaded.append (first : StartsHeaded a) (second : StartsHeaded b) :
    StartsHeaded (a ++ b) := by
  cases a with
  | nil => exact second
  | cons line rest => exact first

lemma startsHeaded_part (headed : isDeep heading = false) (lines : List String) :
    StartsHeaded (part heading lines) := by
  unfold part
  split
  · exact startsHeaded_nil
  · exact startsHeaded_cons headed lines

lemma sections_append (starts : StartsHeaded b) : sections (a ++ b) = sections a ++ sections b := by
  have noneBelow : b.takeWhile isDeep = [] := by
    cases b with
    | nil => rfl
    | cons line rest => rw [takeWhile_cons_of_neg (by simp [starts line rfl])]
  have sameBelow (rest : List String) : (rest ++ b).takeWhile isDeep = rest.takeWhile isDeep := by
    rw [takeWhile_append, noneBelow, append_nil]
    have starts : rest.takeWhile isDeep <+: rest := takeWhile_prefix isDeep
    split
    · next whole => exact (starts.eq_of_length whole).symm
    · rfl
  induction a with
  | nil => rfl
  | cons line rest ih =>
      rw [cons_append, sections, sections, sameBelow, ih]
      split <;> rfl

lemma findings_append (starts : StartsHeaded b) : findings (a ++ b) = findings a ++ findings b := by
  rw [findings, sections_append starts, filterMap_append, ← findings, ← findings]

lemma sections_cons (headed : isDeep heading = false) (deep : ∀ line ∈ lines, isDeep line = true) :
    sections (heading :: lines) = [(heading, lines)] := by
  have inner : sections lines = [] := by
    induction lines with
    | nil => rfl
    | cons line rest ih =>
        obtain ⟨here, later⟩ := forall_mem_cons.1 deep
        rw [sections, if_pos here, ih later]
  rw [sections, if_neg (by simp [headed]), takeWhile_eq_self_iff.2 deep, inner]

lemma findings_cons (headed : isDeep heading = false) (deep : ∀ line ∈ lines, isDeep line = true) :
    findings (heading :: lines) = (findingsBelow heading lines).toList := by
  rw [findings, sections_cons headed deep, filterMap_cons, filterMap_nil]
  cases findingsBelow heading lines <;> rfl

/-- A heading by itself tells nothing. -/
lemma findings_part (headed : isDeep heading = false) (starts : StartsHeaded lines) :
    findings (part heading lines) = findings lines := by
  unfold part
  split
  · next empty => rw [List.isEmpty_iff.1 empty]
  · have single : findings [heading] = [] := by
      rw [findings_cons headed (forall_mem_nil _)]
      simp [findingsBelow, below]
    rw [← singleton_append, findings_append starts, single, nil_append]

/-! ## Headings and indented lines -/

lemma isDeep_indented (line : String) : isDeep (indented line) = true := by
  rw [isDeep, isPrefixOf_iff_prefix, indented, String.toList_append]
  exact prefix_append _ _

/-- Whether a text starts with a digit. -/
def StartsWithDigit (text : String) : Prop := ∃ d rest, text.toList = d :: rest ∧ d.isDigit = true

lemma startsWithDigit_append {text : String} (digit : StartsWithDigit text) (more : String) :
    StartsWithDigit (text ++ more) := by
  obtain ⟨d, rest, split, isDigit⟩ := digit
  exact ⟨d, rest ++ more.toList, by rw [String.toList_append, split, cons_append], isDigit⟩

lemma startsWithDigit_number (n : ℕ) : StartsWithDigit (toString n) := by
  obtain ⟨d, rest, split⟩ := exists_cons_of_ne_nil (Nat.toDigits_ne_nil (n := n) (b := 10))
  have isDigit : d.isDigit = true :=
    Nat.isDigit_of_mem_toDigits (by decide) (by decide) (split ▸ mem_cons_self)
  exact ⟨d, rest, by rw [Nat.toString_eq_ofList_toDigits, String.toList_ofList, split], isDigit⟩

lemma startsWithDigit_counted (n : ℕ) (noun : String) : StartsWithDigit (counted n noun) := by
  have number := startsWithDigit_number n
  unfold counted
  split
  · exact startsWithDigit_append (startsWithDigit_append number " ") noun
  · exact startsWithDigit_append
      (startsWithDigit_append (startsWithDigit_append number " ") noun) "s"

lemma startsWithDigit_pageNumber (number : ℕ) : StartsWithDigit (pageNumber number) := by
  simp only [pageNumber]
  generalize 3 - (toString number).length = zeros
  cases zeros with
  | zero =>
      rw [replicate_zero, String.ofList_nil, String.empty_append]
      exact startsWithDigit_number number
  | succ zeros =>
      have zero : StartsWithDigit (String.ofList (replicate (zeros + 1) '0')) :=
        ⟨'0', replicate zeros '0', by rw [String.toList_ofList, replicate_succ], by decide⟩
      exact startsWithDigit_append zero _

/-- The header of a page gives its number, its title if it has one, and its path. -/
lemma pageHeader_eq (number : ℕ) (page : PageReport) :
    pageHeader number page = pageNumber number ++ " "
    ++ match page.title.filter (!·.isEmpty) with
      | some title => title ++ " (" ++ page.path ++ ")"
      | none => page.path := by
  unfold pageHeader
  cases page.title.filter (!·.isEmpty) with
  | none => rfl
  | some title => simp [toString, String.append_assoc]

example : pageHeader 7 ⟨"widget.md", some "Widget", 1, 0, []⟩ = "007 Widget (widget.md)" := by
  decide +kernel

lemma startsWithDigit_pageHeader (number : ℕ) (page : PageReport) :
    StartsWithDigit (pageHeader number page) := by
  have digit := startsWithDigit_append (startsWithDigit_pageNumber number) " "
  unfold pageHeader
  split
  · next title _ =>
      exact startsWithDigit_append
        (startsWithDigit_append (startsWithDigit_append (startsWithDigit_append digit title)
        " (") page.path) ")"
  · exact startsWithDigit_append digit page.path

lemma StartsWithDigit.isDeep_eq (digit : StartsWithDigit heading) : isDeep heading = false := by
  obtain ⟨d, rest, split, isDigit⟩ := digit
  have noSpace : ' ' ≠ d := by
    rintro rfl
    exact absurd isDigit (by decide)
  rw [isDeep, split, Bool.eq_false_iff, ne_eq, isPrefixOf_iff_prefix]
  exact fun starts => noSpace (cons_prefix_cons.1 starts).1

lemma StartsWithDigit.ne_resources (digit : StartsWithDigit heading) :
    heading ≠ "Resources (base types first)" := by
  rintro rfl
  obtain ⟨d, rest, split, isDigit⟩ := digit
  cases split
  exact absurd isDigit (by decide)

lemma prefix_indented_iff (severity : Severity) (line : String) :
    ("    " ++ severity.label ++ "[").toList.isPrefixOf (indented line).toList = true
      ↔ (severity.label ++ "[").toList <+: line.toList := by
  simp only [indented, isPrefixOf_iff_prefix, String.toList_append, append_assoc,
    prefix_append_right_inj]

lemma toldSeverity?_of_digit (digit : StartsWithDigit line) :
    toldSeverity? (indented line) = none := by
  obtain ⟨d, rest, split, isDigit⟩ := digit
  rw [toldSeverity?, find?_eq_none]
  intro severity _
  rw [prefix_indented_iff, split]
  intro starts
  cases severity <;> obtain rfl := (cons_prefix_cons.1 starts).1
    <;> exact absurd isDigit (by decide)

/-- A text starts with the word for at most one severity. -/
lemma eq_of_label_prefix {s t : Severity} {text : List Char}
    (first : (s.label ++ "[").toList <+: text)
    (second : (t.label ++ "[").toList <+: text) : s = t := by
  have nested := prefix_or_prefix_of_prefix first second
  revert nested
  cases s <;> cases t <;> decide

lemma label_prefix_lineWith (issue : Issue) (source : Option String) :
    (issue.severity.label ++ "[").toList <+: (issue.lineWith source).toList := by
  have starts (rest : String) : (issue.severity.label ++ "[").toList
      <+: (issue.severity.label ++ "[" ++ rest).toList :=
    ⟨rest.toList, String.toList_append.symm⟩
  cases source with
  | none =>
      have split : issue.lineWith none = issue.severity.label ++ "["
          ++ (issue.code.name ++ "] " ++ issue.message) := by
        simp [Issue.lineWith, toString, String.append_assoc]
      rw [split]
      exact starts _
  | some source =>
      have split : issue.lineWith (some source)
          = issue.severity.label ++ "["
            ++ (issue.code.name ++ "] " ++ source ++ ": " ++ issue.message) := by
        simp [Issue.lineWith, toString, String.append_assoc]
      rw [split]
      exact starts _

lemma toldSeverity?_lineWith (issue : Issue) (source : Option String) :
    toldSeverity? (indented (issue.lineWith source)) = some issue.severity := by
  have isLabel : (fun severity : Severity => ("    " ++ severity.label ++ "[").toList.isPrefixOf
      (indented (issue.lineWith source)).toList) = (· == issue.severity) := by
    funext severity
    rw [Bool.eq_iff_iff, prefix_indented_iff, beq_iff_eq]
    constructor
    · exact fun starts => eq_of_label_prefix starts (label_prefix_lineWith issue source)
    · rintro rfl
      exact label_prefix_lineWith issue source
  rw [toldSeverity?, isLabel]
  cases issue.severity <;> rfl

/-! ## The parts of a report -/

/-- The lines of the findings on a page that are shown. -/
def shownOn (verbose : Bool) (page : PageReport) : List String :=
  (page.issues.filter (isShown verbose)).map fun issue => indented (issue.lineOn page.path)

/-- The lines of the findings about the set as a whole that are shown. -/
def shownOnSet (verbose : Bool) (report : Report) : List String :=
  (report.issues.filter (isShown verbose)).map fun issue => indented issue.line

lemma isDeep_of_mem_shownOn (page : PageReport) :
    ∀ line ∈ shownOn verbose page, isDeep line = true :=
  forall_mem_map.2 fun _ _ => isDeep_indented _

lemma isDeep_of_mem_shownOnSet (report : Report) :
    ∀ line ∈ shownOnSet verbose report, isDeep line = true :=
  forall_mem_map.2 fun _ _ => isDeep_indented _

lemma isTold_lineWith (issue : Issue) (source : Option String) :
    isTold (indented (issue.lineWith source)) = true := by
  rw [isTold, toldSeverity?_lineWith]
  rfl

lemma filter_isTold_shownOn (page : PageReport) :
    (shownOn verbose page).filter isTold = shownOn verbose page :=
  filter_eq_self.2 (forall_mem_map.2 fun issue _ => isTold_lineWith issue _)

lemma filter_isTold_shownOnSet (report : Report) :
    (shownOnSet verbose report).filter isTold = shownOnSet verbose report :=
  filter_eq_self.2 (forall_mem_map.2 fun issue _ => isTold_lineWith issue _)

/-- The line that counts the resources and methods on a page, which only a verbose report has. -/
def countLines (verbose : Bool) (page : PageReport) : List String :=
  if verbose then
    [indented (counted page.resources "resource" ++ ", " ++ counted page.methods "method")]
  else []

lemma isDeep_of_mem_countLines (page : PageReport) :
    ∀ line ∈ countLines verbose page, isDeep line = true := by
  cases verbose with
  | false => exact forall_mem_nil _
  | true => exact forall_mem_singleton.2 (isDeep_indented _)

/-- A line that counts is about no finding. -/
lemma filter_isTold_countLines (page : PageReport) :
    (countLines verbose page).filter isTold = [] := by
  cases verbose with
  | false => rfl
  | true =>
      have digit :=
        startsWithDigit_append
          (startsWithDigit_append (startsWithDigit_counted page.resources "resource")
        ", ") (counted page.methods "method")
      refine filter_eq_nil_iff.2 (forall_mem_singleton.2 ?_)
      rw [isTold, toldSeverity?_of_digit digit]
      decide

lemma findings_pageLines (number : ℕ) (page : PageReport) :
    findings (pageLines verbose number page)
      = (below (pageHeader number page) (shownOn verbose page)).toList := by
  have header := startsWithDigit_pageHeader number page
  have deep : ∀ line ∈ countLines verbose page ++ shownOn verbose page, isDeep line = true :=
    forall_mem_append.2 ⟨isDeep_of_mem_countLines page, isDeep_of_mem_shownOn page⟩
  simp only [pageLines]
  split
  · next empty =>
      rw [Bool.and_eq_true, List.isEmpty_iff] at empty
      rw [shownOn, empty.1]
      rfl
  · rw [cons_append, ← countLines, ← shownOn, findings_cons header.isDeep_eq deep, findingsBelow,
      if_neg header.ne_resources, filter_append, filter_isTold_countLines, filter_isTold_shownOn,
      nil_append]

lemma startsHeaded_pageLines (number : ℕ) (page : PageReport) :
    StartsHeaded (pageLines verbose number page) := by
  simp only [pageLines]
  split
  · exact startsHeaded_nil
  · rw [cons_append]
    exact startsHeaded_cons (startsWithDigit_pageHeader number page).isDeep_eq _

lemma startsHeaded_linesOfPages (number : ℕ) (pages : List PageReport) :
    StartsHeaded (linesOfPages verbose number pages) := by
  induction pages generalizing number with
  | nil => exact startsHeaded_nil
  | cons page rest ih => exact (startsHeaded_pageLines number page).append (ih (number + 1))

lemma findings_linesOfPages (number : ℕ) (pages : List PageReport) :
    findings (linesOfPages verbose number pages)
      = (pages.zipIdx number).filterMap fun place =>
        below (pageHeader place.2 place.1) (shownOn verbose place.1) := by
  induction pages generalizing number with
  | nil => rfl
  | cons page rest ih =>
      rw [linesOfPages, findings_append (startsHeaded_linesOfPages _ _), findings_pageLines, ih,
        zipIdx_cons, filterMap_cons]
      cases below (pageHeader number page) (shownOn verbose page) <;> rfl

/-- A part below a heading that is about the set as a whole. -/
lemma findings_part_of_deep (headed : isDeep heading = false)
    (deep : ∀ line ∈ lines, isDeep line = true) :
    findings (part heading lines) = (findingsBelow heading lines).toList := by
  unfold part
  split
  · next empty =>
      rw [List.isEmpty_iff.1 empty, findingsBelow]
      split <;> rfl
  · exact findings_cons headed deep

/-! ## Parts one below the other -/

/-- Behind a part that is not empty there is an empty line, if there is more. -/
lemma stacked_cons (nonempty : a ≠ []) (parts : List (List String)) :
    stacked (a :: parts) = a ++ part "" (stacked parts) := by
  rw [stacked, filter_cons_of_pos (by simpa using nonempty), stacked]
  cases kept : parts.filter (!·.isEmpty) with
  | nil =>
      rw [intercalate_singleton]
      exact (append_nil a).symm
  | cons b more =>
      have isKept := (mem_filter.1 (kept ▸ mem_cons_self)).2
      have later : [""].intercalate (b :: more) ≠ [] := by
        have isSome : b ≠ [] := by simpa using isKept
        cases more with
        | nil => rwa [intercalate_singleton]
        | cons c more =>
            rw [intercalate_cons_cons]
            exact append_ne_nil_of_left_ne_nil (append_ne_nil_of_left_ne_nil isSome _) _
      rw [intercalate_cons_cons, append_assoc, part, if_neg (by simpa using later)]
      rfl

lemma stacked_nil_cons (parts : List (List String)) : stacked ([] :: parts) = stacked parts := by
  rw [stacked, filter_cons_of_neg (by simp), ← stacked]

lemma startsHeaded_stacked (headed : ∀ lines ∈ parts, StartsHeaded lines) :
    StartsHeaded (stacked parts) := by
  induction parts with
  | nil => exact startsHeaded_nil
  | cons lines parts ih =>
      obtain ⟨here, later⟩ := forall_mem_cons.1 headed
      by_cases empty : lines = []
      · rw [empty, stacked_nil_cons]
        exact ih later
      · rw [stacked_cons empty]
        exact here.append (startsHeaded_part (by decide) _)

lemma findings_stacked (headed : ∀ lines ∈ parts, StartsHeaded lines) :
    findings (stacked parts) = parts.flatMap findings := by
  induction parts with
  | nil => rfl
  | cons lines parts ih =>
      obtain ⟨here, later⟩ := forall_mem_cons.1 headed
      rw [flatMap_cons, ← ih later]
      by_cases empty : lines = []
      · rw [empty, stacked_nil_cons]
        rfl
      · rw [stacked_cons empty, findings_append (startsHeaded_part (by decide) _),
          findings_part (by decide) (startsHeaded_stacked later)]

lemma getLast?_stacked (parts : List (List String)) (line : String) :
    (stacked (parts ++ [[line]])).getLast? = some line := by
  induction parts with
  | nil => rfl
  | cons lines parts ih =>
      rw [cons_append]
      by_cases empty : lines = []
      · rw [empty, stacked_nil_cons, ih]
      · have last : (part "" (stacked (parts ++ [[line]]))).getLast? = some line := by
          rw [part, if_neg fun empty => by simp [List.isEmpty_iff.1 empty] at ih, getLast?_cons, ih]
          rfl
        rw [stacked_cons empty, getLast?_append, last]
        rfl

/-! ## Verbose reports -/

lemma part_sublist (shown : a <+ b) (heading : String) : part heading a <+ part heading b := by
  unfold part
  split
  · exact nil_sublist _
  · next nonempty =>
      have more : ¬ b.isEmpty = true := by
        rw [List.isEmpty_iff] at nonempty ⊢
        rintro rfl
        exact nonempty (sublist_nil.1 shown)
      rw [if_neg more]
      exact shown.cons_cons heading

lemma sublist_part (heading : String) (lines : List String) : lines <+ part heading lines := by
  unfold part
  split
  · next empty => rw [List.isEmpty_iff.1 empty]
  · exact sublist_cons_self heading lines

/-- Parts with more lines have more lines one below the other. -/
lemma stacked_sublist (grows : Forall₂ Sublist parts more) : stacked parts <+ stacked more := by
  induction grows with
  | nil => exact nil_sublist _
  | @cons a b parts more shown _ ih =>
      by_cases empty : a = []
      · rw [empty, stacked_nil_cons]
        by_cases new : b = []
        · rwa [new, stacked_nil_cons]
        · rw [stacked_cons new]
          exact (ih.trans (sublist_part "" _)).trans (sublist_append_right _ _)
      · have nonempty : b ≠ [] := by
          rintro rfl
          exact empty (sublist_nil.1 shown)
        rw [stacked_cons empty, stacked_cons nonempty]
        exact shown.append (part_sublist ih "")

lemma issues_sublist (issues : List Issue) :
    issues.filter (isShown false) <+ issues.filter (isShown true) := by
  rw [filter_eq_self.2 fun issue _ => (rfl : isShown true issue = true)]
  exact filter_sublist

lemma pageLines_sublist (number : ℕ) (page : PageReport) :
    pageLines false number page <+ pageLines true number page := by
  have shown := (issues_sublist page.issues).map fun issue => indented (issue.lineOn page.path)
  simp only [pageLines, Bool.not_true, Bool.and_false, Bool.false_eq_true, if_false, if_true]
  split
  · exact nil_sublist _
  · exact (shown.cons _).cons_cons _

lemma linesOfPages_sublist (number : ℕ) (pages : List PageReport) :
    linesOfPages false number pages <+ linesOfPages true number pages := by
  induction pages generalizing number with
  | nil => exact .refl _
  | cons page rest ih => exact (pageLines_sublist number page).append (ih (number + 1))

lemma lines_sublist (report : Report) : report.lines false <+ report.lines true := by
  refine stacked_sublist (.cons ?_ (.cons ?_ (.cons ?_ (.cons (.refl _) .nil))))
  · exact part_sublist (linesOfPages_sublist 1 report.pages) _
  · exact part_sublist ((issues_sublist report.issues).map _) _
  · exact nil_sublist _

/-! ## The whole report -/

lemma isDeep_summary (report : Report) : isDeep report.summary = false := by
  rw [isDeep, Bool.eq_false_iff, ne_eq, isPrefixOf_iff_prefix]
  simp only [summary, String.append_assoc, String.toList_append]
  exact fun starts => absurd (cons_prefix_cons.1 starts).1 (by decide)

lemma findings_lines (verbose : Bool) (report : Report) :
    findings (report.lines verbose)
      = ((report.pages.zipIdx 1).filterMap fun place =>
        below (pageHeader place.2 place.1) (shownOn verbose place.1))
        ++ (below "Documentation set" (shownOnSet verbose report)).toList := by
  have deepNames : ∀ line ∈ (if verbose then report.resourceOrder.map indented else []),
      isDeep line = true := by
    cases verbose with
    | false => exact forall_mem_nil _
    | true => exact forall_mem_map.2 fun name _ => isDeep_indented name
  have headed : ∀ lines ∈ [part "Documents" (linesOfPages verbose 1 report.pages),
      part "Documentation set" (shownOnSet verbose report),
      part "Resources (base types first)"
        (if verbose then report.resourceOrder.map indented else []),
      [report.summary]], StartsHeaded lines := by
    simp only [forall_mem_cons]
    exact ⟨startsHeaded_part (by decide) _, startsHeaded_part (by decide) _,
      startsHeaded_part (by decide) _,
      startsHeaded_cons (isDeep_summary report) [], forall_mem_nil _⟩
  have last : findings [report.summary] = [] := by
    rw [findings_cons (isDeep_summary report) (forall_mem_nil _), findingsBelow]
    split <;> rfl
  rw [lines, ← shownOnSet, findings_stacked headed]
  simp only [flatMap_cons, flatMap_nil]
  rw [findings_part (by decide) (startsHeaded_linesOfPages _ _), findings_linesOfPages,
    findings_part_of_deep (by decide) (isDeep_of_mem_shownOnSet report),
    findings_part_of_deep (by decide) deepNames, last, findingsBelow, if_neg (by decide),
    filter_isTold_shownOnSet, findingsBelow, if_pos rfl]
  simp

/-! ## Counting -/

lemma flatMap_below (heading : String) (lines : List String) :
    (below heading lines).toList.flatMap (·.2) = lines := by
  unfold below
  split
  · next empty => rw [List.isEmpty_iff.1 empty]; rfl
  · exact append_nil lines

lemma flatMap_findings_lines (verbose : Bool) (report : Report) :
    (findings (report.lines verbose)).flatMap (·.2)
      = report.pages.flatMap (shownOn verbose) ++ shownOnSet verbose report := by
  have unnumbered : (report.pages.zipIdx 1).flatMap (fun place => shownOn verbose place.1)
      = report.pages.flatMap (shownOn verbose) := by
    rw [← flatMap_map, zipIdx_map_fst]
  rw [findings_lines, flatMap_append, flatMap_below, filterMap_eq_flatMap_toList,
    flatMap_assoc, ← unnumbered]
  simp only [flatMap_below]

/-- Errors and warnings have as many lines as there are of them, because all are shown. -/
lemma countP_shown {severity : Severity} (shown : severity ≠ .message) (issues : List Issue)
    (source : Issue → Option String) :
    ((issues.filter (isShown verbose)).map fun issue =>
      indented (issue.lineWith (source issue))).countP
        (fun line => toldSeverity? line == some severity)
      = issues.countP (·.severity == severity) := by
  rw [countP_map, countP_filter]
  refine countP_congr fun issue _ => ?_
  rw [Function.comp_apply, toldSeverity?_lineWith, Bool.and_eq_true, beq_iff_eq, beq_iff_eq,
    Option.some_inj]
  refine ⟨And.left, fun same => ⟨same, ?_⟩⟩
  have isNoNote : issue.severity ≠ .message := same ▸ shown
  simp [isShown, isNoNote]

lemma toldCount_lines {severity : Severity} (shown : severity ≠ .message) (verbose : Bool)
    (report : Report) :
    toldCount severity (report.lines verbose)
      = report.allIssues.countP (·.severity == severity) := by
  have onPage (page : PageReport) : (shownOn verbose page).countP (fun line =>
      toldSeverity? line == some severity)
      = page.issues.countP (·.severity == severity) :=
    countP_shown shown page.issues _
  have onSet : (shownOnSet verbose report).countP (fun line => toldSeverity? line == some severity)
      = report.issues.countP (·.severity == severity) :=
    countP_shown shown report.issues _
  rw [toldCount, flatMap_findings_lines, allIssues, countP_append, countP_append, onSet,
    countP_flatMap, countP_flatMap]
  congr 2
  exact map_congr_left fun page _ => onPage page

/-- **A report tells every finding that is shown,** once and in order: below the header of its page,
which has the number of the page whether other pages are shown or not, or below the heading of the
set.  Errors and warnings are always shown.  The last line counts the pages and the lines of errors
and warnings, and a verbose report only adds lines. -/
theorem findings_told (verbose : Bool) (report : Report) :
    findings (report.lines verbose)
        = ((report.pages.zipIdx 1).filterMap fun place =>
            below (pageHeader place.2 place.1)
              ((place.1.issues.filter (isShown verbose)).map fun issue =>
                indented (issue.lineOn place.1.path)))
          ++ (below "Documentation set"
              ((report.issues.filter (isShown verbose)).map fun issue =>
                indented issue.line)).toList
      ∧ (∀ issue, isShown verbose issue = (verbose || issue.isError || issue.isWarning))
      ∧ (report.lines verbose).getLast?
        = some ("Checked " ++ counted report.pages.length "document" ++ ": "
          ++ counted (toldCount .error (report.lines verbose)) "error" ++ ", "
          ++ counted (toldCount .warning (report.lines verbose)) "warning" ++ ". "
          ++ if report.passed then "Passed" else "FAILED")
      ∧ report.lines false <+ report.lines true := by
  refine ⟨findings_lines verbose report, fun issue => ?_, ?_, lines_sublist report⟩
  · rw [isShown, Issue.isError, Issue.isWarning, Bool.or_assoc]
    cases issue.severity <;> rfl
  · rw [toldCount_lines (by decide), toldCount_lines (by decide)]
    exact getLast?_stacked [_, _, _] report.summary

end DocAudit.Report
