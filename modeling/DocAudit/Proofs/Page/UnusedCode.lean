import DocAudit.Proofs.Page.Neighbours

/-!
# Code that a page does not use

A comment and the code behind it may say nothing that a page can use: the comment is no metadata,
names an unknown role, asks to be ignored, or is about a resource that cannot be read.  Such code
leaves everything as it was and is found once (`Scan.annotatedCode_of_isUnused`), so a page without
it is read the same, with one finding less (`Page.scan_around_unused`).
-/

namespace DocAudit

open List

/-! ## Resources that cannot be read -/

namespace Resource

variable {naming : TypeNaming} {metadata : CodeMetadata} {name json : String} {origin : BlockOrigin}

/-- Whether an example is read does not depend on its line. -/
lemma exampleProperties_of_rejected {line : Nat}
    (rejected : (exampleProperties naming metadata name line json).value = none) (other : Nat) :
    ∃ message, exampleProperties naming metadata name other json
      = ⟨none, [.error .resourceJsonInvalid message]⟩ := by
  unfold exampleProperties at rejected ⊢
  cases read : Json.Value.read? json.toList with
  | some value =>
      cases shown : exampleMembers? metadata.isCollection value with
      | some members => simp [read, shown] at rejected
      | none =>
          simp only [shown]
          exact ⟨_, rfl⟩
  | none =>
      by_cases truncated : metadata.isTruncated
      · simp [read, truncated] at rejected
      · simp only [truncated, if_false, Bool.false_eq_true]
        exact ⟨_, rfl⟩

/-- Why a resource cannot be read: it has no name, or its example is no JSON object. -/
def rejection (metadata : CodeMetadata) : IssueCode :=
  if (nameIn metadata).isEmpty then .missingResourceName else .resourceJsonInvalid

/-- A resource that is not read at one place is not read anywhere, with one finding. -/
lemma ofExample_of_rejected (rejected : (ofExample naming metadata json origin).value = none)
    (other : BlockOrigin) :
    ∃ message, ofExample naming metadata json other
      = ⟨none, [.error (rejection metadata) message]⟩ := by
  unfold ofExample rejection at *
  by_cases unnamed : (nameIn metadata).isEmpty
  · simp only [unnamed, if_true]
    exact ⟨_, rfl⟩
  · simp only [unnamed, if_false, Bool.false_eq_true] at rejected ⊢
    have unreadable := Option.map_eq_none_iff.1 rejected
    obtain ⟨message, same⟩ := exampleProperties_of_rejected unreadable other.line
    rw [same]
    exact ⟨message, rfl⟩

end Resource

/-! ## One comment and its code -/

/-- A comment and the code behind it that a page does not use, and the kind of finding that says so.
Nothing is found if the comment asks for it. -/
inductive Block.IsUnused (settings : Settings) (comment code : Block) :
    Option IssueCode → Prop where
  | unreadable (read : CodeMetadata.read? comment.content = none) :
      IsUnused settings comment code (some .metadataParseError)
  | unknown {metadata : CodeMetadata} (read : CodeMetadata.read? comment.content = some metadata)
      (role : metadata.role? = none) : IsUnused settings comment code (some .unknownBlockType)
  | ignored {metadata : CodeMetadata} (read : CodeMetadata.read? comment.content = some metadata)
      (role : metadata.role? = some .ignored) : IsUnused settings comment code none
  | rejected {metadata : CodeMetadata} {origin : BlockOrigin}
      (read : CodeMetadata.read? comment.content = some metadata)
      (role : metadata.role? = some .resource)
      (rejected : (Resource.ofExample settings.naming metadata code.content origin).value = none) :
      IsUnused settings comment code (some (Resource.rejection metadata))

/-- Code that is not used leaves everything as it was. -/
lemma Scan.annotatedCode_of_isUnused {settings : Settings} {comment code : Block}
    {kind : Option IssueCode} (unused : Block.IsUnused settings comment code kind) (scan : Scan) :
    ∃ found : List Issue, found.map (·.code) = kind.toList
      ∧ (∀ issue ∈ found, issue.severity = .error)
      ∧ annotatedCode settings scan comment code = ⟨scan, found⟩ := by
  have once (code : IssueCode) (message : String) :
      ([Issue.error code message].map (·.code) = (some code).toList)
        ∧ ∀ issue ∈ [Issue.error code message], issue.severity = .error :=
    ⟨rfl, forall_mem_singleton.2 rfl⟩
  unfold annotatedCode
  cases unused with
  | unreadable read =>
      rw [read]
      exact ⟨_, (once ..).1, (once ..).2, rfl⟩
  | unknown read role =>
      simp only [read, role]
      exact ⟨_, (once ..).1, (once ..).2, rfl⟩
  | ignored read role =>
      simp only [read, role]
      exact ⟨[], rfl, forall_mem_nil _, rfl⟩
  | rejected read role rejected =>
      obtain ⟨message, same⟩ := Resource.ofExample_of_rejected rejected (scan.origin code)
      simp only [read, role, codeWithRole, same]
      exact ⟨_, (once ..).1, (once ..).2, rfl⟩

/-! ## The page around it -/

/-- **Code that is not used does not disturb its page.**  If the parts of a page before and behind
such code do not meet between a comment and its code, the page is read as if the code were not
there.  The findings are the same in the same order, with one error more behind those of the part
before; it says why the code is not used, and there is none for code that is to be ignored. -/
theorem Page.scan_around_unused (settings : Settings) (path : String) {before after : List Block}
    {comment code : Block} {kind : Option IssueCode} (isComment : comment.isComment)
    (isCode : code.isCode)
    (unused : Block.IsUnused settings comment code kind) (apart : Scan.Apart before after) :
    let disturbed := Page.scan settings path (before ++ [comment, code] ++ after)
    let plain := Page.scan settings path (before ++ after)
    disturbed.value = plain.value
      ∧ ∃ found later : List Issue,
          found.map (·.code) = kind.toList ∧ (∀ issue ∈ found, issue.severity = .error)
          ∧ plain.issues = (Page.scan settings path before).issues ++ later
          ∧ disturbed.issues = (Page.scan settings path before).issues ++ found ++ later := by
  intro disturbed plain
  set first := Scan.run settings (.start path) none before with read
  have apartBefore : Scan.Apart before ([comment, code] ++ after) := .of_isComment isComment _ _
  have apartBehind : Scan.Apart [comment, code] after := .of_isCode isCode [comment] after
  obtain ⟨found, kinds, errors, same⟩ := Scan.annotatedCode_of_isUnused unused first.value
  have runPlain : Scan.run settings (.start path) none (before ++ after)
      = first >>= fun scan => Scan.run settings scan none after :=
    Scan.run_append_of_apart apart
  have runDisturbed : Scan.run settings (.start path) none (before ++ [comment, code] ++ after)
      = first >>= fun scan => Scan.run settings scan none [comment, code] >>= fun scan =>
          Scan.run settings scan none after := by
    rw [append_assoc, Scan.run_append_of_apart apartBefore]
    exact congrArg _ (funext fun scan => Scan.run_append_of_apart apartBehind)
  refine ⟨?_, found, (Scan.run settings first.value none after).issues, kinds, errors, ?_, ?_⟩
  · rw [Page.value_scan, Page.value_scan, runDisturbed, runPlain, Audit.value_bind,
      Audit.value_bind, Audit.value_bind, Scan.run_pair isComment isCode, same]
  · rw [Page.issues_scan, Page.issues_scan, runPlain, Audit.issues_bind]
  · rw [Page.issues_scan, Page.issues_scan, runDisturbed, Audit.issues_bind, Audit.issues_bind,
      Scan.run_pair isComment isCode, same, append_assoc]

/-- A comment for a resource, and code that is no JSON. -/
def itemComment : Block :=
  ⟨.comment, "<!-- \x7b \"blockType\": \"resource\", \"@odata.type\": \"foo.item\" \x7d -->",
    4, none⟩

@[inherit_doc itemComment]
def itemCode : Block :=
  ⟨.code, "\x7b \"id\": \x7d", 5, some "json"⟩

/-- A request, and its response behind it. -/
def requestPair : List Block :=
  [⟨.comment, "<!-- \x7b \"blockType\": \"request\" \x7d -->", 1, none⟩,
   ⟨.code, "GET /items", 2, some "http"⟩]

@[inherit_doc requestPair]
def responsePair : List Block :=
  [⟨.comment, "<!-- \x7b \"blockType\": \"response\" \x7d -->", 8, none⟩,
   ⟨.code, "HTTP/1.1 200 OK", 9, some "http"⟩]

/-- The response still goes to the request before the example that cannot be read. -/
theorem unreadable_example_skipped :
    let disturbed :=
      Page.scan .stock "item.md" (requestPair ++ [itemComment, itemCode] ++ responsePair)
    let plain := Page.scan .stock "item.md" (requestPair ++ responsePair)
    itemComment.isComment = true ∧ itemCode.isCode = true
      ∧ Block.IsUnused .stock itemComment itemCode (some .resourceJsonInvalid)
      ∧ Scan.Apart requestPair responsePair
      ∧ disturbed.value = plain.value ∧ disturbed.issues.length = plain.issues.length + 1
      ∧ plain.value.methods.map (·.response.isSome) = [true] := by
  intro disturbed plain
  have rejects : (CodeMetadata.read? itemComment.content).any fun metadata =>
      metadata.role? == some .resource && (Resource.rejection metadata == .resourceJsonInvalid
        && (Resource.ofExample Settings.stock.naming metadata itemCode.content
          ((Scan.start "item.md").origin itemCode)).value.isNone) := by
    decide +kernel
  have unused : Block.IsUnused .stock itemComment itemCode (some .resourceJsonInvalid) := by
    obtain ⟨metadata, read, rejects⟩ := (Option.any_eq_true ..).1 rejects
    rw [Bool.and_eq_true, Bool.and_eq_true, beq_iff_eq, beq_iff_eq,
      Option.isNone_iff_eq_none] at rejects
    obtain ⟨role, kind, rejected⟩ := rejects
    exact kind ▸ .rejected read role rejected
  have apart : Scan.Apart requestPair responsePair := by
    decide +kernel
  obtain ⟨same, found, later, kinds, -, issuesPlain, issuesDisturbed⟩ :=
    Page.scan_around_unused .stock "item.md" (by decide) (by decide) unused apart
  have one : found.length = 1 := by
    rw [← length_map, kinds]
    rfl
  refine ⟨by decide, by decide, unused, apart, same, ?_, by decide +kernel⟩
  rw [issuesDisturbed, issuesPlain, length_append, length_append, length_append, one]
  omega

end DocAudit
