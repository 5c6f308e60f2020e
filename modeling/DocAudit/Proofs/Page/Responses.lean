import DocAudit.Proofs.Page.Attempts
import DocAudit.Proofs.Page.Growth
import DocAudit.Proofs.Page.Neighbours

/-!
# Responses of a page

While a page is read, its requests have the responses of the first attempts at them (`Page.Paired`),
and the findings about responses are those that the attempts account for.  Every block keeps this
(`Scan.follows_step`), and so do all blocks together (`Scan.follows_run`): the responses on a page
and the findings about them can be read off from what annotated code says (`Page.responses_paired`).
-/

namespace DocAudit

open List Audit Attempt

/-! ## What blocks say -/

namespace Scan

/-- What a block of code says, if there is a comment before it that gives it a role. -/
def directive? (declared : List String) (previous : Option Block) (block : Block) :
    Option Directive :=
  if block.isCode then do
    let comment ← previous.filter (·.isComment)
    let metadata ← CodeMetadata.read? comment.content
    let role ← metadata.role?
    return ⟨declared, metadata, role, block⟩
  else none

/-- What the annotated code among some blocks says, behind requests that are declared. -/
def directives (path : String) (declared : List String) (previous : Option Block) :
    List Block → List Directive
  | [] => []
  | block :: rest =>
    let first := (directive? declared previous block).toList
    first ++ directives path (declared ++ first.flatMap (·.identifiers path)) (some block) rest

end Scan

/-! ## Pages that change otherwise -/

namespace Page.Paired

variable {path : String} {declared : List String} {attempts : List Attempt} {page other : Page}

lemma congr (h : page.Paired path declared attempts) (itself : other.path = page.path)
    (methods : other.methods = page.methods) : other.Paired path declared attempts where
  itself := itself.trans h.itself
  identifiers := by rw [methods, h.identifiers]
  responses := by rw [methods]; exact h.responses
  known := h.known

lemma position_lt (h : page.Paired path declared attempts) :
    ∀ attempt ∈ attempts, attempt.position < page.methods.length := by
  intro attempt mem
  obtain ⟨lt, -⟩ := List.getElem?_eq_some_iff.1 (h.known attempt mem)
  rwa [← h.identifiers, length_map] at lt

/-- No attempt was made at a request that is new. -/
lemma addMethod (h : page.Paired path declared attempts) {method : Method}
    (unanswered : method.response = none) :
    (page.addMethod method).Paired path (declared ++ [method.identifier]) attempts where
  itself := h.itself
  identifiers := by
    change (page.methods ++ [method]).map (·.identifier) = _
    rw [map_append, h.identifiers, map_singleton]
  responses := by
    intro position found isFound
    change (page.methods ++ [method])[position]? = some found at isFound
    -- either a request that was there, or the new one at the first free position
    have isNew : page.methods[position]? = some found ∨ position = page.methods.length
        ∧ found = method := by
      grind
    rcases isNew with before | ⟨rfl, rfl⟩
    · exact h.responses position found before
    · rw [unanswered, response?_eq_none]
      intro attempt mem
      have lt := h.position_lt attempt mem
      omega
  known := by
    intro attempt mem
    have lt := h.position_lt attempt mem
    rw [← length_map (f := (·.identifier)), h.identifiers] at lt
    rw [getElem?_append_left lt]
    exact h.known attempt mem

lemma changeMethod (h : page.Paired path declared attempts) (position : Nat)
    {change : Method → Method}
    (identifier : ∀ method, (change method).identifier = method.identifier)
    (response : ∀ method, (change method).response = method.response) :
    (page.changeMethod position change).Paired path declared attempts where
  itself := h.itself
  identifiers := by
    rw [← h.identifiers]
    refine ext_getElem? fun index => ?_
    rw [Page.changeMethod, getElem?_map, getElem?_modify, getElem?_map, Option.map_eq_map,
      Option.map_map]
    refine Option.map_congr fun method _ => ?_
    rw [Function.comp_apply]
    split
    · exact identifier method
    · rfl
  responses := by
    intro index method isMethod
    rw [Page.changeMethod, getElem?_modify] at isMethod
    obtain ⟨before, isBefore, rfl⟩ := Option.map_eq_some_iff.1 isMethod
    have answered : before.response = response? attempts index := h.responses index before isBefore
    split
    · rw [response, answered]
    · exact answered
  known := h.known

end Page.Paired

/-! ## One block -/

namespace Directive

variable (directive : Directive)

lemma code_of_mem_orphanIssues :
    ∀ issue ∈ directive.orphanIssues, issue.code = .responseWithoutRequest := by
  unfold orphanIssues
  split
  · exact forall_mem_nil _
  · split
    · split
      · exact forall_mem_singleton.2 rfl
      · exact forall_mem_nil _
    · exact forall_mem_singleton.2 rfl
    · exact forall_mem_singleton.2 rfl
    · exact forall_mem_nil _

lemma code_of_mem_unknownIssues :
    ∀ issue ∈ directive.unknownIssues, issue.code = .requestNotFound := by
  unfold unknownIssues
  split
  · exact forall_mem_map.2 fun _ _ => rfl
  · exact forall_mem_nil _

/-- A directive that is not about requests and responses. -/
structure IsSilent (path : String) : Prop where
  identifiers : directive.identifiers path = []
  attempts : directive.attempts = []
  unknownIssues : directive.unknownIssues = []

end Directive

namespace Scan

/-- What reading does about requests and responses, if something is said behind requests and
attempts. -/
structure Follows (path : String) (declared : List String) (earlier : List Attempt)
    (said : List Directive)
    (read : Audit Scan) : Prop where
  paired : read.value.page.Paired path (declared ++ said.flatMap (·.identifiers path))
    (earlier ++ said.flatMap (·.attempts))
  duplicates : read.issues.filter (·.code == .duplicateResponse)
    = (repeated earlier (said.flatMap (·.attempts))).map duplicateIssue
  unknown : read.issues.filter (·.code == .requestNotFound) = said.flatMap (·.unknownIssues)
  orphans : read.issues.filter (·.code == .responseWithoutRequest) = said.flatMap (·.orphanIssues)

variable {settings : Settings} {path : String} {declared : List String} {earlier : List Attempt}
  {said more : List Directive} {scan : Scan} {metadata : CodeMetadata} {block : Block}

/-- What is said first is followed first. -/
lemma Follows.bind {step : Audit Scan} {next : Scan → Audit Scan}
    (h : Follows path declared earlier said step)
    (g : Follows path (declared ++ said.flatMap (·.identifiers path)) (earlier
      ++ said.flatMap (·.attempts)) more
      (next step.value)) :
    Follows path declared earlier (said ++ more) (step >>= next) where
  paired := by
    rw [flatMap_append, flatMap_append, ← append_assoc, ← append_assoc]
    exact g.paired
  duplicates := by
    rw [issues_bind, filter_append, h.duplicates, g.duplicates, flatMap_append,
      repeated_append, map_append]
  unknown := by rw [issues_bind, filter_append, h.unknown, g.unknown, flatMap_append]
  orphans := by rw [issues_bind, filter_append, h.orphans, g.orphans, flatMap_append]

/-- The codes of findings about responses. -/
def responseCodes : List IssueCode :=
  [.duplicateResponse, .requestNotFound, .responseWithoutRequest]

/-- Reading that leaves requests alone follows when nothing is said. -/
lemma follows_nil {step : Audit Scan} (h : step.value.page.Paired path declared earlier)
    {codes : List IssueCode}
    (found : HasCodes codes step) (others : ∀ code ∈ responseCodes, code ∉ codes) :
    Follows path declared earlier [] step where
  paired := by
    rw [flatMap_nil, flatMap_nil, append_nil, append_nil]
    exact h
  duplicates := found.filter_eq_nil (others _ (by decide))
  unknown := found.filter_eq_nil (others _ (by decide))
  orphans := found.filter_eq_nil (others _ (by decide))

lemma follows_pure (h : scan.page.Paired path declared earlier) :
    Follows path declared earlier [] (pure scan) := by
  have silent : HasCodes [] (pure scan) := .pure scan
  exact follows_nil h silent fun _ _ => not_mem_nil

lemma follows_error (h : scan.page.Paired path declared earlier) {code : IssueCode}
    (message : String) (other : code ∉ responseCodes) :
    Follows path declared earlier [] (do Audit.error code message; return scan) := by
  have found : HasCodes [code] (do Audit.error code message; return scan) :=
    .bind (.error message mem_cons_self) fun _ => .pure scan
  refine follows_nil h found fun found isResponse same => ?_
  exact other (mem_singleton.1 same ▸ isResponse)

/-- One directive is followed. -/
lemma Follows.single {directive : Directive} {read : Audit Scan}
    (paired : read.value.page.Paired path (declared ++ directive.identifiers path) (earlier
      ++ directive.attempts))
    (duplicates : read.issues.filter (·.code == .duplicateResponse)
      = (repeated earlier directive.attempts).map duplicateIssue)
    (unknown : read.issues.filter (·.code == .requestNotFound) = directive.unknownIssues)
    (orphans : read.issues.filter (·.code == .responseWithoutRequest) = directive.orphanIssues) :
    Follows path declared earlier [directive] read := by
  constructor
  all_goals rw [flatMap_singleton]
  · rwa [flatMap_singleton]
  · exact duplicates
  · exact unknown
  · exact orphans

/-- Nothing has to be done for a directive that is not about requests and responses. -/
lemma Follows.of_isSilent {directive : Directive} {step : Audit Scan}
    (h : Follows path declared earlier [] step)
    (silent : directive.IsSilent path) (housed : directive.orphanIssues = []) :
    Follows path declared earlier [directive] step := by
  refine .single ?_ ?_ ?_ ?_
  · rw [silent.identifiers, silent.attempts]
    exact h.paired
  · rw [silent.attempts]
    exact h.duplicates
  · rw [silent.unknownIssues]
    exact h.unknown
  · rw [housed]
    exact h.orphans

lemma follows_request (h : scan.page.Paired path declared earlier) :
    Follows path declared earlier [⟨declared, metadata, .request, block⟩]
      (scan.request metadata block) := by
  set identifier := metadata.names.head?.getD s!"{path} #{declared.length + 1}" with isIdentifier
  have page : (scan.request metadata block).value.page
      = scan.page.addMethod (.ofRequest identifier block.content metadata (scan.origin block)) := by
    rw [isIdentifier, ← h.itself, ← h.identifiers, length_map]
    simp only [request]
    split <;> rfl
  have silent (code : IssueCode) (other : code ∉ [.requestParseError]) :
      (scan.request metadata block).issues.filter (·.code == code) = [] :=
    hasCodes_request.filter_eq_nil other
  refine .single ?_ (silent _ (by decide)) (silent _ (by decide)) ?_
  · have idle : Directive.attempts ⟨declared, metadata, .request, block⟩ = [] := rfl
    rw [page, idle, append_nil]
    have unanswered : (Method.ofRequest identifier block.content metadata
        (scan.origin block)).response = none := rfl
    exact h.addMethod unanswered
  · rw [silent _ (by decide), Directive.orphanIssues, ite_self]

lemma follows_response (h : scan.page.Paired path declared earlier) :
    Follows path declared earlier [⟨declared, metadata, .response, block⟩]
      (scan.response metadata block) := by
  set directive : Directive := ⟨declared, metadata, .response, block⟩
  have known := known_attempts directive
  obtain ⟨value, issues⟩ := response_eq h.identifiers metadata block
  rw [issues_makeAttempts h known] at issues
  rw [value_makeAttempts] at value
  have repeats : ∀ issue ∈ (repeated earlier directive.attempts).map duplicateIssue,
      issue.code = .duplicateResponse := forall_mem_map.2 fun _ _ => rfl
  have filtered (code : IssueCode) : (scan.response metadata block).issues.filter (·.code == code)
      = (if code = .responseWithoutRequest then directive.orphanIssues else [])
        ++ (if code = .requestNotFound then directive.unknownIssues else [])
        ++ (if code = .duplicateResponse
          then (repeated earlier directive.attempts).map duplicateIssue
          else []) := by
    rw [issues, filter_append, filter_append,
      Issue.filter_of_code directive.code_of_mem_orphanIssues,
      Issue.filter_of_code directive.code_of_mem_unknownIssues, Issue.filter_of_code repeats]
  refine .single ?_ ?_ ?_ ?_
  · have noRequest : directive.identifiers path = [] := rfl
    rw [value, noRequest, append_nil]
    exact h.pair known
  · simp [filtered]
  · simp [filtered]
  · simp [filtered]

/-- What is for the latest request, but is no response to it. -/
lemma follows_changeLatest (h : scan.page.Paired path declared earlier) {directive : Directive}
    (silent : directive.IsSilent path) {message : String}
    (orphaned : directive.orphanIssues
      = if declared = [] then [.error .responseWithoutRequest message] else [])
    {change : Method → Method}
    (identifier : ∀ method, (change method).identifier = method.identifier)
    (response : ∀ method, (change method).response = method.response) :
    Follows path declared earlier [directive] (scan.changeLatest message change) := by
  have emptyIff : scan.page.methods.isEmpty = true ↔ declared = [] := by
    rw [List.isEmpty_iff, ← h.identifiers, map_eq_nil_iff]
  refine .single ?_ ?_ ?_ ?_
  · rw [silent.identifiers, silent.attempts, append_nil, append_nil]
    unfold changeLatest
    split
    · exact h
    · exact h.changeMethod _ identifier response
  · rw [silent.attempts]
    unfold changeLatest
    split <;> rfl
  · rw [silent.unknownIssues]
    unfold changeLatest
    split <;> rfl
  · simp only [orphaned, changeLatest, emptyIff]
    split <;> rfl

lemma follows_codeWithRole (h : scan.page.Paired path declared earlier) (role : BlockRole) :
    Follows path declared earlier [⟨declared, metadata, role, block⟩]
      (scan.codeWithRole settings metadata block role) := by
  cases role with
  | request => exact follows_request h
  | response => exact follows_response h
  | simulatedResponse =>
      refine follows_changeLatest h ⟨rfl, rfl, rfl⟩ ?_ (fun _ => rfl) fun _ => rfl
      rw [Directive.orphanIssues, ite_not]
  | testParams =>
      refine follows_changeLatest h ⟨rfl, rfl, rfl⟩ ?_ (fun _ => rfl) fun _ => rfl
      rw [Directive.orphanIssues, ite_not]
  | resource =>
      refine .of_isSilent ?_ ⟨rfl, rfl, rfl⟩ (ite_self _)
      have found : HasCodes [.missingResourceName, .resourceJsonInvalid, .info]
          (scan.codeWithRole settings metadata block .resource) := by
        refine .bind (hasCodes_ofExample ..) fun shown => ?_
        cases shown <;> exact .pure _
      refine follows_nil ?_ found (by decide)
      rw [codeWithRole, value_bind]
      split
      · exact h.congr rfl rfl
      · exact h
  | ignored => exact .of_isSilent (follows_pure h) ⟨rfl, rfl, rfl⟩ (ite_self _)
  | _ => exact .of_isSilent (follows_pure (h.congr rfl rfl)) ⟨rfl, rfl, rfl⟩ (ite_self _)

lemma follows_code (h : scan.page.Paired path declared earlier) (isCode : block.isCode)
    (previous : Option Block) :
    Follows path declared earlier (directive? declared previous block).toList
      (scan.code settings previous block) := by
  rw [directive?, if_pos isCode]
  unfold code
  cases previous.filter (·.isComment) with
  | none =>
      dsimp only
      split
      · exact follows_error h _ (by decide)
      · exact follows_pure h
  | some comment =>
      dsimp only [annotatedCode]
      cases read : CodeMetadata.read? comment.content with
      | none =>
          simp only [Option.bind_eq_bind, Option.bind_some, read, Option.bind_none]
          exact follows_error h _ (by decide)
      | some metadata =>
          cases isRole : metadata.role? with
          | none =>
              simp only [Option.bind_eq_bind, Option.bind_some, read, isRole, Option.bind_none]
              exact follows_error h _ (by decide)
          | some role =>
              simp only [Option.bind_eq_bind, Option.bind_some, read, isRole]
              exact follows_codeWithRole h role

/-- Every block does about requests and responses what it says. -/
lemma follows_step (h : scan.page.Paired path declared earlier) (previous next : Option Block) :
    Follows path declared earlier (directive? declared previous block).toList
      (scan.step settings previous block next) := by
  by_cases isCode : block.isCode
  · rw [step, eq_of_beq isCode]
    exact follows_code h isCode previous
  · have unsaid : (directive? declared previous block).toList = [] := by
      rw [directive?, if_neg isCode]
      rfl
    rw [unsaid]
    unfold step
    split
    · exact follows_pure (h.congr rfl rfl)
    · refine follows_pure ?_
      rw [page_paragraph]
      exact h
    · split
      · exact follows_pure h
      · obtain ⟨metadata, same⟩ := exists_page_comment scan block
        refine follows_nil ?_ hasCodes_comment (by decide)
        rw [same]
        exact h.congr rfl rfl
    · next code => exact absurd (beq_iff_eq.2 code) isCode
    · have found (shape : TableShape) (titles : List String) (line : Nat) : HasCodes Table.codes
          (Table.read settings.naming settings.tables shape titles line >>= fun table =>
            pure { scan with page := scan.page.addTable table }) :=
        (Table.hasCodes_read ..).bind fun _ => .pure _
      exact follows_nil (h.congr rfl rfl) (found ..) (by decide)
    · exact follows_pure h

lemma follows_run (h : scan.page.Paired path declared earlier) (previous : Option Block)
    (blocks : List Block) :
    Follows path declared earlier (directives path declared previous blocks)
      (run settings scan previous blocks) := by
  -- the requests and attempts before a block are those that the blocks before it have added
  induction blocks generalizing scan declared earlier previous with
  | nil => exact follows_pure h
  | cons block rest ih =>
      have first : Follows path declared earlier (directive? declared previous block).toList
          (scan.step settings previous block rest.head?) := follows_step h previous rest.head?
      exact first.bind (ih first.paired (some block))

/-- A response changes nothing but the requests that it is the first response to. -/
lemma value_annotatedCode_of_response (scan : Scan) {comment : Block}
    (read : CodeMetadata.read? comment.content = some metadata)
    (role : metadata.role? = some .response) :
    let directive : Directive := ⟨scan.page.methods.map (·.identifier), metadata, .response, block⟩
    (annotatedCode settings scan comment block).value
      = { scan with page := scan.page.pair directive.attempts } := by
  intro directive
  simp only [annotatedCode, read, role, codeWithRole]
  rw [(response_eq rfl metadata block).1, value_makeAttempts]

end Scan

/-! ## All blocks -/

namespace Page

/-- **The first response counts.**  Let `attempts` be the attempts of all responses on a page in
their order: a response without names makes one at the latest request before it, and a response with
names makes one for each name, at the first request before it that has the name.

* The requests of the page have the identifiers that are declared.
* Each has the content and metadata of the first attempt at it as its response, and none if there is
  no attempt.
* There is an error for every other attempt, for every name that no request before the response has,
  and for every response without names (and everything else that is for the latest request) that has
  no request before it.
* Reading one more response changes nothing on the page but requests without a response that it is
  for. -/
theorem responses_paired (settings : Settings) (path : String) (blocks : List Block) :
    let said := Scan.directives path [] none blocks
    let declared := said.flatMap (·.identifiers path)
    let attempts := said.flatMap (·.attempts)
    let read := Page.scan settings path blocks
    read.value.methods.map (·.identifier) = declared
      ∧ (∀ position method, read.value.methods[position]? = some method →
          method.response = response? attempts position)
      ∧ read.issues.filter (·.code == .duplicateResponse)
        = (repeated [] attempts).map duplicateIssue
      ∧ read.issues.filter (·.code == .requestNotFound) = said.flatMap (·.unknownIssues)
      ∧ read.issues.filter (·.code == .responseWithoutRequest) = said.flatMap (·.orphanIssues)
      ∧ ∀ comment code metadata, comment.isComment = true → code.isCode = true →
          CodeMetadata.read? comment.content = some metadata → metadata.role? = some .response →
            (Page.scan settings path (blocks ++ [comment, code])).value
              = read.value.pair (Directive.attempts ⟨declared, metadata, .response, code⟩) := by
  intro said declared attempts read
  have empty : (Scan.start path).page.Paired path [] [] :=
    ⟨rfl, rfl, (fun _ _ isMethod => nomatch isMethod), forall_mem_nil _⟩
  have follows : Scan.Follows path [] [] said (Scan.run settings (.start path) none blocks) :=
    Scan.follows_run empty none blocks
  have identifiers : read.value.methods.map (·.identifier) = declared := follows.paired.identifiers
  refine ⟨identifiers, follows.paired.responses, ?_, ?_, ?_, ?_⟩
  · rw [issues_scan, follows.duplicates]
  · rw [issues_scan, follows.unknown]
  · rw [issues_scan, follows.orphans]
  · intro comment code metadata isComment isCode isMetadata role
    have apart : Scan.Apart blocks [comment, code] := .of_isComment isComment _ _
    rw [value_scan, Scan.run_append_of_apart apart, value_bind, Scan.run_pair isComment isCode,
      Scan.value_annotatedCode_of_response _ isMetadata role, ← identifiers]
    rfl

/-- Two requests, a response that names the first one twice and an unknown one, and a response
without names. -/
def answeredBlocks : List Block :=
  [⟨.comment, "<!-- \x7b \"blockType\": \"request\", \"name\": \"list\" \x7d -->", 1, none⟩,
   ⟨.code, "GET /items", 2, some "http"⟩,
   ⟨.comment, "<!-- \x7b \"blockType\": \"request\" \x7d -->", 5, none⟩,
   ⟨.code, "GET /items/1", 6, some "http"⟩,
   ⟨.comment,
     "<!-- \x7b \"blockType\": \"response\", \"name\": [\"list\", \"get\", \"list\"] \x7d -->", 9,
     none⟩,
   ⟨.code, "HTTP/1.1 204 No Content", 10, some "http"⟩,
   ⟨.comment, "<!-- \x7b \"blockType\": \"response\" \x7d -->", 13, none⟩,
   ⟨.code, "HTTP/1.1 200 OK", 14, some "http"⟩]

example :
    let said := Scan.directives "item.md" [] none answeredBlocks
    let attempts := said.flatMap (·.attempts)
    said.flatMap (·.identifiers "item.md") = ["list", "item.md #2"]
      ∧ attempts.map (fun attempt => (attempt.position, attempt.response.content))
        = [(0, "HTTP/1.1 204 No Content"), (0, "HTTP/1.1 204 No Content"), (1, "HTTP/1.1 200 OK")]
      ∧ (repeated [] attempts).length = 1 ∧ (said.flatMap (·.unknownIssues)).length = 1 := by
  decide +kernel

end Page

end DocAudit
