import DocAudit.Proofs.Page.Codes
import Mathlib.Data.List.Basic

/-!
# Responses and their requests

A response is for the request before it, or for requests that it names.  Going through the blocks of
a page, `Scan.directives` lists what annotated code says, each time with the identifiers of the
requests that are declared by then.  Each response makes attempts at such requests
(`Directive.attempts`), and giving a page the responses of attempts is `Page.pair`: the first
attempt at a request counts.  Reading a response is making its attempts (`Scan.value_response`,
`Scan.issues_response`).
-/

namespace DocAudit

open List Audit

/-! ## What annotated code says -/

/-- A block of code whose comment says what it is, with the identifiers of the requests before
it. -/
structure Directive where
  declared : List String
  metadata : CodeMetadata
  role : BlockRole
  block : Block

/-- An attempt to give a response to the request at a position. -/
structure Attempt where
  identifier : String
  position : Nat
  response : Response
  line : Nat

namespace Directive

variable (directive : Directive)

/-- The identifier of the request that is declared.  Without a name the requests of a page are
counted. -/
def identifiers (path : String) : List String :=
  if directive.role = .request then
    [directive.metadata.names.head?.getD s!"{path} #{directive.declared.length + 1}"]
  else []

/-- The first request with a name, with its position. -/
def named? (declared : List String) (name : String) : Option (String × Nat) :=
  declared.zipIdx.find? (·.1 == name)

/-- The requests that a response is for, with their positions: the latest one if it names none, and
else the first one with each name. -/
def targets : List (String × Nat) :=
  if directive.metadata.names = [] then directive.declared.zipIdx.getLast?.toList
  else directive.metadata.names.filterMap (named? directive.declared)

/-- The attempts that a response makes. -/
def attempts : List Attempt :=
  if directive.role = .response then
    directive.targets.map fun (identifier, position) =>
      ⟨identifier, position, ⟨directive.block.content, directive.metadata⟩, directive.block.line⟩
  else []

/-- What is found about a name in a response that no request has. -/
def unknownIssue (line : Nat) (name : String) : Issue :=
  .error .requestNotFound s!"Response on line {line} refers to unknown request '{name}'"

/-- What is found about the names in a response that no request has. -/
def unknownIssues : List Issue :=
  if directive.role = .response then
    (directive.metadata.names.filter (· ∉ directive.declared)).map
      (unknownIssue directive.block.line)
  else []

/-- What is found about code that is for the latest request, if there is no request. -/
def orphanIssues : List Issue :=
  if directive.declared ≠ [] then []
  else match directive.role with
  | .response =>
    if directive.metadata.names = [] then
      [.error .responseWithoutRequest
        s!"Response on line {directive.block.line} has no preceding request"]
    else []
  | .simulatedResponse =>
    [.error .responseWithoutRequest
      s!"Simulated response on line {directive.block.line} has no preceding request"]
  | .testParams =>
    [.error .responseWithoutRequest
      s!"Test parameters on line {directive.block.line} have no preceding request"]
  | _ => []

end Directive

namespace Attempt

/-- The response of the first attempt at a position. -/
def response? (attempts : List Attempt) (position : Nat) : Option Response :=
  (attempts.find? (·.position == position)).map (·.response)

/-- The attempts that are not the first one at their position, behind some earlier ones. -/
def repeated (earlier : List Attempt) : List Attempt → List Attempt
  | [] => []
  | attempt :: rest =>
    (if earlier.any (·.position == attempt.position) then [attempt] else [])
      ++ repeated (earlier ++ [attempt]) rest

/-- What is found about an attempt at a request that has a response. -/
def duplicateIssue (attempt : Attempt) : Issue :=
  .error .duplicateResponse
    s!"Request '{attempt.identifier}' already has a response; second one on line {attempt.line}"

variable {attempt : Attempt} {attempts earlier later : List Attempt} {position : Nat}

lemma response?_append (attempts later : List Attempt) (position : Nat) :
    response? (attempts ++ later) position
      = (response? attempts position).or (response? later position) := by
  rw [response?, find?_append, Option.map_or, ← response?, ← response?]

lemma response?_singleton_of_ne (other : position ≠ attempt.position) :
    response? [attempt] position = none := by
  simp [response?, Ne.symm other]

lemma response?_singleton_self : response? [attempt] attempt.position = some attempt.response := by
  simp [response?]

lemma isSome_response? :
    (response? attempts position).isSome = attempts.any (·.position == position) := by
  rw [response?, Option.isSome_map, Bool.eq_iff_iff, find?_isSome, any_eq_true]

lemma response?_eq_none (elsewhere : ∀ attempt ∈ attempts, attempt.position ≠ position) :
    response? attempts position = none := by
  simpa [response?] using elsewhere

lemma repeated_append (earlier attempts later : List Attempt) :
    repeated earlier (attempts ++ later) = repeated earlier attempts
      ++ repeated (earlier ++ attempts) later := by
  induction attempts generalizing earlier with
  | nil => simp [repeated]
  | cons attempt rest ih =>
      rw [cons_append, repeated, repeated, ih, append_assoc, append_assoc, singleton_append]

end Attempt

/-! ## Pages with responses -/

namespace Page

open Attempt

/-- A page where the first attempt at each request without a response gives it one. -/
def pair (attempts : List Attempt) (page : Page) : Page :=
  { page with
    methods := page.methods.mapIdx fun position method =>
      { method with response := method.response.or (response? attempts position) } }

variable {attempts later : List Attempt} {page : Page} {position : Nat}

lemma getElem?_methods_pair :
    (page.pair attempts).methods[position]? = page.methods[position]?.map fun method =>
    { method with response := method.response.or (response? attempts position) } :=
  getElem?_mapIdx

lemma pair_nil : page.pair [] = page := by
  have methods : (page.pair []).methods = page.methods := by
    refine ext_getElem? fun position => ?_
    rw [getElem?_methods_pair]
    simp [response?]
  exact congrArg (fun methods => { page with methods }) methods

lemma pair_append (attempts later : List Attempt) (page : Page) :
    page.pair (attempts ++ later) = (page.pair attempts).pair later := by
  have methods : (page.pair (attempts ++ later)).methods
      = ((page.pair attempts).pair later).methods := by
    refine ext_getElem? fun position => ?_
    simp only [getElem?_methods_pair, Option.map_map, Function.comp_def, response?_append,
      Option.or_assoc]
  exact congrArg (fun methods => { page with methods }) methods

lemma map_identifier_pair :
    (page.pair attempts).methods.map (·.identifier) = page.methods.map (·.identifier) := by
  refine ext_getElem? fun position => ?_
  rw [getElem?_map, getElem?_map, getElem?_methods_pair, Option.map_map]
  rfl

/-- A change only matters where it is made. -/
lemma changeMethod_congr {change other : Method → Method}
    (same : ∀ method, page.methods[position]? = some method → change method = other method) :
    page.changeMethod position change = page.changeMethod position other := by
  have methods : page.methods.modify position change = page.methods.modify position other := by
    refine ext_getElem? fun index => ?_
    rw [getElem?_modify, getElem?_modify]
    refine Option.map_congr fun method isMethod => ?_
    split
    · next here => exact same method (here ▸ isMethod)
    · rfl
  exact congrArg (fun methods => { page with methods }) methods

lemma changeMethod_id (position : Nat) (page : Page) : page.changeMethod position id = page :=
  congrArg (fun methods => { page with methods }) (modify_id position page.methods)

lemma pair_singleton (attempt : Attempt) (page : Page) :
    page.pair [attempt] = page.changeMethod attempt.position fun method =>
      { method with response := method.response.or (some attempt.response) } := by
  have methods : (page.pair [attempt]).methods = page.methods.modify attempt.position fun method =>
      { method with response := method.response.or (some attempt.response) } := by
    refine ext_getElem? fun index => ?_
    rw [getElem?_methods_pair, getElem?_modify]
    refine Option.map_congr fun method _ => ?_
    split
    · next here => rw [← here, response?_singleton_self]
    · next other => rw [response?_singleton_of_ne (Ne.symm other), Option.or_none]
  exact congrArg (fun methods => { page with methods }) methods

/-- The requests of a page have these identifiers, and the responses of the attempts that were
made. -/
structure Paired (path : String) (declared : List String) (attempts : List Attempt)
    (page : Page) : Prop where
  itself : page.path = path
  identifiers : page.methods.map (·.identifier) = declared
  responses : ∀ position method, page.methods[position]? = some method →
    method.response = response? attempts position
  known : ∀ attempt ∈ attempts, declared[attempt.position]? = some attempt.identifier

lemma Paired.pair {path : String} {declared : List String} (h : page.Paired path declared attempts)
    (known : ∀ attempt ∈ later, declared[attempt.position]? = some attempt.identifier) :
    (page.pair later).Paired path declared (attempts ++ later) where
  itself := h.itself
  identifiers := map_identifier_pair.trans h.identifiers
  responses := by
    intro position method isMethod
    rw [getElem?_methods_pair] at isMethod
    obtain ⟨before, isBefore, rfl⟩ := Option.map_eq_some_iff.1 isMethod
    rw [response?_append, h.responses position before isBefore]
  known := forall_mem_append.2 ⟨h.known, known⟩

end Page

/-! ## Reading a response -/

namespace Scan

open Attempt Directive

variable {scan : Scan} {path : String} {declared : List String} {earlier attempts : List Attempt}

/-- Makes an attempt. -/
def makeAttempt (scan : Scan) (attempt : Attempt) : Audit Scan :=
  respond attempt.response attempt.line scan attempt.position

lemma value_makeAttempt (scan : Scan) (attempt : Attempt) :
    (makeAttempt scan attempt).value = { scan with page := scan.page.pair [attempt] } := by
  have kept (same : ∀ method, scan.page.methods[attempt.position]? = some method →
      method.response.isSome = true) : scan.page.pair [attempt] = scan.page := by
    rw [Page.pair_singleton]
    refine (Page.changeMethod_congr fun method isMethod =>
      ?_).trans (Page.changeMethod_id attempt.position _)
    rw [Option.or_of_isSome (same method isMethod)]
    rfl
  unfold makeAttempt respond
  split
  · next missing =>
      rw [kept fun method isMethod => by simp [missing] at isMethod]
      rfl
  · next method isMethod =>
      split
      · next answered =>
          rw [kept fun other isOther => by simp_all]
          rfl
      · next unanswered =>
          rw [Page.pair_singleton, Page.changeMethod_congr]
          · rfl
          · simp_all

lemma value_makeAttempts (attempts : List Attempt) (scan : Scan) :
    (attempts.foldlM makeAttempt scan).value = { scan with page := scan.page.pair attempts } := by
  induction attempts generalizing scan with
  | nil =>
      rw [Page.pair_nil]
      rfl
  | cons attempt rest ih =>
      rw [foldlM_cons, value_bind, value_makeAttempt, ih, ← singleton_append (l := rest),
        Page.pair_append]

/-- An attempt is found if there was one before it. -/
lemma issues_makeAttempt (h : scan.page.Paired path declared earlier) {attempt : Attempt}
    (known : declared[attempt.position]? = some attempt.identifier) :
    (makeAttempt scan attempt).issues
      = if earlier.any (·.position == attempt.position) then [attempt.duplicateIssue] else [] := by
  rw [← h.identifiers, getElem?_map] at known
  obtain ⟨method, isMethod, same⟩ := Option.map_eq_some_iff.1 known
  have answered : method.response.isSome = earlier.any (·.position == attempt.position) := by
    rw [h.responses _ method isMethod, isSome_response?]
  simp only [makeAttempt, respond, isMethod, answered, same]
  split
  · rfl
  · rfl

lemma issues_makeAttempts (h : scan.page.Paired path declared earlier)
    (known : ∀ attempt ∈ attempts, declared[attempt.position]? = some attempt.identifier) :
    (attempts.foldlM makeAttempt scan).issues = (repeated earlier attempts).map duplicateIssue := by
  induction attempts generalizing scan earlier with
  | nil => rfl
  | cons attempt rest ih =>
      obtain ⟨knownFirst, knownRest⟩ := forall_mem_cons.1 known
      have next : (makeAttempt scan attempt).value.page.Paired path declared
          (earlier ++ [attempt]) := by
        rw [value_makeAttempt]
        exact h.pair (forall_mem_singleton.2 knownFirst)
      rw [foldlM_cons, issues_bind, issues_makeAttempt h knownFirst, ih next knownRest,
        repeated, map_append]
      split <;> rfl

lemma findIdx?_eq_named? (same : scan.page.methods.map (·.identifier) = declared) (name : String) :
    scan.page.methods.findIdx? (·.identifier == name) = (named? declared name).map Prod.snd := by
  have position : scan.page.methods.findIdx? (·.identifier == name)
      = declared.findIdx? (· == name) := by
    rw [← same, findIdx?_map]
    rfl
  exact position.trans findIdx?_eq_fst_find?_zipIdx

lemma isSome_named? {name : String} : (named? declared name).isSome = true ↔ name ∈ declared := by
  have index : declared.findIdx? (· == name) = (named? declared name).map Prod.snd :=
    findIdx?_eq_fst_find?_zipIdx
  rw [← Option.isSome_map, ← index, findIdx?_isSome]
  simp

/-- The requests that a response names, by their positions. -/
lemma responseTargets_eq (same : scan.page.methods.map (·.identifier) = declared)
    (names : List String) (line : Nat) :
    (scan.responseTargets names line).value = (names.filterMap (named? declared)).map Prod.snd
      ∧ (scan.responseTargets names line).issues
        = (names.filter (· ∉ declared)).map (unknownIssue line) := by
  induction names with
  | nil => exact ⟨rfl, rfl⟩
  | cons name rest ih =>
      obtain ⟨value, issues⟩ := ih
      rw [responseTargets, findIdx?_eq_named? same, filterMap_cons]
      cases found : named? declared name with
      | none =>
          have unknown : name ∉ declared := by
            rw [← isSome_named?, found]
            exact Bool.false_ne_true
          rw [filter_cons_of_pos (by simpa using unknown), map_cons, ← issues, ← value]
          exact ⟨rfl, rfl⟩
      | some target =>
          have known : name ∈ declared := by
            rw [← isSome_named?, found]
            rfl
          rw [filter_cons_of_neg (by simpa using known), map_cons, ← issues, ← value]
          exact ⟨rfl, append_nil _⟩

/-- A response is for requests that are declared. -/
lemma known_attempts (directive : Directive) : ∀ attempt ∈ directive.attempts,
    directive.declared[attempt.position]? = some attempt.identifier := by
  have targets : ∀ target ∈ directive.targets, target ∈ directive.declared.zipIdx := by
    intro target mem
    unfold Directive.targets at mem
    split at mem
    · exact mem_of_getLast? (Option.mem_toList.1 mem)
    · obtain ⟨name, -, found⟩ := mem_filterMap.1 mem
      exact mem_of_find?_eq_some found
  unfold Directive.attempts
  split
  · exact forall_mem_map.2 fun target mem => mem_zipIdx_iff_getElem?.1 (targets target mem)
  · exact forall_mem_nil _

/-- Reading a response is making its attempts. -/
lemma response_eq (same : scan.page.methods.map (·.identifier) = declared) (metadata : CodeMetadata)
    (block : Block) :
    let directive : Directive := ⟨declared, metadata, .response, block⟩
    (scan.response metadata block).value = (directive.attempts.foldlM makeAttempt scan).value
      ∧ (scan.response metadata block).issues = directive.orphanIssues ++ directive.unknownIssues
        ++ (directive.attempts.foldlM makeAttempt scan).issues := by
  intro directive
  have made : (directive.targets.map Prod.snd).foldlM
        (respond ⟨block.content, metadata⟩ block.line) scan
      = directive.attempts.foldlM makeAttempt scan := by
    rw [attempts, if_pos rfl, foldlM_map, foldlM_map]
    rfl
  have emptyIff : scan.page.methods = [] ↔ declared = [] := by
    rw [← same, map_eq_nil_iff]
  rw [← made]
  by_cases unnamed : metadata.names = []
  · have allKnown : directive.unknownIssues = [] := by
      simp [unknownIssues, directive, unnamed]
    by_cases first : declared = []
    · have orphaned : directive.orphanIssues = [.error .responseWithoutRequest
          s!"Response on line {block.line} has no preceding request"] := by
        simp [orphanIssues, directive, unnamed, first]
      have idle : directive.targets = [] := by
        simp [targets, directive, unnamed, first]
      have read : scan.response metadata block = (do
          Audit.error .responseWithoutRequest
            s!"Response on line {block.line} has no preceding request"
          return scan) := if_pos (by simp [unnamed, emptyIff.2 first])
      rw [read, allKnown, orphaned, idle]
      exact ⟨rfl, rfl⟩
    · have latest : directive.targets.map Prod.snd = [scan.page.methods.length - 1] := by
        obtain ⟨identifier, last⟩ := Option.isSome_iff_exists.1 (getLast?_isSome.2 first)
        have length : declared.length = scan.page.methods.length := by
          rw [← same, length_map]
        simp [targets, directive, unnamed, getLast?_zipIdx, last, length]
      have housed : directive.orphanIssues = [] := if_pos first
      have read : scan.response metadata block
          = [scan.page.methods.length - 1].foldlM
              (respond ⟨block.content, metadata⟩ block.line) scan := by
        simp [response, unnamed, emptyIff.not.2 first]
      rw [read, allKnown, housed, latest]
      exact ⟨rfl, rfl⟩
  · obtain ⟨value, issues⟩ := responseTargets_eq same metadata.names block.line
    have named : directive.targets = metadata.names.filterMap (named? declared) := if_neg unnamed
    have housed : directive.orphanIssues = [] := by
      simp [orphanIssues, directive, unnamed]
    have unknown : directive.unknownIssues
        = (scan.responseTargets metadata.names block.line).issues :=
      (if_pos rfl).trans issues.symm
    have read : scan.response metadata block = scan.responseTargets metadata.names block.line
        >>= fun targets =>
        targets.foldlM (respond ⟨block.content, metadata⟩ block.line) scan := by
      simp [response, unnamed]
    rw [read, housed, unknown, named, ← value]
    exact ⟨rfl, rfl⟩

end Scan

end DocAudit
