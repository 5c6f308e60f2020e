import DocAudit.Page.Basic
import DocAudit.Settings.Basic
import DocAudit.Table.Reader
import DocAudit.Text.Slug
import DocAudit.Text.Sorted

/-!
# Scanning a page

The blocks of a page are read in order, each together with its neighbours.  A comment right before a
block of code says what the code is; any other comment may be about the page.  Tables are read below
the headings that are open, and resources and methods take the title and description of the latest
heading of the first level.  A block that makes no sense gives a finding and changes nothing.
-/

namespace DocAudit

/-- The latest heading of the first level, and the first paragraph behind it that describes
something. -/
structure Topic where
  title : String
  description : Option String
  deriving DecidableEq, Repr

/-- How far a page has been read. -/
structure Scan where
  page : Page
  topic : Option Topic
  deriving Repr

namespace Scan

/-- A page of which nothing has been read. -/
def start (path : String) : Scan := ⟨.empty path, none⟩

/-- Where a block stands. -/
def origin (scan : Scan) (block : Block) : BlockOrigin :=
  { file := scan.page.path
    line := block.line
    title := scan.topic.map (·.title)
    description := scan.topic.bind (·.description) }

/-! ## Headings and paragraphs -/

/-- Reads a heading. -/
def heading (scan : Scan) (level : Nat) (block : Block) : Scan :=
  let title := String.ofList (Text.trim block.content.toList)
  let page := { scan.page with
    outline := scan.page.outline.push ⟨level, title, block.line⟩
    bookmarks := Text.insertSorted (Text.slug title) scan.page.bookmarks
    title := scan.page.title <|> if level = 1 then some title else none }
  { page, topic := if level = 1 then some ⟨title, none⟩ else scan.topic }

/-- Reads a paragraph, which may be the description that is looked for. -/
def paragraph (settings : Settings) (scan : Scan) (block : Block) : Scan :=
  let text := String.ofList (Text.trim block.content.toList)
  match scan.topic with
  | some ⟨title, none⟩ =>
    if text.isEmpty || settings.isBoilerplate text then scan
    else { scan with topic := some ⟨title, some text⟩ }
  | _ => scan

/-! ## Comments -/

/-- Reads a comment that stands by itself.  Only the first metadata of the page count. -/
def comment (scan : Scan) (block : Block) : Audit Scan :=
  match PageMetadata.read? block.content with
  | none => pure scan
  | some metadata =>
    if scan.page.metadata.isSome then do
      Audit.warning .duplicatePageMetadata
        s!"Ignoring second page annotation on line {block.line}"
      return scan
    else pure { scan with page := { scan.page with metadata := some metadata } }

/-! ## Annotated blocks of code -/

/-- Reads a request. -/
def request (scan : Scan) (metadata : CodeMetadata) (block : Block) : Audit Scan := do
  let identifier :=
    metadata.names.head?.getD s!"{scan.page.path} #{scan.page.methods.length + 1}"
  if (RequestLine.read? block.content).isNone then
    Audit.error .requestParseError
      (s!"Request '{identifier}' on line {block.line} does not start with an HTTP " ++
        "request line")
  let method := Method.ofRequest identifier block.content metadata (scan.origin block)
  return { scan with page := scan.page.addMethod method }

/-- The positions of the methods that a response names, each the first of its name. -/
def responseTargets (scan : Scan) (names : List String) (line : Nat) : Audit (List Nat) :=
  match names with
  | [] => pure []
  | name :: rest => do
    match scan.page.methods.findIdx? (·.identifier == name) with
    | some position => return position :: (← responseTargets scan rest line)
    | none => do
      Audit.error .requestNotFound s!"Response on line {line} refers to unknown request '{name}'"
      responseTargets scan rest line

/-- Gives a response to the method at a position, unless it has one. -/
def respond (response : Response) (line : Nat) (scan : Scan) (position : Nat) : Audit Scan :=
  match scan.page.methods[position]? with
  | none => pure scan
  | some method =>
    if method.response.isSome then do
      Audit.error .duplicateResponse
        s!"Request '{method.identifier}' already has a response; second one on line {line}"
      return scan
    else
      pure { scan with
        page := scan.page.changeMethod position fun method =>
          { method with response := some response } }

/-- Reads a response: to the methods that it names or else to the latest one. -/
def response (scan : Scan) (metadata : CodeMetadata) (block : Block) : Audit Scan :=
  if metadata.names.isEmpty && scan.page.methods.isEmpty then do
    Audit.error .responseWithoutRequest
      s!"Response on line {block.line} has no preceding request"
    return scan
  else do
    let targets ←
      if metadata.names.isEmpty then pure [scan.page.methods.length - 1]
      else scan.responseTargets metadata.names block.line
    targets.foldlM (respond ⟨block.content, metadata⟩ block.line) scan

/-- Changes the latest method; without any, there is a finding. -/
def changeLatest (scan : Scan) (message : String) (change : Method → Method) : Audit Scan :=
  if scan.page.methods.isEmpty then do
    Audit.error .responseWithoutRequest message
    return scan
  else
    pure { scan with page := scan.page.changeMethod (scan.page.methods.length - 1) change }

/-- Reads a block of code with known metadata and role. -/
def codeWithRole (settings : Settings) (scan : Scan) (metadata : CodeMetadata) (block : Block)
    (role : BlockRole) : Audit Scan :=
  match role with
  | .resource => do
    match ← Resource.ofExample settings.naming metadata block.content (scan.origin block) with
    | some resource => return { scan with page := scan.page.addResource resource }
    | none => return scan
  | .request => scan.request metadata block
  | .response => scan.response metadata block
  | .example | .samples =>
    pure { scan with
      page := scan.page.addSample ⟨role, block.language, block.content, block.line⟩ }
  | .simulatedResponse =>
    scan.changeLatest s!"Simulated response on line {block.line} has no preceding request"
      fun method => { method with simulatedResponse := some block.content }
  | .testParams =>
    scan.changeLatest s!"Test parameters on line {block.line} have no preceding request"
      fun method => { method with testParams := method.testParams ++ [block.content] }
  | .ignored => pure scan

/-- Reads a block of code behind a comment. -/
def annotatedCode (settings : Settings) (scan : Scan) (comment block : Block) : Audit Scan :=
  match CodeMetadata.read? comment.content with
  | none => do
    Audit.error .metadataParseError
      s!"Metadata on line {comment.line} is not valid JSON: {Json.unreadable}"
    return scan
  | some metadata =>
    match metadata.role? with
    | none => do
      let cause := BlockRole.unknownName metadata.roleName
      Audit.error .unknownBlockType s!"Code block on line {block.line}: {cause}"
      return scan
    | some role => codeWithRole settings scan metadata block role

/-- Reads a block of code. -/
def code (settings : Settings) (scan : Scan) (previous : Option Block) (block : Block) :
    Audit Scan :=
  match previous.filter (·.isComment) with
  | some comment => annotatedCode settings scan comment block
  | none => do
    if block.isJson then
      Audit.error .jsonWithoutMetadata s!"JSON code block on line {block.line} has no metadata"
    return scan

/-! ## Whole pages -/

/-- Reads a block between its neighbours. -/
def step (settings : Settings) (scan : Scan) (previous : Option Block) (block : Block)
    (next : Option Block) : Audit Scan :=
  match block.kind with
  | .heading level => pure (scan.heading level block)
  | .paragraph => pure (scan.paragraph settings block)
  | .comment => if next.any (·.isCode) then pure scan else scan.comment block
  | .code => scan.code settings previous block
  | .table shape => do
    let table ← Table.read settings.naming settings.tables shape scan.page.outline.openTitles
      block.line
    return { scan with page := scan.page.addTable table }
  | .other => pure scan

/-- Reads blocks one after the other, where `previous` is the block before them. -/
def run (settings : Settings) (scan : Scan) (previous : Option Block) :
    List Block → Audit Scan
  | [] => pure scan
  | block :: rest => do
    let scan ← scan.step settings previous block rest.head?
    run settings scan (some block) rest

/-- The page that was read.  Its metadata take their title from it, if they have none. -/
def finish (scan : Scan) : Page :=
  { scan.page with
    metadata := scan.page.metadata.map fun metadata =>
      if metadata.hasTitle then metadata else { metadata with title := scan.page.title } }

end Scan

/-- The page with some blocks. -/
def Page.scan (settings : Settings) (path : String) (blocks : List Block) : Audit Page := do
  return (← Scan.run settings (.start path) none blocks).finish

end DocAudit
