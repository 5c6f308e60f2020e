import DocAudit.Proofs.Page.Elements
import Mathlib.Data.List.DropRight
import Mathlib.Data.List.Infix

/-!
# Titles, descriptions and metadata

Resources and methods take their title from the latest heading of the first level before them, and
their description from the first paragraph behind that heading that says something (`Block.title?`,
`Block.description?`).  While a page is read, its topic is what these two say of the blocks before
(`Scan.HasRead`), because code adds resources and methods but leaves the topic as it is
(`Scan.Extends`).

A comment that does not stand before code may be about the page.  The first one that is gives the
page its metadata, and there is a warning for each of the others (`Scan.metadata_run`,
`Scan.duplicates_run`).
-/

namespace DocAudit

open List Audit

/-! ## Titles and descriptions -/

namespace Block

variable {settings : Settings} {block : Block} {before : List Block}

/-- The text of a block without blanks around it. -/
def text (block : Block) : String :=
  .ofList (Text.trim block.content.toList)

/-- Whether a block is a heading of the first level. -/
def isTitle (block : Block) : Bool :=
  block.kind == .heading 1

/-- Whether a block is a paragraph that says something: it is neither blank nor boilerplate. -/
def describes (settings : Settings) (block : Block) : Bool :=
  block.kind == .paragraph && !(block.text.isEmpty || settings.isBoilerplate block.text)

/-- The latest title among blocks. -/
def title? (blocks : List Block) : Option String :=
  (blocks.reverse.find? (·.isTitle)).map (·.text)

/-- The first title among blocks. -/
def firstTitle? (blocks : List Block) : Option String :=
  (blocks.find? (·.isTitle)).map (·.text)

/-- The first description behind the latest title among blocks. -/
def description? (settings : Settings) (blocks : List Block) : Option String :=
  if (title? blocks).isSome then
    ((blocks.rtakeWhile (!·.isTitle)).find? (·.describes settings)).map (·.text)
  else none

lemma title?_concat (before : List Block) (block : Block) :
    title? (before ++ [block]) = if block.isTitle then some block.text else title? before := by
  rw [title?, reverse_append, reverse_singleton, singleton_append, find?_cons]
  cases block.isTitle <;> rfl

lemma firstTitle?_concat (before : List Block) (block : Block) :
    firstTitle? (before ++ [block])
      = (firstTitle? before).or (if block.isTitle then some block.text else none) := by
  rw [firstTitle?, find?_append, Option.map_or, firstTitle?, find?_singleton]
  split <;> rfl

/-- No description stands behind a title that has just been found. -/
lemma description?_concat_of_isTitle (isTitle : block.isTitle = true) :
    description? settings (before ++ [block]) = none := by
  rw [description?, rtakeWhile_concat_neg _ _ _ (by simp [isTitle])]
  exact ite_self _

/-- A later description does not count. -/
lemma description?_concat (noTitle : block.isTitle = false) :
    description? settings (before ++ [block]) =
    if (title? before).isSome then
      (description? settings before).or (if block.describes settings then some block.text else none)
    else none := by
  rw [description?, title?_concat, noTitle, if_neg Bool.false_ne_true]
  split
  · next found =>
      rw [rtakeWhile_concat_pos _ _ _ (by simp [noTitle]), find?_append, Option.map_or,
        description?, if_pos found, find?_singleton]
      split <;> rfl
  · rfl

end Block

namespace Topic

/-- The topic behind some blocks. -/
def of? (settings : Settings) (blocks : List Block) : Option Topic :=
  (Block.title? blocks).map (⟨·, Block.description? settings blocks⟩)

/-- A topic with a description, unless it has one. -/
def describe (description : Option String) (topic : Topic) : Topic :=
  { topic with description := topic.description.or description }

lemma map_describe_none (topic : Option Topic) : topic.map (describe none) = topic := by
  cases topic with
  | none => rfl
  | some topic => rw [Option.map_some, describe, Option.or_none]

/-- A title starts a topic, and any other block may describe the one that has been started. -/
lemma of?_concat (settings : Settings) (before : List Block) (block : Block) :
    of? settings (before ++ [block]) =
    if block.isTitle then some ⟨block.text, none⟩
    else (of? settings before).map
      (describe (if block.describes settings then some block.text else none)) := by
  rw [of?, Block.title?_concat]
  split
  · next isTitle => rw [Option.map_some, Block.description?_concat_of_isTitle isTitle]
  · next noTitle =>
      rw [Block.description?_concat (Bool.eq_false_iff.2 noTitle), of?]
      cases Block.title? before <;> rfl

end Topic

/-! ## Places -/

namespace Block

/-- Blocks, each with all that stand before it. -/
def places (blocks : List Block) : List (List Block × Block) :=
  blocks.inits.zip blocks

lemma places_cons (first : Block) (rest : List Block) :
    places (first :: rest) = ([], first) :: (places rest).map (Prod.map (first :: ·) id) := by
  rw [places, inits_cons, zip_cons_cons, zip_map_left, places]

lemma places_concat (before : List Block) (block : Block) :
    places (before ++ [block]) = places before ++ [(before, block)] := by
  induction before with
  | nil => rfl
  | cons first rest ih =>
      rw [cons_append, places_cons, ih, places_cons, map_append]
      rfl

/-- Where a block stands behind others. -/
def origin (settings : Settings) (path : String) (before : List Block) (block : Block) :
    BlockOrigin :=
  { file := path
    line := block.line
    title := title? before
    description := description? settings before }

/-- Where the blocks stand that add something of a kind. -/
def origins (settings : Settings) (path : String) (kind : ElementKind) (blocks : List Block) :
    List BlockOrigin :=
  ((places blocks).filter fun (before, block) =>
      block.addedKind? settings before.getLast? = some kind).map
    fun (before, block) => block.origin settings path before

lemma origins_concat (settings : Settings) (path : String) (kind : ElementKind)
    (before : List Block) (block : Block) :
    origins settings path kind (before ++ [block]) = origins settings path kind before ++
      if block.addedKind? settings before.getLast? = some kind
        then [block.origin settings path before] else [] := by
  rw [origins, places_concat, filter_append, map_append, ← origins]
  by_cases adds : block.addedKind? settings before.getLast? = some kind
  · rw [filter_cons_of_pos (by simpa using adds), if_pos adds]
    rfl
  · rw [filter_cons_of_neg (by simpa using adds), if_neg adds]
    rfl

/-! ## Metadata -/

/-- The metadata of the page in a comment that does not stand before code. -/
def pageMetadata? (block : Block) (next : Option Block) : Option PageMetadata :=
  if block.isComment && !next.any (·.isCode) then PageMetadata.read? block.content else none

/-- All metadata of the page, with their comments. -/
def allPageMetadata : List Block → List (Block × PageMetadata)
  | [] => []
  | block :: rest =>
    ((block.pageMetadata? rest.head?).map (block, ·)).toList ++ allPageMetadata rest

/-- What is found about other metadata of the page than the first ones. -/
def duplicateIssue (block : Block) : Issue :=
  .warning .duplicatePageMetadata s!"Ignoring second page annotation on line {block.line}"

end Block

/-- Where a method comes from. -/
def Method.origin (method : Method) : BlockOrigin :=
  ⟨method.file, method.line, method.title, method.description⟩

/-! ## Reading code -/

namespace Scan

/-- Something is added from a place, if at all, and nothing else is changed in what is read: the
topic, the title and the metadata stay. -/
structure Extends (added : Option ElementKind) (origin : BlockOrigin) (scan next : Scan) :
    Prop where
  topic : next.topic = scan.topic := by rfl
  path : next.page.path = scan.page.path := by rfl
  title : next.page.title = scan.page.title := by rfl
  metadata : next.page.metadata = scan.page.metadata := by rfl
  resources : next.page.resources.map (·.origin)
    = scan.page.resources.map (·.origin) ++ if added = some .resource then [origin] else []
  methods : next.page.methods.map (·.origin)
    = scan.page.methods.map (·.origin) ++ if added = some .method then [origin] else []

variable {settings : Settings} {scan : Scan} {metadata : CodeMetadata} {block : Block}
  {origin : BlockOrigin} {added : Option ElementKind}

lemma extends_refl (scan : Scan) (origin : BlockOrigin) : Extends none origin scan scan where
  resources := (append_nil _).symm
  methods := (append_nil _).symm

/-- Telling methods more extends nothing. -/
lemma Answers.extends {next : Scan} (h : Answers scan next) : Extends none origin scan next := by
  obtain ⟨methods, rfl, same⟩ := h
  exact { resources := (append_nil _).symm,
          methods := (map_eq same fun _ => rfl).trans (append_nil _).symm }

lemma extends_addMethod {method : Method} (here : method.origin = origin) :
    Extends (some .method) origin scan { scan with page := scan.page.addMethod method } where
  resources := (append_nil _).symm
  methods := by simp [Page.addMethod, here]

lemma extends_addResource {resource : Resource} (here : resource.origin = origin) :
    Extends (some .resource) origin scan { scan with page := scan.page.addResource resource } where
  resources := by simp [Page.addResource, here]
  methods := (append_nil _).symm

lemma extends_request :
    Extends (some .method) (scan.origin block) scan (scan.request metadata block).value := by
  simp only [request]
  split
  · exact extends_addMethod rfl
  · exact extends_addMethod rfl

lemma extends_codeWithRole (role : BlockRole) (declared : List String) :
    Extends (Directive.addedKind? settings ⟨declared, metadata, role, block⟩)
      (scan.origin block) scan
      (scan.codeWithRole settings metadata block role).value := by
  cases role with
  | resource =>
      rw [codeWithRole, value_bind, Directive.addedKind?_resource declared (scan.origin block)]
      cases found :
        (Resource.ofExample settings.naming metadata block.content (scan.origin block)).value with
      | some resource => exact extends_addResource (Resource.origin_ofExample found)
      | none => exact extends_refl scan _
  | request => exact extends_request
  | response => exact answers_response.extends
  | simulatedResponse => exact Answers.extends (answers_changeLatest _ fun _ => rfl)
  | testParams => exact Answers.extends (answers_changeLatest _ fun _ => rfl)
  | ignored => exact extends_refl scan _
  | _ => exact { resources := (append_nil _).symm, methods := (append_nil _).symm }

lemma extends_code (isCode : block.isCode) (previous : Option Block) :
    Extends (block.addedKind? settings previous) (scan.origin block) scan
      (scan.code settings previous block).value := by
  have noTable : block.addedKind? settings previous
      = (directive? [] previous block).bind (·.addedKind? settings) := by
    rw [Block.addedKind?, eq_of_beq isCode]
  rw [noTable]
  rcases code_cases settings scan isCode previous with ⟨unsaid, same⟩ | ⟨metadata, role, said, same⟩
  · rw [unsaid, same]
    exact extends_refl scan _
  · rw [said, same]
    exact extends_codeWithRole role []

/-! ## Reading blocks -/

/-- What reading a block does to the topic, to the title of the page, and to its resources and
methods. -/
structure Reads (settings : Settings) (previous : Option Block) (block : Block) (scan next : Scan) :
    Prop where
  path : next.page.path = scan.page.path
  topic : next.topic = if block.isTitle then some ⟨block.text, none⟩
    else scan.topic.map (.describe (if block.describes settings then some block.text else none))
  title : next.page.title = scan.page.title.or (if block.isTitle then some block.text else none)
  resources : next.page.resources.map (·.origin) = scan.page.resources.map (·.origin)
    ++ if block.addedKind? settings previous = some .resource then [scan.origin block] else []
  methods : next.page.methods.map (·.origin) = scan.page.methods.map (·.origin)
    ++ if block.addedKind? settings previous = some .method then [scan.origin block] else []

variable {previous : Option Block} {next : Scan}

lemma Extends.reads (h : Extends (block.addedKind? settings previous) (scan.origin block) scan next)
    (noTitle : block.isTitle = false) (silent : block.describes settings = false) :
    Reads settings previous block scan next where
  path := h.path
  topic := by
    rw [h.topic, noTitle, silent, if_neg Bool.false_ne_true, if_neg Bool.false_ne_true,
      Topic.map_describe_none]
  title := by rw [h.title, noTitle, if_neg Bool.false_ne_true, Option.or_none]
  resources := h.resources
  methods := h.methods

lemma topic_paragraph (isParagraph : block.kind = .paragraph) (scan : Scan) :
    (scan.paragraph settings block).topic =
    scan.topic.map (.describe (if block.describes settings then some block.text else none)) := by
  have describes : block.describes settings
      = !(block.text.isEmpty || settings.isBoilerplate block.text) := by
    rw [Block.describes, isParagraph, beq_self_eq_true, Bool.true_and]
  rw [describes, paragraph, ← Block.text]
  cases isTopic : scan.topic with
  | none => exact isTopic
  | some topic =>
      obtain ⟨title, description⟩ := topic
      cases description with
      | none =>
          dsimp only
          cases block.text.isEmpty || settings.isBoilerplate block.text with
          | true => exact isTopic
          | false => rfl
      | some description => exact isTopic

lemma reads_heading {level : ℕ} (isHeading : block.kind = .heading level)
    (nothing : block.addedKind? settings previous = none) :
    Reads settings previous block scan (scan.heading level block) := by
  have isTitle : block.isTitle = true ↔ level = 1 := by
    rw [Block.isTitle, isHeading, beq_iff_eq, BlockKind.heading.injEq]
  have silent : block.describes settings = false := by
    rw [Block.describes, isHeading]
    rfl
  have topic : (scan.heading level block).topic
      = if level = 1 then some ⟨block.text, none⟩ else scan.topic := rfl
  have title : (scan.heading level block).page.title
      = (scan.page.title <|> if level = 1 then some block.text else none) := rfl
  refine ⟨rfl, ?_, ?_, ?_, ?_⟩
  · rw [topic, silent, if_neg Bool.false_ne_true, Topic.map_describe_none]
    exact if_congr isTitle.symm rfl rfl
  · rw [title, Option.orElse_eq_orElse, Option.orElse_eq_or]
    exact congrArg _ (if_congr isTitle.symm rfl rfl)
  · rw [nothing]
    exact (append_nil _).symm
  · rw [nothing]
    exact (append_nil _).symm

lemma reads_paragraph (isParagraph : block.kind = .paragraph) (noTitle : block.isTitle = false)
    (nothing : block.addedKind? settings previous = none) :
    Reads settings previous block scan (scan.paragraph settings block) where
  path := by rw [page_paragraph]
  topic := by rw [topic_paragraph isParagraph, noTitle, if_neg Bool.false_ne_true]
  title := by rw [page_paragraph, noTitle, if_neg Bool.false_ne_true, Option.or_none]
  resources := by
    rw [page_paragraph, nothing]
    exact (append_nil _).symm
  methods := by
    rw [page_paragraph, nothing]
    exact (append_nil _).symm

/-- Reading a block does what can be told from the block and the one before it. -/
lemma reads_step (scan : Scan) (previous : Option Block) (block : Block) (next : Option Block) :
    Reads settings previous block scan (scan.step settings previous block next).value := by
  have noTitle (other : ∀ level, block.kind ≠ .heading level) : block.isTitle = false :=
    beq_eq_false_iff_ne.2 (other 1)
  have silent (other : block.kind ≠ .paragraph) : block.describes settings = false := by
    rw [Block.describes, beq_eq_false_iff_ne.2 other, Bool.false_and]
  have nothing (noCode : block.kind ≠ .code) (noTable : ∀ shape, block.kind ≠ .table shape) :
      block.addedKind? settings previous = none := by
    rw [Block.addedKind?, directive?_of_plain (beq_eq_false_iff_ne.2 noCode)]
    split
    · next shape isTable => exact absurd isTable (noTable shape)
    · rfl
  rw [step]
  cases isKind : block.kind with
  | heading level => exact reads_heading isKind (nothing (by simp [isKind]) (by simp [isKind]))
  | paragraph =>
      exact reads_paragraph isKind (noTitle (by simp [isKind]))
        (nothing (by simp [isKind]) (by simp [isKind]))
  | code =>
      exact (extends_code (beq_iff_eq.2 isKind) previous).reads (noTitle (by simp [isKind]))
        (silent (by simp [isKind]))
  | comment =>
      have extended :=
        nothing (by simp [isKind]) (by simp [isKind]) ▸ extends_refl scan (scan.origin block)
      have stays : Reads settings previous block scan scan :=
        extended.reads (noTitle (by simp [isKind])) (silent (by simp [isKind]))
      dsimp only
      split
      · exact stays
      · -- a comment changes the metadata, and nothing else
        obtain ⟨metadata, same⟩ := exists_value_comment scan block
        rw [same]
        exact ⟨stays.path, stays.topic, stays.title, stays.resources, stays.methods⟩
  | table shape =>
      refine Extends.reads ?_ (noTitle (by simp [isKind])) (silent (by simp [isKind]))
      rw [Block.addedKind?_eq_table_iff.2 ⟨shape, isKind⟩]
      exact { resources := (append_nil _).symm, methods := (append_nil _).symm }
  | other =>
      have extended :=
        nothing (by simp [isKind]) (by simp [isKind]) ▸ extends_refl scan (scan.origin block)
      exact extended.reads (noTitle (by simp [isKind])) (silent (by simp [isKind]))

/-! ## Following the topic -/

/-- What has been read is what can be told from the blocks. -/
structure HasRead (settings : Settings) (file : String) (before : List Block)
    (scan : Scan) : Prop where
  path : scan.page.path = file
  topic : scan.topic = Topic.of? settings before
  title : scan.page.title = Block.firstTitle? before
  resources : scan.page.resources.map (·.origin) = Block.origins settings file .resource before
  methods : scan.page.methods.map (·.origin) = Block.origins settings file .method before

variable {file : String} {before : List Block}

lemma hasRead_start (settings : Settings) (file : String) :
    HasRead settings file [] (.start file) :=
  ⟨rfl, rfl, rfl, rfl, rfl⟩

namespace HasRead

lemma origin_eq (h : HasRead settings file before scan) (block : Block) :
    scan.origin block = block.origin settings file before := by
  rw [Scan.origin, h.path, h.topic, Block.origin, Topic.of?, Block.description?]
  cases Block.title? before <;> rfl

lemma step (h : HasRead settings file before scan)
    (reads : Reads settings before.getLast? block scan next) :
    HasRead settings file (before ++ [block]) next where
  path := reads.path.trans h.path
  topic := by rw [reads.topic, h.topic, Topic.of?_concat]
  title := by rw [reads.title, h.title, Block.firstTitle?_concat]
  resources := by rw [reads.resources, h.resources, Block.origins_concat, h.origin_eq]
  methods := by rw [reads.methods, h.methods, Block.origins_concat, h.origin_eq]

lemma run (h : HasRead settings file before scan) (blocks : List Block) :
    HasRead settings file (before ++ blocks) (run settings scan before.getLast? blocks).value := by
  induction blocks generalizing scan before with
  | nil => exact (append_nil before).symm ▸ h
  | cons block rest ih =>
      have read := ih (h.step (reads_step scan before.getLast? block rest.head?))
      rw [append_assoc, singleton_append, getLast?_concat] at read
      exact read

end HasRead

/-! ## Metadata -/

lemma value_comment_metadata (scan : Scan) (block : Block) :
    (scan.comment block).value.page.metadata
      = scan.page.metadata.or (PageMetadata.read? block.content) := by
  unfold comment
  cases PageMetadata.read? block.content with
  | none => exact (Option.or_none).symm
  | some metadata =>
      cases present : scan.page.metadata with
      | some first => exact present
      | none => rfl

lemma issues_comment (scan : Scan) (block : Block) : (scan.comment block).issues =
    if scan.page.metadata.isSome then (PageMetadata.read? block.content).toList.map fun _ =>
      block.duplicateIssue
    else [] := by
  unfold comment
  cases PageMetadata.read? block.content with
  | none => exact (ite_self _).symm
  | some metadata => cases scan.page.metadata <;> rfl

lemma metadata_step (scan : Scan) (previous : Option Block) (block : Block) (next : Option Block) :
    (scan.step settings previous block next).value.page.metadata
      = scan.page.metadata.or (block.pageMetadata? next) := by
  rw [step, Block.pageMetadata?, Block.isComment]
  cases isKind : block.kind with
  | comment =>
      cases next.any (·.isCode) with
      | true => exact Option.or_none.symm
      | false => exact value_comment_metadata scan block
  | code => exact (extends_code (beq_iff_eq.2 isKind) previous).metadata.trans Option.or_none.symm
  | paragraph => exact (congrArg (·.metadata) page_paragraph).trans Option.or_none.symm
  | _ => exact Option.or_none.symm

/-- Only a comment can be a duplicate. -/
lemma hasCodes_step_of_not_comment (noComment : block.isComment = false)
    (previous next : Option Block) :
    HasCodes (codeCodes ++ Table.codes) (scan.step settings previous block next) := by
  unfold step
  split
  · exact .pure _
  · exact .pure _
  · next isComment =>
      rw [Block.isComment, isComment] at noComment
      cases noComment
  · exact (hasCodes_code ..).mono (by decide)
  · exact .bind ((Table.hasCodes_read ..).mono (by decide)) fun _ => .pure _
  · exact .pure _

lemma duplicates_step (scan : Scan) (previous : Option Block) (block : Block)
    (next : Option Block) :
    (scan.step settings previous block next).issues.filter (·.code == .duplicatePageMetadata) =
      if scan.page.metadata.isSome then (block.pageMetadata? next).toList.map fun _ =>
        block.duplicateIssue else [] := by
  cases isComment : block.isComment with
  | false =>
      rw [(hasCodes_step_of_not_comment isComment previous next).filter_eq_nil (by decide),
        Block.pageMetadata?, isComment]
      exact (ite_self _).symm
  | true =>
      rw [step, eq_of_beq isComment, Block.pageMetadata?, isComment]
      dsimp only
      cases next.any (·.isCode) with
      | true => exact (ite_self _).symm
      | false =>
          have all : (scan.comment block).issues.filter (·.code == .duplicatePageMetadata)
              = (scan.comment block).issues :=
            (Issue.filter_of_code (fun issue mem => by simpa using hasCodes_comment.mem issue mem)
              _).trans (if_pos rfl)
          exact all.trans (issues_comment scan block)

/-- The first metadata count. -/
lemma metadata_run (settings : Settings) (scan : Scan) (previous : Option Block)
    (blocks : List Block) :
    (run settings scan previous blocks).value.page.metadata
      = scan.page.metadata.or ((Block.allPageMetadata blocks).head?.map (·.2)) := by
  induction blocks generalizing scan previous with
  | nil => exact Option.or_none.symm
  | cons block rest ih =>
      rw [run, value_bind, ih, metadata_step, Block.allPageMetadata, Option.or_assoc]
      cases block.pageMetadata? rest.head? <;> rfl

/-- There is a warning for each of the others. -/
lemma duplicates_run (settings : Settings) (scan : Scan) (previous : Option Block)
    (blocks : List Block) :
    (run settings scan previous blocks).issues.filter (·.code == .duplicatePageMetadata)
      = ((Block.allPageMetadata blocks).drop (if scan.page.metadata.isSome then 0 else 1)).map
        (·.1.duplicateIssue) := by
  induction blocks generalizing scan previous with
  | nil =>
      rw [Block.allPageMetadata, drop_nil]
      rfl
  | cons block rest ih =>
      rw [run, issues_bind, filter_append, ih, duplicates_step, metadata_step,
        Block.allPageMetadata]
      cases scan.page.metadata <;> cases block.pageMetadata? rest.head? <;> simp

end Scan

namespace Page

/-- **Titles and descriptions follow the latest heading of the first level.**

* Resources, and in the same way methods, stand in the order of the blocks that add them.  Each has
  the line of its block, the title before it, and the first description between that title and the
  block.
* The metadata of the page are the first ones in a comment that does not stand before code.  If they
  have no title, they have the first one of the page, wherever it stands.
* There is one warning for each of the other comments with metadata of the page, in their order. -/
theorem topics_followed (settings : Settings) (path : String) (blocks : List Block) :
    let read := Page.scan settings path blocks
    (read.value.resources.map (·.origin) = ((Block.places blocks).filter fun (before, block) =>
          block.addedKind? settings before.getLast? = some .resource).map fun (before, block) =>
        ⟨path, block.line, Block.title? before, Block.description? settings before⟩)
      ∧ (read.value.methods.map (·.origin) = ((Block.places blocks).filter fun (before, block) =>
          block.addedKind? settings before.getLast? = some .method).map fun (before, block) =>
        ⟨path, block.line, Block.title? before, Block.description? settings before⟩)
      ∧ (read.value.metadata = (Block.allPageMetadata blocks).head?.map fun (_, metadata) =>
        if metadata.hasTitle then metadata else { metadata with title := Block.firstTitle? blocks })
      ∧ read.issues.filter (·.code == .duplicatePageMetadata)
        = (Block.allPageMetadata blocks).tail.map fun (block, _) => .warning .duplicatePageMetadata
          s!"Ignoring second page annotation on line {block.line}" := by
  intro read
  have hasRead := (Scan.hasRead_start settings path).run blocks
  rw [nil_append, getLast?_nil] at hasRead
  have first := Scan.metadata_run settings (.start path) none blocks
  have others := Scan.duplicates_run settings (.start path) none blocks
  refine ⟨hasRead.resources, hasRead.methods, ?_, ?_⟩
  · have finished : read.value.metadata
        = (Scan.run settings (.start path) none blocks).value.page.metadata.map fun metadata =>
        if metadata.hasTitle then metadata
        else { metadata with title :=
          (Scan.run settings (.start path) none blocks).value.page.title } := rfl
    rw [finished, first, hasRead.title]
    exact Option.map_map ..
  · rw [issues_scan, others, ← drop_one]
    rfl

/-- A page with two requests.  The second one stands behind a title without description. -/
def describedBlocks : List Block :=
  [⟨.heading 1, " List items ", 1, none⟩,
   ⟨.paragraph, "Namespace: foo", 3, none⟩,
   ⟨.heading 2, "Request", 5, none⟩,
   ⟨.paragraph, "Lists all items.", 7, none⟩,
   ⟨.paragraph, "There may be many.", 9, none⟩,
   ⟨.comment, "<!-- \x7b \"blockType\": \"request\" \x7d -->", 11, none⟩,
   ⟨.code, "GET /items", 12, some "http"⟩,
   ⟨.heading 1, "Get an item", 15, none⟩,
   ⟨.comment, "<!-- \x7b \"type\": \"#page.annotation\" \x7d -->", 17, none⟩,
   ⟨.comment, "<!-- \x7b \"blockType\": \"request\" \x7d -->", 19, none⟩,
   ⟨.code, "GET /items/1", 20, some "http"⟩]

example :
    let page := (Page.scan .stock "items.md" describedBlocks).value
    page.methods.map (·.origin) = [⟨"items.md", 12, some "List items", some "Lists all items."⟩,
        ⟨"items.md", 20, some "Get an item", none⟩]
      ∧ page.metadata.bind (·.title) = some "List items" := by
  decide +kernel

end Page

end DocAudit
