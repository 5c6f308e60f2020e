import DocAudit.Page.Scan
import Mathlib.Logic.Relation

/-!
# How a page grows

Whatever a block says, reading it changes a page in a few ways only, and `Page.Change` lists them,
with the blocks that resources and tables are read from.  A page that was scanned is reached from
the empty page by such changes (`Page.grows_scan`), so it has every property that the empty page has
and that each of them keeps (`Page.scan_induction`).
-/

namespace DocAudit

open List

namespace Page

/-- One change that reading blocks makes to a page. -/
inductive Change (settings : Settings) (blocks : List Block) (page : Page) : Page → Prop where
  | heading (title : Option String) (heading : Heading) :
      Change settings blocks page { page with
        title
        outline := page.outline.push heading
        bookmarks := Text.insertSorted (Text.slug heading.title) page.bookmarks }
  | metadata (metadata : Option PageMetadata) : Change settings blocks page { page with metadata }
  | resource {block : Block} {metadata : CodeMetadata} {origin : BlockOrigin} {resource : Resource}
      (mem : block ∈ blocks) (isCode : block.kind = .code) (here : origin.file = page.path)
      (read : (Resource.ofExample settings.naming metadata block.content origin).value
        = some resource) :
      Change settings blocks page (page.addResource resource)
  | method (identifier request : String) (metadata : CodeMetadata) (origin : BlockOrigin) :
      Change settings blocks page (page.addMethod (.ofRequest identifier request metadata origin))
  /-- A request is told more about. -/
  | answer (position : Nat) (change : Method → Method)
      (tells : ∀ method, ∃ response simulatedResponse testParams,
        change method = { method with response, simulatedResponse, testParams }) :
      Change settings blocks page (page.changeMethod position change)
  | table {block : Block} {shape : TableShape} (mem : block ∈ blocks)
      (isTable : block.kind = .table shape) (titles : List String) :
      Change settings blocks page (page.addTable
        (Table.read settings.naming settings.tables shape titles block.line).value)
  | sample (sample : Sample) : Change settings blocks page (page.addSample sample)

/-- A page is reached from another one by changes. -/
abbrev Grows (settings : Settings) (blocks : List Block) : Page → Page → Prop :=
  Relation.ReflTransGen (Change settings blocks)

end Page

/-! ## One block -/

namespace Scan

open Page

variable {settings : Settings} {blocks : List Block} {scan : Scan} {metadata : CodeMetadata}
  {block : Block}

/-- A paragraph is not kept on the page. -/
lemma page_paragraph : (scan.paragraph settings block).page = scan.page := by
  unfold paragraph
  dsimp only
  split
  · split <;> rfl
  · rfl

/-- A comment by itself can only be about the page. -/
lemma exists_value_comment (scan : Scan) (block : Block) :
    ∃ metadata, (scan.comment block).value = { scan with page := { scan.page with metadata } } := by
  unfold comment
  split
  · exact ⟨_, rfl⟩
  · split <;> exact ⟨_, rfl⟩

lemma exists_page_comment (scan : Scan) (block : Block) :
    ∃ metadata, (scan.comment block).value.page = { scan.page with metadata } := by
  obtain ⟨metadata, same⟩ := exists_value_comment scan block
  exact ⟨metadata, congrArg (·.page) same⟩

lemma grows_comment : Grows settings blocks scan.page (scan.comment block).value.page := by
  obtain ⟨metadata, same⟩ := exists_page_comment scan block
  exact same ▸ .single (.metadata metadata)

lemma grows_request : Grows settings blocks scan.page (scan.request metadata block).value.page := by
  simp only [request]
  split
  · exact .single (.method ..)
  · exact .single (.method ..)

lemma grows_respond (response : Response) (line position : Nat) :
    Grows settings blocks scan.page (respond response line scan position).value.page := by
  unfold respond
  split
  · exact .refl
  · split
    · exact .refl
    · exact .single (.answer position _ fun _ => ⟨_, _, _, rfl⟩)

lemma grows_response :
    Grows settings blocks scan.page (scan.response metadata block).value.page := by
  have all (targets : List Nat) : Grows settings blocks scan.page
      (targets.foldlM (respond ⟨block.content, metadata⟩ block.line) scan).value.page := by
    rw [Audit.value_foldlM]
    exact foldlRecOn (motive := fun after : Scan => Grows settings blocks scan.page after.page)
      targets _ .refl
      fun _ grows position _ => grows.trans (grows_respond ..)
  simp only [response]
  split
  · exact .refl
  · split
    · exact all _
    · exact all _

lemma grows_changeLatest (message : String) {change : Method → Method}
    (tells : ∀ method, ∃ response simulatedResponse testParams,
      change method = { method with response, simulatedResponse, testParams }) :
    Grows settings blocks scan.page (scan.changeLatest message change).value.page := by
  unfold changeLatest
  split
  · exact .refl
  · exact .single (.answer _ _ tells)

lemma grows_codeWithRole (mem : block ∈ blocks) (isCode : block.kind = .code) (role : BlockRole) :
    Grows settings blocks scan.page
      (scan.codeWithRole settings metadata block role).value.page := by
  cases role with
  | resource =>
      rw [codeWithRole, Audit.value_bind]
      cases found :
        (Resource.ofExample settings.naming metadata block.content (scan.origin block)).value with
      | some resource => exact .single (.resource mem isCode rfl found)
      | none => exact .refl
  | request => exact grows_request
  | response => exact grows_response
  | simulatedResponse => exact grows_changeLatest _ fun _ => ⟨_, _, _, rfl⟩
  | testParams => exact grows_changeLatest _ fun _ => ⟨_, _, _, rfl⟩
  | ignored => exact .refl
  | _ => exact .single (.sample _)

lemma grows_code (mem : block ∈ blocks) (isCode : block.kind = .code) (previous : Option Block) :
    Grows settings blocks scan.page (scan.code settings previous block).value.page := by
  unfold code
  split
  · unfold annotatedCode
    split
    · exact .refl
    · split
      · exact .refl
      · exact grows_codeWithRole mem isCode _
  · split
    · exact .refl
    · exact .refl

lemma grows_step (mem : block ∈ blocks) (previous next : Option Block) :
    Grows settings blocks scan.page (scan.step settings previous block next).value.page := by
  unfold step
  split
  · exact .single (.heading ..)
  · rw [Audit.value_pure, page_paragraph]
  · split
    · exact .refl
    · exact grows_comment
  · next isCode => exact grows_code mem isCode _
  · next shape isTable => exact .single (.table mem isTable _)
  · exact .refl

/-! ## All blocks -/

lemma grows_run (scan : Scan) (previous : Option Block) (rest : List Block)
    (given : rest ⊆ blocks) :
    Grows settings blocks scan.page (run settings scan previous rest).value.page := by
  induction rest generalizing scan previous with
  | nil => exact .refl
  | cons block rest ih =>
      obtain ⟨mem, later⟩ := cons_subset.1 given
      exact (grows_step mem ..).trans (ih _ _ later)

end Scan

namespace Page

/-- A page that was scanned is reached from the empty one. -/
theorem grows_scan (settings : Settings) (path : String) (blocks : List Block) :
    Grows settings blocks (.empty path) (Page.scan settings path blocks).value :=
  (Scan.grows_run (.start path) none blocks (Subset.refl _)).tail (.metadata _)

/-- A page that was scanned has every property that all changes keep. -/
theorem scan_induction {settings : Settings} {path : String} {blocks : List Block}
    {Holds : Page → Prop} (empty : Holds (.empty path))
    (change : ∀ page next, Change settings blocks page next → Holds page → Holds next) :
    Holds (Page.scan settings path blocks).value := by
  have grows := grows_scan settings path blocks
  generalize (Page.scan settings path blocks).value = page at grows ⊢
  induction grows with
  | refl => exact empty
  | tail _ step held => exact change _ _ step held

end Page

end DocAudit
