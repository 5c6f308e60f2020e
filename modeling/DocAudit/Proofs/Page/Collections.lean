import DocAudit.Proofs.Page.ParameterLists
import DocAudit.Proofs.Parameter.Dimensions

/-!
# Collections on a page

A collection of collections is one collection with more dimensions.  This holds of all types that
are shown on a page that was reconciled, and the dimensions of collections stay small: an example
has no more than arrays may be nested in it, and a row of a table no more than its cells have
characters (`Page.collections_flat`).
-/

namespace DocAudit

open List Audit

/-- The cells below the headers, if a block is a table. -/
def Block.cells (block : Block) : List String :=
  match block.kind with
  | .table shape => shape.rows.flatten
  | _ => []

/-- Of two types joining keeps one, so it adds no dimensions. -/
lemma Parameter.hasDimensions_merge {a b : Parameter} {limit : ℕ} (h : a.type.HasDimensions limit)
    (g : b.type.HasDimensions limit) : (a.merge b).value.type.HasDimensions limit := by
  rcases type_merge a b with same | same
  · rwa [same]
  · rwa [same]

namespace Page

variable {settings : Settings} {path : String} {blocks : List Block} {page : Page}
  {type : ValueType} {limit : ℕ}

/-- No collection in a parameter of a page has more than some dimensions. -/
abbrev HasDimensions (limit : ℕ) : Page → Prop :=
  AllLists (fun parameters => ∀ parameter ∈ parameters, parameter.type.HasDimensions limit)
    fun row => row.type.HasDimensions limit

lemma hasDimensions_scan (deep : Json.Written.maxDepth ≤ limit)
    (short : ∀ block ∈ blocks, ∀ cell ∈ block.cells, cell.length ≤ limit) :
    (Page.scan settings path blocks).value.HasDimensions limit := by
  refine allLists_scan (forall_mem_nil _) ?_ ?_
  · intro block _ metadata origin resource read parameter mem
    exact (Resource.hasDimensions_ofExample read parameter mem).mono deep
  · intro block mem shape isTable titles
    refine Table.hasDimensions_of_mem_read fun row isRow cell isCell => short block mem cell ?_
    rw [Block.cells, isTable]
    exact mem_flatten.2 ⟨row, isRow, isCell⟩

/-- All types on a page have as few dimensions as those of its parameters. -/
lemma Shows.hasDimensions (h : page.Shows type) (few : page.HasDimensions limit) :
    type.HasDimensions limit := by
  induction h with
  | property isShown mem => exact few.properties _ isShown _ mem
  | parameter isShown mem => exact few.parameters _ isShown _ mem
  | bodyParameter isShown mem => exact few.bodyParameters _ isShown _ mem
  | row isShown mem => exact few.rows _ isShown _ mem
  | element _ ih =>
      cases ih with
      | collection inside _ => exact inside
  | member _ mem ih =>
      cases ih with
      | shown inside => exact inside _ mem

lemma Shows.elementShown (h : page.Shows type) : page.Shows type.element := by
  cases type with
  | collection element dimensions => exact .element h
  | _ => exact h

lemma Shows.memberShown (h : page.Shows type) {member : Parameter}
    (mem : member ∈ membersShown type) :
    page.Shows member.type := by
  unfold membersShown at mem
  split at mem
  · exact .member h mem
  · cases mem

/-- **Collections never nest.**  Whatever blocks a page has, if the cells of its tables have fewer
than 2³² characters, then after it is reconciled every collection on it, in a parameter of a
resource, of a request or of a table and however deep it stands there, has at least one dimension,
fewer than 2³², and elements that are not collections. -/
theorem collections_flat (settings : Settings) (context : Option String) (path : String)
    (blocks : List Block) (links : List Markdown.Link)
    (short : ∀ block ∈ blocks, ∀ cell ∈ block.cells, cell.length < UInt32.size)
    (element : ValueType) (dimensions : ℕ)
    (shown : ({ (Page.scan settings path blocks).value with links }.reconcile
      settings context).value.Shows (.collection element dimensions)) :
    0 < dimensions ∧ dimensions < UInt32.size ∧ element.isCollection = false := by
  have wellFormed : ({ (Page.scan settings path blocks).value with links } : Page).IsWellFormed :=
    (isWellFormed_scan settings path blocks).withLinks links
  have few : (Page.scan settings path blocks).value.HasDimensions (UInt32.size - 1) :=
    hasDimensions_scan (by decide) fun block mem cell isCell =>
      Nat.le_sub_one_of_lt (short block mem cell isCell)
  have fewReconciled := (few.withLinks links).reconcile
    (fun known rows => Parameter.forall_mem_mergeLists Parameter.hasDimensions_merge known rows)
      settings context
  cases shown.isWellFormed (wellFormed.reconcile settings context) with
  | collection _ flat positive =>
      cases shown.hasDimensions fewReconciled with
      | collection _ few => exact ⟨positive, Nat.lt_of_le_sub_one (by decide) few, flat⟩

/-- Arrays of arrays of objects that have arrays of arrays, and a row that describes a collection in
several ways at once. -/
def boardBlocks : List Block :=
  [⟨.comment, "<!-- \x7b \"blockType\": \"resource\", \"@odata.type\": \"foo.board\" \x7d -->",
      1, none⟩,
   ⟨.code, "\x7b \"squares\": [[ \x7b \"marks\": [[[\"x\"]]] \x7d ]], \"notes\": [] \x7d",
     2, some "json"⟩,
   ⟨.table ⟨["Property", "Type"], [["notes", "Collection(array of String[])"]]⟩, "", 7, none⟩]

/-- All layers of a collection are counted in one place, in a row and in the members of an
element. -/
theorem board_collections_flat :
    let page :=
      ({ (Page.scan .stock "board.md" boardBlocks).value with links := [] }.reconcile
        .stock none).value
    let isFlat (text : String) := ∃ element dimensions, page.Shows (.collection element dimensions)
      ∧ (ValueType.collection element dimensions).text = text
      ∧ 0 < dimensions ∧ dimensions < UInt32.size ∧ element.isCollection = false
    (∀ block ∈ boardBlocks, ∀ cell ∈ block.cells, cell.length < UInt32.size)
      ∧ isFlat "Collection(Collection(String))"
        ∧ isFlat "Collection(Collection(Collection(String)))" := by
  intro page isFlat
  have short : ∀ block ∈ boardBlocks, ∀ cell ∈ block.cells,
      cell.length < UInt32.size := by decide +kernel
  have flat {type : ValueType} (shown : page.Shows type) (isCollection : type.isCollection = true) :
      isFlat type.text := by
    cases type with
    | collection element dimensions =>
        exact ⟨element, dimensions, shown, rfl,
          collections_flat .stock none "board.md" boardBlocks [] short
          element dimensions shown⟩
    | _ => cases isCollection
  have ofRow : ∃ resource ∈ page.resources, ∃ parameter ∈ resource.parameters,
      parameter.type.isCollection = true
        ∧ parameter.type.text = "Collection(Collection(String))" := by
    decide +kernel
  have ofMember : ∃ resource ∈ page.resources, ∃ parameter ∈ resource.parameters,
      ∃ member ∈ membersShown parameter.type.element,
        member.type.isCollection = true
          ∧ member.type.text = "Collection(Collection(Collection(String)))" := by
    decide +kernel
  obtain ⟨resource, isShown, parameter, mem, isCollection, text⟩ := ofRow
  obtain ⟨outer, isOuter, squares, isSquares, marks, isMember, isCollection', text'⟩ := ofMember
  refine ⟨short, ?_, ?_⟩
  · rw [← text]
    exact flat (.property isShown mem) isCollection
  · rw [← text']
    exact flat ((Shows.property isOuter isSquares).elementShown.memberShown isMember) isCollection'

end Page

end DocAudit
