import DocAudit.Proofs.Link.Destination
import DocAudit.Proofs.Page.Bookmarks
import DocAudit.Proofs.Text.Slug

/-!
# Links to headings

Every heading can be linked to by its bookmark, from its own page and from all others
(`LinkIndex.heading_linked`), because there is nothing in a bookmark that is taken off a target.  A
page can be linked to from itself with or without the name of its file; this makes no difference but
for the empty bookmark, which is good behind the name of a file and is looked for behind none
(`LinkIndex.same_result_iff`).
-/

namespace DocAudit

open List LinkTarget FileTree

namespace LinkTarget

variable {path : List Char} {source : String}

/-! ## Paths without special characters -/

/-- A path behind a slash leads from the root. -/
lemma destination?_slash (names : ∀ segment ∈ segments path, IsName segment) (source : String) :
    destination? source ('/' :: path) = some (segments path) := by
  have cut : segments ('/' :: path) = "" :: segments path := segments_append [] path
  have walked : walk [] ("" :: segments path) = some ((segments path).reverse ++ []) := by
    rw [walk_stay (.inl rfl), walk_names names]
  rw [destination?, base, if_pos (by simp), cut, walked]
  simp

/-- The name of the file of a page leads from the page to itself. -/
lemma destination?_fileName (isName : IsName (fileName source)) :
    destination? source (fileName source).toList = some (segments source.toList) := by
  have noSlash := slash_not_mem_fileName source
  have walked : walk (segments source.toList).dropLast.reverse [fileName source]
      = some (fileName source :: (segments source.toList).dropLast.reverse) := by
    rw [walk_name isName, walk]
  rw [destination?, base_of_not_mem noSlash, segments_of_not_mem noSlash, String.ofList_toList,
    walked, Option.map_some, reverse_cons, reverse_reverse, dropLast_concat_fileName]

end LinkTarget

namespace LinkIndex

variable {index : LinkIndex} {source : String} {known : List String}

/-- The bookmark of a page in the index is good if the page has it. -/
lemma checkBookmarkOf_eq_valid_iff (indexed : index.bookmarks.lookup source = some known)
    {name : String} :
    index.checkBookmarkOf source name = .valid ↔ name ∈ known := by
  rw [checkBookmarkOf, indexed]
  by_cases mem : name ∈ known <;> simp [checkBookmark, mem]

/-! ## Headings -/

/-- **Every heading can be linked to.**  Let a page that was scanned be in the index and, at its
path, in the tree, and let this path have no blank, percent sign, question mark or number sign in
it.  Then the bookmark of each heading is found from the page itself, and behind a slash and the
path from every page. -/
theorem heading_linked (named : ∀ name ∈ index.files.names, IsName name) {page : Page}
    (scanned : page.IsScanned)
    (indexed : index.bookmarks.lookup page.path = some page.bookmarks) {found : FileTree}
    (onDisk : index.files.Holds (segments page.path.toList) found)
    (plain : ∀ c ∈ page.path.toList, Text.isBlank c = false ∧ c ∉ ['%', '?', '#'])
    {heading : Heading} (isHeading : heading ∈ page.outline.headings) :
    (index.check page.path ("#" ++ Text.slug heading.title)).result = .valid
      ∧ ∀ source, index.check source ("/" ++ page.path ++ "#" ++ Text.slug heading.title)
          = ⟨.valid, some page.path⟩ := by
  have isPath : ∀ segment ∈ segments page.path.toList, IsName segment :=
    fun segment mem => named segment (mem_names_of_holds onDisk segment mem)
  have isBookmark : Text.slug heading.title ∈ page.bookmarks :=
    scanned.mem_bookmarks_iff.2 ⟨heading, isHeading, rfl⟩
  have noBlank := Text.not_isBlank_of_mem_slug heading.title
  constructor
  · have trimmed : Text.trim ("#" ++ Text.slug heading.title).toList
        = '#' :: (Text.slug heading.title).toList := by
      rw [String.toList_append]
      exact Text.trimBy_eq_self (forall_mem_cons.2 ⟨by decide, noBlank⟩)
    rw [check, read_sign trimmed noBlank, String.ofList_toList]
    exact (checkBookmarkOf_eq_valid_iff indexed).2 isBookmark
  · intro source
    have literal : IsLiteral ('/' :: page.path.toList) :=
      .of_plain (forall_mem_cons.2 ⟨by decide, plain⟩) (hasScheme_cons (by decide) _)
    have written : Text.trim ("/" ++ page.path ++ "#" ++ Text.slug heading.title).toList
        = '/' :: page.path.toList ++ '#' :: (Text.slug heading.title).toList := by
      have split : ("/" ++ page.path ++ "#" ++ Text.slug heading.title).toList
          = '/' :: page.path.toList ++ '#' :: (Text.slug heading.title).toList := by
        simp
      rw [split]
      refine Text.trimBy_eq_self (forall_mem_append.2 ⟨literal.noBlank,
        forall_mem_cons.2 ⟨by decide, noBlank⟩⟩)
    have isFound := (follow?_eq_some_iff isPath).2 onDisk
    have isRead := literal.read_bookmark_eq (cons_ne_nil _ _) noBlank written
    rw [check_of_found isRead (destination?_slash isPath source) isFound, intercalate_segments,
      String.ofList_toList]
    rcases index.checkBookmarkAt_cases page.path found (some (Text.slug heading.title)) with
      valid | ⟨name, isName, -, -, same⟩
    · rw [valid]
    · obtain rfl := Option.some.inj isName
      rw [same, (checkBookmarkOf_eq_valid_iff indexed).2 isBookmark]

/-- A page with two headings, of which the bookmark of the second one is empty. -/
def colorPages : FileTree :=
  .directory [("docs", .directory [("a.md", .file "# Größe & Farbe\n\n## ?\n".toUTF8)])]

/-- Both headings can be linked to. -/
theorem colors_linked :
    let page := (CheckedPage.read .stock ⟨true, false, []⟩ colorPages "docs/a.md").page
    let index := LinkIndex.ofPages colorPages [page]
    (∀ name ∈ index.files.names, IsName name) ∧ page.path = "docs/a.md"
      ∧ (∀ c ∈ page.path.toList, Text.isBlank c = false ∧ c ∉ ['%', '?', '#'])
      ∧ page.outline.headings.map (Text.slug ·.title) = ["größe-farbe", ""]
      ∧ (index.check "docs/a.md" "#größe-farbe").result = .valid
      ∧ index.check "b.md" "/docs/a.md#" = ⟨.valid, some "docs/a.md"⟩ := by
  intro page index
  have named : ∀ name ∈ index.files.names, IsName name := by decide +kernel
  have scanned : page.IsScanned := CheckedPage.isScanned_read ..
  have path : page.path = "docs/a.md" := by decide +kernel
  have plain : ∀ c ∈ page.path.toList, Text.isBlank c = false ∧ c ∉ ['%', '?', '#'] := by
    rw [path]
    exact all_iff_forall_prop.1 (by decide +kernel)
  have indexed : index.bookmarks.lookup page.path = some page.bookmarks := lookup_cons_self
  have onDisk : index.files.Holds (segments page.path.toList)
      (.file "# Größe & Farbe\n\n## ?\n".toUTF8) := by
    have split : segments page.path.toList = ["docs", "a.md"] := by decide +kernel
    rw [split]
    exact .entry rfl (.entry rfl (.here _))
  have slugs : page.outline.headings.map (Text.slug ·.title) = ["größe-farbe", ""] := by
    decide +kernel
  obtain ⟨color, inPage, isColor⟩ := mem_map.1 (slugs ▸ mem_cons_self)
  obtain ⟨other, isHeading, isEmpty⟩ := mem_map.1 (slugs ▸ mem_cons_of_mem _ mem_cons_self)
  have linked := (heading_linked named scanned indexed onDisk plain inPage).1
  have linkedEmpty := (heading_linked named scanned indexed onDisk plain isHeading).2 "b.md"
  rw [isColor, path] at linked
  rw [isEmpty, path] at linkedEmpty
  exact ⟨named, path, plain, slugs, linked, linkedEmpty⟩

/-! ## Links of a page to itself -/

/-- **Links of a page to itself agree** unless the bookmark is empty.  Let a page be in the index
and a file of the tree, the name of which has no blank, colon, number sign, question mark or percent
sign in it.  Then a bookmark gives the same result with the name of the file and without it, exactly
if it has a character that is not blank or the empty bookmark is among those of the page. -/
theorem same_result_iff {bytes : ByteArray} (indexed : index.bookmarks.lookup source = some known)
    (onDisk : index.files.follow? (segments source.toList) = some (.file bytes))
    (plain : ∀ c ∈ (fileName source).toList, Text.isBlank c = false ∧ c ∉ [':', '#', '?', '%'])
    (bookmark : String) :
    (index.check source ("#" ++ bookmark)).result
      = (index.check source (fileName source ++ "#" ++ bookmark)).result
      ↔ (∃ c ∈ bookmark.toList, Text.isBlank c = false) ∨ "" ∈ known := by
  have isName : IsName (fileName source) := by
    rw [← dropLast_concat_fileName] at onDisk
    exact isName_of_follow? rfl onDisk
  have notEmpty : (fileName source).toList ≠ [] := by
    simpa using isName.1
  have literal := IsLiteral.of_noColon plain
  -- blank characters behind the bookmark are taken off both targets
  generalize ends : Text.trimEnd bookmark.toList = name
  have trimmedSign : Text.trim ("#" ++ bookmark).toList = '#' :: name := by
    rw [← ends, String.toList_append]
    exact trim_sign [] bookmark.toList
  have trimmedFile : Text.trim (fileName source ++ "#" ++ bookmark).toList
      = (fileName source).toList ++ '#' :: name := by
    have split : (fileName source ++ "#" ++ bookmark).toList = (fileName source).toList
        ++ '#' :: bookmark.toList := by
      simp
    rw [split, trim_sign, ends, Text.trimStart, Text.trimStartBy_eq_self literal.noBlank]
  have empty : name = [] ↔ ¬∃ c ∈ bookmark.toList, Text.isBlank c = false := by
    rw [← ends, Text.trimEnd, Text.trimEndBy_eq_nil_iff]
    simp
  by_cases blank : name.any Text.isBlank = true
  · -- a blank inside of the bookmark makes both targets malformed
    have notEmpty : name ≠ [] := by
      rintro rfl
      cases blank
    have inSign : (Text.trim ("#" ++ bookmark).toList).any Text.isBlank = true := by
      rw [trimmedSign, any_cons, blank, Bool.or_true]
    have inFile : (Text.trim (fileName source ++ "#" ++ bookmark).toList).any Text.isBlank
        = true := by
      rw [trimmedFile, any_append, any_cons, blank, Bool.or_true, Bool.or_true]
    rw [check, check, read_of_isBlank inSign, read_of_isBlank inFile]
    exact iff_of_true rfl (.inl (not_not.1 (mt empty.2 notEmpty)))
  · have noBlank : ∀ c ∈ name, Text.isBlank c = false := by
      simpa using blank
    have isRead := literal.read_bookmark_eq notEmpty noBlank trimmedFile
    rw [check, read_sign trimmedSign noBlank,
      check_of_found isRead (destination?_fileName isName) onDisk, intercalate_segments]
    by_cases isEmpty : name = []
    · -- with the name of the file, the empty bookmark is not looked for
      subst isEmpty
      have notLooked : index.checkBookmarkAt source (.file bytes) (some "") = .valid := rfl
      rw [or_iff_right (empty.1 rfl), String.ofList_nil, notLooked]
      exact checkBookmarkOf_eq_valid_iff indexed
    · have isName : String.ofList name ≠ "" := by
        simpa using isEmpty
      rw [checkBookmarkAt_of_page index source isName rfl]
      exact iff_of_true rfl (.inl (not_not.1 (mt empty.2 isEmpty)))

/-- A misspelt bookmark gives the same suggestion with the name of the file and without it. -/
theorem misspelt_bookmark_same_result :
    let index : LinkIndex :=
      ⟨.directory [("docs", .directory [("a.md", .file ⟨#[]⟩)])],
        [("docs/a.md", ["details", "intro"])]⟩
    index.bookmarks.lookup "docs/a.md" = some ["details", "intro"]
      ∧ index.files.follow? (segments "docs/a.md".toList) = some (.file ⟨#[]⟩)
      ∧ (∀ c ∈ (fileName "docs/a.md").toList, Text.isBlank c = false ∧ c ∉ [':', '#', '?', '%'])
      ∧ (index.check "docs/a.md" "#detials").result = .bookmarkMissing (some "#details")
      ∧ (index.check "docs/a.md" ("#" ++ "detials")).result
        = (index.check "docs/a.md" (fileName "docs/a.md" ++ "#" ++ "detials")).result := by
  intro index
  have indexed : index.bookmarks.lookup "docs/a.md" = some ["details", "intro"] := by decide +kernel
  have onDisk : index.files.follow? (segments "docs/a.md".toList) = some (.file ⟨#[]⟩) := by
    have path : segments "docs/a.md".toList = ["docs", "a.md"] := by decide +kernel
    rw [path]
    rfl
  have plain : ∀ c ∈ (fileName "docs/a.md").toList, Text.isBlank c = false
      ∧ c ∉ [':', '#', '?', '%'] :=
    all_iff_forall_prop.1 (by decide +kernel)
  refine ⟨indexed, onDisk, plain, by decide +kernel,
    (same_result_iff indexed onDisk plain "detials").2 (.inl ?_)⟩
  exact ⟨'d', by decide, by decide +kernel⟩

/-- The empty bookmark is missing without the name of the file, though it is good with it. -/
theorem empty_bookmark_differs :
    let index : LinkIndex := ⟨.directory [("a.md", .file ⟨#[]⟩)], [("a.md", ["intro"])]⟩
    fileName "a.md" = "a.md" ∧ (index.check "a.md" "#").result = .bookmarkMissing none
      ∧ index.check "a.md" "a.md#" = ⟨.valid, some "a.md"⟩ := by
  decide +kernel

end LinkIndex

end DocAudit
