import DocAudit.Proofs.Link.Bookmarks
import DocAudit.Proofs.Text.Suggestion

/-!
# What is suggested for links

For a link to nothing, the path with another name of a file is suggested.  The name is that of an
entry next to the place where there is nothing, so it leads to something if the path ends in a name
(`LinkIndex.suggested_found_iff`), and the suggestion can be followed if nothing in it is cut off or
decoded once more.  A suggested bookmark always fits (`LinkIndex.suggestions_followed`).
-/

namespace DocAudit.LinkIndex

open List LinkTarget FileTree

variable {index : LinkIndex} {source target suggestion name : String} {path : List Char}
  {bookmark : Option String} {place : List String} {files : FileTree} {pages : List Page}

/-! ## Names of files -/

lemma withFileName_some (path : List Char) (bookmark name : String) :
    withFileName path (some bookmark) name = withFileName path none name ++ "#" ++ bookmark := rfl

/-- Replacing the name of the file leaves the segments before it, and the start of the path. -/
lemma withFileName_none (path : List Char) (noSlash : '/' ∉ name.toList) (source : String) :
    segments (withFileName path none name).toList = (segments path).dropLast ++ [name]
      ∧ base source (withFileName path none name).toList = base source path := by
  by_cases mem : '/' ∈ path
  · obtain ⟨around, last, rfl, absent⟩ := Text.exists_last_place mem
    have replaced : (withFileName (around ++ '/' :: last) none name).toList = around
        ++ '/' :: name.toList := by
      simp [withFileName, Text.cutLast_append absent]
    have sameStart : (around ++ '/' :: name.toList).head? = (around ++ '/' :: last).head? := by
      cases around <;> rfl
    rw [replaced, segments_append, segments_append, segments_of_not_mem noSlash,
      segments_of_not_mem absent, dropLast_concat, String.ofList_toList, base, base, sameStart]
    exact ⟨rfl, rfl⟩
  · have replaced : (withFileName path none name).toList = name.toList := by
      simp [withFileName, Text.cutLast_eq_none mem]
    rw [replaced, segments_of_not_mem noSlash, segments_of_not_mem mem, String.ofList_toList,
      base_of_not_mem noSlash, base_of_not_mem mem]
    exact ⟨rfl, rfl⟩

/-- A near name is that of another entry of the directory around a place. -/
lemma nearFile?_eq_some (near : index.nearFile? place = some name) :
    ∃ around last entries, place = around ++ [last]
      ∧ index.files.follow? around = some (directory entries)
      ∧ name ∈ entries.map (·.1) := by
  simp only [nearFile?, bind, Option.bind_eq_some_iff] at near
  obtain ⟨last, isLast, inner, isFound, entries, isDirectory, suggested⟩ := near
  obtain ⟨around, rfl⟩ := getLast?_eq_some_iff.1 isLast
  rw [dropLast_concat] at isFound
  cases inner with
  | file bytes => cases isDirectory
  | directory others =>
      cases isDirectory
      exact ⟨around, last, _, rfl, isFound, (Text.mem_of_suggest suggested).1⟩

/-- **A suggested path leads to something exactly if the path of the link ends in a name.**  If it
ends in a slash or in points, the name is put behind the place where there is nothing, rather than
next to it. -/
theorem suggested_found_iff (leads : destination? source path = some place)
    (missing : index.files.follow? place = none) (near : index.nearFile? place = some name)
    (isName : IsName name) (noSlash : '/' ∉ name.toList) :
    (∃ there found, destination? source (withFileName path none name).toList = some there
        ∧ index.files.follow? there = some found)
      ↔ IsName (fileName (.ofList path)) := by
  obtain ⟨sameSegments, sameBase⟩ := withFileName_none path noSlash source
  have split : segments path = (segments path).dropLast ++ [fileName (.ofList path)] := by
    have joined := dropLast_concat_fileName (.ofList path)
    rw [String.toList_ofList] at joined
    exact joined.symm
  rw [destination?, split, walk_append, Option.map_eq_some_iff] at leads
  obtain ⟨ended, ends, rfl⟩ := leads
  obtain ⟨opened, opens, ends⟩ := Option.bind_eq_some_iff.1 ends
  have leadsThere : destination? source (withFileName path none name).toList
      = some (opened.reverse ++ [name]) := by
    rw [destination?, sameSegments, sameBase, walk_append, opens, Option.bind_some,
      walk_name isName, walk, Option.map_some, reverse_cons]
  rw [leadsThere]
  rcases segment_cases (fileName (.ofList path)) with stays | isUp | isLast
  · rw [walk_stay stays, walk] at ends
    obtain rfl := Option.some.inj ends
    have missing := follow?_append_eq_none missing [name]
    have noName : ¬IsName (fileName (.ofList path)) := fun isName => stays.elim isName.1 isName.2.1
    simp [missing, noName]
  · rw [isUp] at ends ⊢
    cases opened with
    | nil => cases ends
    | cons last around =>
        obtain rfl := Option.some.inj ends
        have missing := follow?_append_eq_none missing [last, name]
        have noName : ¬IsName ".." := fun isName => isName.2.2 rfl
        rw [reverse_cons, append_assoc, singleton_append]
        simp [missing, noName]
  · rw [walk_name isLast, walk] at ends
    obtain rfl := Option.some.inj ends
    obtain ⟨around, last, entries, next, isFound, isEntry⟩ := nearFile?_eq_some near
    rw [reverse_cons] at next
    obtain ⟨rfl, -⟩ := append_inj' next rfl
    obtain ⟨entry, mem, rfl⟩ := mem_map.1 isEntry
    have isChild : (entries.lookup entry.1).isSome = true :=
      lookup_isSome_iff.2 ⟨entry, mem, beq_self_eq_true _⟩
    obtain ⟨found, isChild⟩ := Option.isSome_iff_exists.1 isChild
    refine iff_of_true ⟨_, found, rfl, (follow?_concat isName).2 ⟨_, isFound, ?_⟩⟩ isLast
    exact child?_eq_some_iff.2 ⟨entries, rfl, isChild⟩

/-- A suggested path that can be written as it is says what it is meant to say. -/
lemma read_withFileName (isName : IsName name) (noSlash : '/' ∉ name.toList)
    (literal : IsLiteral (withFileName path none name).toList)
    (noBlank : ∀ word, bookmark = some word → ∀ c ∈ word.toList, Text.isBlank c = false) :
    read (withFileName path bookmark name)
      = .relative (withFileName path none name).toList bookmark := by
  have notEmpty : (withFileName path none name).toList ≠ [] := by
    intro isEmpty
    have last : [] ++ [""] = (segments path).dropLast ++ [name] := by
      rw [← (withFileName_none path noSlash "").1, isEmpty]
      rfl
    exact isName.1 (singleton_inj.1 (append_inj' last rfl).2).symm
  cases bookmark with
  | none => exact literal.read_eq notEmpty (Text.trimBy_eq_self literal.noBlank)
  | some word =>
      have written : (withFileName path (some word) name).toList
          = (withFileName path none name).toList ++ '#' :: word.toList := by
        rw [withFileName_some]
        simp
      have trimmed : Text.trim (withFileName path (some word) name).toList
          = (withFileName path none name).toList ++ '#' :: word.toList := by
        rw [written]
        exact Text.trimBy_eq_self (forall_mem_append.2 ⟨literal.noBlank,
          forall_mem_cons.2 ⟨by decide, noBlank _ rfl⟩⟩)
      rw [literal.read_bookmark_eq notEmpty (noBlank _ rfl) trimmed, String.ofList_toList]

lemma exists_of_notFound
    (result : (index.check source target).result = .notFound (some suggestion)) :
    ∃ path bookmark place name, read target = .relative path bookmark
      ∧ destination? source path = some place
      ∧ index.files.follow? place = none ∧ index.nearFile? place = some name
      ∧ suggestion = withFileName path bookmark name := by
  have outcome := index.outcome_check source target
  generalize index.check source target = checked at outcome result
  cases outcome with
  | missing isRead leads isMissing =>
      obtain ⟨name, near, suggested⟩ := Option.map_eq_some_iff.1 (LinkResult.notFound.inj result)
      exact ⟨_, _, _, name, isRead, leads, isMissing, near, suggested.symm⟩
  | found => exact absurd result ((index.checkBookmarkAt_ne _ _ _).2 _)
  | samePage => exact absurd result ((index.checkBookmarkOf_ne _ _).2 _)
  | _ => cases result

/-! ## Bookmarks -/

/-- A suggested bookmark is one of the page that the link leads to. -/
lemma exists_of_bookmarkMissing {page word : String}
    (result : index.checkBookmarkOf page word = .bookmarkMissing (some suggestion)) :
    ∃ known near, index.bookmarks.lookup page = some known ∧ near ∈ known ∧ near ≠ ""
      ∧ suggestion = "#" ++ near := by
  rcases index.checkBookmarkOf_cases page word with ⟨-, other⟩
    | ⟨known, indexed, ⟨-, other⟩ | ⟨-, missing⟩⟩
  · rw [other] at result
    cases result
  · rw [other] at result
    cases result
  · rw [missing] at result
    obtain ⟨near, suggested, same⟩ :=
      Option.map_eq_some_iff.1 (LinkResult.bookmarkMissing.inj result)
    obtain ⟨isKnown, notEmpty⟩ := Text.mem_of_suggest suggested
    exact ⟨known, near, indexed, isKnown, notEmpty, same.symm⟩

/-- The bookmarks of an index of scanned pages have no blank characters. -/
lemma not_isBlank_of_mem_bookmarks (scanned : ∀ page ∈ pages, page.IsScanned) {path : String}
    {known : List String}
    (indexed : (ofPages files pages).bookmarks.lookup path = some known) (isKnown : name ∈ known) :
    ∀ c ∈ name.toList, Text.isBlank c = false := by
  obtain ⟨before, after, split, -⟩ := lookup_eq_some_iff.1 indexed
  obtain ⟨page, inIndex, same⟩ := mem_map.1 (split ▸ mem_append_right before mem_cons_self)
  obtain ⟨-, rfl⟩ := Prod.mk.inj same
  obtain ⟨heading, -, rfl⟩ := (scanned page inIndex).mem_bookmarks_iff.1 isKnown
  exact Text.not_isBlank_of_mem_slug heading.title

/-- A suggested bookmark in place of the one in the target is found. -/
lemma result_withFragment (scanned : ∀ page ∈ pages, page.IsScanned)
    (result : ((ofPages files pages).check source target).result
      = .bookmarkMissing (some suggestion)) :
    ((ofPages files pages).check source (withFragment target suggestion)).result = .valid := by
  have outcome := (ofPages files pages).outcome_check source target
  generalize (ofPages files pages).check source target = checked at outcome result
  cases outcome with
  | samePage isRead =>
      obtain ⟨known, near, indexed, isKnown, -, rfl⟩ := exists_of_bookmarkMissing result
      have noBlank := not_isBlank_of_mem_bookmarks scanned indexed isKnown
      rw [check, read_withFragment_of_samePage isRead noBlank]
      exact (checkBookmarkOf_eq_valid_iff indexed).2 isKnown
  | @found path bookmark place found isRead leads isFound =>
      rcases (ofPages files pages).checkBookmarkAt_cases ("/".intercalate place) found bookmark with
        valid | ⟨word, rfl, -, isPage, same⟩
      · cases valid.symm.trans result
      · obtain ⟨known, near, indexed, isKnown, notEmpty, rfl⟩ :=
          exists_of_bookmarkMissing (same.symm.trans result)
        have noBlank := not_isBlank_of_mem_bookmarks scanned indexed isKnown
        rw [check_of_found (read_withFragment_of_relative isRead noBlank) leads isFound]
        exact (checkBookmarkAt_of_page _ _ notEmpty isPage).trans
          ((checkBookmarkOf_eq_valid_iff indexed).2 isKnown)
  | _ => cases result

/-! ## Suggestions -/

/-- **What is suggested can be followed.**  For a link to nothing, the path of the link with the
name of an entry of the tree is suggested; if it can be written in a link as it is, this leads to
something exactly if the path ends in a name.  For a link with an unknown bookmark, the link with
the suggested bookmark is good. -/
theorem suggestions_followed (named : ∀ name ∈ files.names, IsName name ∧ '/' ∉ name.toList)
    (scanned : ∀ page ∈ pages, page.IsScanned) (source target suggestion : String) :
    (((ofPages files pages).check source target).result = .notFound (some suggestion) →
      ∃ path bookmark, read target = .relative path bookmark
        ∧ ∃ name ∈ files.names, suggestion = withFileName path bookmark name
          ∧ (IsLiteral (withFileName path none name).toList →
              (((ofPages files pages).check source suggestion).destination.isSome = true
                ↔ IsName (fileName (.ofList path)))))
    ∧ (((ofPages files pages).check source target).result = .bookmarkMissing (some suggestion) →
        ((ofPages files pages).check source (withFragment target suggestion)).result = .valid) := by
  refine ⟨fun result => ?_, result_withFragment scanned⟩
  obtain ⟨path, bookmark, place, name, isRead, leads, missing, near, rfl⟩ :=
    exists_of_notFound result
  obtain ⟨around, last, entries, -, isFound, isEntry⟩ := nearFile?_eq_some near
  have inTree : name ∈ files.names := mem_names_of_follow? isFound isEntry
  obtain ⟨isName, noSlash⟩ := named name inTree
  refine ⟨path, bookmark, isRead, name, inTree, rfl, fun literal => ?_⟩
  obtain ⟨hasPath, -, isBookmark⟩ := read_eq_relative_iff.1 isRead
  have suggested := read_withFileName isName noSlash literal fun word isWord =>
    not_isBlank_of_bookmarkOf? hasPath.noBlank (isBookmark.trans isWord)
  rw [← suggested_found_iff leads missing near isName noSlash, Option.isSome_iff_exists]
  simp only [destination_eq_some_iff, suggested]
  constructor
  · rintro ⟨destination, path, bookmark, there, found, isRead, leads, isFound, -⟩
    cases isRead
    exact ⟨there, found, leads, isFound⟩
  · rintro ⟨there, found, leads, isFound⟩
    exact ⟨_, _, _, there, found, rfl, leads, isFound, rfl⟩

/-- Two pages in two directories. -/
def pagesAround : FileTree :=
  .directory [("b.md", .file "# Sec1\n".toUTF8),
    ("docs", .directory [("a.md", .file "# Intro\n".toUTF8)])]

/-- From one of the pages, a misspelt path to the other one and a misspelt bookmark of it can be put
right. -/
theorem misspelt_links_followed :
    let pages := ["b.md", "docs/a.md"].map fun path =>
      (CheckedPage.read .stock ⟨true, false, []⟩ pagesAround path).page
    let index := ofPages pagesAround pages
    (∀ name ∈ pagesAround.names, IsName name ∧ '/' ∉ name.toList) ∧ (∀ page ∈ pages, page.IsScanned)
      ∧ (index.check "docs/a.md" "../bb.md").result = .notFound (some "../b.md")
      ∧ (index.check "docs/a.md" "../b.md").destination.isSome = true
      ∧ (index.check "docs/a.md" "../b.md#sec2").result = .bookmarkMissing (some "#sec1")
      ∧ (index.check "docs/a.md" (withFragment "../b.md#sec2" "#sec1")).result = .valid := by
  intro pages index
  have named : ∀ name ∈ pagesAround.names, IsName name ∧ '/' ∉ name.toList := by decide +kernel
  have scanned : ∀ page ∈ pages, page.IsScanned := by
    rw [forall_mem_map]
    exact fun path _ => CheckedPage.isScanned_read ..
  have missing : (index.check "docs/a.md" "../bb.md").result = .notFound (some "../b.md") := by
    decide +kernel
  have unknown : (index.check "docs/a.md" "../b.md#sec2").result
      = .bookmarkMissing (some "#sec1") := by decide +kernel
  obtain ⟨path, bookmark, isRead, name, -, suggested, leads⟩ :=
    (suggestions_followed named scanned "docs/a.md" "../bb.md" "../b.md").1 missing
  obtain ⟨rfl, rfl⟩ : path = "../bb.md".toList ∧ bookmark = none := by
    have read : read "../bb.md" = .relative "../bb.md".toList none := by decide +kernel
    rw [read] at isRead
    cases isRead
    exact ⟨rfl, rfl⟩
  have literal : IsLiteral "../b.md".toList :=
    .of_plain (all_iff_forall_prop.1 (by decide +kernel)) (hasScheme_of_not_mem (by decide))
  exact ⟨named, scanned, missing, (leads (suggested ▸ literal)).2 (by decide +kernel), unknown,
    (suggestions_followed named scanned "docs/a.md" "../b.md#sec2" "#sec1").2 unknown⟩

/-- A blank that is escaped in the link is not escaped in what is suggested, and behind a slash a
name is suggested that belongs before it. -/
theorem suggestion_not_followed :
    let escaped : LinkIndex :=
      ofPages (.directory [("a.md", .file ⟨#[]⟩), ("drive item.md", .file ⟨#[]⟩)]) []
    let slashed : LinkIndex :=
      ofPages (.directory [("a.md", .file ⟨#[]⟩), ("guide", .directory [])]) []
    (escaped.check "a.md" "drive%20itm.md").result = .notFound (some "drive item.md")
      ∧ escaped.check "a.md" "drive item.md" = ⟨.malformed, none⟩
      ∧ (slashed.check "a.md" "gude/").result = .notFound (some "gude/guide")
      ∧ (slashed.check "a.md" "gude/guide").destination = none := by
  decide +kernel

end DocAudit.LinkIndex
