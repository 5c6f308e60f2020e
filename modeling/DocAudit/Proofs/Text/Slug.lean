import DocAudit.Proofs.Text.Words
import DocAudit.Text.Slug
import Mathlib.Data.Bool.AllAny
import Mathlib.Data.List.Basic

/-!
# Bookmarks of headings

The bookmark of a heading has no blank characters (`not_isBlank_of_mem_slug`): those of the heading
are left out, and no other character becomes blank in lower case (`Lowers.not_isBlank`).

The bookmark is put together from the words of the heading (`slug_by_words`).  A word is written in
one go, behind a dash if something was written before, or leaves no trace at all (`slugRest_word`),
and a gap between two words only makes a dash due (`slugRest_gap`).  So nothing else about the gaps
shows in the bookmark.
-/

namespace DocAudit.Text

open List

/-! ## Lower case -/

/-- The lower-case forms of a run come before or behind the blank characters. -/
lemma lower_apart_blankRanges : ∀ run ∈ caseRuns, ∀ range ∈ blankRanges,
    run.lower + (run.last - run.first) < range.1 ∨ range.2 < run.lower := by
  decide +kernel

/-- A character that is not blank does not become blank in lower case. -/
lemma Lowers.not_isBlank {c d : Char} {piece : List Char} (h : Lowers c piece)
    (notBlank : isBlank c = false)
    (mem : d ∈ piece) : isBlank d = false := by
  cases h with
  | ascii early =>
      have all : ∀ n < 0x80, isBlank (Char.ofNat n) = false →
          isBlank (Char.ofNat n).toLower = false := by
        decide +kernel
      rw [mem_singleton.1 mem]
      exact forall_ascii (fun c => isBlank c = false → isBlank c.toLower = false) all early notBlank
  | dotted =>
      have visible : ∀ d ∈ ['i', Char.ofNat 0x307], isBlank d = false :=
        all_iff_forall_prop.1 (by decide)
      exact visible d mem
  | sigma late isSigma =>
      rw [mem_singleton.1 mem]
      rcases isSigma with rfl | rfl <;> decide
  | run late isRun holds number =>
      simp only [CaseRun.holds, Bool.and_eq_true, decide_eq_true_iff] at holds
      rw [mem_singleton.1 mem, isBlank, CharSet.contains, any_eq_false]
      intro range isRange
      have apart := lower_apart_blankRanges _ isRun range isRange
      rw [Bool.and_eq_true, decide_eq_true_iff, decide_eq_true_iff]
      omega
  | other => rwa [mem_singleton.1 mem]

/-! ## Bookmarks -/

lemma not_isBlank_of_mem_slugRest (started pending : Bool) (title : List Char) :
    ∀ c ∈ slugRest started pending title, isBlank c = false := by
  induction title generalizing started pending with
  | nil => exact forall_mem_nil _
  | cons c rest ih =>
      rw [slugRest]
      split
      · exact ih started started
      · next notBlank =>
          rw [Bool.not_eq_true] at notBlank
          split
          · have dash : ∀ d ∈ (if pending then ['-'] else []), isBlank d = false := by
              cases pending <;> exact all_iff_forall_prop.1 (by decide +kernel)
            rw [forall_mem_append, forall_mem_append]
            exact ⟨⟨dash, fun d => (lowers_lowerChar c).not_isBlank notBlank⟩, ih true false⟩
          · exact ih started pending

/-- The bookmark of a heading has no blank characters. -/
theorem not_isBlank_of_mem_slug (title : String) :
    ∀ c ∈ (slug title).toList, isBlank c = false := by
  rw [slug, String.toList_ofList]
  exact not_isBlank_of_mem_slugRest false false _

/-! ## Bookmarks word by word -/

/-- What a word of a heading adds to the bookmark: its characters that are kept, in lower case. -/
def slugWord (word : List Char) : List Char :=
  (word.filter isSlugChar).flatMap lowerChar

/-- The parts of a bookmark that come from words of the heading; some words add nothing. -/
def slugParts (words : List (List Char)) : List (List Char) :=
  (words.map slugWord).filter (!·.isEmpty)

variable {c : Char} {word gap rest text : List Char} {words : List (List Char)}
  {started pending : Bool}

lemma slugWord_cons_of_pos (kept : isSlugChar c = true) :
    slugWord (c :: word) = lowerChar c ++ slugWord word := by
  rw [slugWord, filter_cons_of_pos kept, flatMap_cons, ← slugWord]

lemma slugWord_cons_of_neg (dropped : ¬ isSlugChar c = true) :
    slugWord (c :: word) = slugWord word := by
  rw [slugWord, filter_cons_of_neg dropped, ← slugWord]

/-- A word adds nothing if all its characters are dropped. -/
lemma slugWord_eq_nil_iff : slugWord word = [] ↔ word.any isSlugChar = false := by
  simp [slugWord, (lowers_lowerChar _).ne_nil]

lemma slugParts_cons_of_nil (nothing : slugWord word = []) :
    slugParts (word :: words) = slugParts words := by
  rw [slugParts, map_cons, filter_cons_of_neg (by simp [nothing]), ← slugParts]

lemma slugParts_cons_of_ne_nil (something : slugWord word ≠ []) :
    slugParts (word :: words) = slugWord word :: slugParts words := by
  rw [slugParts, map_cons, filter_cons_of_pos (by simpa using something), ← slugParts]

/-- A word is written in one go, unless it adds nothing. -/
lemma slugRest_word (solid : ∀ c ∈ word, isBlank c = false) (rest : List Char) :
    slugRest started pending (word ++ rest) = if slugWord word = []
      then slugRest started pending rest
      else (if pending then ['-'] else []) ++ (slugWord word ++ slugRest true false rest) := by
  induction word generalizing started pending with
  | nil => rfl
  | cons c word ih =>
      obtain ⟨visible, solid⟩ := forall_mem_cons.1 solid
      -- the word has begun, so no dash is due in its rest
      have begun : slugRest true false (word ++ rest) = slugWord word
          ++ slugRest true false rest := by
        rw [ih solid]
        split
        · next nothing => rw [nothing, nil_append]
        · rfl
      rw [cons_append, slugRest, if_neg (by simp [visible])]
      by_cases kept : isSlugChar c = true
      · have first : lowerChar c ++ slugWord word ≠ [] :=
          append_ne_nil_of_left_ne_nil (lowers_lowerChar c).ne_nil _
        rw [if_pos kept, slugWord_cons_of_pos kept, if_neg first, begun, append_assoc, append_assoc]
      · rw [if_neg kept, slugWord_cons_of_neg kept, ih solid]

/-- Blank characters make a dash due, however many there are. -/
lemma slugRest_gap (blank : IsGap gap) (rest : List Char) :
    slugRest started started (gap ++ rest) = slugRest started started rest := by
  induction gap with
  | nil => rfl
  | cons c gap ih =>
      obtain ⟨here, later⟩ := forall_mem_cons.1 blank
      rw [cons_append, slugRest, if_pos here, ih later]

/-- Behind a word a dash is due as soon as there is more. -/
lemma slugRest_of_ends (ends : ∀ c ∈ rest.head?, isBlank c = true) :
    slugRest true false rest = slugRest true true rest := by
  cases rest with
  | nil => rfl
  | cons c rest => rw [slugRest, slugRest, if_pos (ends c rfl), if_pos (ends c rfl)]

/-- Behind a word each further part has a dash before it. -/
lemma slugRest_behind (written : Spaced words text) :
    slugRest true true text = (slugParts words).flatMap ('-' :: ·) := by
  induction written with
  | @gap text blank =>
      rw [← append_nil text, slugRest_gap blank]
      rfl
  | word blank isWord ends _ ih =>
      rw [slugRest_gap blank, slugRest_word isWord.solid, slugRest_of_ends ends, ih]
      split
      · next nothing => rw [slugParts_cons_of_nil nothing]
      · next something =>
          rw [slugParts_cons_of_ne_nil something, flatMap_cons]
          rfl

lemma slugRest_start (written : Spaced words text) :
    slugRest false false text = join ['-'] (slugParts words) := by
  induction written with
  | @gap text blank =>
      rw [← append_nil text, slugRest_gap blank]
      rfl
  | word blank isWord ends more ih =>
      rw [slugRest_gap blank, slugRest_word isWord.solid, slugRest_of_ends ends,
        slugRest_behind more, ih]
      split
      · next nothing => rw [slugParts_cons_of_nil nothing]
      · next something =>
          rw [slugParts_cons_of_ne_nil something]
          exact (intercalate_append_cons '-' [] _ _).symm

lemma toList_slug (title : String) :
    (slug title).toList = join ['-'] (slugParts (Text.words title.toList)) := by
  rw [slug, String.toList_ofList, slugRest_start (words_eq_iff.1 rfl), words_trim]

/-- Words that add nothing may be left out. -/
lemma slugParts_filter (words : List (List Char)) :
    slugParts (words.filter (·.any isSlugChar)) = slugParts words := by
  induction words with
  | nil => rfl
  | cons word words ih =>
      by_cases kept : word.any isSlugChar = true
      · have something : slugWord word ≠ [] :=
          fun nothing => by simp [slugWord_eq_nil_iff.1 nothing] at kept
        rw [filter_cons, if_pos kept, slugParts_cons_of_ne_nil something,
          slugParts_cons_of_ne_nil something, ih]
      · rw [filter_cons, if_neg kept,
          slugParts_cons_of_nil (slugWord_eq_nil_iff.2 (eq_false_of_ne_true kept)), ih]

/-- **The bookmark of a heading is its words, joined by dashes,** each without the characters that
are dropped and in lower case, as far as something is left of it.  So it has no blank characters,
and headings that differ in their gaps, or in words of which nothing is left, have the same
bookmark. -/
theorem slug_by_words (title : String) :
    (slug title).toList
        = join ['-'] (((Text.words title.toList).map slugWord).filter (!·.isEmpty))
      ∧ (∀ c ∈ (slug title).toList, isBlank c = false)
      ∧ ∀ other : String,
        (Text.words title.toList).filter (·.any isSlugChar)
          = (Text.words other.toList).filter (·.any isSlugChar) →
          slug title = slug other := by
  refine ⟨toList_slug title, not_isBlank_of_mem_slug title, fun other alike => ?_⟩
  rw [← String.toList_inj, toList_slug, toList_slug, ← slugParts_filter, alike, slugParts_filter]

/-- Other gaps and a dash that is no hyphen make no difference. -/
theorem spaced_heading_same_slug :
    (Text.words "Get item (beta)".toList).filter (·.any isSlugChar)
        = (Text.words " Get\t item\u00A0\u2014 (beta) ! ".toList).filter (·.any isSlugChar)
      ∧ slug "Get item (beta)" = slug " Get\t item\u00A0\u2014 (beta) ! "
      ∧ (slug "Get item (beta)").toList = "get-item-beta".toList :=
  have alike : (Text.words "Get item (beta)".toList).filter (·.any isSlugChar)
      = (Text.words " Get\t item\u00A0\u2014 (beta) ! ".toList).filter (·.any isSlugChar) := by
        decide +kernel
  have byWords := slug_by_words "Get item (beta)"
  ⟨alike, byWords.2.2 _ alike, byWords.1.trans (by decide +kernel)⟩

end DocAudit.Text
