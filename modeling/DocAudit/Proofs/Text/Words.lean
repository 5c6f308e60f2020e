import DocAudit.Proofs.Text.Lowercase
import DocAudit.Proofs.Text.Split
import DocAudit.Text.Alphanumeric
import DocAudit.Text.Digit

/-!
# Words and lines

The words of a text are what stands between its blank characters.  A text is written by putting
blanks before, between and behind words (`Spaced`), and cutting it gives back the words
(`words_eq_iff`), however many blanks there are and of which kind.  Blanks at the ends make no
difference (`words_trim`).

Because line feeds and carriage returns are blank as well, the marks that end a line belong to no
word.  The first line with words in it can be found in the text itself, without cutting it into
lines (`IsFirstLine`, `find?_words_eq_some_iff`).
-/

namespace DocAudit.Text

open List

variable {p : Char → Bool} {c : Char} {text before line after gap word rest : List Char}
  {words pieces : List (List Char)}

/-! ## Letters and digits -/

/-- A character of a set that is apart from the blank characters is not blank. -/
lemma not_isBlank_of_contains {ranges : CharSet}
    (apart : ∀ range ∈ blankRanges, ∀ others ∈ ranges, range.2 < others.1 ∨ others.2 < range.1)
    (inside : ranges.contains c = true) : isBlank c = false := by
  obtain ⟨others, isOthers, within⟩ := any_eq_true.1 inside
  rw [isBlank, CharSet.contains, any_eq_false]
  intro range isRange
  have isApart := apart range isRange others isOthers
  simp only [Bool.and_eq_true, decide_eq_true_iff] at within ⊢
  omega

lemma not_isBlank_of_isAlphanum (letter : c.isAlphanum = true) : isBlank c = false := by
  have ascii : ∀ n < 0x80, (Char.ofNat n).isAlphanum = true → isBlank (Char.ofNat n) = false := by
    decide +kernel
  have early : c.toNat < 0x80 := by
    unfold Char.isAlphanum Char.isAlpha Char.isUpper Char.isLower Char.isDigit at letter
    simp only [Bool.or_eq_true, Bool.and_eq_true, decide_eq_true_iff,
      UInt32.le_iff_toNat_le] at letter
    simp only [Char.reduceVal, UInt32.reduceToNat] at letter
    change c.val.toNat < 0x80
    omega
  exact forall_ascii (fun c => c.isAlphanum = true → isBlank c = false) ascii early letter

/-- Letters and digits are not blank. -/
lemma not_isBlank_of_isAlphanumeric (letter : isAlphanumeric c = true) : isBlank c = false := by
  rcases Bool.or_eq_true_iff.1 letter with isAscii | other
  · exact not_isBlank_of_isAlphanum isAscii
  · exact not_isBlank_of_contains (by decide +kernel) (Bool.and_eq_true_iff.1 other).2

lemma not_isBlank_of_isDigit (digit : isDigit c = true) : isBlank c = false := by
  rcases Bool.or_eq_true_iff.1 digit with isAscii | other
  · exact not_isBlank_of_isAlphanum (Bool.or_eq_true_iff.2 (.inr isAscii))
  · exact not_isBlank_of_contains (by decide +kernel) (Bool.and_eq_true_iff.1 other).2

/-! ## Blanks and words -/

/-- Whether a text has blank characters only. -/
def IsGap (text : List Char) : Prop := ∀ c ∈ text, isBlank c = true

/-- A word: not empty, and without blank characters. -/
structure IsWord (word : List Char) : Prop where
  nonempty : word ≠ []
  solid : ∀ c ∈ word, isBlank c = false

/-- How words are written: blanks may stand before and behind each of them, and must stand between
two. -/
inductive Spaced : List (List Char) → List Char → Prop
  | gap {text : List Char} (blank : IsGap text) : Spaced [] text
  | word {gap word rest : List Char} {words : List (List Char)} (blank : IsGap gap)
      (isWord : IsWord word)
      (ends : ∀ c ∈ rest.head?, isBlank c = true) (more : Spaced words rest) :
      Spaced (word :: words) (gap ++ (word ++ rest))

lemma isGap_nil : IsGap [] := fun _ mem => nomatch mem

lemma isGap_append : IsGap (before ++ after) ↔ IsGap before ∧ IsGap after := forall_mem_append

lemma IsGap.head (blank : IsGap text) : ∀ c ∈ text.head?, isBlank c = true :=
  fun c isHead => blank c (mem_of_mem_head? isHead)

namespace Spaced

lemma append_left (h : Spaced words text) (blank : IsGap before) :
    Spaced words (before ++ text) := by
  cases h with
  | gap all => exact .gap (isGap_append.2 ⟨blank, all⟩)
  | word gap isWord ends more =>
      rw [← append_assoc]
      exact .word (isGap_append.2 ⟨blank, gap⟩) isWord ends more

lemma append_right (h : Spaced words text) (blank : IsGap after) :
    Spaced words (text ++ after) := by
  induction h with
  | gap all => exact .gap (isGap_append.2 ⟨all, blank⟩)
  | @word gap word rest words gapBlank isWord ends more ih =>
      rw [append_assoc, append_assoc]
      refine .word gapBlank isWord (fun c isHead => ?_) ih
      rw [head?_append, Option.mem_def, Option.or_eq_some_iff] at isHead
      rcases isHead with inside | ⟨-, behind⟩
      · exact ends c inside
      · exact blank.head c behind

/-- A single word. -/
lemma single (isWord : IsWord word) (blank : IsGap after) : Spaced [word] (word ++ after) :=
  .word isGap_nil isWord blank.head (.gap blank)

/-- A word before other words, with blanks between them. -/
lemma cons (isWord : IsWord word) (blank : IsGap gap) (nonempty : gap ≠ [])
    (more : Spaced words rest) :
    Spaced (word :: words) (word ++ (gap ++ rest)) := by
  refine .word isGap_nil isWord (fun c isHead => ?_) (more.append_left blank)
  rw [head?_append_of_ne_nil gap nonempty] at isHead
  exact blank.head c isHead

/-- A text that begins with a word begins with the first one. -/
lemma exists_of_cons (h : Spaced (word :: words) text)
    (visible : ∀ c ∈ text.head?, isBlank c = false) :
    ∃ rest, text = word ++ rest ∧ IsWord word ∧ (∀ c ∈ rest.head?, isBlank c = true)
      ∧ Spaced words rest := by
  cases h with
  | @word gap _ rest _ blank isWord ends more =>
      cases gap with
      | nil => exact ⟨rest, rfl, isWord, ends, more⟩
      | cons c gap => exact absurd (blank c mem_cons_self) (by simp [visible c rfl])

/-- Words are cut off from the rest by blanks. -/
lemma exists_gap (h : Spaced (word :: words) text) (ends : ∀ c ∈ text.head?, isBlank c = true) :
    ∃ gap rest, text = gap ++ (word ++ rest) ∧ IsGap gap ∧ gap ≠ [] ∧ IsWord word
      ∧ (∀ c ∈ rest.head?, isBlank c = true) ∧ Spaced words rest := by
  cases h with
  | @word gap _ rest _ blank isWord restEnds more =>
      refine ⟨gap, rest, rfl, blank, ?_, isWord, restEnds, more⟩
      rintro rfl
      obtain ⟨c, isHead⟩ := Option.isSome_iff_exists.1 (isSome_head?.2 isWord.nonempty)
      have isBlank :=
        ends c (by rw [nil_append, head?_append_of_ne_nil _ isWord.nonempty]; exact isHead)
      rw [isWord.solid c (mem_of_mem_head? isHead)] at isBlank
      cases isBlank

lemma isGap (h : Spaced [] text) : IsGap text := by
  cases h with
  | gap blank => exact blank

end Spaced

/-- Every text is written with some words. -/
lemma exists_spaced (text : List Char) : ∃ words, Spaced words text := by
  induction text with
  | nil => exact ⟨[], .gap isGap_nil⟩
  | cons c rest ih =>
      obtain ⟨words, written⟩ := ih
      cases isBlank : isBlank c with
      | true =>
          have blank : IsGap [c] := by
            intro d mem
            rwa [mem_singleton.1 mem]
          exact ⟨words, written.append_left blank⟩
      | false =>
          have isWord : IsWord [c] := by
            refine ⟨cons_ne_nil c [], fun d mem => ?_⟩
            rwa [mem_singleton.1 mem]
          cases written with
          | gap blank => exact ⟨[[c]], .single isWord blank⟩
          | @word gap word after words blank later ends more =>
              cases gap with
              | nil =>
                  -- the character goes on with the word behind it
                  have longer : IsWord (c :: word) :=
                    ⟨cons_ne_nil c word, forall_mem_cons.2 ⟨isBlank, later.solid⟩⟩
                  exact ⟨(c :: word) :: words, .word isGap_nil longer ends more⟩
              | cons d gap =>
                  refine ⟨[c] :: word :: words, .cons isWord blank (cons_ne_nil d gap) ?_⟩
                  exact .word isGap_nil later ends more

/-! ## Cutting at blanks -/

/-- What is not cut belongs to the first piece. -/
lemma splitBy_append (uncut : ∀ c ∈ word, p c = false) {piece : List Char}
    (cut : splitBy p rest = piece :: pieces) :
    splitBy p (word ++ rest) = (word ++ piece) :: pieces := by
  induction word with
  | nil => exact cut
  | cons c word ih =>
      obtain ⟨here, later⟩ := forall_mem_cons.1 uncut
      rw [cons_append, splitBy, if_neg (by simp [here]), ih later]
      rfl

/-- Where a text is cut at once, its first piece is empty. -/
lemma exists_splitBy (ends : ∀ c ∈ rest.head?, p c = true) :
    ∃ pieces, splitBy p rest = [] :: pieces := by
  cases rest with
  | nil => exact ⟨[], rfl⟩
  | cons c rest => exact ⟨splitBy p rest, by rw [splitBy, if_pos (ends c rfl)]⟩

lemma words_append_of_isGap (blank : IsGap gap) (rest : List Char) :
    Text.words (gap ++ rest) = Text.words rest := by
  induction gap with
  | nil => rfl
  | cons c gap ih =>
      obtain ⟨here, later⟩ := forall_mem_cons.1 blank
      rw [← ih later, cons_append, Text.words, wordsBy, splitBy, if_pos here,
        filter_cons_of_neg (by simp)]
      rfl

lemma words_append_of_isWord (isWord : IsWord word) (ends : ∀ c ∈ rest.head?, isBlank c = true) :
    Text.words (word ++ rest) = word :: Text.words rest := by
  obtain ⟨pieces, cut⟩ := exists_splitBy ends
  rw [Text.words, wordsBy, splitBy_append isWord.solid cut, append_nil,
    filter_cons_of_pos (by simpa using isWord.nonempty), Text.words, wordsBy, cut,
    filter_cons_of_neg (by simp)]

lemma Spaced.words_eq (h : Spaced words text) : Text.words text = words := by
  induction h with
  | gap blank => exact wordsBy_eq_nil_iff.2 blank
  | word blank isWord ends _ ih =>
      rw [words_append_of_isGap blank, words_append_of_isWord isWord ends, ih]

/-- **A text has the words that it is written with.** -/
theorem words_eq_iff : Text.words text = words ↔ Spaced words text := by
  refine ⟨?_, Spaced.words_eq⟩
  rintro rfl
  obtain ⟨words, written⟩ := exists_spaced text
  exact written.words_eq.symm ▸ written

lemma words_eq_nil_iff : Text.words text = [] ↔ IsGap text := wordsBy_eq_nil_iff

lemma words_append_right (text : List Char) (blank : IsGap after) :
    Text.words (text ++ after) = Text.words text :=
  words_eq_iff.2 ((words_eq_iff.1 rfl).append_right blank)

/-! ## Blanks at the ends -/

lemma exists_trim (text : List Char) :
    ∃ before after, IsGap before ∧ IsGap after ∧ text = before ++ (trim text ++ after) := by
  refine ⟨text.takeWhile isBlank, ((trimStart text).reverse.takeWhile isBlank).reverse,
    fun c => mem_takeWhile_imp, fun c mem => mem_takeWhile_imp (mem_reverse.1 mem), ?_⟩
  have atEnd : trim text ++ ((trimStart text).reverse.takeWhile isBlank).reverse
      = trimStart text := by
    rw [trim, trimBy, trimEndBy, ← reverse_append, ← trimStart, takeWhile_append_dropWhile,
      reverse_reverse]
  rw [atEnd, trimStart, trimStartBy, takeWhile_append_dropWhile]

/-- Blanks at the ends separate nothing. -/
lemma words_trim (text : List Char) : Text.words (trim text) = Text.words text := by
  obtain ⟨before, after, blankBefore, blankAfter, split⟩ := exists_trim text
  conv_rhs => rw [split]
  rw [words_append_of_isGap blankBefore, words_append_right _ blankAfter]

lemma head?_trim (text : List Char) : ∀ c ∈ (trim text).head?, isBlank c = false := by
  intro c isHead
  obtain ⟨after, whole⟩ : trim text <+: trimStart text := by
    rw [trim, trimBy, trimEndBy, ← reverse_suffix, reverse_reverse]
    exact dropWhile_suffix isBlank
  have first : text.find? (!isBlank ·) = some c := by
    rw [find?_not_eq_head?_dropWhile, ← trimStartBy, ← trimStart, ← whole, head?_append, isHead]
    rfl
  simpa using find?_some first

/-! ## Lines -/

/-- The words of a line do not depend on the mark that ends it. -/
lemma words_unended (piece : List Char) :
    Text.words (((['\r'] : List Char).isSuffixOf? piece).getD piece) = Text.words piece := by
  cases ended : (['\r'] : List Char).isSuffixOf? piece with
  | none => rfl
  | some rest =>
      have blank : IsGap ['\r'] := by
        intro c mem
        rw [mem_singleton.1 mem]
        decide
      rw [eq_append_of_isSuffixOf? ended, words_append_right rest blank, Option.getD_some]

/-- Lines with words can be looked for among the pieces between line feeds. -/
lemma find?_words_lines (text : List Char) : ((lines text).map Text.words).find? (!·.isEmpty)
    = ((splitAt '\n' text).map Text.words).find? (!·.isEmpty) := by
  obtain ⟨ended, last, cut⟩ : ∃ ended last, splitAt '\n' text = ended ++ [last] :=
    ⟨_, _, (dropLast_append_getLast (splitAt_ne_nil '\n' text)).symm⟩
  have endedWords : (ended.map fun piece =>
      ((['\r'] : List Char).isSuffixOf? piece).getD piece).map Text.words
      = ended.map Text.words := by
    rw [map_map]
    exact map_congr_left fun piece _ => words_unended piece
  have linesEq : (lines text).map Text.words
      = ended.map Text.words ++ if last = [] then [] else [Text.words last] := by
    rw [lines, cut, dropLast_concat, getLast?_concat]
    cases last with
    | nil => rw [if_pos rfl, append_nil]; exact endedWords
    | cons c rest =>
        rw [if_neg (cons_ne_nil c rest), ← endedWords]
        exact map_append
  rw [linesEq, cut, map_append, find?_append, find?_append]
  split
  · next isEmpty => rw [isEmpty]; rfl
  · rfl

/-- A line with words, what stands before it, which is blank, and what stands behind it. -/
structure IsFirstLine (before line after text : List Char) : Prop where
  split : text = before ++ (line ++ after)
  blank : IsGap before
  starts : ∀ c ∈ before.getLast?, c = '\n'
  single : '\n' ∉ line
  visible : ¬ IsGap line
  ends : ∀ c ∈ after.head?, c = '\n'

/-- The first line with words in it is found. -/
lemma IsFirstLine.find?_words (h : IsFirstLine before line after text) :
    ((splitAt '\n' text).map Text.words).find? (!·.isEmpty) = some (Text.words line) := by
  have someWords : (!(Text.words line).isEmpty) = true := by
    simpa using fun empty => h.visible (words_eq_nil_iff.1 empty)
  have here : ((splitAt '\n' (line ++ after)).map Text.words).find? (!·.isEmpty)
      = some (Text.words line) := by
    cases isAfter : after with
    | nil =>
        rw [append_nil, splitAt_of_not_mem h.single, map_singleton, find?_singleton,
          if_pos someWords]
    | cons c rest =>
        rw [h.ends c (by rw [isAfter]; rfl), splitAt_append, splitAt_of_not_mem h.single,
          singleton_append, map_cons, find?_cons, someWords]
  rw [h.split]
  rcases eq_nil_or_concat' before with rfl | ⟨lines, last, rfl⟩
  · exact here
  · have blank : ∀ piece ∈ splitAt '\n' lines, Text.words piece = [] := by
      intro piece mem
      exact words_eq_nil_iff.2 fun c inPiece =>
        (isGap_append.1 h.blank).1 c ((infix_of_mem_splitAt mem).subset inPiece)
    have notBefore : ((splitAt '\n' lines).map Text.words).find? (!·.isEmpty) = none := by
      rw [find?_eq_none, forall_mem_map]
      intro piece mem
      simp [blank piece mem]
    rw [h.starts last (by simp), append_assoc, singleton_append, splitAt_append, map_append,
      find?_append, notBefore, Option.none_or, here]

/-- A text ends in its last line. -/
lemma exists_lastLine (text : List Char) :
    ∃ before line, text = before ++ line ∧ (∀ c ∈ before.getLast?, c = '\n') ∧ '\n' ∉ line := by
  by_cases mem : '\n' ∈ text
  · obtain ⟨before, line, split, single⟩ := exists_last_place mem
    exact ⟨before ++ ['\n'], line, by simp [split], by simp, single⟩
  · exact ⟨[], text, rfl, by simp, mem⟩

/-- A text with words has a first line with words. -/
lemma exists_isFirstLine (visible : ¬ IsGap text) :
    ∃ before line after, IsFirstLine before line after text := by
  -- the line is that of the first character that is not blank
  obtain ⟨c, first⟩ : ∃ c, (text.dropWhile isBlank).head? = some c := by
    refine Option.isSome_iff_exists.1 (isSome_head?.2 fun allBlank => visible ?_)
    exact dropWhile_eq_nil_iff.1 allBlank
  have visible : isBlank c = false := by
    rw [← find?_not_eq_head?_dropWhile] at first
    simpa using find?_some first
  obtain ⟨rest, isRest⟩ := head?_eq_some_iff.1 first
  obtain ⟨before, indent, isBefore, starts, single⟩ := exists_lastLine (text.takeWhile isBlank)
  have blank : IsGap (before ++ indent) := isBefore ▸ fun c => mem_takeWhile_imp
  have whole : text = before ++ indent ++ c :: rest := by
    rw [← isBefore, ← isRest, takeWhile_append_dropWhile]
  refine ⟨before, indent ++ c :: rest.takeWhile (· != '\n'), rest.dropWhile (· != '\n'), ?_⟩
  exact {
    split := by rw [whole, append_assoc, append_assoc, cons_append, takeWhile_append_dropWhile]
    blank := (isGap_append.1 blank).1
    starts
    single := by
      rw [mem_append, mem_cons, not_or, not_or]
      refine ⟨single, ?_, fun mem => by simpa using mem_takeWhile_imp mem⟩
      rintro rfl
      cases visible
    visible := fun all => by simp [all c (mem_append_right indent mem_cons_self)] at visible
    ends := by
      intro d isHead
      rw [← find?_not_eq_head?_dropWhile] at isHead
      simpa using find?_some isHead }

/-- **The first line with words in it**, found by cutting a text into lines and these into words. -/
theorem find?_words_eq_some_iff : ((lines text).map Text.words).find? (!·.isEmpty) = some words ↔
    ∃ before line after, IsFirstLine before line after text ∧ Spaced words line := by
  rw [find?_words_lines]
  constructor
  · intro found
    have visible : ¬ IsGap text := by
      intro blank
      obtain ⟨piece, mem, isWords⟩ := mem_map.1 (mem_of_find?_eq_some found)
      have noWords : Text.words piece = [] :=
        words_eq_nil_iff.2 fun c inPiece => blank c ((infix_of_mem_splitAt mem).subset inPiece)
      have isSome := find?_some found
      rw [← isWords, noWords] at isSome
      cases isSome
    obtain ⟨before, line, after, isFirst⟩ := exists_isFirstLine visible
    rw [isFirst.find?_words, Option.some_inj] at found
    exact ⟨before, line, after, isFirst, words_eq_iff.1 found⟩
  · rintro ⟨before, line, after, isFirst, written⟩
    rw [isFirst.find?_words, written.words_eq]

end DocAudit.Text
