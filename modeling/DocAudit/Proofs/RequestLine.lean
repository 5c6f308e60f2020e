import DocAudit.Proofs.Text.Words
import DocAudit.Request

/-!
# Request lines

A request begins with a line of two or three fields: the name of a method, a target and perhaps a
version of the protocol, with blanks between them.  There are two ways to say what such a line is.
One tells the fields of the line apart and looks at each of them (`Text.Spaced`).  The other gives a
pattern for the line without the blanks at its ends (`Captured`), in which a stretch of blanks may
be matched in several ways, and so may a target.

Both say the same (`captured_trim_iff`), because neither a name nor a target nor a version has
blanks in it, so that a match leaves no choice.  `requestLine_read_iff` says that reading a request
line is either of them.
-/

namespace DocAudit.RequestLine

open List Text

variable {request : String} {found : RequestLine} {line method target : List Char}
  {version : Option (List Char)} {word : List Char}

/-! ## Fields -/

/-- The versions of the protocol: a number, or two of them with a point between.  Each is a single
decimal digit. -/
inductive IsVersion : List Char → Prop
  | major {d : Char} (digit : isDigit d = true) : IsVersion ("HTTP/".toList ++ [d])
  | minor {d e : Char} (digit : isDigit d = true) (digitBehind : isDigit e = true) :
      IsVersion ("HTTP/".toList ++ [d, '.', e])

lemma isVersion_iff : isVersion word = true ↔ IsVersion word := by
  constructor
  · intro known
    rw [isVersion] at known
    split at known
    · next d found =>
        rw [eq_append_of_isPrefixOf? found]
        exact .major known
    · next d e found =>
        rw [eq_append_of_isPrefixOf? found]
        exact .minor (Bool.and_eq_true_iff.1 known).1 (Bool.and_eq_true_iff.1 known).2
    · cases known
  · rintro (digit | ⟨digit, digitBehind⟩)
    · rw [isVersion, isPrefixOf?_append]
      exact digit
    · rw [isVersion, isPrefixOf?_append]
      exact Bool.and_eq_true_iff.2 ⟨digit, digitBehind⟩

lemma IsVersion.isWord (h : IsVersion word) : IsWord word := by
  have protocol : "HTTP/".toList.all (!isBlank ·) = true := by decide
  have visible : ∀ c ∈ "HTTP/".toList, isBlank c = false :=
    fun c mem => by simpa using all_eq_true.1 protocol c mem
  cases h with
  | major digit =>
      refine ⟨by simp, forall_mem_append.2 ⟨visible, ?_⟩⟩
      simpa using not_isBlank_of_isDigit digit
  | minor digit digitBehind =>
      refine ⟨by simp, forall_mem_append.2 ⟨visible, ?_⟩⟩
      have point : isBlank '.' = false := by decide
      simp [not_isBlank_of_isDigit digit, not_isBlank_of_isDigit digitBehind, point]

/-- The request line with some fields. -/
def ofFields (method target : List Char) (version : Option (List Char)) : RequestLine :=
  ⟨.ofList (method.map Char.toUpper), .ofList target, version.map .ofList⟩

lemma ofWords?_eq_some_iff : ofWords? method target version = some found ↔
    (method ≠ [] ∧ ∀ c ∈ method, c.isAlpha = true) ∧ (∀ word ∈ version, IsVersion word)
      ∧ found = ofFields method target version := by
  have isMethod_iff : isMethod method = true ↔ method ≠ [] ∧ ∀ c ∈ method, c.isAlpha = true := by
    rw [isMethod, Bool.and_eq_true_iff, all_eq_true]
    simp
  have versions_iff : version.all isVersion = true ↔ ∀ word ∈ version, IsVersion word := by
    rw [Option.all_eq_true]
    exact forall₂_congr fun word _ => isVersion_iff
  rw [ofWords?, Option.ite_none_right_eq_some, Bool.and_eq_true_iff, isMethod_iff, versions_iff,
    and_assoc, Option.some_inj, eq_comm (a := found), ofFields]

/-- What is read depends only on the words of the first line with words. -/
lemma read?_eq_some_iff : read? request = some found ↔ ∃ method target version,
    ((lines request.toList).map words).find? (!·.isEmpty)
      = some (method :: target :: version.toList)
      ∧ ofWords? method target version = some found := by
  rw [read?]
  constructor
  · intro isRead
    split at isRead
    · next method target first => exact ⟨method, target, none, first, isRead⟩
    · next method target version first => exact ⟨method, target, some version, first, isRead⟩
    · cases isRead
  · rintro ⟨method, target, version, first, isRead⟩
    rw [first]
    cases version <;> exact isRead

/-! ## The pattern -/

/-- What the groups of the pattern `^([A-Za-z]+)\s+(\S+)(?:\s+(HTTP/\d(?:\.\d)?))?\s*$` capture in a
text, as a request line.  Any way to match the pattern counts, in whatever order they are tried. -/
inductive Captured : List Char → RequestLine → Prop
  | short {method gap target tail : List Char} (named : method ≠ [])
      (letters : ∀ c ∈ method, c.isAlpha = true)
      (blank : IsGap gap) (apart : gap ≠ []) (isTarget : IsWord target) (tailBlank : IsGap tail) :
      Captured (method ++ (gap ++ (target ++ tail))) (ofFields method target none)
  | full {method gap target gapBehind version tail : List Char} (named : method ≠ [])
      (letters : ∀ c ∈ method, c.isAlpha = true) (blank : IsGap gap) (apart : gap ≠ [])
      (isTarget : IsWord target)
      (blankBehind : IsGap gapBehind) (apartBehind : gapBehind ≠ []) (isVersion : IsVersion version)
      (tailBlank : IsGap tail) :
      Captured (method ++ (gap ++ (target ++ (gapBehind ++ (version ++ tail)))))
        (ofFields method target (some version))

lemma isWord_of_letters (named : method ≠ []) (letters : ∀ c ∈ method, c.isAlpha = true) :
    IsWord method :=
  ⟨named, fun c mem => not_isBlank_of_isAlphanum (Bool.or_eq_true_iff.2 (.inl (letters c mem)))⟩

/-- What the pattern captures are the fields. -/
lemma Captured.exists_spaced (h : Captured line found) : ∃ method target version,
    Spaced (method :: target :: version.toList) line ∧ (∀ c ∈ method, c.isAlpha = true)
      ∧ (∀ word ∈ version, IsVersion word) ∧ found = ofFields method target version := by
  cases h with
  | @short method gap target tail named letters blank apart isTarget tailBlank =>
      exact ⟨method, target, none,
        .cons (isWord_of_letters named letters) blank apart (.single isTarget tailBlank), letters,
        nofun, rfl⟩
  | @full method gap target gapBehind version tail named letters blank apart isTarget blankBehind
      apartBehind isVersion tailBlank =>
      refine ⟨method, target, some version, .cons (isWord_of_letters named letters) blank apart ?_,
        letters, ?_, rfl⟩
      · exact .cons isTarget blankBehind apartBehind (.single isVersion.isWord tailBlank)
      · rintro _ ⟨⟩
        exact isVersion

/-- Fields are captured if no blanks stand before them. -/
lemma captured_of_spaced (written : Spaced (method :: target :: version.toList) line)
    (visible : ∀ c ∈ line.head?, isBlank c = false) (letters : ∀ c ∈ method, c.isAlpha = true)
    (known : ∀ word ∈ version, IsVersion word) :
    Captured line (ofFields method target version) := by
  obtain ⟨behind, rfl, isMethod, ends, more⟩ := written.exists_of_cons visible
  obtain ⟨gap, tail, rfl, blank, apart, isTarget, tailEnds, last⟩ := more.exists_gap ends
  cases version with
  | none => exact .short isMethod.nonempty letters blank apart isTarget last.isGap
  | some version =>
      obtain ⟨gapBehind, tail, rfl, blankBehind, apartBehind, -, -, nothing⟩ :=
        last.exists_gap tailEnds
      exact .full isMethod.nonempty letters blank apart isTarget blankBehind apartBehind
        (known version rfl) nothing.isGap

lemma captured_trim_iff : Captured (trim line) found ↔ ∃ method target version,
    Spaced (method :: target :: version.toList) line ∧ (∀ c ∈ method, c.isAlpha = true)
      ∧ (∀ word ∈ version, IsVersion word) ∧ found = ofFields method target version := by
  have spaced_trim (fields : List (List Char)) : Spaced fields (trim line) ↔
      Spaced fields line := by
    rw [← words_eq_iff, ← words_eq_iff, words_trim]
  constructor
  · intro captured
    obtain ⟨method, target, version, written, fields⟩ := captured.exists_spaced
    exact ⟨method, target, version, (spaced_trim _).1 written, fields⟩
  · rintro ⟨method, target, version, written, letters, known, rfl⟩
    exact captured_of_spaced ((spaced_trim _).2 written) (head?_trim line) letters known

/-! ## Reading -/

lemma read?_eq_some_iff_spaced :
    read? request = some found ↔ ∃ before line after method target version,
    IsFirstLine before line after request.toList ∧ Spaced (method :: target :: version.toList) line
      ∧ (∀ c ∈ method, c.isAlpha = true) ∧ (∀ word ∈ version, IsVersion word)
      ∧ found = ofFields method target version := by
  simp only [read?_eq_some_iff, find?_words_eq_some_iff, ofWords?_eq_some_iff]
  constructor
  · rintro ⟨method, target, version, ⟨before, line, after, isFirst, written⟩, ⟨-, letters⟩,
      known, isFound⟩
    exact ⟨before, line, after, method, target, version, isFirst, written, letters, known, isFound⟩
  · rintro ⟨before, line, after, method, target, version, isFirst, written, letters, known, isFound⟩
    have isWord : IsWord method := by
      cases written with
      | word _ isWord => exact isWord
    exact ⟨method, target, version, ⟨before, line, after, isFirst, written⟩,
      ⟨isWord.nonempty, letters⟩, known, isFound⟩

/-- **A request line is read by its fields.**

* A request line is read exactly from the requests whose first line that is not blank has two or
  three fields, with blanks between them: letters, anything, and a version of the protocol if there
  is a third one.  The letters are read in upper case, the other fields as they are.  The blank
  lines before this line and all that stands behind it have no influence.
* It is read exactly if the pattern matches this line without the blanks around it, and says what
  the groups of the pattern capture. -/
theorem requestLine_read_iff (request : String) (found : RequestLine) :
    (RequestLine.read? request = some found ↔
        ∃ (before line after method target : List Char) (version : Option (List Char)),
          IsFirstLine before line after request.toList
            ∧ Spaced (method :: target :: version.toList) line
            ∧ (∀ c ∈ method, c.isAlpha = true) ∧ (∀ word ∈ version, IsVersion word)
            ∧ found = ⟨.ofList (method.map Char.toUpper), .ofList target, version.map .ofList⟩)
      ∧ (RequestLine.read? request = some found ↔ ∃ before line after,
        IsFirstLine before line after request.toList ∧ Captured (trim line) found) := by
  refine ⟨read?_eq_some_iff_spaced, ?_⟩
  simp only [read?_eq_some_iff_spaced, captured_trim_iff]
  constructor
  · rintro ⟨before, line, after, method, target, version, isFirst, fields⟩
    exact ⟨before, line, after, isFirst, method, target, version, fields⟩
  · rintro ⟨before, line, after, isFirst, method, target, version, fields⟩
    exact ⟨before, line, after, method, target, version, isFirst, fields⟩

/-- A version in the place of the target is a target, and what stands behind a version is one field
too many. -/
example :
    RequestLine.read? "\r\n  get\tHTTP/1.1 \r\nHost: h" = some ⟨"GET", "HTTP/1.1", none⟩
      ∧ RequestLine.read? "GET /a HTTP/2 x" = none := by
  decide +kernel

end DocAudit.RequestLine
