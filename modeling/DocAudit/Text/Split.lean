import DocAudit.Text.Blank

/-!
# Cutting and joining texts

Texts are worked on as lists of characters.  The functions here cut a list at a character or at a
stretch of characters and put pieces together again; each says which occurrence it cuts at.
-/

namespace DocAudit.Text

/-! ## The ends of a text -/

/-- Taking off the start of a text loses nothing. -/
theorem eq_append_of_isPrefixOf? {start text rest : List Char}
    (taken : start.isPrefixOf? text = some rest) : text = start ++ rest := by
  induction start generalizing text with
  | nil => exact Option.some.inj taken
  | cons a start ih =>
    cases text with
    | nil => cases taken
    | cons b text =>
      change (if a == b then start.isPrefixOf? text else none) = some rest at taken
      rw [Option.ite_none_right_eq_some, beq_iff_eq] at taken
      rw [taken.1, List.cons_append, ← ih taken.2]

/-- Taking off the end of a text loses nothing. -/
theorem eq_append_of_isSuffixOf? {ending text rest : List Char}
    (taken : ending.isSuffixOf? text = some rest) : text = rest ++ ending := by
  obtain ⟨turned, found, rfl⟩ := Option.map_eq_some_iff.1 taken
  simpa using congrArg List.reverse (eq_append_of_isPrefixOf? found)

/-! ## Cutting once -/

/-- The text before and after the first character that satisfies `p`, if there is one. -/
def cutBy (p : Char → Bool) : List Char → Option (List Char × List Char)
  | [] => none
  | c :: rest => if p c then some ([], rest) else (cutBy p rest).map fun (a, b) => (c :: a, b)

/-- The text before and after the first occurrence of `c`. -/
def cutFirst (c : Char) (text : List Char) : Option (List Char × List Char) :=
  cutBy (· == c) text

/-- The text before and after the last occurrence of `c`. -/
def cutLast (c : Char) (text : List Char) : Option (List Char × List Char) :=
  (cutFirst c text.reverse).map fun (a, b) => (b.reverse, a.reverse)

/-- The text before and after the first occurrence of `needle`. -/
def cutAround (needle : List Char) : List Char → Option (List Char × List Char)
  | [] => if needle.isEmpty then some ([], []) else none
  | c :: rest =>
    match needle.isPrefixOf? (c :: rest) with
    | some after => some ([], after)
    | none => (cutAround needle rest).map fun (a, b) => (c :: a, b)

/-- Whether `needle` occurs in a text. -/
def occursIn (needle text : List Char) : Bool :=
  (cutAround needle text).isSome

/-! ## Cutting everywhere -/

/-- The pieces of a text between the characters that satisfy `p`; there is one piece more than
there are such characters. -/
def splitBy (p : Char → Bool) : List Char → List (List Char)
  | [] => [[]]
  | c :: rest =>
    if p c then [] :: splitBy p rest
    else
      match splitBy p rest with
      | [] => [[c]]
      | piece :: more => (c :: piece) :: more

/-- The pieces of a text between occurrences of `c`. -/
def splitAt (c : Char) (text : List Char) : List (List Char) :=
  splitBy (· == c) text

/-- The non-empty pieces of a text between the characters that satisfy `p`. -/
def wordsBy (p : Char → Bool) (text : List Char) : List (List Char) :=
  (splitBy p text).filter (!·.isEmpty)

/-- The words of a text: its non-empty pieces between blank characters. -/
def words (text : List Char) : List (List Char) :=
  wordsBy isBlank text

/-- The lines of a text, each without the line feed that ends it and without one carriage return
before that.  A text that ends with a line feed has no empty last line. -/
def lines (text : List Char) : List (List Char) :=
  let pieces := splitAt '\n' text
  let ended := pieces.dropLast.map fun piece => ((['\r'] : List Char).isSuffixOf? piece).getD piece
  match pieces.getLast? with
  | some [] | none => ended
  | some last => ended ++ [last]

/-! ## Joining and replacing -/

/-- The pieces with `separator` between them. -/
def join (separator : List Char) (pieces : List (List Char)) : List Char :=
  separator.intercalate pieces

/-- Copies `text` with every occurrence of `needle` replaced, skipping the first `skip` characters;
an occurrence is looked for behind the end of the one before. -/
def replaceFrom (needle replacement : List Char) : Nat → List Char → List Char
  | _, [] => []
  | skip + 1, _ :: rest => replaceFrom needle replacement skip rest
  | 0, c :: rest =>
    if needle.isPrefixOf (c :: rest) then
      replacement ++ replaceFrom needle replacement (needle.length - 1) rest
    else c :: replaceFrom needle replacement 0 rest

/-- A text with every occurrence of a non-empty `needle` replaced, from left to right. -/
def replaceAll (needle replacement text : List Char) : List Char :=
  replaceFrom needle replacement 0 text

/-- What is copied is no longer than the text behind the skipped characters. -/
theorem length_replaceFrom_le {needle replacement : List Char}
    (short : replacement.length ≤ needle.length) (skip : Nat) (text : List Char) :
    (replaceFrom needle replacement skip text).length ≤ text.length - skip := by
  fun_induction replaceFrom needle replacement skip text with
  | case1 => simp
  | case2 skip _ rest ih => simpa using ih
  | case3 c rest found ih =>
    have fits := (List.isPrefixOf_iff_prefix.1 found).length_le
    simp only [List.length_append, List.length_cons, Nat.sub_zero] at *
    omega
  | case4 c rest _ ih =>
    simp only [List.length_cons, Nat.sub_zero] at *
    omega

/-- A replacement that is not longer does not make a text longer. -/
theorem length_replaceAll_le {needle replacement : List Char}
    (short : replacement.length ≤ needle.length) (text : List Char) :
    (replaceAll needle replacement text).length ≤ text.length :=
  length_replaceFrom_le short 0 text

/-! ## ASCII comparison -/

/-- Whether two texts are equal up to the case of ASCII letters. -/
def equalIgnoringAsciiCase (a b : List Char) : Bool :=
  a.map Char.toLower == b.map Char.toLower

/-- The text behind `start`, whose ASCII letters may have any case. -/
def dropStartIgnoringAsciiCase? (start text : List Char) : Option (List Char) :=
  if equalIgnoringAsciiCase (text.take start.length) start then some (text.drop start.length)
  else none

/-- The text before `ending`, whose ASCII letters may have any case. -/
def dropEndIgnoringAsciiCase? (ending text : List Char) : Option (List Char) :=
  let split := text.length - ending.length
  if ending.length ≤ text.length && equalIgnoringAsciiCase (text.drop split) ending then
    some (text.take split)
  else none

end DocAudit.Text
