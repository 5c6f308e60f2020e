import Mathlib.Data.List.Basic
import Mathlib.Data.List.TakeWhile
import DocAudit.Text.Split

/-!
# Cutting texts

A text with a character in it is cut at the first place of the character (`cutFirst_append`), at the
last one (`cutLast_append`), or at all places (`splitAt_append`).  Nothing is lost when the pieces
are joined again (`intercalate_splitAt`), and what was joined is cut into the same pieces
(`splitAt_intercalate`).

A text with a piece in it is cut around the first place of the piece (`exists_cutAround`).  Neither
that place nor any other goes over a character that is not in the piece (`cutAround_append_cons`,
`infix_or_infix_of_infix_append_cons`).
-/

namespace DocAudit.Text

open List

variable {p : Char → Bool} {c : Char} {text before after piece start ending : List Char}
  {pieces : List (List Char)}

/-! ## The ends of a text -/

lemma isPrefixOf?_append : start.isPrefixOf? (start ++ text) = some text := by
  induction start with
  | nil => rfl
  | cons c start ih => simp [isPrefixOf?, ih]

lemma isSuffixOf?_append : ending.isSuffixOf? (text ++ ending) = some text := by
  rw [isSuffixOf?, reverse_append, isPrefixOf?_append, Option.map_some, reverse_reverse]

/-! ## Cutting once -/

lemma cutBy_append (absent : ∀ a ∈ before, p a = false) (isCut : p c = true) (after : List Char) :
    cutBy p (before ++ c :: after) = some (before, after) := by
  induction before with
  | nil => simp [cutBy, isCut]
  | cons a rest ih =>
      obtain ⟨notHere, absent⟩ := forall_mem_cons.1 absent
      rw [cons_append, cutBy, if_neg (by simp [notHere]), ih absent, Option.map_some]

/-- A text is cut at the first place, which is the one that no other comes before. -/
lemma cutFirst_append (absent : c ∉ before) (after : List Char) :
    cutFirst c (before ++ c :: after) = some (before, after) := by
  have others : ∀ a ∈ before, (a == c) = false := by
    intro a mem
    rw [beq_eq_false_iff_ne]
    rintro rfl
    exact absent mem
  exact cutBy_append others (beq_self_eq_true c) after

lemma cutFirst_eq_none (absent : c ∉ text) : cutFirst c text = none := by
  rw [cutFirst]
  induction text with
  | nil => rfl
  | cons a rest ih =>
      rw [mem_cons, not_or] at absent
      rw [cutBy, if_neg (by simpa using Ne.symm absent.1), ih absent.2, Option.map_none]

/-- A text is cut at the last place, which is the one that no other follows. -/
lemma cutLast_append (absent : c ∉ after) (before : List Char) :
    cutLast c (before ++ c :: after) = some (before, after) := by
  rw [cutLast, reverse_append, reverse_cons, append_assoc, singleton_append,
    cutFirst_append (by simpa using absent)]
  simp

lemma cutLast_eq_none (absent : c ∉ text) : cutLast c text = none := by
  rw [cutLast, cutFirst_eq_none (by simpa using absent), Option.map_none]

/-- A character that occurs has a last place. -/
lemma exists_last_place (mem : c ∈ text) :
    ∃ before after, text = before ++ c :: after ∧ c ∉ after := by
  obtain ⟨after, before, split, absent⟩ := eq_append_cons_of_mem (mem_reverse.2 mem)
  refine ⟨before.reverse, after.reverse, ?_, by simpa using absent⟩
  rw [← reverse_reverse text, split]
  simp

/-- What stands before the first place of a character. -/
lemma takeWhile_append_cons (absent : c ∉ before) (after : List Char) :
    (before ++ c :: after).takeWhile (· != c) = before := by
  have kept : ∀ a ∈ before, (a != c) = true := by
    intro a mem
    rw [bne_iff_ne]
    rintro rfl
    exact absent mem
  rw [takeWhile_append_of_pos kept, takeWhile_cons_of_neg (by simp), append_nil]

lemma takeWhile_of_not_mem (absent : c ∉ text) : text.takeWhile (· != c) = text := by
  rw [takeWhile_eq_self_iff]
  intro a mem
  rw [bne_iff_ne]
  rintro rfl
  exact absent mem

/-! ## Cutting around a text -/

/-- Cutting around a piece loses nothing. -/
lemma eq_append_of_cutAround (cut : cutAround piece text = some (before, after)) :
    text = before ++ piece ++ after := by
  induction text generalizing before with
  | nil =>
      rw [cutAround, Option.ite_none_right_eq_some, List.isEmpty_iff] at cut
      obtain ⟨rfl, here⟩ := cut
      cases here
      rfl
  | cons c rest ih =>
      rw [cutAround] at cut
      split at cut
      · next found =>
          cases cut
          exact eq_append_of_isPrefixOf? found
      · obtain ⟨⟨before, _⟩, later, same⟩ := Option.map_eq_some_iff.1 cut
        cases same
        rw [ih later]
        rfl

/-- Where a piece stands, it is found, and not behind that place. -/
lemma exists_cutAround (before piece after : List Char) : ∃ first run,
    cutAround piece (before ++ piece ++ after) = some (first, run ++ after) := by
  induction before with
  | nil =>
      cases piece with
      | nil => cases after <;> exact ⟨[], [], rfl⟩
      | cons c piece =>
          refine ⟨[], [], ?_⟩
          have here : (c :: piece).isPrefixOf? (c :: (piece ++ after)) = some after :=
            isPrefixOf?_append
          rw [nil_append, cons_append, cutAround, here]
          rfl
  | cons c before ih =>
      rw [cons_append, cons_append, cutAround]
      cases found : piece.isPrefixOf? (c :: (before ++ piece ++ after)) with
      | none =>
          obtain ⟨first, run, later⟩ := ih
          exact ⟨c :: first, run, by rw [later]; rfl⟩
      | some earlier =>
          -- the earlier place leaves at least as much as the one at hand
          have whole : c :: (before ++ piece ++ after) = piece ++ earlier :=
            eq_append_of_isPrefixOf? found
          have shorter : after.length ≤ earlier.length := by
            have lengths := congrArg length whole
            simp only [length_cons, length_append] at lengths
            omega
          have inWhole : after <:+ piece ++ earlier := whole ▸ ⟨c :: (before ++ piece), rfl⟩
          have suffix : after <:+ earlier :=
            suffix_of_suffix_length_le inWhole (suffix_append ..) shorter
          obtain ⟨run, rfl⟩ := suffix
          exact ⟨[], run, rfl⟩

/-- A text is found behind other texts without its first character. -/
lemma cutAround_append (absent : c ∉ before) (piece after : List Char) :
    cutAround (c :: piece) (before ++ (c :: piece ++ after)) = some (before, after) := by
  induction before with
  | nil =>
      have here : (c :: piece).isPrefixOf? (c :: (piece ++ after)) = some after :=
        isPrefixOf?_append
      rw [nil_append, cons_append, cutAround, here]
  | cons d before ih =>
      rw [mem_cons, not_or] at absent
      have notHere : (c :: piece).isPrefixOf? (d :: (before ++ (c :: piece ++ after))) = none :=
        if_neg (by simpa using absent.1)
      rw [cons_append, cutAround, notHere, ih absent.2]
      rfl

/-- A character that is not in a text separates the places of that text. -/
lemma prefix_of_prefix_append_cons (other : c ∉ piece) (starts : piece <+: before ++ c :: after) :
    piece <+: before := by
  rcases prefix_or_prefix_of_prefix starts (prefix_append before _) with shorter | ⟨rest, rfl⟩
  · exact shorter
  · rw [prefix_append_right_inj] at starts
    cases rest with
    | nil => exact ⟨[], by rw [append_nil, append_nil]⟩
    | cons d rest =>
        rw [cons_prefix_cons] at starts
        exact absurd (starts.1 ▸ mem_append_right before mem_cons_self) other

lemma infix_or_infix_of_infix_append_cons (other : c ∉ piece)
    (occurs : piece <:+: before ++ c :: after) :
    piece <:+: before ∨ piece <:+: after := by
  induction before with
  | nil =>
      rcases infix_cons_iff.1 occurs with starts | later
      · exact .inl (prefix_of_prefix_append_cons other starts).isInfix
      · exact .inr later
  | cons d before ih =>
      rcases infix_cons_iff.1 occurs with starts | later
      · exact .inl (prefix_of_prefix_append_cons other starts).isInfix
      · exact (ih later).imp_left fun found => infix_cons_iff.2 (.inr found)

/-- So does a stretch of such characters. -/
lemma infix_or_infix_of_apart {middle : List Char} (nonempty : middle ≠ [])
    (apart : ∀ c ∈ middle, c ∉ piece)
    (occurs : piece <:+: before ++ (middle ++ after)) : piece <:+: before ∨ piece <:+: after := by
  induction middle generalizing before with
  | nil => exact absurd rfl nonempty
  | cons c more ih =>
      obtain ⟨here, later⟩ := forall_mem_cons.1 apart
      rcases infix_or_infix_of_infix_append_cons here occurs with found | behind
      · exact .inl found
      · by_cases last : more = []
        · subst last
          exact .inr behind
        · have behind : piece <:+: [] ++ (more ++ after) := behind
          rcases ih last later behind with atEnd | found
          · exact .inl (infix_nil.1 atEnd ▸ nil_infix)
          · exact .inr found

lemma cutAround_eq_none_iff : cutAround piece text = none ↔ ¬ piece <:+: text := by
  constructor
  · rintro missed ⟨before, after, rfl⟩
    obtain ⟨first, run, found⟩ := exists_cutAround before piece after
    rw [missed] at found
    cases found
  · intro absent
    refine Option.eq_none_iff_forall_not_mem.2 fun (before, after) cut => absent ?_
    exact ⟨before, after, (eq_append_of_cutAround cut).symm⟩

lemma isPrefixOf?_append_cons (absent : ¬ piece <:+: before) (other : c ∉ piece)
    (after : List Char) :
    piece.isPrefixOf? (before ++ c :: after) = none := by
  refine Option.eq_none_iff_forall_not_mem.2 fun rest starts => absent ?_
  have isPrefix : piece <+: before ++ c :: after := ⟨rest, (eq_append_of_isPrefixOf? starts).symm⟩
  exact (prefix_of_prefix_append_cons other isPrefix).isInfix

/-- A text that does not occur before a character is looked for behind it. -/
lemma cutAround_append_cons (absent : ¬ piece <:+: before) (other : c ∉ piece) (after : List Char) :
    cutAround piece (before ++ c :: after) = (cutAround piece after).map fun (a, b) =>
      (before ++ c :: a, b) := by
  have notHere := isPrefixOf?_append_cons absent other after
  induction before with
  | nil =>
      rw [nil_append] at notHere ⊢
      rw [cutAround, notHere]
      rfl
  | cons d before ih =>
      have later : ¬ piece <:+: before := fun found => absent (infix_cons_iff.2 (.inr found))
      rw [cons_append] at notHere ⊢
      rw [cutAround, notHere, ih later (isPrefixOf?_append_cons later other after), Option.map_map]
      rfl

/-! ## Cutting everywhere -/

/-- There is always a first piece. -/
lemma exists_splitAt (c : Char) (text : List Char) :
    ∃ piece more, splitAt c text = piece :: more := by
  rw [splitAt]
  cases text with
  | nil => exact ⟨[], [], rfl⟩
  | cons d rest =>
      rw [splitBy]
      split
      · exact ⟨_, _, rfl⟩
      · split <;> exact ⟨_, _, rfl⟩

lemma splitAt_ne_nil (c : Char) (text : List Char) : splitAt c text ≠ [] := by
  obtain ⟨piece, more, cut⟩ := exists_splitAt c text
  rw [cut]
  exact cons_ne_nil _ _

lemma splitAt_cons_self (c : Char) (text : List Char) :
    splitAt c (c :: text) = [] :: splitAt c text := by
  rw [splitAt, splitBy, if_pos (beq_self_eq_true c), splitAt]

/-- A character that is not cut at belongs to the first piece. -/
lemma splitAt_cons {d : Char} (other : d ≠ c) {more : List (List Char)}
    (cut : splitAt c text = piece :: more) :
    splitAt c (d :: text) = (d :: piece) :: more := by
  rw [splitAt] at cut
  rw [splitAt, splitBy, if_neg (by simpa using other), cut]

/-- A text without the character is its only piece. -/
lemma splitAt_of_not_mem (absent : c ∉ text) : splitAt c text = [text] := by
  induction text with
  | nil => rfl
  | cons first rest ih =>
      rw [mem_cons, not_or] at absent
      exact splitAt_cons (Ne.symm absent.1) (ih absent.2)

/-- A text is cut at each place on its own. -/
lemma splitAt_append (c : Char) (before after : List Char) :
    splitAt c (before ++ c :: after) = splitAt c before ++ splitAt c after := by
  induction before with
  | nil => exact splitAt_cons_self c after
  | cons d rest ih =>
      by_cases here : d = c
      · subst here
        rw [cons_append, splitAt_cons_self, ih, splitAt_cons_self, cons_append]
      · obtain ⟨piece, more, cut⟩ := exists_splitAt c rest
        rw [cut, cons_append] at ih
        rw [cons_append, splitAt_cons here ih, splitAt_cons here cut, cons_append]

/-- The character does not occur in the pieces. -/
lemma not_mem_of_mem_splitAt (c : Char) (text : List Char) :
    ∀ piece ∈ splitAt c text, c ∉ piece := by
  induction text with
  | nil => simp [splitAt, splitBy]
  | cons d rest ih =>
      by_cases here : d = c
      · subst here
        rw [splitAt_cons_self, forall_mem_cons]
        exact ⟨not_mem_nil, ih⟩
      · obtain ⟨first, more, cut⟩ := exists_splitAt c rest
        rw [cut, forall_mem_cons] at ih
        rw [splitAt_cons here cut, forall_mem_cons, mem_cons, not_or]
        exact ⟨⟨Ne.symm here, ih.1⟩, ih.2⟩

/-- Joining the pieces of a text gives the text back. -/
lemma intercalate_splitAt (c : Char) (text : List Char) :
    [c].intercalate (splitAt c text) = text := by
  induction text with
  | nil => rfl
  | cons d rest ih =>
      obtain ⟨first, more, cut⟩ := exists_splitAt c rest
      rw [cut] at ih
      by_cases here : d = c
      · rw [here, splitAt_cons_self, cut, intercalate_cons_cons, ih]
        rfl
      · rw [splitAt_cons here cut, ← ih]
        cases more with
        | nil => simp [intercalate]
        | cons second more =>
            rw [intercalate_cons_cons, intercalate_cons_cons, cons_append, cons_append]

/-- Pieces around another one, joined. -/
lemma intercalate_append_cons (c : Char) (pieces : List (List Char)) (piece : List Char)
    (more : List (List Char)) :
    [c].intercalate (pieces ++ piece :: more) = pieces.flatMap (· ++ [c])
      ++ (piece ++ more.flatMap (c :: ·)) := by
  induction pieces with
  | cons first pieces ih =>
      obtain ⟨second, others, same⟩ :=
        exists_cons_of_ne_nil (append_ne_nil_of_right_ne_nil pieces (cons_ne_nil piece more))
      rw [same] at ih
      rw [cons_append, same, intercalate_cons_cons, ih, flatMap_cons, append_assoc,
        append_assoc, append_assoc]
  | nil =>
      induction more generalizing piece with
      | nil => simp [intercalate]
      | cons second more ih =>
          have joined := ih second
          rw [nil_append] at joined ⊢
          rw [intercalate_cons_cons, joined]
          simp

/-- The pieces of a text are stretches of it. -/
lemma infix_of_mem_splitAt (mem : piece ∈ splitAt c text) : piece <:+: text := by
  obtain ⟨before, after, split⟩ := append_of_mem mem
  rw [← intercalate_splitAt c text, split, intercalate_append_cons, ← append_assoc]
  exact infix_append _ _ _

/-- Cutting gives back the pieces that were joined. -/
lemma splitAt_intercalate (nonempty : pieces ≠ []) (absent : ∀ piece ∈ pieces, c ∉ piece) :
    splitAt c ([c].intercalate pieces) = pieces := by
  induction pieces with
  | nil => exact absurd rfl nonempty
  | cons first rest ih =>
      obtain ⟨here, later⟩ := forall_mem_cons.1 absent
      cases rest with
      | nil => rw [intercalate_singleton, splitAt_of_not_mem here]
      | cons second more =>
          rw [intercalate_cons_cons, append_assoc, singleton_append, splitAt_append,
            splitAt_of_not_mem here, ih (cons_ne_nil _ _) later, singleton_append]

/-- A text has no words only if all of it is cut away. -/
lemma wordsBy_eq_nil_iff : wordsBy p text = [] ↔ ∀ c ∈ text, p c = true := by
  induction text with
  | nil => simp [wordsBy, splitBy]
  | cons c rest ih =>
      rw [wordsBy] at ih ⊢
      rw [splitBy, forall_mem_cons]
      split
      · next isCut => rw [filter_cons_of_neg (by simp), ih, and_iff_right isCut]
      · next notCut =>
          split <;> simp [notCut]

end DocAudit.Text
