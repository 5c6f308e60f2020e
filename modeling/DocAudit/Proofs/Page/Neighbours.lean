import DocAudit.Page.Scan
import Mathlib.Data.List.Basic

/-!
# Blocks and their neighbours

Reading a page looks one block back and one block ahead: a comment is read by itself unless code
follows it, and code is read with the comment before it.  Nothing else of the surroundings matters,
so a page that is not cut between a comment and its code can be read in two parts
(`Scan.run_append_of_apart`).
-/

namespace DocAudit

open List

lemma Block.isCode_eq_false {block : Block} (isComment : block.isComment) :
    block.isCode = false := by
  rw [isCode, eq_of_beq isComment]
  rfl

lemma Block.isComment_eq_false {block : Block} (isCode : block.isCode) :
    block.isComment = false := by
  rw [isComment, eq_of_beq isCode]
  rfl

namespace Scan

variable {settings : Settings} {scan : Scan} {block comment : Block}
  {blocks before after : List Block} {previous other next : Option Block}

/-! ## What a block looks at -/

/-- A block only asks whether the next one is code. -/
lemma step_next (same : next.any (·.isCode) = other.any (·.isCode)) :
    step settings scan previous block next = step settings scan previous block other := by
  unfold step
  rw [same]

/-- Only a comment asks for the next block. -/
lemma step_next_of_not_comment (plain : block.isComment = false) (next other : Option Block) :
    step settings scan previous block next = step settings scan previous block other := by
  unfold step
  split
  · rfl
  · rfl
  · next isComment => simp [Block.isComment, isComment] at plain
  · rfl
  · rfl
  · rfl

/-- A block only asks for a comment before it. -/
lemma step_previous (same : previous.filter (·.isComment) = other.filter (·.isComment)) :
    step settings scan previous block next = step settings scan other block next := by
  unfold step code
  rw [same]

/-- Only code asks for the block before it. -/
lemma step_previous_of_not_code (plain : block.isCode = false) (previous other : Option Block) :
    step settings scan previous block next = step settings scan other block next := by
  unfold step
  split
  · rfl
  · rfl
  · rfl
  · next isCode => simp [Block.isCode, isCode] at plain
  · rfl
  · rfl

/-! ## Parts of a page -/

/-- Reads blocks with a block behind them. -/
def runBefore (settings : Settings) (next : Option Block) (scan : Scan) (previous : Option Block) :
    List Block → Audit Scan
  | [] => pure scan
  | block :: rest => do
    let scan ← scan.step settings previous block (rest.head? <|> next)
    runBefore settings next scan (some block) rest

lemma run_append (settings : Settings) (scan : Scan) (previous : Option Block)
    (before after : List Block) :
    run settings scan previous (before ++ after)
      = runBefore settings after.head? scan previous before >>= fun scan =>
          run settings scan (before.getLast? <|> previous) after := by
  induction before generalizing scan previous with
  | nil => rfl
  | cons block rest ih =>
      rw [cons_append, run, runBefore, Audit.bind_assoc, head?_append, Option.orElse_eq_orElse,
        Option.orElse_eq_or]
      refine congrArg _ (funext fun scan => ?_)
      rw [ih, getLast?_cons]
      cases rest.getLast? <;> rfl

lemma run_eq_runBefore (settings : Settings) (scan : Scan) (previous : Option Block)
    (blocks : List Block) :
    run settings scan previous blocks = runBefore settings none scan previous blocks := by
  have whole := run_append settings scan previous blocks []
  rw [append_nil] at whole
  exact whole.trans (bind_pure _)

/-- It only matters whether the block behind is code, and only to a comment. -/
lemma runBefore_next
    (same : next.any (·.isCode) = other.any (·.isCode) ∨ ¬ blocks.getLast?.any (·.isComment)) :
    runBefore settings next scan previous blocks
      = runBefore settings other scan previous blocks := by
  induction blocks generalizing scan previous with
  | nil => rfl
  | cons block rest ih =>
      rw [runBefore, runBefore]
      cases rest with
      | nil =>
          have first : step settings scan previous block next
              = step settings scan previous block other := by
            rcases same with same | plain
            · exact step_next same
            · exact step_next_of_not_comment (by simpa using plain) ..
          change step settings scan previous block next >>= _
            = step settings scan previous block other >>= _
          rw [first]
          rfl
      | cons second rest =>
          rw [getLast?_cons_cons] at same
          exact congrArg _ (funext fun scan => ih same)

/-- It only matters whether the block before is a comment, and only to code. -/
lemma run_previous (same : previous.filter (·.isComment) = other.filter (·.isComment)
      ∨ ¬ blocks.head?.any (·.isCode)) :
    run settings scan previous blocks = run settings scan other blocks := by
  cases blocks with
  | nil => rfl
  | cons block rest =>
      have first : step settings scan previous block rest.head?
          = step settings scan other block rest.head? := by
        rcases same with same | plain
        · exact step_previous same
        · exact step_previous_of_not_code (by simpa using plain) ..
      rw [run, run, first]

/-- Two parts of a page that do not meet between a comment and its code. -/
def Apart (before after : List Block) : Prop :=
  ¬ (before.getLast?.any (·.isComment) ∧ after.head?.any (·.isCode))

instance (before after : List Block) : Decidable (Apart before after) :=
  inferInstanceAs (Decidable (¬ _))

/-- A comment never says what code before it is. -/
lemma Apart.of_isComment (isComment : comment.isComment) (before after : List Block) :
    Apart before (comment :: after) := by
  simp [Apart, Block.isCode_eq_false isComment]

/-- Code does not say what the code behind it is. -/
lemma Apart.of_isCode (isCode : block.isCode) (before after : List Block) :
    Apart (before ++ [block]) after := by
  simp [Apart, Block.isComment_eq_false isCode]

/-- Parts that are apart are read one after the other. -/
theorem run_append_of_apart (apart : Apart before after) :
    run settings scan none (before ++ after)
      = run settings scan none before >>= fun scan => run settings scan none after := by
  have first : runBefore settings after.head? scan none before = run settings scan none before := by
    rw [run_eq_runBefore]
    refine runBefore_next ?_
    by_cases isComment : before.getLast?.any (·.isComment)
    · exact .inl (by simpa [isComment] using not_and.1 apart isComment)
    · exact .inr isComment
  rw [run_append, first]
  refine congrArg _ (funext fun scan => run_previous ?_)
  by_cases isCode : after.head?.any (·.isCode)
  · refine .inl ?_
    have plain : ¬ before.getLast?.any (·.isComment) := fun isComment => apart ⟨isComment, isCode⟩
    cases last : before.getLast? with
    | none => rfl
    | some block =>
        rw [last] at plain
        exact Option.filter_eq_none_iff.2 (by simpa using plain)
  · exact .inr isCode

/-- A comment and the code behind it. -/
lemma run_pair (isComment : comment.isComment) (isCode : block.isCode) :
    run settings scan none [comment, block] = annotatedCode settings scan comment block := by
  have first : step settings scan none comment (some block) = pure scan := by
    rw [step, eq_of_beq isComment]
    exact if_pos isCode
  have second : step settings scan (some comment) block none
      = annotatedCode settings scan comment block := by
    rw [step, eq_of_beq isCode]
    simp only [code, Option.filter_some, isComment, if_true]
  rw [run, head?_cons, first, pure_bind, run, head?_nil, second]
  exact bind_pure _

end Scan

lemma Page.value_scan (settings : Settings) (path : String) (blocks : List Block) :
    (Page.scan settings path blocks).value
      = (Scan.run settings (.start path) none blocks).value.finish := rfl

lemma Page.issues_scan (settings : Settings) (path : String) (blocks : List Block) :
    (Page.scan settings path blocks).issues
      = (Scan.run settings (.start path) none blocks).issues :=
  append_nil _

end DocAudit
