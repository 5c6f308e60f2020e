import DocAudit.Markdown.Inline
import DocAudit.Text.Blank
import DocAudit.Text.Punctuation

/-!
# Markers of emphasis

Runs of stars, underscores and tildes mark emphasis and deletions.  A run may open, close, or both,
depending on the characters on either side.  A closing run takes markers from the nearest open run
of its kind; runs between the two can no longer open anything.  Markers that are not taken are text.
-/

namespace DocAudit.Markdown

/-- A run of equal markers. -/
structure MarkerRun where
  marker : Char
  count : Nat
  opens : Bool
  closes : Bool
  deriving Repr

/-- A piece of a text in which markers are not settled yet. -/
inductive Piece where
  | plain (piece : Inline)
  | run (run : MarkerRun)

/-! ## Which runs open and close -/

/-- Whether a run of `count` markers may open something, given the characters around it. -/
def MarkerRun.mayOpen (marker : Char) (count : Nat) (before after : Option Char) : Bool :=
  match after with
  | none => false
  | some next =>
    if Text.isBlank next then false
    else
      match before with
      | none => true
      | some previous =>
        (marker == '*' && !Text.isPunctuation next) || (marker == '~' && 1 < count) ||
          (marker == '~' && previous == '~' && !Text.isPunctuation next) ||
          Text.isBlank previous || Text.isPunctuation previous

/-- Whether a run of `count` markers may close something, given the characters around it. -/
def MarkerRun.mayClose (marker : Char) (count : Nat) (before after : Option Char) : Bool :=
  match before with
  | none => false
  | some previous =>
    if Text.isBlank previous then false
    else
      match after with
      | none => true
      | some next =>
        ((marker == '*' || (marker == '~' && 1 < count)) && !Text.isPunctuation previous) ||
          (marker == '~' && previous == '~') || Text.isBlank next || Text.isPunctuation next

/-! ## Settling -/

/-- A run while markers are settled: the markers left of it, and whether it still may open. -/
structure Settling where
  run : MarkerRun
  left : Nat
  isOpen : Bool

/-- A piece while markers are settled. -/
inductive Settled where
  | plain (piece : Inline)
  | run (state : Settling)

/-- Whether a run may close what another one opened.  Where one of them could do both, their lengths
must not add up to a multiple of three, unless each is one. -/
def MarkerRun.closesRun (closing opening : MarkerRun) : Bool :=
  let both (run : MarkerRun) := run.opens && run.closes
  closing.marker == opening.marker &&
    (closing.marker != '~' || closing.count == opening.count) &&
    ((!both closing && !both opening) || (closing.count + opening.count) % 3 != 0 ||
      closing.count % 3 == 0)

/-- Takes markers for a closing run with `left` markers from the nearest open run before it, the
latest piece first.  Gives the number of markers taken. -/
def takeMarkers? (closing : MarkerRun) (left : Nat) : List Settled → Option (Nat × List Settled)
  | [] => none
  | .plain piece :: before =>
    (takeMarkers? closing left before).map fun (taken, before) => (taken, .plain piece :: before)
  | .run state :: before =>
    if state.isOpen && closing.closesRun state.run then
      let taken := min left state.left
      let state := { state with left := state.left - taken, isOpen := taken < state.left }
      some (taken, .run state :: before)
    else
      (takeMarkers? closing left before).map fun (taken, before) =>
        (taken, .run { state with isOpen := false } :: before)

/-- Takes markers for a closing run as long as there is an open run to take them from; each of the
`steps` takes at least one.  Gives the number of markers left. -/
def closeRun (closing : MarkerRun) : Nat → Nat → List Settled → Nat × List Settled
  | 0, left, before => (left, before)
  | steps + 1, left, before =>
    if left = 0 then (0, before)
    else
      match takeMarkers? closing left before with
      | some (taken, before) => closeRun closing steps (left - taken) before
      | none => (left, before)

/-- Settles one more piece, the latest piece first. -/
def settlePiece (before : List Settled) : Piece → List Settled
  | .plain piece => .plain piece :: before
  | .run run =>
    let (left, before) :=
      if run.closes then closeRun run run.count run.count before else (run.count, before)
    .run ⟨run, left, run.opens && left ≠ 0⟩ :: before

/-- The running text of pieces: all markers that were taken are left out. -/
def settle (pieces : List Piece) : List Inline :=
  (pieces.foldl settlePiece []).reverse.map fun
    | .plain piece => piece
    | .run state => .text (List.replicate state.left state.run.marker)

end DocAudit.Markdown
