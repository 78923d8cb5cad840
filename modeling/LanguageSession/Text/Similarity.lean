import LanguageSession.Text.Basic

/-!
Likeness of texts.  Two texts are as alike as the characters they have in common,
where the longest common piece counts first and then, in the same way, what stands
before it and what stands after it.  A name that nobody knows is answered with the
known names that are most like it.
-/

namespace LanguageSession

namespace Text

def commonStart : Text → Text → Nat
  | c :: first, d :: second => if c = d then commonStart first second + 1 else 0
  | _, _ => 0

/-- A piece that stands in two texts, by where it starts in each. -/
structure Piece where
  first : Nat
  second : Nat
  length : Nat
  deriving DecidableEq, Repr

/--
The longest common piece.  Of several, the one that starts first in the first text,
and then the one that starts first in the second.
-/
def longestPiece (first second : Text) : Piece :=
  let candidates := (List.range first.length).flatMap fun i =>
    (List.range second.length).map fun j =>
      (⟨i, j, commonStart (first.drop i) (second.drop j)⟩ : Piece)
  candidates.foldl (fun best piece => if best.length < piece.length then piece else best) ⟨0, 0, 0⟩

/-- The characters in common, where pieces are taken at most `bound` deep. -/
def commonWithin : Nat → Text → Text → Nat
  | 0, _, _ => 0
  | bound + 1, first, second =>
    let piece := longestPiece first second
    if piece.length = 0 then 0
    else
      piece.length + commonWithin bound (first.take piece.first) (second.take piece.second) +
        commonWithin bound (first.drop (piece.first + piece.length))
          (second.drop (piece.second + piece.length))

/-- How many characters two texts have in common; every piece makes the first text shorter. -/
def common (first second : Text) : Nat := commonWithin first.length first second

/-- The share of common characters in both texts, as a fraction. -/
structure Likeness where
  shared : Nat
  total : Nat
  deriving DecidableEq, Repr

def likeness (first second : Text) : Likeness :=
  ⟨2 * common first second, first.length + second.length⟩

def Likeness.isClose (likeness : Likeness) : Bool := 3 * likeness.total ≤ 5 * likeness.shared

/-- Is a name before another in the order of answers: more alike, or else later in the alphabet? -/
def ranksBefore (first second : Likeness × Text) : Bool :=
  let left := first.1.shared * second.1.total
  let right := second.1.shared * first.1.total
  right < left || (right = left && second.2.isAtMost first.2)

/-- The known names most like a name, at most three, the best one first. -/
def closeNames (known : List Text) (name : Text) : List Text :=
  let close := (known.map fun candidate => (likeness candidate name, candidate)).filter fun entry =>
    entry.1.isClose
  ((close.mergeSort ranksBefore).take 3).map Prod.snd

end Text

end LanguageSession
