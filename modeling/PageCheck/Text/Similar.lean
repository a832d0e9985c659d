/-!
# Similar words

Two words are compared by the longest piece that both have, and again by what stands before and
after it in both. The similarity is the share of characters in common pieces.
-/

namespace PageCheck.Text

/-- How far two texts begin alike. -/
def commonLength : List Char → List Char → Nat
  | c :: s, d :: t => if c = d then commonLength s t + 1 else 0
  | _, _ => 0

/-- A common piece: where it starts in both texts, and its length. -/
structure CommonPiece where
  first : Nat
  second : Nat
  length : Nat
deriving DecidableEq, Repr

/-- The longest common piece; of several the one that starts first. -/
def longestPiece (s t : List Char) : CommonPiece :=
  let starts := (List.range s.length).flatMap fun i => (List.range t.length).map fun j => (i, j)
  starts.foldl (fun best (i, j) =>
    let length := commonLength (s.drop i) (t.drop j)
    if best.length < length then ⟨i, j, length⟩ else best) ⟨0, 0, 0⟩

/-- The number of characters in common pieces; `rounds` limits how often a piece is looked for. -/
def commonCount : Nat → List Char → List Char → Nat
  | 0, _, _ => 0
  | rounds + 1, s, t =>
    let piece := longestPiece s t
    if piece.length = 0 then 0
    else
      commonCount rounds (s.take piece.first) (t.take piece.second) + piece.length +
        commonCount rounds (s.drop (piece.first + piece.length))
          (t.drop (piece.second + piece.length))

/-- The characters in common pieces among the characters of both texts. -/
def similarity (s t : List Char) : Nat × Nat :=
  (2 * commonCount (s.length + 1) s t, s.length + t.length)

/-- Whether one share is at least another one. -/
def isAtLeast (a b : Nat × Nat) : Bool := b.1 * a.2 ≤ a.1 * b.2

/-- The words that are most similar to a word: three at most, and none too far from it. -/
def closest (word : String) (words : List String) : List String :=
  let rated := words.map fun w => (similarity w.toList word.toList, w)
  let near := rated.filter fun (share, _) => share.2 == 0 || isAtLeast share (6, 10)
  let best := near.mergeSort fun a b =>
    if isAtLeast a.1 b.1 && isAtLeast b.1 a.1 then decide (b.2 ≤ a.2) else isAtLeast a.1 b.1
  (best.take 3).map (·.2)

end PageCheck.Text
