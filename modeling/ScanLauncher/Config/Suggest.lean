import ScanLauncher.Number.Binary64
import ScanLauncher.Text.Basic

/-!
Suggestions for misspelt keys. The similarity of two texts is twice the number of characters they
share in order, over the sum of their lengths; the shared characters are found by taking the longest
common run and going on to its left and to its right. A key is looked at that closely only if
cheaper estimates, by the lengths and by the characters in any order, say that it may be similar
enough.
-/
namespace ScanLauncher.Config

/-- A common run of two texts: where it starts in each, and how long it is. -/
structure CommonRun where
  left : Nat
  right : Nat
  size : Nat
deriving DecidableEq, Repr

namespace Similarity

/-- From this length on, frequent characters of a text start no common run. -/
def popularityLength : Nat := 200

/-- Whether a character is too frequent in `text` to start a common run. -/
def isPopular (text : List Glyph) (c : Glyph) : Bool :=
  popularityLength ≤ text.length && text.length / 100 + 1 < text.count c

/-- The characters of a text, each with whether it is too frequent in it to start a common run. -/
abbrev Rated := List (Glyph × Bool)

/-- The characters of a text with their ratings. -/
def rated (text : List Glyph) : Rated := text.map fun c => (c, isPopular text c)

/-- How long the common runs are that end at one character of the first text and at each character
of the second, given the same for the character before. -/
def nextRow (a : Glyph) : (b : Rated) → (above : List Nat) → List Nat
  | [], _ => []
  | (c, popular) :: b, above =>
    (if a == c && !popular then above.headD 0 + 1 else 0) :: nextRow a b above.tail

/-- The best run so far after a row: a longer one replaces it, an equal one does not. `i` is the
number of characters of the first text up to this row, `j` that of the second. -/
def bestInRow (i : Nat) : (j : Nat) → (row : List Nat) → CommonRun → CommonRun
  | _, [], best => best
  | j, size :: row, best =>
    bestInRow i (j + 1) row
      (if best.size < size then ⟨i + 1 - size, j + 1 - size, size⟩ else best)

/-- The best run over all rows. -/
def bestRun (b : Rated) :
    (a : List Glyph) → (i : Nat) → (above : List Nat) → CommonRun → CommonRun
  | [], _, _, best => best
  | c :: a, i, above, best =>
    let row := nextRow c b (0 :: above)
    bestRun b a (i + 1) row (bestInRow i 0 row best)

/-- How many characters two texts share at their start. -/
def sharedStart : List Glyph → Rated → Nat
  | a :: as, (b, _) :: bs => if a == b then sharedStart as bs + 1 else 0
  | _, _ => 0

/-- The longest common run of unpopular characters, widened on both sides as far as the texts agree.
-/
def longestRun (a : List Glyph) (b : Rated) : CommonRun :=
  let run := bestRun b a 0 [] ⟨0, 0, 0⟩
  let before := sharedStart (a.take run.left).reverse (b.take run.right).reverse
  let after := sharedStart (a.drop (run.left + run.size)) (b.drop (run.right + run.size))
  ⟨run.left - before, run.right - before, before + run.size + after⟩

/-- The number of characters two texts share in order. -/
def shared (a : List Glyph) (b : Rated) : Nat :=
  let run := longestRun a b
  if _h : 0 < run.size ∧ run.left + run.size ≤ a.length then
    shared (a.take run.left) (b.take run.right) + run.size +
      shared (a.drop (run.left + run.size)) (b.drop (run.right + run.size))
  else 0
termination_by a.length
decreasing_by
  · simp +zetaDelta only [List.length_take] at *; omega
  · simp +zetaDelta only [List.length_drop] at *; omega

/-- The number of characters two texts have in common in any order: each of the first takes one of
the second that is left. -/
def common : List Glyph → List Glyph → Nat
  | [], _ => 0
  | c :: a, b => if b.contains c then common a (b.erase c) + 1 else common a b

/-- Twice a number of characters over the length of two texts, rounded; two empty texts are
alike. -/
def ratio (count length : Nat) : Binary64 :=
  if length == 0 then .ofInt 1 else .ofRatio false (2 * count) length

/-- The similarity of a known key to a given one. -/
def of (known given : Text) : Binary64 :=
  ratio (shared known.glyphs (rated given.glyphs)) (known.length + given.length)

/-- An estimate of the similarity by the characters in any order. -/
def ofGlyphs (known given : Text) : Binary64 :=
  ratio (common known.glyphs given.glyphs) (known.length + given.length)

/-- An estimate of the similarity by the lengths. -/
def ofLengths (known given : Text) : Binary64 :=
  ratio (min known.length given.length) (known.length + given.length)

/-- The least similarity of a suggestion: three fifths. -/
def threshold : Binary64 := .ofRatio false 3 5

/-- Whether a similarity is great enough for a suggestion. -/
def isClose (similarity : Binary64) : Bool :=
  match similarity.compare? threshold with
  | some .eq | some .gt => true
  | some .lt | none => false

/-- Whether a known key is similar enough to a given one, by both estimates and in fact. -/
def passes (given known : Text) : Bool :=
  isClose (ofLengths known given) && isClose (ofGlyphs known given) && isClose (of known given)

end Similarity

/-- The better of two suggestions: the more similar one, and of equally similar ones the later in
text order. -/
def betterSuggestion (a b : Binary64 × Text) : Binary64 × Text :=
  match a.1.compare? b.1 with
  | some .lt => b
  | some .eq => if a.2.lt b.2 then b else a
  | some .gt | none => a

/-- The known key that is most similar to a given one, if any is close to it. -/
def suggest (given : Text) (known : List Text) : Option Text :=
  match (known.filter (Similarity.passes given)).map fun key => (Similarity.of key given, key) with
  | [] => none
  | first :: rest => some (rest.foldl betterSuggestion first).2

end ScanLauncher.Config
