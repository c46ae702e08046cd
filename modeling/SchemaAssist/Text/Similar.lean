/-
  Similarity of words.

  Two words are compared by the characters they share in order: the longest block they have in
  common, then the same on either side of it.  The similarity is twice the number of shared
  characters over the sum of the lengths.
-/
namespace SchemaAssist.Text

def commonLength : List Char → List Char → Nat
  | a :: as, b :: bs => if a = b then commonLength as bs + 1 else 0
  | _, _ => 0

structure Block where
  left : Nat
  right : Nat
  size : Nat
  deriving DecidableEq, Repr

/-- The longest common block; of several the first in the left word, then in the right one. -/
def longestBlock (as bs : List Char) : Block :=
  ((List.range as.length).flatMap fun i => (List.range bs.length).map fun j =>
    (⟨i, j, commonLength (as.drop i) (bs.drop j)⟩ : Block)).foldl
      (fun best b => if best.size < b.size then b else best) ⟨0, 0, 0⟩

/-- How many characters two words share; `depth` bounds the number of nested blocks. -/
def sharedWithin : Nat → List Char → List Char → Nat
  | 0, _, _ => 0
  | depth + 1, as, bs =>
    let block := longestBlock as bs
    if block.size = 0 then 0
    else
      sharedWithin depth (as.take block.left) (bs.take block.right) + block.size +
        sharedWithin depth (as.drop (block.left + block.size)) (bs.drop (block.right + block.size))

def shared (as bs : List Char) : Nat := sharedWithin as.length as bs

/-- Whether one score, shared characters over total length, is below another; equal scores are
ordered by the words. -/
def scoreBelow (a b : Nat × Nat × String) : Bool :=
  decide (a.1 * b.2.1 < b.1 * a.2.1) || (a.1 * b.2.1 == b.1 * a.2.1 && decide (a.2.2 < b.2.2))

/-- The at most three words most similar to a given one, in alphabetical order; a word counts if its
similarity is at least three fifths. -/
def closeMatches (word : String) (candidates : List String) : List String :=
  let scored := candidates.map fun c =>
    (shared c.toList word.toList, c.length + word.length, c)
  let close := scored.filter fun (n, total, _) => decide (3 * total ≤ 10 * n)
  (((close.mergeSort fun a b => !scoreBelow a b).take 3).map (·.2.2)).mergeSort fun a b =>
    decide (a ≤ b)

end SchemaAssist.Text
