import TupleStore.Text.Combining

/-!
# Clusters of characters

A reader takes a letter with the marks on it for one character.  `clusters` cuts
a text into such pieces.  Syllables which are written as one block, conjuncts,
flags and line ends of two characters are left in pieces: they have no letter case.
-/

namespace TupleStore.Text

def isMark (c : Char) : Bool := isExtending c || isSkinTone c

def goesOn (cluster : List Char) (c : Char) : Bool :=
  match cluster with
  | [] => true
  | last :: before =>
      !isControl last && !isControl c &&
        (isMark c || c == joiner || isSpacingMark c || isPrepended last ||
          (last == joiner && isPictograph c && (before.dropWhile isMark).head?.any isPictograph))

/-- The clusters of the text after the characters `cluster` of the first, in reverse. -/
def clustersFrom (cluster : List Char) : List Char → List (List Char)
  | [] => if cluster.isEmpty then [] else [cluster.reverse]
  | c :: rest =>
      if goesOn cluster c then clustersFrom (c :: cluster) rest
      else cluster.reverse :: clustersFrom [c] rest

def clusters (text : List Char) : List (List Char) := clustersFrom [] text

theorem flatten_clustersFrom (cluster rest : List Char) :
    (clustersFrom cluster rest).flatten = cluster.reverse ++ rest := by
  induction rest generalizing cluster with
  | nil => cases cluster <;> simp [clustersFrom]
  | cons c rest ih =>
      by_cases h : goesOn cluster c <;> simp [clustersFrom, h, ih]

theorem flatten_clusters (text : List Char) : (clusters text).flatten = text :=
  flatten_clustersFrom [] text

end TupleStore.Text
