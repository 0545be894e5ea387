import TupleStore.Text.Case
import TupleStore.Text.Cluster

/-!
# Words of a name

A name is a run of words, which case and separators set apart.  The styles of
names differ in the case of the words and in what stands between them.
-/

namespace TupleStore.Text

/-! ## Clusters with case -/

def hasCase (cluster : List Char) : Bool := toUpper cluster != toLower cluster

/-- A letter in upper case which has another case, with its marks. -/
def isUpper (cluster : List Char) : Bool := hasCase cluster && toUpper cluster == cluster

def isLower (cluster : List Char) : Bool := hasCase cluster && toLower cluster == cluster

def isDigit (cluster : List Char) : Bool := cluster.all Char.isDigit

def isSeparator (cluster : List Char) : Bool :=
  cluster == ['_'] || cluster == ['-'] || cluster == [' ']

/-! ## Words -/

/-- Whether a word ends between the clusters `c` and `d`, which `next` may follow. -/
def isBoundary (c d : List Char) (next : Option (List Char)) : Bool :=
  (isLower c && isUpper d) ||
    (isDigit c && (isUpper d || isLower d)) || ((isUpper c || isLower c) && isDigit d) ||
    (isUpper c && isUpper d && next.any isLower)

/-- The words of the clusters, after the characters `word` of the first. -/
def wordsFrom (word : List Char) : List (List Char) → List (List Char)
  | [] => if word.isEmpty then [] else [word]
  | c :: rest =>
      if isSeparator c then
        if word.isEmpty then wordsFrom [] rest else word :: wordsFrom [] rest
      else
        match rest with
        | d :: next =>
            if isBoundary c d next.head? then (word ++ c) :: wordsFrom [] rest
            else wordsFrom (word ++ c) rest
        | [] => wordsFrom (word ++ c) rest

/--
The words of a name.  Underscores, hyphens and blanks separate words and vanish;
words also end between a small and a capital letter, between a letter and a
digit, and before the last of several capitals when a small letter follows it.
A letter, digit or separator with marks on it is one character.
-/
def words (text : List Char) : List (List Char) := wordsFrom [] (clusters text)

def capitalize : List Char → List Char
  | [] => []
  | c :: rest => upperOf c ++ toLower rest

/-! ## Styles of names -/

def joinWords (separator : List Char) (words : List (List Char)) : List Char :=
  separator.intercalate words

def pascalCase (text : List Char) : List Char := ((words text).map capitalize).flatten

def camelCase (text : List Char) : List Char :=
  match words text with
  | [] => []
  | first :: rest => toLower first ++ (rest.map capitalize).flatten

def snakeCase (text : List Char) : List Char := joinWords ['_'] ((words text).map toLower)

def kebabCase (text : List Char) : List Char := joinWords ['-'] ((words text).map toLower)

def upperSnakeCase (text : List Char) : List Char := joinWords ['_'] ((words text).map toUpper)

def upperKebabCase (text : List Char) : List Char := joinWords ['-'] ((words text).map toUpper)

end TupleStore.Text
