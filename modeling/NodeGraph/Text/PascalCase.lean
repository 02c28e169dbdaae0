import NodeGraph.Text.Cluster

/-!
# Pascal case

A name is divided into words at underscores, hyphens and spaces, between a lower case
letter and an upper case one, between letters and digits, and before the last capital of
a run that a lower case letter follows.  Each word is written with its first cluster in
upper case and the others in lower case.
-/

namespace NodeGraph

namespace Text

/-- A cluster that only separates words. -/
def isSeparator (cluster : List Char) : Bool :=
  cluster == ['_'] || cluster == ['-'] || cluster == [' ']

/-- A cluster of ASCII digits. -/
def isDigitCluster (cluster : List Char) : Bool := cluster.all Char.isDigit

/-- A cluster that has a case and stands in upper case. -/
def isUpperCluster (cluster : List Char) : Bool :=
  uppercase cluster != lowercase cluster && cluster == uppercase cluster

/-- A cluster that has a case and stands in lower case. -/
def isLowerCluster (cluster : List Char) : Bool :=
  uppercase cluster != lowercase cluster && cluster == lowercase cluster

/-- Whether a word ends between two neighbouring clusters. -/
def endsWordBetween (left right : List Char) : Bool :=
  (isLowerCluster left && (isUpperCluster right || isDigitCluster right)) ||
    (isUpperCluster left && isDigitCluster right) ||
    (isDigitCluster left && (isLowerCluster right || isUpperCluster right))

/-- Whether a word ends after a cluster, given the clusters that follow. -/
def endsWordAfter (cluster : List Char) : List (List Char) → Bool
  | [] => false
  | next :: rest =>
      endsWordBetween cluster next ||
        (isUpperCluster cluster && isUpperCluster next &&
          match rest with
          | [] => false
          | third :: _ => isLowerCluster third)

/-- The words of some clusters, after the clusters `current` of a word begun before, which
are held in reverse. -/
def wordsFrom (current : List (List Char)) : List (List Char) → List (List (List Char))
  | [] => [current.reverse]
  | cluster :: rest =>
      if isSeparator cluster then current.reverse :: wordsFrom [] rest
      else if endsWordAfter cluster rest then
        (cluster :: current).reverse :: wordsFrom [] rest
      else wordsFrom (cluster :: current) rest

def capitalised : List (List Char) → List Char
  | [] => []
  | first :: rest => uppercase first ++ lowercase rest.flatten

def pascalCase (name : String) : String :=
  String.ofList ((wordsFrom [] (clusters name.toList)).flatMap capitalised)

end Text

end NodeGraph
