import NodeGraph.Text.Case
import NodeGraph.Text.ClusterTable

/-!
# Grapheme clusters

A text falls into user-perceived characters: a base with its combining marks, a Hangul
syllable, a conjunct of consonants, a pair of regional indicators, pictographs connected
by joiners.  The boundaries follow from the classes of the two characters beside them and
from a little memory of what came before.
-/

namespace NodeGraph

namespace Text

/-- The classes of characters that decide cluster boundaries. -/
inductive ClusterClass where
  | carriageReturn
  | lineFeed
  | control
  | extend
  | linker
  | nonJoiner
  | joiner
  | consonant
  | regional
  | prepend
  | spacingMark
  | leadingJamo
  | vowelJamo
  | trailingJamo
  | openSyllable
  | closedSyllable
  | pictograph
  | other
  deriving DecidableEq, Repr, Inhabited

def clusterClass (c : Char) : ClusterClass :=
  let code := c.toNat
  if code = 13 then .carriageReturn
  else if code = 10 then .lineFeed
  else if 32 ≤ code ∧ code < 127 then .other
  else if inRanges controlRanges c then .control
  else if code = 0x200D then .joiner
  else if code = 0x200C then .nonJoiner
  else if 0x1F1E6 ≤ code ∧ code ≤ 0x1F1FF then .regional
  else if 0xAC00 ≤ code ∧ code ≤ 0xD7A3 then
    if (code - 0xAC00) % 28 = 0 then .openSyllable else .closedSyllable
  else if inRanges extendRanges c then .extend
  else if inRanges linkerRanges c then .linker
  else if inRanges consonantRanges c then .consonant
  else if inRanges spacingMarkRanges c then .spacingMark
  else if inRanges prependRanges c then .prepend
  else if inRanges leadingJamoRanges c then .leadingJamo
  else if inRanges vowelJamoRanges c then .vowelJamo
  else if inRanges trailingJamoRanges c then .trailingJamo
  else if inRanges pictographRanges c then .pictograph
  else .other

/-- A class that extends the character before it. -/
def ClusterClass.extends (found : ClusterClass) : Bool :=
  found == .extend || found == .linker || found == .nonJoiner

/-- How far a conjunct has come: a consonant with marks after it, and then also a
linker. -/
inductive Conjunct where
  | absent
  | begun
  | linked
  deriving DecidableEq, Repr, Inhabited

def Conjunct.next (conjunct : Conjunct) : ClusterClass → Conjunct
  | .consonant => .begun
  | .linker => if conjunct == .absent then .absent else .linked
  | .extend => conjunct
  | .joiner => conjunct
  | _ => .absent

/-- What is remembered of the characters before a possible boundary. -/
structure ClusterMemory where
  previous : ClusterClass
  afterPictograph : Bool
  afterJoinedPictograph : Bool
  oddRegional : Bool
  conjunct : Conjunct
  deriving DecidableEq, Repr

/-- The memory after the first character of a text. -/
def ClusterMemory.start (found : ClusterClass) : ClusterMemory :=
  ⟨found, found == .pictograph, false, found == .regional, Conjunct.absent.next found⟩

def ClusterMemory.next (memory : ClusterMemory) (found : ClusterClass) : ClusterMemory :=
  ⟨found,
    found == .pictograph || (memory.afterPictograph && found.extends),
    memory.afterPictograph && found == .joiner,
    found == .regional && !(memory.previous == .regional && memory.oddRegional),
    memory.conjunct.next found⟩

/-- A class that is always a cluster of its own, a line break apart. -/
def ClusterClass.isControl (found : ClusterClass) : Bool :=
  found == .carriageReturn || found == .lineFeed || found == .control

/-- Whether a character belongs to the cluster of the one before it. -/
def ClusterMemory.joins (memory : ClusterMemory) (found : ClusterClass) : Bool :=
  if memory.previous == .carriageReturn && found == .lineFeed then true
  else if memory.previous.isControl || found.isControl then false
  else
    match memory.previous, found with
    | _, .extend => true
    | _, .linker => true
    | _, .nonJoiner => true
    | _, .joiner => true
    | _, .spacingMark => true
    | .prepend, _ => true
    | .leadingJamo, .leadingJamo => true
    | .leadingJamo, .vowelJamo => true
    | .leadingJamo, .openSyllable => true
    | .leadingJamo, .closedSyllable => true
    | .openSyllable, .vowelJamo => true
    | .openSyllable, .trailingJamo => true
    | .vowelJamo, .vowelJamo => true
    | .vowelJamo, .trailingJamo => true
    | .closedSyllable, .trailingJamo => true
    | .trailingJamo, .trailingJamo => true
    | _, .consonant => memory.conjunct == .linked
    | .joiner, .pictograph => memory.afterJoinedPictograph
    | .regional, .regional => memory.oddRegional
    | _, _ => false

/-- The clusters of a text that goes on with `rest` after the cluster `current`, which is
held in reverse. -/
def clustersFrom (memory : ClusterMemory) (current : List Char) :
    List Char → List (List Char)
  | [] => [current.reverse]
  | c :: rest =>
      let found := clusterClass c
      if memory.joins found then clustersFrom (memory.next found) (c :: current) rest
      else current.reverse :: clustersFrom (memory.next found) [c] rest

def clusters : List Char → List (List Char)
  | [] => []
  | c :: rest => clustersFrom (.start (clusterClass c)) [c] rest

end Text

end NodeGraph
