import NodeGraph.Text.CaseTable

/-!
# Letter case

Upper and lower case of whole texts.  A character may have several characters as its
other case, and a sigma in lower case takes its final form at the end of a word.
-/

namespace NodeGraph

namespace Text

/-- Whether a character lies in one of some ascending ranges. -/
def inRanges (ranges : List (Nat × Nat)) (c : Char) : Bool :=
  ranges.any fun range => range.1 ≤ c.toNat && c.toNat ≤ range.2

/-- The image of a character under runs of mappings. -/
def mapByRuns (runs : List CaseRun) (c : Char) : Char :=
  let covers (run : CaseRun) : Bool :=
    run.first ≤ c.toNat && c.toNat ≤ run.last && (c.toNat - run.first) % run.stride == 0
  match runs.find? covers with
  | some run => Char.ofNat ((c.toNat : Int) + run.distance).toNat
  | none => c

/-- The image of a character, where a sequence takes precedence over a single one. -/
def mapCase (sequences : List (Nat × List Nat)) (runs : List CaseRun) (c : Char) :
    List Char :=
  match sequences.find? (fun entry => entry.1 == c.toNat) with
  | some entry => entry.2.map Char.ofNat
  | none => [mapByRuns runs c]

def upperChar (c : Char) : List Char :=
  if c.toNat < 128 then [c.toUpper] else mapCase upperSequences upperRuns c

def lowerChar (c : Char) : List Char :=
  if c.toNat < 128 then [c.toLower] else mapCase lowerSequences lowerRuns c

/-- Whether the characters lead, past those without weight, to one that has a case. -/
def reachesCased : List Char → Bool
  | [] => false
  | c :: rest =>
      if inRanges caseIgnorableRanges c then reachesCased rest
      else inRanges casedRanges c

def capitalSigma : Char := 'Σ'

/-- The lower case of a text after the characters `before`, nearest first. -/
def lowercaseAfter (before : List Char) : List Char → List Char
  | [] => []
  | c :: rest =>
      let image :=
        if c = capitalSigma then
          if reachesCased before && !reachesCased rest then ['ς'] else ['σ']
        else lowerChar c
      image ++ lowercaseAfter (c :: before) rest

def lowercase (text : List Char) : List Char := lowercaseAfter [] text

def uppercase (text : List Char) : List Char := text.flatMap upperChar

/-- Whether a character has the upper case property. -/
def isUppercase (c : Char) : Bool :=
  if c.toNat < 128 then 'A' ≤ c && c ≤ 'Z' else inRanges uppercaseRanges c

end Text

end NodeGraph
