import HeaderOrder.Definition
import HeaderOrder.StableSort

/-!
# Definitions put in order

The definitions of an implementation file are sorted by the rank of their signatures, stably, with
the definitions without a rank at the end.  Each definition's lines are located in the file; what
lies between the located ranges are the gaps.  The arranged file is the first gap, then the sorted
definitions, then the remaining gaps that are not blank, all set apart by empty lines.
-/

namespace HeaderOrder

/-- The ranks of signatures: a smaller rank comes earlier. -/
abbrev Ranking := Catalog Text Int

/-- Whether a rank comes no later than another; a missing rank comes last. -/
def rankLe : Option Int → Option Int → Bool
  | _, none => true
  | none, some _ => false
  | some left, some right => left ≤ right

theorem rankLe_trans (first second third : Option Int)
    (left : rankLe first second = true) (right : rankLe second third = true) :
    rankLe first third = true := by
  cases first <;> cases second <;> cases third <;> simp_all [rankLe]
  omega

theorem rankLe_total (first second : Option Int) :
    (rankLe first second || rankLe second first) = true := by
  cases first <;> cases second <;> simp [rankLe]
  omega

/-- Whether a definition may stand before another by the ranks of their signatures. -/
def Ranking.mayPrecede (ranking : Ranking) (left right : Definition) : Bool :=
  rankLe (ranking.get? left.signature) (ranking.get? right.signature)

/-- Definitions sorted by rank; definitions of equal rank keep their order. -/
def sortByRank (ranking : Ranking) (definitions : List Definition) : List Definition :=
  stableSort ranking.mayPrecede definitions

/-- The sort by rank is a merge sort. -/
theorem sortByRank_eq_mergeSort (ranking : Ranking) (definitions : List Definition) :
    sortByRank ranking definitions = definitions.mergeSort ranking.mayPrecede :=
  stableSort_eq_mergeSort ranking.mayPrecede (fun _ _ _ => rankLe_trans _ _ _)
    (fun _ _ => rankLe_total _ _) definitions

/-- Sorting by rank loses no definition and adds none. -/
theorem sortByRank_perm (ranking : Ranking) (definitions : List Definition) :
    (sortByRank ranking definitions).Perm definitions := by
  rw [sortByRank_eq_mergeSort]
  exact List.mergeSort_perm ..

/-! ## Locating definitions -/

/-- The number of lines up to the first at which the count of open braces is zero, or of all lines
if there is none. -/
def extent (depth : Int) : List Text → Nat
  | [] => 0
  | line :: rest =>
      let remaining := depth + braceBalance line
      if remaining = 0 then 1 else 1 + extent remaining rest

def covered (ranges : List Span) (line : Nat) : Bool :=
  ranges.any fun range => range.start ≤ line && line < range.stop

/-- The first line outside of the ranges that holds the head of a definition and begins `text`. -/
def headLine? (lines : List Text) (ranges : List Span) (text : Text) : Option Nat :=
  (lines.zipIdx.find? fun entry =>
    entry.1.isPrefixOf text && !covered ranges entry.2 && (Head.ofLine? entry.1).isSome).map (·.2)

/-- The range of lines from a definition's first line to the line at which its braces are
closed. -/
def rangeFrom (lines : List Text) (start : Nat) : Span :=
  ⟨start, start + extent 0 (lines.drop start)⟩

/-- The ranges of the definitions that can be located, in the order of the definitions.  No
definition is located at a line that an earlier one took. -/
def locateAll (lines : List Text) (ranges : List Span) : List Definition → List Span
  | [] => ranges
  | definition :: rest =>
      match headLine? lines ranges definition.text with
      | some start => locateAll lines (ranges ++ [rangeFrom lines start]) rest
      | none => locateAll lines ranges rest

/-- The located ranges of definitions, by their first lines. -/
def locatedRanges (lines : List Text) (definitions : List Definition) : List Span :=
  stableSort (fun left right => left.start ≤ right.start) (locateAll lines [] definitions)

/-! ## Gaps and reassembly -/

/-- The lines from `position` to `total` that lie before, between and after ranges. -/
def gapsFrom (total position : Nat) : List Span → List Span
  | [] => if position < total then [⟨position, total⟩] else []
  | range :: rest =>
      (if position < range.start then [⟨position, range.start⟩] else []) ++
        gapsFrom total range.stop rest

def gaps (lines : List Text) (definitions : List Definition) : List Span :=
  gapsFrom lines.length 0 (locatedRanges lines definitions)

def arrangedParts (source : Text) (ranking : Ranking) (definitions : List Definition) :
    List Text :=
  let lines := Text.lines source
  let gapTexts := (gaps lines definitions).map fun gap => Text.unlines (gap.slice lines)
  gapTexts.take 1 ++ (sortByRank ranking definitions).map (·.text) ++
    (gapTexts.drop 1).filter (!Text.isBlankText ·)

/-- An implementation file with its definitions in the order of their ranks. -/
def arrange (source : Text) (ranking : Ranking) (definitions : List Definition) : Text :=
  List.intercalate ['\n', '\n'] (arrangedParts source ranking definitions)

end HeaderOrder
