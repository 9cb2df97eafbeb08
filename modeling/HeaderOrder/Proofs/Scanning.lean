import HeaderOrder.Arrangement
import HeaderOrder.Proofs.Heads

/-!
# The cut into blocks, stretch by stretch

The scanner reads a file one line after the other, so reading two stretches is reading the first and
then, from where it left the scanner, the second.  Where a stretch stands in the file shows only in
the start lines that are reported.

`Closes` says of the lines after a head that they are exactly the rest of its block.  The scanner
and the search for the end of a located definition then agree on where the block ends.
-/

namespace HeaderOrder

/-- A block found so many lines further down. -/
def Block.moved (offset : Nat) (block : Block) : Block :=
  { block with start := block.start + offset }

namespace Scanner

/-- The same state so many lines further down. -/
def moved (offset : Nat) : Scanner → Scanner
  | .outside => .outside
  | .inside block depth => .inside (block.moved offset) depth

/-- Only the state outside of a block is moved to the state outside of a block. -/
theorem moved_eq_outside {offset : Nat} {scanner : Scanner} :
    scanner.moved offset = .outside ↔ scanner = .outside := by
  cases scanner with
  | outside => exact Iff.rfl
  | inside block depth => simp [moved]

theorem step_moved (scanner : Scanner) (offset index : Nat) (line : Text) :
    (scanner.moved offset).step (index + offset) line =
      ((scanner.step index line).1.moved offset,
        (scanner.step index line).2.map (Block.moved offset)) := by
  cases scanner with
  | outside =>
      simp only [moved, step]
      cases Head.ofLine? line with
      | none => rfl
      | some head => rfl
  | inside block depth =>
      simp only [moved, step]
      split
      · rfl
      · rfl

/-- Moving a stretch moves what the scanner reports on it, and nothing else. -/
theorem run_moved (scanner : Scanner) (offset index : Nat) (lines : List Text) :
    (scanner.moved offset).run (index + offset) lines =
      ((scanner.run index lines).1.moved offset,
        (scanner.run index lines).2.map (Block.moved offset)) := by
  induction lines generalizing scanner index with
  | nil => rfl
  | cons line rest ih =>
      simp only [run]
      rw [step_moved, Nat.add_right_comm index offset 1, ih]
      cases (scanner.step index line).2 with
      | none => rfl
      | some block => rfl

/-- Whether the scanner ends outside of a block does not depend on where a stretch stands. -/
theorem run_outside_eq_outside (index : Nat) (lines : List Text) :
    (outside.run index lines).1 = .outside ↔ (outside.run 0 lines).1 = .outside := by
  have shifted := run_moved .outside index 0 lines
  rw [Nat.zero_add] at shifted
  rw [show outside.run index lines = _ from shifted]
  exact moved_eq_outside

/-- Reading two stretches is reading the first, then the second from where it left off. -/
theorem run_append (scanner : Scanner) (index : Nat) (left right : List Text) :
    scanner.run index (left ++ right) =
      (((scanner.run index left).1.run (index + left.length) right).1,
        (scanner.run index left).2 ++
          ((scanner.run index left).1.run (index + left.length) right).2) := by
  induction left generalizing scanner index with
  | nil => rfl
  | cons line rest ih =>
      simp only [List.cons_append, run]
      rw [ih]
      simp only [List.length_cons, List.append_assoc, Nat.add_comm rest.length 1, Nat.add_assoc]

end Scanner

/-! ## Blocks that end -/

/-- Whether lines bring a count of open braces to zero, at the last of them and not before. -/
def Closes (depth : Int) : List Text → Prop
  | [] => False
  | line :: rest =>
      if depth + braceBalance line = 0 then rest = [] else Closes (depth + braceBalance line) rest

instance Closes.decidable : (depth : Int) → (lines : List Text) → Decidable (Closes depth lines)
  | _, [] => inferInstanceAs (Decidable False)
  | depth, line :: rest =>
      have := Closes.decidable (depth + braceBalance line) rest
      inferInstanceAs (Decidable (if depth + braceBalance line = 0 then rest = []
        else Closes (depth + braceBalance line) rest))

/-- The scanner leaves a block at the end of the lines that close it. -/
theorem Scanner.run_inside_of_closes {depth : Int} {body : List Text} (closes : Closes depth body)
    (block : Block) (index : Nat) :
    (Scanner.inside block depth).run index body =
      (.outside, [{ block with lines := block.lines ++ body }]) := by
  induction body generalizing depth block index with
  | nil => exact closes.elim
  | cons line rest ih =>
      simp only [Closes] at closes
      simp only [Scanner.run, Scanner.step]
      split at closes
      · next zero =>
          subst closes
          rw [if_pos zero]
          rfl
      · next stillOpen =>
          rw [if_neg stillOpen, ih closes]
          simp

/-- Either some first part of the lines closes a block, or the scanner never leaves it. -/
theorem Scanner.closes_or_stays (depth : Int) (lines : List Text) :
    (∃ body rest, lines = body ++ rest ∧ Closes depth body) ∨
      ∀ block index, ((Scanner.inside block depth).run index lines).1 ≠ .outside ∧
        ((Scanner.inside block depth).run index lines).2 = [] := by
  induction lines generalizing depth with
  | nil => exact Or.inr fun block index => ⟨nofun, rfl⟩
  | cons line rest ih =>
      by_cases zero : depth + braceBalance line = 0
      · refine Or.inl ⟨[line], rest, rfl, ?_⟩
        rw [Closes, if_pos zero]
      · rcases ih (depth + braceBalance line) with ⟨body, after, rfl, closes⟩ | stays
        · refine Or.inl ⟨line :: body, after, rfl, ?_⟩
          rw [Closes, if_neg zero]
          exact closes
        · refine Or.inr fun block index => ?_
          simp only [Scanner.run, Scanner.step, if_neg zero]
          exact stays _ _

/-- The scanner reads a file stretch by stretch, each time it is outside of a block: a line
without a head, a head whose block never ends, or a head and the lines that close its block. -/
theorem Scanner.stretch_induction {holds : List Text → Prop} (nil : holds [])
    (headless : ∀ line rest, Head.ofLine? line = none → holds rest → holds (line :: rest))
    (unclosed : ∀ first rest head, Head.ofLine? first = some head →
      (∀ block index, ((Scanner.inside block 1).run index rest).1 ≠ .outside ∧
        ((Scanner.inside block 1).run index rest).2 = []) → holds (first :: rest))
    (block : ∀ first body rest head, Head.ofLine? first = some head → Closes 1 body →
      holds rest → holds (first :: (body ++ rest)))
    (lines : List Text) : holds lines := by
  induction size : lines.length using Nat.strongRecOn generalizing lines with
  | _ size ih =>
      subst size
      cases lines with
      | nil => exact nil
      | cons first rest =>
          cases begins : Head.ofLine? first with
          | none => exact headless first rest begins (ih rest.length (Nat.lt_succ_self _) rest rfl)
          | some head =>
              rcases closes_or_stays 1 rest with ⟨body, others, rfl, closes⟩ | stays
              · have shorter : others.length < (first :: (body ++ others)).length := by
                  rw [List.length_cons, List.length_append]
                  omega
                exact block first body others head begins closes
                  (ih others.length shorter others rfl)
              · exact unclosed first rest head begins stays

/-- The search for the end of a definition stops at the end of the lines that close it. -/
theorem extent_append_of_closes {depth : Int} {body : List Text} (closes : Closes depth body)
    (rest : List Text) : extent depth (body ++ rest) = body.length := by
  induction body generalizing depth with
  | nil => exact closes.elim
  | cons line others ih =>
      simp only [Closes] at closes
      simp only [List.cons_append, extent]
      split at closes
      · next zero =>
          subst closes
          rw [if_pos zero]
          rfl
      · next stillOpen =>
          rw [if_neg stillOpen, ih closes, List.length_cons, Nat.add_comm]

end HeaderOrder
