import HeaderOrder.Text.Classes

/-!
# Text, lines and trimming

Text is a list of characters.  A line break ends a line and separates it from the next one, so
the lines of a text joined by line breaks are the text again, and a text without a line break is
one line.  A carriage return is a character of its line.

A file may end its lines with a line feed, a carriage return, or both in this order.  When it is
read, each of them becomes one line break.
-/

namespace HeaderOrder

/-- Text, as the list of its characters. -/
abbrev Text := List Char

namespace Text

/-- The lines of a text: the stretches between line breaks. -/
def lines (text : Text) : List Text :=
  text.splitOn '\n'

/-- Lines joined by line breaks. -/
def unlines (lines : List Text) : Text :=
  List.intercalate ['\n'] lines

def trimStart (text : Text) : Text :=
  text.dropWhile isBlank

def trimEnd (text : Text) : Text :=
  (text.reverse.dropWhile isBlank).reverse

def trim (text : Text) : Text :=
  trimEnd (trimStart text)

def isBlankText (text : Text) : Bool :=
  text.all isBlank

/-- The decimal digits of a natural number. -/
def ofNat (number : Nat) : Text :=
  Nat.toDigits 10 number

/-- The decimal digits of an integer, after a minus sign if it is negative. -/
def ofInt : Int → Text
  | .ofNat number => ofNat number
  | .negSucc number => '-' :: ofNat (number + 1)

@[simp] theorem lines_nil : lines [] = [[]] := rfl

@[simp] theorem unlines_nil : unlines [] = [] := rfl

@[simp] theorem unlines_singleton (line : Text) : unlines [line] = line := by
  simp [unlines, List.intercalate]

/-! ## Line breaks of files -/

/-- A text with every line ending turned into one line break. -/
def unifyNewlines : Text → Text
  | [] => []
  | '\r' :: '\n' :: rest => '\n' :: unifyNewlines rest
  | '\r' :: rest => '\n' :: unifyNewlines rest
  | character :: rest => character :: unifyNewlines rest

/-- A text without carriage returns is read as it stands. -/
theorem unifyNewlines_eq_self (text : Text) (plain : '\r' ∉ text) : unifyNewlines text = text := by
  fun_induction unifyNewlines text with
  | case1 => rfl
  | case2 rest ih => simp at plain
  | case3 rest _ ih => simp at plain
  | case4 character rest _ _ ih =>
      rw [ih (fun member => plain (List.mem_cons_of_mem _ member))]

/-- No carriage return is left. -/
theorem not_mem_unifyNewlines (text : Text) : '\r' ∉ unifyNewlines text := by
  fun_induction unifyNewlines text with
  | case1 => simp
  | case2 rest ih => simpa using ih
  | case3 rest _ ih => simpa using ih
  | case4 character rest _ other ih =>
      intro member
      rcases List.mem_cons.1 member with equal | member
      · exact other equal.symm
      · exact ih member

end Text

end HeaderOrder
