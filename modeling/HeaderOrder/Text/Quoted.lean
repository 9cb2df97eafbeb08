import HeaderOrder.Text.Basic
import HeaderOrder.Text.Printable

/-!
# Quoted text

In messages, paths and words are quoted so that they show on one line.  The quotes are apostrophes,
or double quotes if the text holds an apostrophe and no double quote.  A backslash, the quote itself
and everything that does not print are escaped.
-/

namespace HeaderOrder.Text

def apostrophe : Char := '\x27'

def doubleQuote : Char := '\x22'

def backslash : Char := '\x5c'

/-- The quote that encloses a text. -/
def quoteFor (text : Text) : Char :=
  if text.contains apostrophe && !text.contains doubleQuote then doubleQuote else apostrophe

/-- A number in hexadecimal digits, filled with zeros to a width. -/
def hex (width number : Nat) : Text :=
  let digits := Nat.toDigits 16 number
  List.replicate (width - digits.length) '0' ++ digits

/-- The shortest escape by code point: two, four or eight digits. -/
def escapeCode (character : Char) : Text :=
  let code := character.toNat
  if code < 0x100 then backslash :: 'x' :: hex 2 code
  else if code < 0x10000 then backslash :: 'u' :: hex 4 code
  else backslash :: 'U' :: hex 8 code

/-- A character as it stands between quotes. -/
def escape (quote character : Char) : Text :=
  if character = backslash || character = quote then [backslash, character]
  else if character = '\n' then [backslash, 'n']
  else if character = '\r' then [backslash, 'r']
  else if character = '\t' then [backslash, 't']
  else if isPrintable character then [character]
  else escapeCode character

def quoted (text : Text) : Text :=
  let quote := quoteFor text
  quote :: text.flatMap (escape quote) ++ [quote]

end HeaderOrder.Text
