import HeaderOrder.Text.Quoted

/-!
# Arguments of the command line

The arguments are words.  A word may be an option, with or without a value written onto it, or a
plain word.  Options may stand anywhere; `--` ends them, and every word after it is plain.  The
first plain word is the header, the second the implementation file; more are an error.  Long options
may be shortened as long as only one is meant.

All words before `--` are classified first, so that an ambiguous option is reported before anything
else.  Then the words are taken in order, and the first error wins.
-/

namespace HeaderOrder.CommandLine

inductive Flag where
  | help
  | output
  | dryRun
  deriving Repr, DecidableEq

/-- How messages name an option. -/
def Flag.display : Flag → Text
  | .help => "-h/--help".toList
  | .output => "-o/--output".toList
  | .dryRun => "--dry-run".toList

def longOptions : List (Text × Flag) :=
  [("--help".toList, .help), ("--output".toList, .output), ("--dry-run".toList, .dryRun)]

/-- Why arguments are refused. -/
inductive UsageError where
  /-- The word may stand for several long options. -/
  | ambiguous (word : Text) (candidates : List Text)
  /-- The output option has no value. -/
  | missingValue
  /-- An option that takes no value was given one. -/
  | unwantedValue (flag : Flag) (value : Text)
  /-- Plain words with a meaning are missing. -/
  | missingWords (names : List Text)
  /-- There are words without a meaning. -/
  | strangeWords (words : List Text)
  deriving Repr, DecidableEq

def UsageError.message : UsageError → Text
  | .ambiguous word candidates =>
      "ambiguous option: ".toList ++ word ++ " could match ".toList ++
        List.intercalate ", ".toList candidates
  | .missingValue => "argument ".toList ++ Flag.output.display ++ ": expected one argument".toList
  | .unwantedValue flag value =>
      "argument ".toList ++ flag.display ++ ": ignored explicit argument ".toList ++
        Text.quoted value
  | .missingWords names =>
      "the following arguments are required: ".toList ++ List.intercalate ", ".toList names
  | .strangeWords words =>
      "unrecognized arguments: ".toList ++ List.intercalate [' '] words

/-- A word before `--` by what it is. -/
inductive Word where
  /-- A plain word. -/
  | plain (text : Text)
  /-- An option, with the value written onto it. -/
  | option (flag : Flag) (value : Option Text)
  /-- The short option for help, with the text written onto it. -/
  | shortHelp (tail : Option Text)
  /-- A word in the form of an option that is none. -/
  | unknown (text : Text)
  deriving Repr, DecidableEq

/-- The word that ends the options. -/
def separator : Text := ['-', '-']

/-- Whether a text is a nonempty run of decimal digits. -/
def isDigits (text : Text) : Bool :=
  !text.isEmpty && text.all Text.isDecimalDigit

/-- Whether a text has the form of a negative number: digits, or a point with digits after it and
perhaps before it.  One line break may follow. -/
def isNegativeNumber (text : Text) : Bool :=
  match if text.getLast? = some '\n' then text.dropLast else text with
  | '-' :: number =>
      isDigits number ||
        match number.dropWhile Text.isDecimalDigit with
        | '.' :: fraction => isDigits fraction
        | _ => false
  | _ => false

/-- A word in the form of an option that is no option. -/
def Word.ofStray (text : Text) : Word :=
  if isNegativeNumber text || text.contains ' ' then .plain text else .unknown text

/-- The value after an equals sign, if there is a sign. -/
def valueAfterSign (text : Text) : Option Text :=
  match text.dropWhile (· != '=') with
  | _ :: value => some value
  | [] => none

/-- What a word that starts with two dashes is. -/
def Word.ofLong (text : Text) : Except UsageError Word :=
  match longOptions.filter fun entry => (text.takeWhile (· != '=')).isPrefixOf entry.1 with
  | [] => .ok (.ofStray text)
  | [entry] => .ok (.option entry.2 (valueAfterSign text))
  | candidates => .error (.ambiguous text (candidates.map (·.1)))

def Word.classify (text : Text) : Except UsageError Word :=
  match text with
  | '-' :: '-' :: _ => Word.ofLong text
  | ['-', 'h'] => .ok (.shortHelp none)
  | '-' :: 'h' :: '=' :: tail => .ok (.shortHelp (some tail))
  | '-' :: 'h' :: tail => .ok (.shortHelp (some tail))
  | ['-', 'o'] => .ok (.option .output none)
  | '-' :: 'o' :: '=' :: value => .ok (.option .output (some value))
  | '-' :: 'o' :: value => .ok (.option .output (some value))
  | '-' :: _ :: _ => .ok (.ofStray text)
  | _ => .ok (.plain text)

/-- Classify words until one is refused. -/
def Word.classifyAll : List Text → Except UsageError (List Word)
  | [] => .ok []
  | text :: rest => do
      let word ← Word.classify text
      let others ← Word.classifyAll rest
      return word :: others

/-- Check the text written onto the short option for help, whose characters are read as further
short options: more of the same, then perhaps the one for the output with its value.  The answer
tells whether that value is still missing. -/
def checkShortTail : Text → Except UsageError Bool
  | ['h'] => .ok false
  | 'h' :: rest => checkShortTail rest
  | ['o'] => .ok true
  | 'o' :: _ => .ok false
  | tail => .error (.unwantedValue .help tail)

/-- What the words taken so far say.  The implementation file is given, but has no path, if the word
in its place was dropped. -/
structure Given where
  header : Option Text
  implementation : Option (Option Text)
  output : Option Text
  dryRun : Bool
  strange : List Text
  deriving Repr, DecidableEq

namespace Given

def nothing : Given := ⟨none, none, none, false, []⟩

/-- Whether a further plain word has a meaning. -/
def wantsWord (given : Given) : Bool :=
  given.header.isNone || given.implementation.isNone

/-- Take a plain word, which stands for `value`. -/
def takePlain (given : Given) (word : Text) (value : Option Text) : Given :=
  if given.header.isNone then { given with header := some word }
  else if given.implementation.isNone then { given with implementation := some value }
  else { given with strange := given.strange ++ [word] }

/-- What a word after `--`, or a value written onto an option, stands for: itself, but a further
`--` is dropped. -/
def keptValue (word : Text) : Option Text :=
  if word = separator then none else some word

/-- Take the words after `--`.  `adjacent` says whether a plain word was taken right before it; else
the `--` belongs to the first word that is taken after it, which then stands for itself.  A `--`
that belongs to no word is a strange word. -/
def takeRest (given : Given) (adjacent : Bool) (words : List Text) : Given :=
  match words with
  | [] => if adjacent then given else { given with strange := given.strange ++ [separator] }
  | first :: rest =>
      let begun :=
        if adjacent then given.takePlain first (keptValue first)
        else if given.wantsWord then given.takePlain first (some first)
        else { given with strange := given.strange ++ [separator, first] }
      rest.foldl (fun given word => given.takePlain word (keptValue word)) begun

end Given

/-- What the arguments ask for. -/
inductive Asked (α : Type) where
  /-- To show the help text. -/
  | help
  /-- To do something else. -/
  | other (value : α)
  deriving Repr, DecidableEq

/-- Take words in order.  `adjacent` says whether the word before them was a plain word that has a
meaning; `after` are the words after `--`, if it is there. -/
def takeWords (after : Option (List Text)) (given : Given) (adjacent : Bool) :
    List Word → Except UsageError (Asked Given)
  | [] =>
      match after with
      | none => .ok (.other given)
      | some words => .ok (.other (given.takeRest adjacent words))
  | .plain text :: rest =>
      takeWords after (given.takePlain text (some text)) given.wantsWord rest
  | .unknown text :: rest =>
      takeWords after { given with strange := given.strange ++ [text] } false rest
  | .shortHelp none :: _ => .ok .help
  | .shortHelp (some tail) :: rest =>
      match checkShortTail tail, rest with
      | .error error, _ => .error error
      | .ok false, _ => .ok .help
      | .ok true, .plain _ :: _ => .ok .help
      | .ok true, _ => .error .missingValue
  | .option .help none :: _ => .ok .help
  | .option .help (some value) :: _ => .error (.unwantedValue .help value)
  | .option .dryRun none :: rest => takeWords after { given with dryRun := true } false rest
  | .option .dryRun (some value) :: _ => .error (.unwantedValue .dryRun value)
  | .option .output (some value) :: rest =>
      takeWords after { given with output := Given.keptValue value } false rest
  | .option .output none :: .plain value :: rest =>
      takeWords after { given with output := some value } false rest
  | .option .output none :: _ => .error .missingValue

/-- What to arrange, and where the result goes. -/
structure Command where
  header : Text
  /-- The implementation file, unless its word was dropped. -/
  implementation : Option Text
  output : Option Text
  dryRun : Bool
  deriving Repr, DecidableEq

/-- The command that the words say, if none is missing and none is strange. -/
def Given.toCommand (given : Given) : Except UsageError Command :=
  match given.header, given.implementation with
  | none, _ => .error (.missingWords ["header".toList, "implementation".toList])
  | some _, none => .error (.missingWords ["implementation".toList])
  | some header, some implementation =>
      if given.strange.isEmpty then
        .ok ⟨header, implementation, given.output, given.dryRun⟩
      else
        .error (.strangeWords given.strange)

/-- The words before `--`, and those after it if it is there. -/
def splitAtSeparator (arguments : List Text) : List Text × Option (List Text) :=
  match arguments.dropWhile (· != separator) with
  | [] => (arguments, none)
  | _ :: after => (arguments.takeWhile (· != separator), some after)

def parseArguments (arguments : List Text) : Except UsageError (Asked Command) := do
  let (before, after) := splitAtSeparator arguments
  let words ← Word.classifyAll before
  match ← takeWords after Given.nothing false words with
  | .help => return .help
  | .other given => return .other (← given.toCommand)

end HeaderOrder.CommandLine
