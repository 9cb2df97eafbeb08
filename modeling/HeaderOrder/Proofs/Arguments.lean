import HeaderOrder.CommandLine.Arguments
import Mathlib.Data.List.Basic
import Mathlib.Data.List.TakeWhile

/-!
# What accepted arguments say

Arguments that are accepted and do not ask for help make a command.  Its output is the last value
given to the output option, it is a dry run exactly if one of the options says so, and every word
after `--` is one of its paths.  All this is read off the words in one induction over the way in
which they are taken (`means_of_takes`).

The option for a dry run can be put in front of any such arguments and changes nothing else of the
command.
-/

namespace HeaderOrder.CommandLine

/-! ## From arguments to words and back -/

/-- Accepted arguments are words that were classified, taken in order, and found complete. -/
theorem exists_of_parseArguments {arguments : List Text} {command : Command}
    (asked : parseArguments arguments = .ok (.other command)) :
    ∃ words given, Word.classifyAll (splitAtSeparator arguments).1 = .ok words ∧
      takeWords (splitAtSeparator arguments).2 Given.nothing false words = .ok (.other given) ∧
        given.toCommand = .ok command := by
  unfold parseArguments at asked
  cases classified : Word.classifyAll (splitAtSeparator arguments).1 with
  | error error => simp [classified, bind, Except.bind] at asked
  | ok words =>
      cases taken : takeWords (splitAtSeparator arguments).2 Given.nothing false words with
      | error error => simp [classified, taken, bind, Except.bind] at asked
      | ok answer =>
          cases answer with
          | help => simp [classified, taken, bind, Except.bind, pure, Except.pure] at asked
          | other given =>
              cases made : given.toCommand with
              | error error => simp [classified, taken, made, bind, Except.bind] at asked
              | ok other =>
                  simp only [classified, taken, made, bind, Except.bind, pure, Except.pure,
                    Except.ok.injEq, Asked.other.injEq] at asked
                  exact ⟨words, given, rfl, taken, asked ▸ made⟩

theorem parseArguments_of_words {arguments : List Text} {words : List Word} {given : Given}
    {command : Command} (classified : Word.classifyAll (splitAtSeparator arguments).1 = .ok words)
    (taken :
      takeWords (splitAtSeparator arguments).2 Given.nothing false words = .ok (.other given))
    (made : given.toCommand = .ok command) : parseArguments arguments = .ok (.other command) := by
  simp only [parseArguments, classified, taken, made, bind, Except.bind, pure, Except.pure]

/-- A command has what was given, and no word was left over. -/
theorem Given.of_toCommand {given : Given} {command : Command}
    (made : given.toCommand = .ok command) :
    given.header = some command.header ∧ given.implementation = some command.implementation ∧
      given.strange = [] ∧ given.output = command.output ∧ given.dryRun = command.dryRun := by
  obtain ⟨header, implementation, output, dryRun, strange⟩ := given
  cases header with
  | none => cases made
  | some header =>
      cases implementation with
      | none => cases made
      | some implementation =>
          simp only [toCommand] at made
          split at made
          · next empty =>
              cases made
              exact ⟨rfl, rfl, List.isEmpty_iff.1 empty, rfl, rfl⟩
          · cases made

theorem exists_of_classifyAll_cons {first : Text} {rest : List Text} {words : List Word}
    (classified : Word.classifyAll (first :: rest) = .ok words) :
    ∃ word others, Word.classify first = .ok word ∧ Word.classifyAll rest = .ok others ∧
      words = word :: others := by
  rw [Word.classifyAll] at classified
  cases here : Word.classify first with
  | error error => simp [here, bind, Except.bind] at classified
  | ok word =>
      cases later : Word.classifyAll rest with
      | error error => simp [here, later, bind, Except.bind] at classified
      | ok others =>
          simp only [here, later, bind, Except.bind, pure, Except.pure, Except.ok.injEq]
            at classified
          exact ⟨word, others, rfl, rfl, classified.symm⟩

theorem mem_of_classifyAll {texts : List Text} {words : List Word}
    (classified : Word.classifyAll texts = .ok words) {text : Text} (member : text ∈ texts) :
    ∃ word ∈ words, Word.classify text = .ok word := by
  induction texts generalizing words with
  | nil => cases member
  | cons first rest ih =>
      obtain ⟨word, others, here, later, rfl⟩ := exists_of_classifyAll_cons classified
      rcases List.mem_cons.1 member with rfl | inRest
      · exact ⟨word, List.mem_cons_self .., here⟩
      · obtain ⟨other, found, same⟩ := ih later inRest
        exact ⟨other, List.mem_cons_of_mem _ found, same⟩

/-- Every argument is a word before `--`, or `--` itself, or a word after it. -/
theorem mem_splitAtSeparator {arguments : List Text} {text : Text} (member : text ∈ arguments) :
    text ∈ (splitAtSeparator arguments).1 ∨ text = separator ∨
      ∃ after ∈ (splitAtSeparator arguments).2, text ∈ after := by
  have cut := List.takeWhile_append_dropWhile (p := (· != separator)) (l := arguments)
  rw [splitAtSeparator]
  split
  · exact Or.inl member
  · next mark after rest =>
      rw [rest] at cut
      rw [← cut, List.mem_append, List.mem_cons] at member
      have isMark : mark = separator := by
        have stops := List.head?_dropWhile_not (· != separator) arguments
        rw [rest] at stops
        simpa using stops
      rcases member with before | same | later
      · exact Or.inl before
      · exact Or.inr (Or.inl (same.trans isMark))
      · exact Or.inr (Or.inr ⟨after, rfl, later⟩)

/-! ## What taking words does -/

namespace Given

@[simp] theorem takePlain_output (given : Given) (word : Text) (value : Option Text) :
    (given.takePlain word value).output = given.output := by
  rw [takePlain]
  split_ifs <;> rfl

@[simp] theorem takePlain_dryRun (given : Given) (word : Text) (value : Option Text) :
    (given.takePlain word value).dryRun = given.dryRun := by
  rw [takePlain]
  split_ifs <;> rfl

/-- Whether a word was taken for a path, or for a word without a meaning. -/
def Has (given : Given) (word : Text) : Prop :=
  given.header = some word ∨ given.implementation = some (some word) ∨ word ∈ given.strange

theorem has_takePlain_self (given : Given) (word : Text) :
    (given.takePlain word (some word)).Has word := by
  rw [takePlain]
  split_ifs
  · exact Or.inl rfl
  · exact Or.inr (Or.inl rfl)
  · exact Or.inr (Or.inr (List.mem_append_right _ (List.mem_singleton_self _)))

theorem Has.takePlain {given : Given} {word : Text} (has : given.Has word) (other : Text)
    (value : Option Text) : (given.takePlain other value).Has word := by
  rw [Given.takePlain]
  split_ifs with noHeader noImplementation
  · refine Or.inr (has.resolve_left fun same => ?_)
    rw [same] at noHeader
    cases noHeader
  · rcases has with header | implementation | strange
    · exact Or.inl header
    · rw [implementation] at noImplementation
      cases noImplementation
    · exact Or.inr (Or.inr strange)
  · exact has.imp_right (Or.imp_right (List.mem_append_left _))

/-- What taking the words after `--`, from the second on, does to what was given. -/
def takeKept (given : Given) (words : List Text) : Given :=
  words.foldl (fun given word => given.takePlain word (keptValue word)) given

theorem takeKept_output (given : Given) (words : List Text) :
    (given.takeKept words).output = given.output := by
  induction words generalizing given with
  | nil => rfl
  | cons word rest ih => exact (ih _).trans (takePlain_output ..)

theorem takeKept_dryRun (given : Given) (words : List Text) :
    (given.takeKept words).dryRun = given.dryRun := by
  induction words generalizing given with
  | nil => rfl
  | cons word rest ih => exact (ih _).trans (takePlain_dryRun ..)

theorem has_takeKept {given : Given} {words : List Text} {word : Text} (other : word ≠ separator)
    (taken : given.Has word ∨ word ∈ words) : (given.takeKept words).Has word := by
  induction words generalizing given with
  | nil => exact taken.resolve_right List.not_mem_nil
  | cons first rest ih =>
      apply ih
      rcases taken with has | member
      · exact Or.inl (has.takePlain first _)
      · rcases List.mem_cons.1 member with rfl | later
        · have kept : keptValue word = some word := if_neg other
          have taken := has_takePlain_self given word
          rw [← kept] at taken
          exact Or.inl taken
        · exact Or.inr later

theorem takeRest_cons (given : Given) (adjacent : Bool) (first : Text) (rest : List Text) :
    given.takeRest adjacent (first :: rest) =
      (if adjacent then given.takePlain first (keptValue first)
        else if given.wantsWord then given.takePlain first (some first)
        else { given with strange := given.strange ++ [separator, first] }).takeKept rest := rfl

theorem takeRest_output (given : Given) (adjacent : Bool) (words : List Text) :
    (given.takeRest adjacent words).output = given.output := by
  cases words with
  | nil =>
      rw [takeRest]
      split_ifs <;> rfl
  | cons first rest =>
      rw [takeRest_cons, takeKept_output]
      split_ifs <;> simp

theorem takeRest_dryRun (given : Given) (adjacent : Bool) (words : List Text) :
    (given.takeRest adjacent words).dryRun = given.dryRun := by
  cases words with
  | nil =>
      rw [takeRest]
      split_ifs <;> rfl
  | cons first rest =>
      rw [takeRest_cons, takeKept_dryRun]
      split_ifs <;> simp

theorem has_takeRest (given : Given) (adjacent : Bool) {words : List Text} {word : Text}
    (member : word ∈ words) (other : word ≠ separator) :
    (given.takeRest adjacent words).Has word := by
  cases words with
  | nil => cases member
  | cons first rest =>
      rw [takeRest_cons]
      apply has_takeKept other
      rcases List.mem_cons.1 member with rfl | later
      · left
        split_ifs
        · have kept : keptValue word = some word := if_neg other
          exact kept ▸ has_takePlain_self given word
        · exact has_takePlain_self given word
        · exact Or.inr (Or.inr (List.mem_append_right _ (by simp)))
      · exact Or.inr later

end Given

/-! ## Words that make a command -/

/-- The ways in which words are taken without an error and without a call for help. -/
inductive Takes (after : Option (List Text)) : Given → Bool → List Word → Given → Prop
  | done {given : Given} {adjacent : Bool} (none : after = .none) :
      Takes after given adjacent [] given
  | rest {given : Given} {adjacent : Bool} {texts : List Text} (some : after = .some texts) :
      Takes after given adjacent [] (given.takeRest adjacent texts)
  | plain {given result : Given} {adjacent : Bool} {text : Text} {words : List Word}
      (later : Takes after (given.takePlain text (.some text)) given.wantsWord words result) :
      Takes after given adjacent (.plain text :: words) result
  | unknown {given result : Given} {adjacent : Bool} {text : Text} {words : List Word}
      (later : Takes after { given with strange := given.strange ++ [text] } false words result) :
      Takes after given adjacent (.unknown text :: words) result
  | dryRun {given result : Given} {adjacent : Bool} {words : List Word}
      (later : Takes after { given with dryRun := true } false words result) :
      Takes after given adjacent (.option .dryRun .none :: words) result
  | outputWith {given result : Given} {adjacent : Bool} {value : Text} {words : List Word}
      (later : Takes after { given with output := Given.keptValue value } false words result) :
      Takes after given adjacent (.option .output (.some value) :: words) result
  | outputThen {given result : Given} {adjacent : Bool} {value : Text} {words : List Word}
      (later : Takes after { given with output := .some value } false words result) :
      Takes after given adjacent (.option .output .none :: .plain value :: words) result

theorem takes_iff {after : Option (List Text)} {given result : Given} {adjacent : Bool}
    {words : List Word} :
    takeWords after given adjacent words = .ok (.other result) ↔
      Takes after given adjacent words result := by
  constructor
  · intro taken
    fun_induction takeWords after given adjacent words with
    | case1 given adjacent none =>
        cases taken
        exact .done none
    | case2 given adjacent texts some =>
        cases taken
        exact .rest some
    | case3 given adjacent text words ih => exact .plain (ih taken)
    | case4 given adjacent text words ih => exact .unknown (ih taken)
    | case12 given adjacent words ih => exact .dryRun (ih taken)
    | case14 given adjacent value words ih => exact .outputWith (ih taken)
    | case15 given adjacent value words ih => exact .outputThen (ih taken)
    -- The other ways end with an error or with the help text.
    | _ => cases taken
  · intro takes
    induction takes with
    | done none =>
        subst none
        rfl
    | rest some =>
        subst some
        rfl
    | plain _ ih | unknown _ ih | dryRun _ ih | outputWith _ ih | outputThen _ ih =>
        rw [takeWords]
        exact ih

/-- The values given to the output option, in order. -/
def outputValues : List Word → List Text
  | [] => []
  | .option .output (some value) :: rest => value :: outputValues rest
  | .option .output none :: .plain value :: rest => value :: outputValues rest
  | _ :: rest => outputValues rest

/-- What words make of what was given before them. -/
structure Means (after : Option (List Text)) (given : Given) (words : List Word) (result : Given) :
    Prop where
  noHelp : .shortHelp none ∉ words ∧ .option .help none ∉ words
  dryRun : result.dryRun = (given.dryRun || words.contains (.option .dryRun none))
  output : result.output =
    (outputValues words).foldl (fun _ value => Given.keptValue value) given.output
  rest : ∀ texts ∈ after, ∀ text ∈ texts, text ≠ separator → result.Has text

theorem means_of_takes {after : Option (List Text)} {given result : Given} {adjacent : Bool}
    {words : List Word} (plain : ∀ text, .plain text ∈ words → text ≠ separator)
    (takes : Takes after given adjacent words result) : Means after given words result := by
  induction takes with
  | done none => exact ⟨by simp, by simp, rfl, by simp [none]⟩
  | @rest given adjacent texts some =>
      refine ⟨by simp, by simp [Given.takeRest_dryRun], Given.takeRest_output .., ?_⟩
      intro others same text member other
      cases some.symm.trans same
      exact Given.has_takeRest given adjacent member other
  | plain _ ih | unknown _ ih | dryRun _ ih | outputWith _ ih =>
      have meant := ih fun text member => plain text (List.mem_cons_of_mem _ member)
      exact ⟨by simpa using meant.noHelp, by simpa using meant.dryRun,
        by simpa [outputValues] using meant.output, meant.rest⟩
  | @outputThen given result adjacent value words _ ih =>
      have meant := ih fun text member =>
        plain text (List.mem_cons_of_mem _ (List.mem_cons_of_mem _ member))
      have kept : Given.keptValue value = some value := if_neg (plain value (by simp))
      exact ⟨by simpa using meant.noHelp, by simpa using meant.dryRun,
        by simpa [outputValues, kept] using meant.output, meant.rest⟩

/-! ## Commands and their arguments -/

theorem eq_of_classify_plain {text other : Text}
    (classified : Word.classify text = .ok (.plain other)) : other = text := by
  have stray : ∀ {text : Text}, Word.ofStray text = .plain other → other = text := by
    intro text same
    rw [Word.ofStray] at same
    split at same
    · exact (Word.plain.inj same).symm
    · cases same
  unfold Word.classify at classified
  split at classified
  · rw [Word.ofLong] at classified
    split at classified
    · exact stray (Except.ok.inj classified)
    · cases classified
    · cases classified
  all_goals first
    | exact stray (Except.ok.inj classified)
    | exact (Word.plain.inj (Except.ok.inj classified)).symm
    | cases classified

/-- A plain word is one of the arguments. -/
theorem mem_of_plain_mem {texts : List Text} {words : List Word}
    (classified : Word.classifyAll texts = .ok words) {text : Text} (member : .plain text ∈ words) :
    text ∈ texts := by
  induction texts generalizing words with
  | nil =>
      cases classified
      cases member
  | cons first rest ih =>
      obtain ⟨word, others, here, later, rfl⟩ := exists_of_classifyAll_cons classified
      rcases List.mem_cons.1 member with same | inOthers
      · rw [← same] at here
        exact List.mem_cons.2 (Or.inl (eq_of_classify_plain here))
      · exact List.mem_cons_of_mem _ (ih later inOthers)

theorem separator_notMem (arguments : List Text) : separator ∉ (splitAtSeparator arguments).1 := by
  intro member
  rw [splitAtSeparator] at member
  split at member
  · next none =>
      have other := List.dropWhile_eq_nil_iff.1 none separator member
      simp at other
  · have other := List.mem_takeWhile_imp member
    simp at other

/-- What the words of a command's arguments say. -/
theorem means_of_parseArguments {arguments : List Text} {command : Command}
    (asked : parseArguments arguments = .ok (.other command)) :
    ∃ words, Word.classifyAll (splitAtSeparator arguments).1 = .ok words ∧
      (.shortHelp none ∉ words ∧ .option .help none ∉ words) ∧
      command.dryRun = words.contains (.option .dryRun none) ∧
      command.output = (outputValues words).foldl (fun _ value => Given.keptValue value) none ∧
      ∀ texts ∈ (splitAtSeparator arguments).2, ∀ text ∈ texts, text ≠ separator →
        command.header = text ∨ command.implementation = some text := by
  obtain ⟨words, given, classified, taken, made⟩ := exists_of_parseArguments asked
  have plain : ∀ text, .plain text ∈ words → text ≠ separator := by
    rintro text member rfl
    exact separator_notMem arguments (mem_of_plain_mem classified member)
  have meant := means_of_takes plain (takes_iff.1 taken)
  obtain ⟨header, implementation, strange, output, dryRun⟩ := Given.of_toCommand made
  refine ⟨words, classified, meant.noHelp, ?_, output ▸ meant.output, ?_⟩
  · simpa [Given.nothing, dryRun] using meant.dryRun
  · intro texts some text member other
    rcases meant.rest texts some text member other with inHeader | inImplementation | isStrange
    · exact Or.inl (Option.some.inj (header.symm.trans inHeader))
    · exact Or.inr (Option.some.inj (implementation.symm.trans inImplementation))
    · rw [strange] at isStrange
      cases isStrange

/-- Each argument but `--` is a word that was classified, or a path of the command. -/
theorem classified_or_path {arguments : List Text} {command : Command} {words : List Word}
    (classified : Word.classifyAll (splitAtSeparator arguments).1 = .ok words)
    (rest : ∀ texts ∈ (splitAtSeparator arguments).2, ∀ text ∈ texts, text ≠ separator →
      command.header = text ∨ command.implementation = some text)
    {text : Text} (member : text ∈ arguments) (other : text ≠ separator) :
    (∃ word ∈ words, Word.classify text = .ok word) ∨ command.header = text ∨
      command.implementation = some text := by
  rcases mem_splitAtSeparator member with before | same | ⟨texts, some, inTexts⟩
  · exact Or.inl (mem_of_classifyAll classified before)
  · exact absurd same other
  · exact Or.inr (rest texts some text inTexts other)

/-! ## Adding the option for a dry run -/

/-- What was given, for a dry run. -/
def Given.dry (given : Given) : Given := { given with dryRun := true }

theorem Given.takePlain_dry (given : Given) (word : Text) (value : Option Text) :
    given.dry.takePlain word value = (given.takePlain word value).dry := by
  obtain ⟨header, implementation, output, dryRun, strange⟩ := given
  cases header <;> cases implementation <;> rfl

theorem Given.takeKept_dry (given : Given) (words : List Text) :
    given.dry.takeKept words = (given.takeKept words).dry := by
  induction words generalizing given with
  | nil => rfl
  | cons word rest ih =>
      have here := takePlain_dry given word (keptValue word)
      exact (congrArg (Given.takeKept · rest) here).trans (ih _)

theorem Given.takeRest_dry (given : Given) (adjacent : Bool) (words : List Text) :
    given.dry.takeRest adjacent words = (given.takeRest adjacent words).dry := by
  cases words with
  | nil => cases adjacent <;> rfl
  | cons first rest =>
      rw [takeRest_cons, takeRest_cons, ← takeKept_dry, apply_ite Given.dry, apply_ite Given.dry,
        takePlain_dry, takePlain_dry]
      rfl

theorem takes_dry {after : Option (List Text)} {given result : Given} {adjacent : Bool}
    {words : List Word} (takes : Takes after given adjacent words result) :
    Takes after given.dry adjacent words result.dry := by
  induction takes with
  | done none => exact .done none
  | rest some =>
      rw [← Given.takeRest_dry]
      exact .rest some
  | plain _ ih =>
      rw [← Given.takePlain_dry] at ih
      exact .plain ih
  | unknown _ ih => exact .unknown ih
  | dryRun _ ih => exact .dryRun ih
  | outputWith _ ih => exact .outputWith ih
  | outputThen _ ih => exact .outputThen ih

def dryRunOption : Text := "--dry-run".toList

/-- The option for a dry run, put in front, makes the same command a dry run. -/
theorem parseArguments_dry {arguments : List Text} {command : Command}
    (asked : parseArguments arguments = .ok (.other command)) :
    parseArguments (dryRunOption :: arguments) = .ok (.other { command with dryRun := true }) := by
  obtain ⟨words, given, classified, taken, made⟩ := exists_of_parseArguments asked
  have differ : (dryRunOption != separator) = true := by decide
  have cut : splitAtSeparator (dryRunOption :: arguments) =
      (dryRunOption :: (splitAtSeparator arguments).1, (splitAtSeparator arguments).2) := by
    simp only [splitAtSeparator, List.dropWhile_cons, List.takeWhile_cons, differ, if_true]
    split <;> rfl
  have here : Word.classify dryRunOption = .ok (.option .dryRun none) := by decide
  have allClassified : Word.classifyAll (splitAtSeparator (dryRunOption :: arguments)).1 =
      .ok (.option .dryRun none :: words) := by
    rw [cut, Word.classifyAll, here, classified]
    rfl
  have allTaken : takeWords (splitAtSeparator (dryRunOption :: arguments)).2 Given.nothing false
      (.option .dryRun none :: words) = .ok (.other given.dry) := by
    rw [cut]
    exact takes_iff.2 (.dryRun (takes_dry (takes_iff.1 taken)))
  apply parseArguments_of_words allClassified allTaken
  obtain ⟨header, implementation, strange, output, -⟩ := Given.of_toCommand made
  simp [Given.toCommand, Given.dry, header, implementation, strange, output]

end HeaderOrder.CommandLine
