import HeaderOrder.Text.Basic

/-!
# Patterns and their readings

A pattern describes a stretch of text.  From a place in a text it may be read in several ways;
`Pattern.readings` lists them all, the preferred one first.  A run prefers to be long, an optional
part prefers to be present, and of two alternatives the first is preferred; what comes earlier in
a pattern decides before what comes later.

Every repetition is a run of single characters, so the list of readings is defined by recursion on
the pattern and is finite for every text.
-/

namespace HeaderOrder

/-- The stretch of a text from offset `start` up to, and without, offset `stop`. -/
structure Span where
  start : Nat
  stop : Nat
  deriving Repr, DecidableEq

/-- The elements of a list that a span covers. -/
def Span.slice {α : Type} (span : Span) (items : List α) : List α :=
  (items.drop span.start).take (span.stop - span.start)

/-- The span of a list's middle part covers that part. -/
theorem slice_middle {α : Type} (before middle after : List α) :
    (Span.mk before.length (before.length + middle.length)).slice (before ++ (middle ++ after)) =
      middle := by
  rw [Span.slice, List.drop_left, Nat.add_sub_cancel_left, List.take_left]

/-- A place in a text: its offset, and the text from there on. -/
structure Place where
  offset : Nat
  rest : Text
  deriving Repr, DecidableEq

/-- One way to read a pattern: where it stops, and the spans of its groups in order. -/
structure Reading where
  stop : Place
  groups : List Span
  deriving Repr, DecidableEq

/-- A pattern for a stretch of text. -/
inductive Pattern where
  /-- Exactly this text. -/
  | exactly (text : Text)
  /-- One character of a class. -/
  | one (accepts : Char → Bool)
  /-- A run, possibly empty, of characters of a class. -/
  | run (accepts : Char → Bool)
  /-- The first pattern, then the second. -/
  | seq (first second : Pattern)
  /-- The first pattern, or else the second. -/
  | either (first second : Pattern)
  /-- The pattern, or else nothing. -/
  | optional (body : Pattern)
  /-- The pattern, whose span is reported. -/
  | group (body : Pattern)

namespace Pattern

instance : Append Pattern := ⟨.seq⟩

/-- The patterns of a list, one after the other. -/
def sequence : List Pattern → Pattern
  | [] => .exactly []
  | first :: rest => first ++ sequence rest

/-- A run of at least one character of a class. -/
def run1 (accepts : Char → Bool) : Pattern :=
  .one accepts ++ .run accepts

/-- The places that a run can stop at, the farthest first.  `nearer` are those already passed. -/
def runStops (accepts : Char → Bool) (nearer : List Place) (offset : Nat) : Text → List Place
  | [] => ⟨offset, []⟩ :: nearer
  | character :: rest =>
      if accepts character then
        runStops accepts (⟨offset, character :: rest⟩ :: nearer) (offset + 1) rest
      else
        ⟨offset, character :: rest⟩ :: nearer

/-- All the ways to read a pattern from a place, in order of preference. -/
def readings : Pattern → Place → List Reading
  | .exactly text, place =>
      if text.isPrefixOf place.rest then
        [⟨⟨place.offset + text.length, place.rest.drop text.length⟩, []⟩]
      else
        []
  | .one accepts, place =>
      match place.rest with
      | [] => []
      | character :: rest =>
          if accepts character then [⟨⟨place.offset + 1, rest⟩, []⟩] else []
  | .run accepts, place =>
      (runStops accepts [] place.offset place.rest).map (⟨·, []⟩)
  | .seq first second, place =>
      (first.readings place).flatMap fun before =>
        (second.readings before.stop).map fun after =>
          ⟨after.stop, before.groups ++ after.groups⟩
  | .either first second, place =>
      first.readings place ++ second.readings place
  | .optional body, place =>
      body.readings place ++ [⟨place, []⟩]
  | .group body, place =>
      (body.readings place).map fun reading =>
        ⟨reading.stop, ⟨place.offset, reading.stop.offset⟩ :: reading.groups⟩

@[simp] theorem readings_append (first second : Pattern) (place : Place) :
    (first ++ second).readings place =
      (first.readings place).flatMap fun before =>
        (second.readings before.stop).map fun after =>
          ⟨after.stop, before.groups ++ after.groups⟩ := rfl

theorem mem_readings_append {first second : Pattern} {place : Place} {reading : Reading} :
    reading ∈ (first ++ second).readings place ↔
      ∃ before ∈ first.readings place, ∃ after ∈ second.readings before.stop,
        reading = ⟨after.stop, before.groups ++ after.groups⟩ := by
  simp only [readings_append, List.mem_flatMap, List.mem_map]
  constructor
  · rintro ⟨before, found, after, follows, rfl⟩
    exact ⟨before, found, after, follows, rfl⟩
  · rintro ⟨before, found, after, follows, rfl⟩
    exact ⟨before, found, after, follows, rfl⟩

theorem mem_readings_optional {body : Pattern} {place : Place} {reading : Reading} :
    reading ∈ (Pattern.optional body).readings place ↔
      reading ∈ body.readings place ∨ reading = ⟨place, []⟩ := by
  simp [readings]

end Pattern

end HeaderOrder
