import FramedVideo.Number.Literal

/-!
# Options on a command line

A command line is a list of options with values: `--name=value`, or `--name` and its value after it.
Arguments are looked at from left to right, and the first thing that is wrong is reported.

An option whose value stands after it is held until the next option that is known, or until the end;
only then is it checked. An argument that is no known option and no value is reported at once, even
while an option is held.

## Main definitions

- `Options.ValueKind` — the values that an option takes
- `Options.Misuse` — what is wrong with a command line
- `Options.read` — the options of a command line, with their values
-/

namespace FramedVideo.Options

/-- The values that an option takes. -/
inductive ValueKind where
  /-- Any text. -/
  | text
  /-- A whole number of at most so many bits, which may carry a minus sign if it is zero. -/
  | narrow (bits : Nat)
  /-- A whole number of at most 64 bits, without a minus sign. -/
  | wide
  /-- A decimal fraction. -/
  | fraction
  deriving DecidableEq, Repr

/-- The number in the value of a narrow option. -/
def narrow? (bits : Nat) (value : String) : Option Nat :=
  match Literal.integer? value with
  | some (.ofNat n) => if n < 1 <<< bits then some n else none
  | _ => none

/-- The number in the value of a wide option. -/
def wide? (value : String) : Option Nat :=
  match Literal.natural? value with
  | some n => if n < UInt64.size then some n else none
  | none => none

/-- An option of a kind takes a value. -/
def ValueKind.takes (value : String) : ValueKind → Bool
  | text => true
  | narrow bits => (narrow? bits value).isSome
  | wide => (wide? value).isSome
  | fraction => (Literal.double? value).isSome

/-- What is wrong with a command line. -/
inductive Misuse where
  /-- An option has no value. -/
  | noValue
  /-- An option is given twice. -/
  | givenTwice
  /-- A value is not of the kind that its option takes. -/
  | badValue
  /-- An argument is no known option and no value of one. -/
  | unknown
  /-- Nothing is wrong, but help is asked for. -/
  | helpWanted
  /-- A value is given to an option that takes none. -/
  | needlessValue
  deriving DecidableEq, Repr

/-- The name of a misuse. -/
def Misuse.name : Misuse → String
  | noValue => "InvalidValue"
  | givenTwice => "ArgumentConflict"
  | badValue => "ValueValidation"
  | unknown => "UnknownArgument"
  | helpWanted => "DisplayHelp"
  | needlessValue => "TooManyValues"

/-- The options that a command knows, by name. -/
abbrev Known := List (String × ValueKind)

/-- The options of a command in one line. -/
def Known.describe (known : Known) : String :=
  " ".intercalate (known.map fun option => "[--" ++ option.1 ++ " <VALUE>]")

/-- The options that were given, with their values, the last one first. -/
abbrev Given := List (String × String)

/-- The value of an option that was given. -/
def Given.value? (given : Given) (name : String) : Option String :=
  (given.find? fun entry => entry.1 = name).map (·.2)

/-- An option that is not checked yet, perhaps with its value. -/
abbrev Held := Option (String × Option String)

/-- Checks the option that is held, and counts it as given. -/
def complete (known : Known) (held : Held) (given : Given) : Except Misuse Given :=
  match held with
  | none => .ok given
  | some (_, none) => .error .noValue
  | some (name, some value) =>
    if (given.value? name).isSome then
      .error .givenTwice
    else
      match known.find? fun entry => entry.1 = name with
      | none => .error .unknown
      | some (_, kind) =>
        if kind.takes value then .ok ((name, value) :: given) else .error .badValue

/-- The part of an argument that names an option, and its value behind an equals sign. -/
def split (argument : List Char) : String × Option String :=
  let name := String.ofList (argument.takeWhile (· ≠ '='))
  match argument.dropWhile (· ≠ '=') with
  | [] => (name, none)
  | _ :: value => (name, some (String.ofList value))

/-- An argument may be the value of the option before it: it does not look like an option. -/
def mayBeValue (argument : String) : Bool :=
  match argument.toList with
  | '-' :: _ :: _ => false
  | _ => true

/-- The option that is held waits for a value. -/
def waits : Held → Bool
  | some (_, none) => true
  | _ => false

/-- Reads on, with an option held and some given. -/
def readOn (known : Known) : List String → Held → Given → Except Misuse Given
  | [], held, given => complete known held given
  | argument :: rest, held, given =>
    if waits held && mayBeValue argument then
      readOn known rest (held.map fun option => (option.1, some argument)) given
    else
      match argument.toList with
      | ['-', '-'] => if rest.isEmpty then complete known held given else .error .unknown
      | '-' :: '-' :: long =>
        match split long with
        | ("help", value) =>
          match complete known held given with
          | .error misuse => .error misuse
          | .ok _ => .error (if value.isSome then .needlessValue else .helpWanted)
        | (name, value) =>
          if known.all fun entry => entry.1 ≠ name then
            .error .unknown
          else
            match complete known held given with
            | .error misuse => .error misuse
            | .ok given =>
              if value.isSome then
                match complete known (some (name, value)) given with
                | .error misuse => .error misuse
                | .ok given => readOn known rest none given
              else
                readOn known rest (some (name, none)) given
      | '-' :: 'h' :: _ =>
        match complete known held given with
        | .error misuse => .error misuse
        | .ok _ => .error .helpWanted
      | _ => .error .unknown

/-- The options of a command line, with their values. -/
def read (known : Known) (arguments : List String) : Except Misuse Given :=
  readOn known arguments none []

end FramedVideo.Options
