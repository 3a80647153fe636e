import ScriptRunner.CommandLine.Usage
import ScriptRunner.Text.Similarity

/-!
# Reading a command line

The words of a command line are taken one after another. An argument is settled only when the next
one begins, since its value may be a word of its own; of two things that are wrong, the one that is
met first is told. Behind two dashes all words are places.
-/

namespace ScriptRunner.CommandLine

open Text

/-- What a command line asks for. -/
structure Arguments where
  directory : Text
  database : Option Text := none
  config : Option Text := none
  logLevel : Option Text := none
  dryRun : Bool := false
  noColour : Bool := false
  deriving DecidableEq, Repr

/-- What comes of a command line. -/
inductive Request where
  | run (arguments : Arguments)
  | help
  | version
  | refused (error : UsageError)
  deriving DecidableEq, Repr

/-- The arguments met so far. -/
structure Intake where
  /-- The arguments that are settled, with their values. -/
  settled : List (Argument × Option Text) := []
  /-- The argument that the next word may belong to. -/
  pending : Option (Argument × Option Text) := none
  /-- How many places were met. -/
  places : Nat := 0
  /-- Whether all words that follow are places. -/
  onlyPlaces : Bool := false
  deriving DecidableEq, Repr

namespace Intake

/-- The settled arguments. -/
def given (s : Intake) : List Argument := s.settled.map Prod.fst

/-- The value of a settled argument. -/
def value? (s : Intake) (a : Argument) : Option Text := (s.settled.lookup a).join

/-- The settled arguments that a usage line shows: the directory is always there. -/
def used (s : Intake) : List Argument := s.given.filter (· != .directory)

/-- Settle an argument with its value. -/
def settle (s : Intake) (a : Argument) (value : Option Text) : Except Request Intake :=
  if a.takesValue ∧ value = none then .error (.refused (.missingValue a))
  else if a ∈ s.given then .error (.refused (.repeated a))
  else if a.refusesEmpty ∧ value = some [] then .error (.refused (.missingValue a))
  else .ok { s with settled := s.settled ++ [(a, value)] }

/-- Settle the argument that is pending. -/
def settlePending (s : Intake) : Except Request Intake :=
  match s.pending with
  | none => .ok s
  | some (a, value) => { s with pending := none }.settle a value

/-- The arguments met so far. One that is pending counts if it has its value, unless it was settled
before: then neither counts. -/
def met (s : Intake) : List Argument :=
  match s.pending with
  | some (a, some _) => if a ∈ s.given then s.given.erase a else s.given ++ [a]
  | _ => s.given

/-- The refusal of a flag that there is none of. -/
def unknownFlag (s : Intake) (name : Text) : Request :=
  let similar := (mostSimilar? name (Flag.all.map Flag.name)).bind Flag.ofName?
  .refused (.unexpected (['-', '-'] ++ name) similar true (s.met ++ similar.toList.map .flag))

/-- Take a flag, with the value that is written behind an equals sign. -/
def takeFlag (s : Intake) (flag : Flag) (value : Option Text) : Except Request Intake :=
  match flag.value?, value with
  | some _, some v => s.settlePending.bind fun s => s.settle (.flag flag) (some v)
  | some _, none => s.settlePending.map fun s => { s with pending := some (.flag flag, none) }
  | none, some v => .error (.refused (.surplusValue v flag !s.given.isEmpty))
  | none, none =>
    s.settlePending.bind fun s =>
      match flag with
      | .help => .error .help
      | .version => .error .version
      | flag => s.settle (.flag flag) none

/-- Take a word with two dashes in front, given without them. -/
def takeName (s : Intake) (word : Text) : Except Request Intake :=
  let name := word.takeWhile (· != '=')
  let value := word.drop name.length
  match Flag.ofName? name with
  | some flag => s.takeFlag flag (if value = [] then none else some (value.drop 1))
  | none => .error (s.unknownFlag name)

/-- Take a word with one dash in front, by the letter behind it. -/
def takeLetter (s : Intake) (c : Char) : Except Request Intake :=
  match Flag.ofLetter? c with
  | some flag => s.takeFlag flag none
  | none => .error (.refused (.unexpected ['-', c] none true []))

/-- Take a word by its place. -/
def takePlace (s : Intake) (word : Text) : Except Request Intake :=
  let place (a : Argument) : Except Request Intake :=
    s.settlePending.map fun s => { s with pending := some (a, some word), places := s.places + 1 }
  match s.places with
  | 0 => place .directory
  | 1 => place .database
  | _ => .error (.refused (.unexpected word none false []))

/-- Take the next word. -/
def take (s : Intake) (word : Text) : Except Request Intake :=
  if s.onlyPlaces then s.takePlace word
  else
    match word with
    | ['-', '-'] => .ok { s with onlyPlaces := true }
    | '-' :: '-' :: rest => s.takeName rest
    | '-' :: c :: _ => s.takeLetter c
    | word =>
      match s.pending with
      | some (a, none) => .ok { s with pending := some (a, some word) }
      | _ => s.takePlace word

/-- Settle the log filter from the environment, if the command line has none. -/
def fallBack (s : Intake) (logLevel : Option Text) : Intake :=
  match logLevel with
  | some level =>
    if .flag .logLevel ∈ s.given then s
    else { s with settled := s.settled ++ [(.flag .logLevel, some level)] }
  | none => s

/-- The required arguments that are not there. A database is required unless nothing is to be
executed. -/
def missing (s : Intake) : List Argument :=
  (if .directory ∈ s.given then [] else [.directory])
    ++ (if .database ∈ s.given ∨ .flag .dryRun ∈ s.given then [] else [.database])

/-- What all words together ask for. -/
def request (s : Intake) : Request :=
  match s.missing, s.value? .directory with
  | [], some directory =>
    .run
      { directory := directory
        database := s.value? .database
        config := s.value? (.flag .config)
        logLevel := s.value? (.flag .logLevel)
        dryRun := .flag .dryRun ∈ s.given
        noColour := .flag .noColour ∈ s.given }
  | missing, _ => .refused (.missing missing (s.used ++ missing))

end Intake

/-- What a command line asks for. `logLevel` is the log filter that the environment sets. -/
def request (logLevel : Option Text) (words : List Text) : Request :=
  match words.foldlM Intake.take {} >>= Intake.settlePending with
  | .ok s => (s.fallBack logLevel).request
  | .error r => r

end ScriptRunner.CommandLine
