import IcuMessage.Failure
import IcuMessage.Style.Options
import IcuMessage.Text.Blank
import IcuMessage.Text.Prefix

/-!
# Date and time skeletons

A date or time skeleton is a list of runs of one repeated letter, which may
start with pairs of colons.  The letter selects a field, the length of the run
its width, and a later run overrules an earlier one.  Blanks are skipped.  The
first run that selects nothing is the one that the error names.
-/

namespace IcuMessage.DateTimeSkeleton

/-- The maximal runs of one repeated character, with their lengths. -/
def runs : List Char → List (Char × Nat)
  | [] => []
  | character :: rest =>
      match runs rest with
      | [] => [(character, 1)]
      | (symbol, count) :: later =>
          if character = symbol then (symbol, count + 1) :: later
          else (character, 1) :: (symbol, count) :: later

/-- The text of a run. -/
def runText (run : Char × Nat) : List Char :=
  List.replicate run.2 run.1

/-- The width of a field that is only written in digits. -/
def digitWidth? : Nat → Option FieldWidth
  | 1 => some .numeric
  | 2 => some .twoDigit
  | _ => none

/-- The width of a field that is only written in words. -/
def nameWidth? : Nat → Option FieldWidth
  | 1 | 2 | 3 => some .short
  | 4 => some .long
  | 5 => some .narrow
  | _ => none

/-- The width of a month, which is written in either way. -/
def monthWidth? : Nat → Option FieldWidth
  | 1 => some .numeric
  | 2 => some .twoDigit
  | 3 => some .short
  | 4 => some .long
  | 5 => some .narrow
  | _ => none

/-- The width of a year, which may have any number of letters. -/
def yearWidth (count : Nat) : FieldWidth :=
  if count = 2 then .twoDigit else .numeric

/-- The width of the name of a time zone. -/
def zoneWidth? : Nat → Option FieldWidth
  | 1 | 2 | 3 => some .short
  | 4 => some .long
  | _ => none

/-- What a run settles, if it is one. -/
def run? (symbol : Char) (count : Nat) : Option DateTimeOptions :=
  if Text.isBlank symbol then some {}
  else match symbol with
    | 'G' => (nameWidth? count).map fun width => { era := some width }
    | 'y' => some { year := some (yearWidth count) }
    | 'M' | 'L' => (monthWidth? count).map fun width => { month := some width }
    | 'd' => (digitWidth? count).map fun width => { day := some width }
    | 'E' | 'c' => (nameWidth? count).map fun width => { weekday := some width }
    | 'h' | 'K' =>
        (digitWidth? count).map fun width => { hour := some width, hour12 := some true }
    | 'H' | 'k' =>
        (digitWidth? count).map fun width => { hour := some width, hour12 := some false }
    | 'j' => (digitWidth? count).map fun width => { hour := some width }
    | 'm' => (digitWidth? count).map fun width => { minute := some width }
    | 's' => (digitWidth? count).map fun width => { second := some width }
    | 'a' => if count ≤ 5 then some {} else none
    | 'z' | 'v' | 'O' => (zoneWidth? count).map fun width => { timeZoneName := some width }
    | _ => none

/-- The option set of runs that come after those of a given set. -/
def readRuns (options : DateTimeOptions) :
    List (Char × Nat) → Except Failure DateTimeOptions
  | [] => .ok options
  | run :: rest =>
      match run? run.1 run.2 with
      | some settled => readRuns (options.overlay settled) rest
      | none => .error (.invalidSkeleton (String.ofList (runText run)))

/-- The option set of a skeleton. -/
def read (skeleton : String) : Except Failure DateTimeOptions :=
  readRuns {} (runs (Text.dropPairs ':' ':' (Text.trim skeleton.toList)))

end IcuMessage.DateTimeSkeleton
