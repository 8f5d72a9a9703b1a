import IcuMessage.Proofs.Style.Layering
import IcuMessage.Proofs.Text.Words
import IcuMessage.Style.DateTimeSkeleton
import Mathlib.Data.List.Chain

/-!
# The runs of date and time skeletons

A date or time skeleton is cut into its maximal runs of one repeated character
(`runs_eq_iff`).  A run is blank, or a day period, or a letter of a field with a length
that the field has a width for.  A skeleton is accepted exactly if all of its runs are
such runs, each field has the width of the last run of one of its letters, and two
skeletons in a row settle what the second settles laid over what the first settles,
unless a run goes on from one into the other (`dateTime_runs_compose`).
-/

namespace IcuMessage

namespace DateTimeOptions

instance : Std.Associative overlay := ⟨overlay_assoc⟩

instance : Std.LawfulIdentity overlay {} where
  left_id := open_overlay
  right_id := overlay_open

end DateTimeOptions

namespace DateTimeSkeleton

variable {text front back : List Char} {split : List (Char × Nat)}

/-! ## Maximal runs -/

/-- The runs make up the text, none of them is empty, and neighbours have different
characters. -/
structure MaximalRuns (text : List Char) (split : List (Char × Nat)) : Prop where
  whole : split.flatMap runText = text
  filled : ∀ run ∈ split, 0 < run.2
  apart : split.IsChain fun first second => first.1 ≠ second.1

/-- The runs of a text are maximal and make it up. -/
theorem maximalRuns_runs (text : List Char) : MaximalRuns text (runs text) := by
  induction text with
  | nil => exact ⟨rfl, nofun, .nil⟩
  | cons character rest ih =>
      rw [runs]
      rcases found : runs rest with _ | ⟨⟨symbol, count⟩, later⟩
      · rw [found] at ih
        have none : rest = [] := ih.whole.symm
        subst none
        exact ⟨rfl, by simp, .singleton _⟩
      · rw [found] at ih
        have filled := ih.filled
        dsimp only
        split
        case isTrue same =>
          -- the first run of the rest grows by a character
          subst same
          refine ⟨?_, ?_, ?_⟩
          · rw [← ih.whole]
            rfl
          · exact List.forall_mem_cons.mpr
              ⟨Nat.succ_pos count, fun run member => filled run (.tail _ member)⟩
          · cases later with
            | nil => exact .singleton _
            | cons next more =>
                have apart := List.isChain_cons_cons.mp ih.apart
                exact List.isChain_cons_cons.mpr ⟨apart.1, apart.2⟩
        case isFalse different =>
          refine ⟨?_, ?_, ?_⟩
          · rw [List.flatMap_cons, ih.whole]
            rfl
          · exact List.forall_mem_cons.mpr ⟨Nat.one_pos, filled⟩
          · exact List.isChain_cons_cons.mpr ⟨different, ih.apart⟩

theorem MaximalRuns.head? (maximal : MaximalRuns text split) :
    split.head?.map Prod.fst = text.head? := by
  rcases maximal with ⟨rfl, filled, -⟩
  cases split with
  | nil => rfl
  | cons run later =>
      obtain ⟨count, length⟩ := Nat.exists_eq_succ_of_ne_zero
        (Nat.ne_of_gt (filled run List.mem_cons_self))
      rw [List.flatMap_cons, runText, length, List.replicate_succ]
      rfl

theorem MaximalRuns.getLast? (maximal : MaximalRuns text split) :
    split.getLast?.map Prod.fst = text.getLast? := by
  rcases maximal with ⟨rfl, filled, -⟩
  rcases List.eq_nil_or_concat split with rfl | ⟨earlier, run, rfl⟩
  · rfl
  · obtain ⟨count, length⟩ := Nat.exists_eq_succ_of_ne_zero
      (Nat.ne_of_gt (filled run (by simp)))
    simp [runText, length, List.replicate_succ']

/-- A run of a character that the rest does not begin with is cut off as a whole. -/
theorem runs_replicate_append {character : Char} {count : Nat} (filled : 0 < count)
    (ends : back.head? ≠ some character) :
    runs (List.replicate count character ++ back) = (character, count) :: runs back := by
  induction count with
  | zero => exact absurd filled (Nat.lt_irrefl 0)
  | succ count ih =>
      rw [List.replicate_succ, List.cons_append, runs]
      cases count with
      | zero =>
          rw [List.replicate_zero, List.nil_append]
          cases back with
          | nil => rfl
          | cons first rest =>
              have first_ne : character ≠ first := fun same => ends (congrArg some same.symm)
              rcases found : runs (first :: rest) with _ | ⟨⟨symbol, length⟩, later⟩
              · rfl
              · have heads := (maximalRuns_runs (first :: rest)).head?
                rw [found] at heads
                obtain rfl := Option.some.inj heads
                exact if_neg first_ne
      | succ more =>
          rw [ih (Nat.succ_pos more)]
          exact if_pos rfl

/-- There is only one way to split a text into maximal runs. -/
theorem MaximalRuns.runs_eq (maximal : MaximalRuns text split) : runs text = split := by
  induction split generalizing text with
  | nil =>
      rw [← maximal.whole]
      rfl
  | cons run later ih =>
      have rest : MaximalRuns (later.flatMap runText) later :=
        ⟨rfl, fun run member => maximal.filled run (.tail _ member), maximal.apart.tail⟩
      have ends : (later.flatMap runText).head? ≠ some run.1 := by
        rw [← rest.head?]
        cases later with
        | nil => simp
        | cons next more =>
            have apart := (List.isChain_cons_cons.mp maximal.apart).1
            exact fun same => apart (Option.some.inj same).symm
      rw [← maximal.whole, List.flatMap_cons, runText,
        runs_replicate_append (maximal.filled run List.mem_cons_self) ends, ih rest]

/-- The runs of a text are its maximal runs and nothing else. -/
theorem runs_eq_iff : runs text = split ↔ MaximalRuns text split :=
  ⟨fun same => same ▸ maximalRuns_runs text, MaximalRuns.runs_eq⟩

/-- No run goes on from a text into the one behind it. -/
def RunsApart (front back : List Char) : Prop :=
  ∀ character ∈ front.getLast?, back.head? ≠ some character

/-- Runs are split text by text unless one run goes on in the second text. -/
theorem runs_append (apart : RunsApart front back) :
    runs (front ++ back) = runs front ++ runs back := by
  have first := maximalRuns_runs front
  have second := maximalRuns_runs back
  refine runs_eq_iff.mpr ⟨?_, ?_, ?_⟩
  · rw [List.flatMap_append, first.whole, second.whole]
  · exact List.forall_mem_append.mpr ⟨first.filled, second.filled⟩
  · refine List.isChain_append.mpr ⟨first.apart, second.apart, ?_⟩
    intro ending last beginning next same
    have lastCharacter : front.getLast? = some ending.1 := by
      rw [← first.getLast?, Option.mem_def.mp last]
      rfl
    have nextCharacter : back.head? = some beginning.1 := by
      rw [← second.head?, Option.mem_def.mp next]
      rfl
    exact apart _ lastCharacter (nextCharacter.trans (congrArg some same.symm))

/-! ## The grammar of runs -/

/-- A field of a date or a time. -/
inductive Field where
  | era
  | year
  | month
  | day
  | weekday
  | hour
  | minute
  | second
  | zone
deriving DecidableEq, Repr

namespace Field

/-- The fields. -/
def all : List Field :=
  [era, year, month, day, weekday, hour, minute, second, zone]

theorem mem_all (field : Field) : field ∈ all := by
  cases field <;> decide

/-- The letters that stand for a field. -/
def letters : Field → List Char
  | era => ['G']
  | year => ['y']
  | month => ['M', 'L']
  | day => ['d']
  | weekday => ['E', 'c']
  | hour => ['h', 'K', 'H', 'k', 'j']
  | minute => ['m']
  | second => ['s']
  | zone => ['z', 'v', 'O']

/-- The widths of a field for one letter, two letters and so on; a year may have any
number of letters. -/
def widths : Field → List FieldWidth
  | era | weekday => [.short, .short, .short, .long, .narrow]
  | year => []
  | month => [.numeric, .twoDigit, .short, .long, .narrow]
  | day | hour | minute | second => [.numeric, .twoDigit]
  | zone => [.short, .short, .short, .long]

/-- The width of a field that is asked for by a number of letters. -/
def width? (field : Field) (count : Nat) : Option FieldWidth :=
  if field = year then some (if count = 2 then .twoDigit else .numeric)
  else match count with
    | 0 => none
    | more + 1 => field.widths[more]?

/-- The width that an option set has for a field. -/
def get : Field → DateTimeOptions → Option FieldWidth
  | era => DateTimeOptions.era
  | year => DateTimeOptions.year
  | month => DateTimeOptions.month
  | day => DateTimeOptions.day
  | weekday => DateTimeOptions.weekday
  | hour => DateTimeOptions.hour
  | minute => DateTimeOptions.minute
  | second => DateTimeOptions.second
  | zone => DateTimeOptions.timeZoneName

/-- A field is taken from the upper options if they set it, and else from the lower ones.
-/
theorem get_overlay (field : Field) (lower upper : DateTimeOptions) :
    field.get (lower.overlay upper) = (field.get upper).or (field.get lower) := by
  cases field <;> rfl

end Field

/-- Whether a letter asks for a clock of twelve hours or of twenty-four. -/
def clock? (symbol : Char) : Option Bool :=
  if symbol ∈ ['h', 'K'] then some true
  else if symbol ∈ ['H', 'k'] then some false
  else none

/-- The runs that a skeleton may have. -/
def IsRun (run : Char × Nat) : Prop :=
  Text.isBlank run.1 = true ∨ run.1 = 'a' ∧ run.2 ≤ 5 ∨
    ∃ (field : Field) (width : FieldWidth), run.1 ∈ field.letters ∧ field.width? run.2 = some width

/-- What a letter of a field settles if it asks for a width. -/
def Field.settled (field : Field) (symbol : Char) (width : FieldWidth) : DateTimeOptions :=
  match field with
  | era => { era := some width }
  | year => { year := some width }
  | month => { month := some width }
  | day => { day := some width }
  | weekday => { weekday := some width }
  | hour => { hour := some width, hour12 := clock? symbol }
  | minute => { minute := some width }
  | second => { second := some width }
  | zone => { timeZoneName := some width }

variable {symbol : Char} {count : Nat} {settled : DateTimeOptions}

theorem Field.get_settled (field other : Field) (symbol : Char) (width : FieldWidth) :
    other.get (field.settled symbol width) = if other = field then some width else none := by
  cases field <;> cases other <;> rfl

/-- A letter stands for one field only. -/
theorem Field.eq_of_mem_letters {field other : Field}
    (here : symbol ∈ field.letters) (there : symbol ∈ other.letters) :
    field = other := by
  have apart : ∀ field ∈ all, ∀ other ∈ all,
      field = other ∨ field.letters.filter (other.letters.contains ·) = [] := by
    decide +kernel
  rcases apart field field.mem_all other other.mem_all with same | none
  · exact same
  · exact absurd (List.contains_iff_mem.mpr there) (List.filter_eq_nil_iff.mp none symbol here)

/-- A letter settles the clock exactly if it is one of a clock, whatever its width. -/
theorem Field.hour12_settled {field : Field} (letter : symbol ∈ field.letters)
    (width : FieldWidth) :
    (field.settled symbol width).hour12 = clock? symbol := by
  have noClock : ∀ field ∈ all, field = hour ∨ field.letters.filterMap clock? = [] := by
    decide +kernel
  rcases noClock field field.mem_all with rfl | none
  · rfl
  · rw [List.filterMap_eq_nil_iff.mp none symbol letter]
    cases field with
    | hour => cases none
    | _ => rfl

/-! ## One equation for each kind of run -/

/-- Blanks settle nothing. -/
theorem run?_blank (blank : Text.isBlank symbol = true) (count : Nat) :
    run? symbol count = some {} :=
  if_pos blank

theorem run?_dayPeriod (count : Nat) :
    run? 'a' count = if count ≤ 5 then some {} else none := rfl

theorem Field.width?_eq (field : Field) (count : Nat) :
    field.width? count =
      match field with
      | era | weekday => nameWidth? count
      | year => some (yearWidth count)
      | month => monthWidth? count
      | day | hour | minute | second => digitWidth? count
      | zone => zoneWidth? count := by
  cases field with
  | year => rfl
  | _ =>
      match count with
      | 0 | 1 | 2 | 3 | 4 | 5 | _ + 6 => rfl

/-- A letter settles the width of its field and the clock that it asks for, or nothing at
all. -/
theorem run?_letter {field : Field} (letter : symbol ∈ field.letters) (count : Nat) :
    run? symbol count = (field.width? count).map (field.settled symbol) := by
  rw [Field.width?_eq]
  cases field <;> simp only [Field.letters, List.mem_cons, List.not_mem_nil, or_false] at letter
  case hour => rcases letter with rfl | rfl | rfl | rfl | rfl <;> rfl
  case zone => rcases letter with rfl | rfl | rfl <;> rfl
  case month | weekday => rcases letter with rfl | rfl <;> rfl
  all_goals
    subst letter
    rfl

/-- A letter of no field is not accepted in any number. -/
theorem run?_other (solid : Text.isBlank symbol = false) (noPeriod : symbol ≠ 'a')
    (noLetter : ∀ field : Field, symbol ∉ field.letters) (count : Nat) :
    run? symbol count = none := by
  have none : ∀ field ∈ Field.all, symbol ∉ field.letters := fun field _ => noLetter field
  fun_cases run? symbol count with
  | case1 symbol blank =>
      rw [solid] at blank
      cases blank
  | case16 | case17 => exact absurd rfl noPeriod
  | case21 => rfl
  | _ => exact absurd none (by decide)

/-- What a run settles for each field, and for the clock. -/
theorem get_of_run? (read : run? symbol count = some settled) :
    (∀ field : Field,
      field.get settled = if symbol ∈ field.letters then field.width? count else none) ∧
      settled.hour12 = clock? symbol := by
  by_cases known : ∃ field : Field, symbol ∈ field.letters
  · rcases known with
      ⟨field, letter⟩
    rw [run?_letter letter] at read
    rcases Option.map_eq_some_iff.mp read with
      ⟨width, asked, rfl⟩
    refine ⟨fun other => ?_, Field.hour12_settled letter width⟩
    rw [Field.get_settled]
    by_cases same : other = field
    · subst same
      rw [if_pos rfl, if_pos letter, asked]
    · rw [if_neg same, if_neg fun there => same (Field.eq_of_mem_letters there letter)]
  · -- a run of no field settles nothing
    have noLetter := not_exists.mp known
    have nothing : settled = {} := by
      by_cases blank : Text.isBlank symbol = true
      · rw [run?_blank blank] at read
        exact (Option.some.inj read).symm
      by_cases period : symbol = 'a'
      · subst period
        rw [run?_dayPeriod] at read
        split at read
        case isTrue => exact (Option.some.inj read).symm
        case isFalse => cases read
      · rw [run?_other (Bool.eq_false_iff.mpr blank) period noLetter] at read
        cases read
    subst nothing
    refine ⟨fun field => ?_, ?_⟩
    · rw [if_neg (noLetter field)]
      cases field <;> rfl
    · have noClock : symbol ∉ Field.hour.letters := noLetter .hour
      simp only [Field.letters, List.mem_cons, List.not_mem_nil, or_false, not_or] at noClock
      simp [clock?, noClock]

/-- A run is accepted exactly if the grammar of runs has it. -/
theorem exists_run?_iff (symbol : Char) (count : Nat) :
    (∃ settled, run? symbol count = some settled) ↔ IsRun (symbol, count) := by
  constructor
  · rintro ⟨settled, read⟩
    by_cases blank : Text.isBlank symbol = true
    · exact Or.inl blank
    by_cases period : symbol = 'a'
    · subst period
      rw [run?_dayPeriod] at read
      split at read
      case isTrue short => exact Or.inr (Or.inl ⟨rfl, short⟩)
      case isFalse => cases read
    · by_contra refused
      have noLetter : ∀ field : Field, symbol ∉ field.letters := by
        intro field letter
        rw [run?_letter letter] at read
        rcases Option.map_eq_some_iff.mp read with
          ⟨width, asked, _⟩
        exact refused (Or.inr (Or.inr ⟨field, width, letter, asked⟩))
      rw [run?_other (Bool.eq_false_iff.mpr blank) period noLetter] at read
      cases read
  · rintro (blank | ⟨rfl, short⟩ | ⟨field, width, letter, asked⟩)
    · exact ⟨{}, run?_blank blank count⟩
    · exact ⟨{}, if_pos short⟩
    · exact ⟨field.settled symbol width, by rw [run?_letter letter, asked, Option.map_some]⟩

/-! ## All runs of a skeleton -/

/-- What a run settles, or the error that names it. -/
def settle : Char × Nat → Except Failure DateTimeOptions :=
  acceptBy (fun run => run? run.1 run.2) fun run => .invalidSkeleton (String.ofList (runText run))

variable {run : Char × Nat}

theorem settle_eq_ok_iff : settle run = .ok settled ↔ run? run.1 run.2 = some settled :=
  acceptBy_eq_ok_iff

theorem exists_settle_iff : (∃ settled, settle run = .ok settled) ↔ IsRun run :=
  (exists_congr fun _ => settle_eq_ok_iff).trans (exists_run?_iff run.1 run.2)

/-- A run that the grammar does not have is refused, and quoted. -/
theorem settle_eq_error_iff {error : Failure} :
    settle run = .error error ↔
      ¬ IsRun run ∧ error = .invalidSkeleton (String.ofList (runText run)) := by
  have unknown : run? run.1 run.2 = none ↔ ¬ IsRun run := by
    rw [← exists_settle_iff, Option.eq_none_iff_forall_ne_some, not_exists]
    exact forall_congr' fun _ => not_congr settle_eq_ok_iff.symm
  rw [← unknown]
  exact acceptBy_eq_error_iff

theorem readRuns_eq_layer (options : DateTimeOptions) (split : List (Char × Nat)) :
    readRuns options split = layer settle DateTimeOptions.overlay options split := by
  induction split generalizing options with
  | nil => rfl
  | cons run rest ih =>
      rw [readRuns.eq_def, layer_cons, settle, acceptBy]
      dsimp only
      generalize run? run.1 run.2 = settled?
      cases settled? with
      | none => rfl
      | some settled => exact ih (options.overlay settled)

/-- The runs of a skeleton, without the blanks around it and the colons before it. -/
def skeletonRuns (skeleton : String) : List (Char × Nat) :=
  runs (Text.dropPairs ':' ':' (Text.trim skeleton.toList))

/-- A skeleton is read by laying its runs over each other. -/
theorem read_eq_layer (skeleton : String) :
    read skeleton = layer settle DateTimeOptions.overlay {} (skeletonRuns skeleton) :=
  readRuns_eq_layer {} (skeletonRuns skeleton)

/-- What the runs of a text settle over given options. -/
def settleText (options : DateTimeOptions) (text : List Char) : Except Failure DateTimeOptions :=
  layer settle DateTimeOptions.overlay options (runs text)

variable {options : DateTimeOptions}

/-- Blanks change no options. -/
theorem settleText_blanks (blank : ∀ character ∈ text, Text.isBlank character = true) :
    settleText options text = .ok options := by
  have blankRuns : ∀ run ∈ runs text, settle run = .ok {} := by
    intro run member
    have maximal := maximalRuns_runs text
    have inside : run.1 ∈ text := by
      rw [← maximal.whole]
      exact List.mem_flatMap.mpr ⟨run, member,
        List.mem_replicate.mpr ⟨Nat.ne_of_gt (maximal.filled run member), rfl⟩⟩
    exact settle_eq_ok_iff.mpr (run?_blank (blank _ inside) run.2)
  rw [settleText]
  generalize runs text = split at blankRuns
  induction split with
  | nil => rfl
  | cons run rest ih =>
      rw [layer_cons, blankRuns run List.mem_cons_self, ok_bind, DateTimeOptions.overlay_open,
        ih fun run member => blankRuns run (.tail _ member)]

/-- Two texts whose runs are apart settle one behind the other. -/
theorem settleText_append (apart : RunsApart front back) :
    settleText options (front ++ back) =
      (settleText options front >>= fun more => settleText more back) := by
  rw [settleText, runs_append apart, layer_append]
  rfl

/-- Blanks at the end of a text whose last character is not blank. -/
theorem settleText_append_blanks {blanks : List Char}
    (blank : ∀ character ∈ blanks, Text.isBlank character = true)
    (solid : ∀ character ∈ text.getLast?, Text.isBlank character = false) :
    settleText options (text ++ blanks) = settleText options text := by
  have apart : RunsApart text blanks := by
    intro character last next
    have clash := blank character (List.mem_of_mem_head? next)
    rw [solid character last] at clash
    cases clash
  rw [settleText_append apart]
  rcases settleText options text with error | settled
  · rfl
  · exact settleText_blanks blank

theorem settleText_trimStart (text : List Char) :
    settleText options (Text.trimStart text) = settleText options text := by
  rcases Text.exists_blanks_append_trimStart text with
    ⟨blanks, blank, whole⟩
  have apart : RunsApart blanks (Text.trimStart text) := by
    intro character last next
    have clash := blank character (List.mem_of_mem_getLast? last)
    rw [Text.isBlank_of_mem_head?_trimStart next] at clash
    cases clash
  conv_rhs => rw [whole, settleText_append apart, settleText_blanks blank, ok_bind]

/-- Blanks at the end of a skeleton do not matter to what it settles. -/
theorem read_eq_settleText (skeleton : String) :
    read skeleton =
      settleText {} (Text.dropPairs ':' ':' (Text.trimStart skeleton.toList)) := by
  rcases Text.exists_trim_append_blanks skeleton.toList with
    ⟨blanks, blank, whole⟩
  have noColon : blanks.head? ≠ some ':' := by
    intro colon
    exact absurd (blank ':' (List.mem_of_mem_head? colon)) (by decide)
  rw [whole, Text.dropPairs_append (Or.inl noColon), settleText_append_blanks blank, read_eq_layer,
    skeletonRuns, settleText]
  intro character last
  exact Text.isBlank_of_mem_getLast?_trim
    (Text.mem_getLast?_of_suffix (Text.dropPairs_suffix ':' ':' _) last)

theorem RunsApart.suffix {ending : List Char} (apart : RunsApart front back)
    (suffix : ending <:+ front) :
    RunsApart ending back :=
  fun character last => apart character (Text.mem_getLast?_of_suffix suffix last)

/-- Two skeletons in a row settle what the second settles over what the first does, if no
run goes on from one into the other. -/
theorem read_append {first second : String}
    (noColons : ¬ [':', ':'] <+: Text.trim second.toList)
    (apart : RunsApart first.toList second.toList) :
    read (first ++ second) =
      (do
        let one ← read first
        let other ← read second
        .ok (one.overlay other)) := by
  have alone : read second = settleText {} second.toList := by
    rcases Text.exists_trim_append_blanks second.toList with
      ⟨blanks, blank, whole⟩
    rw [read_eq_layer, skeletonRuns, Text.dropPairs_eq_self noColons, ← settleText_trimStart, whole,
      settleText_append_blanks blank fun _ => Text.isBlank_of_mem_getLast?_trim, settleText]
  by_cases left : Text.trimStart first.toList = []
  · -- nothing but blanks stands before the second skeleton
    have blank := Text.trimStart_eq_nil_iff.mp left
    have none : read first = .ok {} := by
      rw [read_eq_settleText, left]
      rfl
    rw [none, ok_bind, read_eq_settleText (first ++ second), String.toList_append,
      Text.trimStart_blanks_append blank, ← read_eq_settleText]
    cases read second <;> simp
  · have pairsApart : second.toList.head? ≠ some ':' ∨
        Text.trimStart first.toList ≠ [] ∧
          (Text.trimStart first.toList).getLast? ≠ some ':' := by
      by_cases colon : second.toList.head? = some ':'
      · have ending := apart.suffix (Text.trimStart_suffix first.toList)
        exact Or.inr ⟨left, fun last => ending ':' last colon⟩
      · exact Or.inl colon
    have rest := apart.suffix
      ((Text.dropPairs_suffix ':' ':' _).trans (Text.trimStart_suffix first.toList))
    rw [read_eq_settleText (first ++ second), String.toList_append,
      Text.trimStart_append_of_ne_nil left, Text.dropPairs_append pairsApart, settleText,
      runs_append rest, layer_open_append, alone, read_eq_settleText first]
    rfl

/-- The width that a run asks for if its letter stands for a field. -/
def Field.widthIn? (field : Field) (run : Char × Nat) : Option FieldWidth :=
  if run.1 ∈ field.letters then field.width? run.2 else none

/-- The last run of a field decides its width, and the last run of a clock the clock. -/
theorem widths_of_read {skeleton : String} (accepted : read skeleton = .ok options) :
    (∀ field : Field,
      field.get options = (skeletonRuns skeleton).reverse.findSome? field.widthIn?) ∧
      options.hour12 =
        (skeletonRuns skeleton).reverse.findSome? fun run => clock? run.1 := by
  rw [read_eq_layer] at accepted
  constructor
  · intro field
    have last := option_of_layer field.get_overlay
      (fun _ _ read => (get_of_run? (settle_eq_ok_iff.mp read)).1 field) accepted
    have unset : field.get {} = none := by
      cases field <;> rfl
    rw [last, unset, Option.or_none]
    rfl
  · have last := option_of_layer (fun _ _ => rfl)
      (fun _ _ read => (get_of_run? (settle_eq_ok_iff.mp read)).2) accepted
    rw [last]
    exact Option.or_none

/-- A skeleton is cut into maximal runs, and accepted exactly if each of them is blank, a
day period, or asks for a width of a field; otherwise the first run that does not is
named.  Each field then has the width of the last run of one of its letters, and the last
letter that asks for a clock decides the clock.  What two skeletons in a row settle is
what the second settles over what the first settles, unless colons before the second
would count as text or a run goes on from one into the other. -/
theorem dateTime_runs_compose :
    (∀ skeleton,
      MaximalRuns (Text.dropPairs ':' ':' (Text.trim skeleton.toList)) (skeletonRuns skeleton)) ∧
    (∀ skeleton,
      (∃ options, read skeleton = .ok options) ↔ ∀ run ∈ skeletonRuns skeleton, IsRun run) ∧
    (∀ skeleton error,
      read skeleton = .error error ↔
        ∃ before run after, skeletonRuns skeleton = before ++ run :: after ∧
          (∀ earlier ∈ before, IsRun earlier) ∧ ¬ IsRun run ∧
            error = .invalidSkeleton (String.ofList (runText run))) ∧
    (∀ skeleton options, read skeleton = .ok options →
      (∀ field : Field,
        field.get options = (skeletonRuns skeleton).reverse.findSome? field.widthIn?) ∧
        options.hour12 =
          (skeletonRuns skeleton).reverse.findSome? fun run => clock? run.1) ∧
    (∀ first second : String, ¬ [':', ':'] <+: Text.trim second.toList →
      RunsApart first.toList second.toList →
        read (first ++ second) =
          (do
            let one ← read first
            let other ← read second
            .ok (one.overlay other))) := by
  refine ⟨?_, ?_, ?_, ?_, ?_⟩
  · exact fun skeleton => maximalRuns_runs _
  · intro skeleton
    simp only [read_eq_layer, exists_layer_eq_ok_iff, exists_settle_iff]
  · intro skeleton error
    simp only [read_eq_layer, layer_eq_error_iff, exists_settle_iff, settle_eq_error_iff]
  · exact fun skeleton options accepted => widths_of_read accepted
  · exact fun first second noColons apart => read_append noColons apart

/-- What `HHmm z` and `h ya` settle together. -/
def mixedClock : DateTimeOptions where
  year := some .numeric
  hour := some .numeric
  minute := some .twoDigit
  timeZoneName := some .short
  hour12 := some true

/-- Of two clocks the later decides, and the run of blanks between the texts is skipped. -/
theorem dateTime_runs_compose_mixedClock :
    ¬ [':', ':'] <+: Text.trim " h ya".toList ∧
      RunsApart "::HHmm z".toList " h ya".toList ∧
        read ("::HHmm z" ++ " h ya") = .ok mixedClock := by
  have noColons : ¬ [':', ':'] <+: Text.trim " h ya".toList := by
    decide +kernel
  have apart : RunsApart "::HHmm z".toList " h ya".toList := by
    intro character last next
    rw [Option.mem_def, show "::HHmm z".toList.getLast? = some 'z' by decide +kernel] at last
    rw [← last] at next
    exact absurd next (by decide +kernel)
  exact ⟨noColons, apart,
    (dateTime_runs_compose.2.2.2.2 _ _ noColons apart).trans (by decide +kernel)⟩

end DateTimeSkeleton

end IcuMessage
