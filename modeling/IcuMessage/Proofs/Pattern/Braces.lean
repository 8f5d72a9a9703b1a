import IcuMessage.Proofs.Pattern.Nesting

/-!
# Braces and their partners

A word of braces is balanced if every brace in it has a partner.  A closing brace
closes nothing if no opening brace before it is followed by a balanced word only,
and an opening brace is never closed if no closing brace behind it is preceded by
one.

The reader of nests reports the first closing brace that closes nothing, or else
the first opening brace that is never closed, or else the braces are balanced
(`Nest.braceReport_read`).
-/

namespace IcuMessage

/-- The characters that nest. -/
def isBrace (character : Char) : Bool :=
  character == '{' || character == '}'

/-- The braces of a text. -/
def braces (text : List Char) : List Char :=
  text.filter isBrace

@[simp]
theorem braces_nil : braces [] = [] := rfl

@[simp]
theorem braces_opening (rest : List Char) : braces ('{' :: rest) = '{' :: braces rest := rfl

@[simp]
theorem braces_closing (rest : List Char) : braces ('}' :: rest) = '}' :: braces rest := rfl

@[simp]
theorem braces_append (front back : List Char) :
    braces (front ++ back) = braces front ++ braces back :=
  List.filter_append ..

theorem braces_eq_nil
    {text : List Char}
    (noBrace : '{' ∉ text ∧ '}' ∉ text) :
    braces text = [] := by
  rw [braces, List.filter_eq_nil_iff]
  intro character member brace
  rw [isBrace, Bool.or_eq_true, beq_iff_eq, beq_iff_eq] at brace
  rcases brace with rfl | rfl
  · exact noBrace.1 member
  · exact noBrace.2 member

/-- Every brace of a word has its partner in the word. -/
inductive Balanced : List Char → Prop where
  | nil : Balanced []
  | block {inner rest : List Char}
      (inside : Balanced inner)
      (behind : Balanced rest) :
      Balanced ('{' :: (inner ++ '}' :: rest))

/-- A closing brace behind the word has no partner in it. -/
def ClosesNothing (before : List Char) : Prop :=
  ∀ outer inner, before = outer ++ '{' :: inner → ¬ Balanced inner

/-- An opening brace before the word has no partner in it. -/
def NeverClosed (after : List Char) : Prop :=
  ∀ inner rest, after = inner ++ '}' :: rest → ¬ Balanced inner

theorem NeverClosed.of_append
    {front back : List Char}
    (never : NeverClosed (front ++ back)) :
    NeverClosed front := by
  rintro inner rest rfl
  exact never inner (rest ++ back) (by simp)

/-- All closing braces of a word have their partners in it. -/
inductive OnlyOpens : List Char → Prop where
  | balanced {word : List Char}
      (paired : Balanced word) :
      OnlyOpens word
  | opening {word rest : List Char}
      (paired : Balanced word)
      (later : OnlyOpens rest) :
      OnlyOpens (word ++ '{' :: rest)

/-- A character of two texts in a row stands in the first or in the second. -/
theorem split_append
    {α : Type}
    {first second front back : List α}
    {item : α}
    (same : first ++ second = front ++ item :: back) :
    (∃ more, first = front ++ item :: more ∧ back = more ++ second) ∨
      ∃ more, front = first ++ more ∧ second = more ++ item :: back := by
  rcases List.append_eq_append_iff.mp same with ⟨more, rfl, later⟩ | ⟨more, rfl, later⟩
  · exact Or.inr ⟨more, rfl, later⟩
  · cases more with
    | nil => exact Or.inr ⟨[], by simp, by simpa using later.symm⟩
    | cons head more =>
        rcases List.cons.inj later with
          ⟨rfl, rfl⟩
        exact Or.inl ⟨more, rfl, rfl⟩

namespace Balanced

variable {word front back : List Char}

/-- Balanced words in a row are balanced. -/
theorem append
    (first : Balanced front)
    (second : Balanced back) :
    Balanced (front ++ back) := by
  induction first with
  | nil => exact second
  | block inside behind _ ih =>
      rw [List.cons_append, List.append_assoc, List.cons_append]
      exact .block inside ih

/-- In a balanced word every closing brace has a partner before it. -/
theorem closing_partner
    (paired : Balanced (front ++ '}' :: back)) :
    ¬ ClosesNothing front := by
  generalize whole : front ++ '}' :: back = word at paired
  induction paired generalizing front back with
  | nil => simp at whole
  | @block inner rest inside behind insideHolds behindHolds =>
      rcases List.cons_eq_append_iff.mp whole.symm with ⟨_, other⟩ | ⟨front, rfl, tail⟩
      · cases other
      rcases split_append tail with ⟨more, rfl, _⟩ | ⟨more, rfl, later⟩
      · intro nothing
        refine insideHolds rfl fun outer last shape => nothing ('{' :: outer) last ?_
        rw [shape]
        rfl
      rcases List.cons_eq_append_iff.mp later with ⟨rfl, _⟩ | ⟨more, rfl, rfl⟩
      · intro nothing
        exact nothing [] inner (by simp) inside
      · intro nothing
        refine behindHolds rfl fun outer last shape => nothing ('{' :: inner ++ '}' :: outer) last ?_
        rw [shape]
        simp

/-- In a balanced word every opening brace has a partner behind it. -/
theorem opening_partner
    (paired : Balanced (front ++ '{' :: back)) :
    ¬ NeverClosed back := by
  generalize whole : front ++ '{' :: back = word at paired
  induction paired generalizing front back with
  | nil => simp at whole
  | @block inner rest inside behind insideHolds behindHolds =>
      rcases List.cons_eq_append_iff.mp whole.symm with ⟨_, first⟩ | ⟨front, rfl, tail⟩
      · cases first
        intro never
        exact never inner rest rfl inside
      rcases split_append tail with ⟨more, rfl, rfl⟩ | ⟨more, rfl, later⟩
      · intro never
        refine insideHolds rfl fun first later shape => never first (later ++ '}' :: rest) ?_
        rw [shape]
        simp
      rcases List.cons_eq_append_iff.mp later with ⟨_, other⟩ | ⟨more, rfl, rfl⟩
      · cases other
      · exact behindHolds rfl

/-- No opening brace is left open in a balanced word. -/
theorem closesNothing {word : List Char} (paired : Balanced word) : ClosesNothing word := by
  -- The partner of the brace left open would close a brace left open in a shorter word.
  rintro outer inner rfl insidePaired
  refine paired.opening_partner ?_
  rintro first later rfl firstPaired
  refine insidePaired.closing_partner ?_
  exact firstPaired.closesNothing
termination_by word.length
decreasing_by
  subst_vars
  simp
  omega

end Balanced

namespace OnlyOpens

variable {word front back : List Char}

theorem closing_partner
    (opens : OnlyOpens (front ++ '}' :: back)) :
    ¬ ClosesNothing front := by
  generalize whole : front ++ '}' :: back = word at opens
  induction opens generalizing front back with
  | balanced paired =>
      subst whole
      exact paired.closing_partner
  | @opening first rest paired later ih =>
      rcases split_append whole.symm with ⟨more, rfl, _⟩ | ⟨more, rfl, after⟩
      · exact paired.closing_partner
      rcases List.cons_eq_append_iff.mp after with ⟨_, other⟩ | ⟨more, rfl, rfl⟩
      · cases other
      · intro nothing
        refine ih rfl fun outer last shape => nothing (first ++ '{' :: outer) last ?_
        rw [shape]
        simp

theorem append
    (before : OnlyOpens front)
    (after : OnlyOpens back) :
    OnlyOpens (front ++ '{' :: back) := by
  induction before with
  | balanced paired => exact .opening paired after
  | opening paired _ ih =>
      rw [List.append_assoc, List.cons_append]
      exact .opening paired ih

/-- Such a word closes no brace before it. -/
theorem neverClosed (opens : OnlyOpens word) : NeverClosed word := by
  rintro inner rest rfl paired
  exact opens.closing_partner paired.closesNothing

end OnlyOpens

/-! ## What the reader of nests reports -/

/-- The open braces of a text, the innermost first, are at the given offsets. -/
inductive OpenAt (base : Nat) : List Char → List Nat → Prop where
  | none {text : List Char}
      (paired : Balanced (braces text)) :
      OpenAt base text []
  | opening {outer inner : List Char} {offsets : List Nat}
      (before : OpenAt base outer offsets)
      (paired : Balanced (braces inner)) :
      OpenAt base (outer ++ '{' :: inner) ((base + Text.byteWidth outer) :: offsets)

theorem OpenAt.append
    {base : Nat}
    {text more : List Char}
    {offsets : List Nat}
    (opened : OpenAt base text offsets)
    (paired : Balanced (braces more)) :
    OpenAt base (text ++ more) offsets := by
  cases opened with
  | none before =>
      refine .none ?_
      rw [braces_append]
      exact before.append paired
  | opening before inside =>
      rw [List.append_assoc, List.cons_append]
      refine .opening before ?_
      rw [braces_append]
      exact inside.append paired

/-- The innermost open brace is closed behind the text. -/
theorem OpenAt.close
    {base offset : Nat}
    {text : List Char}
    {offsets : List Nat}
    (opened : OpenAt base text (offset :: offsets)) :
    OpenAt base (text ++ ['}']) offsets := by
  cases opened with
  | @opening outer inner _ before inside =>
      rw [List.append_assoc]
      refine before.append ?_
      simp only [List.cons_append, braces_opening, braces_append, braces_closing, braces_nil]
      exact .block inside .nil

/-- The outermost open brace of a text is never closed in it. -/
theorem OpenAt.outermost
    {base outermost : Nat}
    {text : List Char}
    {offsets : List Nat}
    (opened : OpenAt base text offsets)
    (last : offsets.getLast? = some outermost) :
    ∃ front back,
      text = front ++ '{' :: back ∧ outermost = base + Text.byteWidth front ∧
        Balanced (braces front) ∧ OnlyOpens (braces back) := by
  induction opened with
  | none paired => cases last
  | @opening outer inner offsets before paired ih =>
      cases before with
      | none outerPaired =>
          cases last
          exact ⟨outer, inner, rfl, rfl, outerPaired, .balanced paired⟩
      | @opening farther between _ farBefore betweenPaired =>
          rw [List.getLast?_cons_cons] at last
          rcases ih last with
            ⟨front, back, same, width, frontPaired, opens⟩
          refine ⟨front, back ++ '{' :: inner, by rw [same]; simp, width, frontPaired, ?_⟩
          rw [braces_append, braces_opening]
          exact opens.append (.balanced paired)

/-- What the braces of a text are like, by the outcome of nesting it. -/
inductive BraceReport (base : Nat) (text : List Char) : Except PatternError (List Nest) → Prop where
  | balanced {nests : List Nest}
      (paired : Balanced (braces text)) :
      BraceReport base text (.ok nests)
  | unmatched {front back : List Char}
      (shape : text = front ++ '}' :: back)
      (before : Balanced (braces front)) :
      BraceReport base text (.error ⟨.unmatchedBrace, base + Text.byteWidth front⟩)
  | unclosed {front back : List Char}
      (shape : text = front ++ '{' :: back)
      (before : Balanced (braces front))
      (after : OnlyOpens (braces back)) :
      BraceReport base text (.error ⟨.unclosedBrace, base + Text.byteWidth front⟩)

namespace Nest

/-- The stack of the reader holds the open braces of the text that it has read. -/
theorem braceReport_readFrom
    {base : Nat}
    {done text : List Char}
    {stack : List Opening}
    {current : List Nest}
    {pending : List Char}
    {start : Nat}
    (opened : OpenAt base done (stack.map Opening.offset)) :
    BraceReport base (done ++ text)
      (readFrom stack current pending start (base + Text.byteWidth done) text) := by
  have one : ('{' : Char).utf8Size = 1 ∧ ('}' : Char).utf8Size = 1 := by decide
  induction text generalizing done stack current pending start with
  | nil =>
      rw [readFrom.eq_def, List.append_nil]
      cases last : stack.getLast? with
      | none =>
          rw [List.getLast?_eq_none_iff.mp last] at opened ⊢
          cases opened with
          | none paired => exact .balanced paired
      | some outermost =>
          have outer : (stack.map Opening.offset).getLast? = some outermost.offset := by
            rw [List.getLast?_map, last]
            rfl
          rcases opened.outermost outer with
            ⟨front, back, same, width, before, after⟩
          simp only [width]
          exact .unclosed same before after
  | cons character rest ih =>
      have behind : done ++ character :: rest = (done ++ [character]) ++ rest := by simp
      have width : base + Text.byteWidth done + character.utf8Size =
          base + Text.byteWidth (done ++ [character]) := by
        simp [Nat.add_assoc]
      by_cases opens : character = '{'
      · subst opens
        rw [one.1] at width
        rw [readFrom_opening, behind, width]
        exact ih (.opening opened .nil)
      · by_cases closes : character = '}'
        · subst closes
          cases stack with
          | nil =>
              rw [readFrom.eq_def]
              cases opened with
              | none paired => exact .unmatched rfl paired
          | cons innermost outer =>
              rw [one.2] at width
              rw [readFrom_closing, behind, width]
              exact ih opened.close
        · rw [readFrom_character opens closes, behind, width]
          refine ih (opened.append ?_)
          rw [braces_eq_nil (by simp [Ne.symm opens, Ne.symm closes])]
          exact .nil

/-- The reader of nests succeeds on balanced text, and else reports the first brace at
fault. -/
theorem braceReport_read (base : Nat) (text : List Char) :
    BraceReport base text (Nest.read text base) := by
  have opened : OpenAt base [] (([] : List Opening).map Opening.offset) := .none .nil
  exact braceReport_readFrom opened

/-- A brace of a text is reported where it stands. -/
def ReportsBrace (position : Nat) (text : List Char) (error : PatternError) : Prop :=
  ∃ front back,
    text = front ++ '{' :: back ∧ error = ⟨.unclosedBrace, position + Text.byteWidth front⟩ ∨
      text = front ++ '}' :: back ∧ error = ⟨.unmatchedBrace, position + Text.byteWidth front⟩

/-- A brace is reported at its own byte. -/
theorem reportsBrace_of_read
    {base : Nat}
    {text : List Char}
    {error : PatternError}
    (read : Nest.read text base = .error error) :
    ReportsBrace base text error := by
  have report := braceReport_read base text
  rw [read] at report
  cases report with
  | unmatched shape _ => exact ⟨_, _, Or.inr ⟨shape, rfl⟩⟩
  | unclosed shape _ _ => exact ⟨_, _, Or.inl ⟨shape, rfl⟩⟩

/-- A text nests if its braces are balanced. -/
theorem exists_read_of_balanced
    {text : List Char}
    (paired : Balanced (braces text))
    (base : Nat) :
    ∃ nests, Nest.read text base = .ok nests := by
  have report := braceReport_read base text
  generalize Nest.read text base = outcome at report ⊢
  cases report with
  | balanced => exact ⟨_, rfl⟩
  | unmatched shape before =>
      rw [shape, braces_append, braces_closing] at paired
      exact absurd before.closesNothing paired.closing_partner
  | unclosed shape before after =>
      rw [shape, braces_append, braces_opening] at paired
      exact absurd after.neverClosed paired.opening_partner

end Nest

end IcuMessage
