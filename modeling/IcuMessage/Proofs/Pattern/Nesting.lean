import IcuMessage.Pattern.Nest

/-!
# Nests and their texts

Nests nest through the children of blocks.  `Nest.induct` packages the nested
recursion once.

`Nested` says by rules how a text with balanced braces nests: no stretch is
empty or next to another one, and every offset is that of a first byte.  The
reader finds the nests that the rules give and no others
(`Nest.read_eq_ok_iff`).
-/

namespace IcuMessage

mutual

private theorem Nest.extend
    {motive : List Nest → Prop}
    (nil : motive [])
    (text : ∀ content offset rest, motive rest → motive (.text content offset :: rest))
    (block : ∀ children offset rest,
      motive children → motive rest → motive (.block children offset :: rest)) :
    (nest : Nest) → ∀ rest, motive rest → motive (nest :: rest)
  | .text content offset => text content offset
  | .block children offset => fun rest =>
      block children offset rest (Nest.all nil text block children)

private theorem Nest.all
    {motive : List Nest → Prop}
    (nil : motive [])
    (text : ∀ content offset rest, motive rest → motive (.text content offset :: rest))
    (block : ∀ children offset rest,
      motive children → motive rest → motive (.block children offset :: rest)) :
    (nests : List Nest) → motive nests
  | [] => nil
  | nest :: rest => Nest.extend nil text block nest rest (Nest.all nil text block rest)

end

/-- Induction on neighbouring nests from the last, with the nests inside each block. -/
@[elab_as_elim]
theorem Nest.induct
    {motive : List Nest → Prop}
    (nil : motive [])
    (text : ∀ content offset rest, motive rest → motive (.text content offset :: rest))
    (block : ∀ children offset rest,
      motive children → motive rest → motive (.block children offset :: rest))
    (nests : List Nest) :
    motive nests :=
  Nest.all nil text block nests

/-- The first of some nests is a stretch of text. -/
def Nest.StartWithText : List Nest → Prop
  | .text _ _ :: _ => True
  | _ => False

/-- The nests of a text from a byte offset on. -/
inductive Nested : Nat → List Char → List Nest → Prop where
  | nil {base : Nat} : Nested base [] []
  | text {base : Nat} {content rest : List Char} {nests : List Nest}
      (filled : content ≠ [])
      (noBrace : '{' ∉ content ∧ '}' ∉ content)
      (apart : ¬ Nest.StartWithText nests)
      (behind : Nested (base + Text.byteWidth content) rest nests) :
      Nested base (content ++ rest) (.text content base :: nests)
  | block {base : Nat} {inner rest : List Char} {children nests : List Nest}
      (inside : Nested (base + 1) inner children)
      (behind : Nested (base + 1 + Text.byteWidth inner + 1) rest nests) :
      Nested base ('{' :: (inner ++ '}' :: rest)) (.block children (base + 1) :: nests)

/-- A stretch without braces nests as itself. -/
theorem Nested.stretch
    {text : List Char}
    (filled : text ≠ [])
    (noBrace : '{' ∉ text ∧ '}' ∉ text)
    (base : Nat) :
    Nested base text [.text text base] := by
  have nested : Nested base (text ++ []) [.text text base] := .text filled noBrace id .nil
  rwa [List.append_nil] at nested

namespace Nest

variable
    {stack : List Opening}
    {current : List Nest}
    {pending : List Char}
    {start position : Nat}

/-- A text ends here, or with a brace. -/
def StartsWithBrace (text : List Char) : Prop :=
  text = [] ∨ ∃ rest, text = '{' :: rest ∨ text = '}' :: rest

/-- An opening brace is put on the stack with what was read before it. -/
theorem readFrom_opening (rest : List Char) :
    readFrom stack current pending start position ('{' :: rest) =
      readFrom (⟨position, ofPending pending start ++ current⟩ :: stack) [] []
        (position + 1) (position + 1) rest := by
  rw [readFrom.eq_def]
  rfl

/-- A closing brace makes a block of what was read since its opening brace. -/
theorem readFrom_closing (opening : Opening) (rest : List Char) :
    readFrom (opening :: stack) current pending start position ('}' :: rest) =
      readFrom stack
        (.block (ofPending pending start ++ current).reverse (opening.offset + 1) ::
          opening.before)
        [] (position + 1) (position + 1) rest := by
  rw [readFrom.eq_def]
  rfl

theorem readFrom_character
    {character : Char}
    (noOpening : character ≠ '{')
    (noClosing : character ≠ '}')
    (rest : List Char) :
    readFrom stack current pending start position (character :: rest) =
      readFrom stack current (character :: pending) start (position + character.utf8Size)
        rest := by
  rw [readFrom.eq_def]
  simp [noOpening, noClosing]

/-- A stretch is closed at the end of a text and at every brace. -/
theorem readFrom_settle
    {text : List Char}
    (brace : StartsWithBrace text) :
    readFrom stack current pending start position text =
      readFrom stack (ofPending pending start ++ current) [] position position text := by
  rcases brace with rfl | ⟨rest, rfl | rfl⟩
  · rw [readFrom.eq_def, readFrom.eq_def]
    rfl
  · rw [readFrom_opening, readFrom_opening]
    rfl
  · cases stack with
    | nil =>
        rw [readFrom.eq_def, readFrom.eq_def]
        rfl
    | cons opening outer =>
        rw [readFrom_closing, readFrom_closing]
        rfl

/-- A stretch without braces is pending as a whole. -/
theorem readFrom_plain
    {content : List Char}
    (noBrace : '{' ∉ content ∧ '}' ∉ content)
    (rest : List Char) :
    readFrom stack current pending start position (content ++ rest) =
      readFrom stack current (content.reverse ++ pending) start
        (position + Text.byteWidth content) rest := by
  induction content generalizing pending position with
  | nil => rfl
  | cons character content ih =>
      rcases noBrace with
        ⟨noOpening, noClosing⟩
      rw [List.mem_cons, not_or] at noOpening noClosing
      rw [List.cons_append, readFrom_character (Ne.symm noOpening.1) (Ne.symm noClosing.1),
        ih ⟨noOpening.2, noClosing.2⟩]
      simp [Nat.add_assoc]

theorem startsWithBrace_append
    {base : Nat}
    {text more : List Char}
    {nests : List Nest}
    (nested : Nested base text nests)
    (apart : ¬ StartWithText nests)
    (brace : StartsWithBrace more) :
    StartsWithBrace (text ++ more) := by
  cases nested with
  | nil => exact brace
  | text => exact absurd trivial apart
  | block => exact Or.inr ⟨_, Or.inl rfl⟩

/-- Nests are read one after the other up to the brace that closes them. -/
theorem readFrom_nested
    {base : Nat}
    {text more : List Char}
    {nests : List Nest}
    (nested : Nested base text nests)
    (brace : more = [] ∨ ∃ rest, more = '}' :: rest) :
    readFrom stack current [] base base (text ++ more) =
      readFrom stack (nests.reverse ++ current) [] (base + Text.byteWidth text)
        (base + Text.byteWidth text) more := by
  have closing : StartsWithBrace more := by
    rcases brace with rfl | ⟨rest, rfl⟩
    · exact Or.inl rfl
    · exact Or.inr ⟨rest, Or.inr rfl⟩
  induction nested generalizing stack current more with
  | nil => rfl
  | @text base content rest nests filled noBrace apart behind later =>
      have stretch : ofPending (content.reverse ++ []) base = [.text content base] := by
        simp [ofPending, filled]
      rw [List.append_assoc, readFrom_plain noBrace,
        readFrom_settle (startsWithBrace_append behind apart closing), stretch, later brace closing]
      simp [Nat.add_assoc]
  | @block base inner rest children nests inside behind innerHolds later =>
      have filled :
          readFrom (⟨base, current⟩ :: stack) [] [] (base + 1) (base + 1)
              (inner ++ '}' :: (rest ++ more)) =
            readFrom (⟨base, current⟩ :: stack) (children.reverse ++ []) []
              (base + 1 + Text.byteWidth inner) (base + 1 + Text.byteWidth inner)
              ('}' :: (rest ++ more)) :=
        innerHolds (Or.inr ⟨_, rfl⟩) (Or.inr ⟨_, Or.inr rfl⟩)
      rw [List.append_nil] at filled
      rw [List.cons_append, List.append_assoc, List.cons_append, readFrom_opening]
      change readFrom (⟨base, current⟩ :: stack) [] [] _ _ _ = _
      rw [filled, readFrom_closing, show ofPending [] _ ++ children.reverse = children.reverse from rfl,
        List.reverse_reverse, later brace closing]
      have width : base + Text.byteWidth ('{' :: (inner ++ '}' :: rest)) =
          base + 1 + Text.byteWidth inner + 1 + Text.byteWidth rest := by
        have one : ('{' : Char).utf8Size = 1 ∧ ('}' : Char).utf8Size = 1 := by decide
        simp only [Text.byteWidth_cons, Text.byteWidth_append, one]
        omega
      rw [width]
      simp

theorem read_of_nested
    {base : Nat}
    {text : List Char}
    {nests : List Nest}
    (nested : Nested base text nests) :
    Nest.read text base = .ok nests := by
  have consumed : readFrom [] [] [] base base (text ++ []) =
      readFrom [] (nests.reverse ++ []) [] (base + Text.byteWidth text)
        (base + Text.byteWidth text) [] :=
    readFrom_nested nested (Or.inl rfl)
  rw [List.append_nil, List.append_nil] at consumed
  rw [Nest.read, consumed, readFrom.eq_def]
  simp [ofPending]

/-- What stands behind a place inside open braces closes them, the innermost
first, and completes the nests of a text. -/
inductive Completes : List Opening → List Nest → Nat → List Char → List Nest → Prop where
  | last {current later : List Nest} {position : Nat} {text : List Char}
      (behind : Nested position text later) :
      Completes [] current position text (current.reverse ++ later)
  | closing {opening : Opening} {outer : List Opening} {current later nests : List Nest}
      {position : Nat} {inner rest : List Char}
      (inside : Nested position inner later)
      (behind : Completes outer
        (.block (current.reverse ++ later) (opening.offset + 1) :: opening.before)
        (position + Text.byteWidth inner + 1) rest nests) :
      Completes (opening :: outer) current position (inner ++ '}' :: rest) nests

/-- The nest before a place may as well be counted to what stands behind. -/
theorem Completes.cons
    {nests : List Nest}
    {nest : Nest}
    {front text : List Char}
    (width : position = start + Text.byteWidth front)
    (joins : ∀ rest later, rest <+: text → Nested position rest later →
      Nested start (front ++ rest) (nest :: later))
    (completes : Completes stack (nest :: current) position text nests) :
    Completes stack current start (front ++ text) nests := by
  subst width
  cases completes with
  | last behind =>
      rw [List.reverse_cons, List.append_assoc]
      exact .last (joins _ _ (List.prefix_refl _) behind)
  | @closing opening outer _ later _ _ inner rest inside behind =>
      have joined := joins _ _ (List.prefix_append inner _) inside
      rw [List.reverse_cons, List.append_assoc] at behind
      rw [← List.append_assoc]
      refine .closing joined ?_
      rwa [Text.byteWidth_append, ← Nat.add_assoc]

theorem not_startWithText_of_brace
    {base : Nat}
    {text rest : List Char}
    {nests : List Nest}
    (short : text <+: '{' :: rest)
    (nested : Nested base text nests) :
    ¬ StartWithText nests := by
  cases nested with
  | nil => exact id
  | block => exact id
  | @text _ content more _ filled noBrace =>
      cases content with
      | nil => exact absurd rfl filled
      | cons first content =>
          obtain ⟨same, _⟩ := List.cons_prefix_cons.mp short
          exact absurd (same ▸ List.mem_cons_self) noBrace.1

/-- A stretch that is still open nests as it stands. -/
theorem nested_ofPending
    (noBrace : '{' ∉ pending ∧ '}' ∉ pending)
    (start : Nat) :
    Nested start pending.reverse (ofPending pending start).reverse := by
  cases pending with
  | nil => exact .nil
  | cons last pending =>
      refine .stretch (by simp) ?_ start
      simpa only [List.mem_reverse] using noBrace

/-- What completes the nests inside an open brace gives the block. -/
theorem Completes.block
    {text : List Char}
    {nests : List Nest}
    (inside : Completes (⟨position, current⟩ :: stack) [] (position + 1) text nests) :
    Completes stack current position ('{' :: text) nests := by
  have one : ('{' : Char).utf8Size = 1 ∧ ('}' : Char).utf8Size = 1 := by decide
  cases inside with
  | @closing _ _ _ later _ _ inner rest within behind =>
      rw [show '{' :: (inner ++ '}' :: rest) = ('{' :: (inner ++ ['}'])) ++ rest by simp]
      refine behind.cons ?_ ?_
      · simp only [Text.byteWidth_cons, Text.byteWidth_append, Text.byteWidth_nil, one]
        omega
      · intro more nests _ nested
        rw [List.cons_append, List.append_assoc]
        exact .block within nested

/-- A stretch that is still open ends where a block starts. -/
theorem Completes.stretch
    {text : List Char}
    {nests : List Nest}
    (noBrace : '{' ∉ pending ∧ '}' ∉ pending)
    (width : position = start + Text.byteWidth pending.reverse)
    (completes : Completes stack (ofPending pending start ++ current) position ('{' :: text) nests) :
    Completes stack current start (pending.reverse ++ '{' :: text) nests := by
  cases pending with
  | nil => rwa [width] at completes
  | cons last pending =>
      refine completes.cons width ?_
      intro more nests short nested
      refine .text (by simp) ?_ (not_startWithText_of_brace short nested) ?_
      · simpa only [List.mem_reverse] using noBrace
      · rwa [← width]

/-- What the reader makes of a text completes what was begun before, by the rules. -/
theorem completes_of_readFrom
    {nests : List Nest}
    {text : List Char}
    (noBrace : '{' ∉ pending ∧ '}' ∉ pending)
    (width : position = start + Text.byteWidth pending.reverse)
    (read : readFrom stack current pending start position text = .ok nests) :
    Completes stack current start (pending.reverse ++ text) nests := by
  induction text generalizing stack current pending start position with
  | nil =>
      rw [readFrom.eq_def] at read
      cases stack with
      | nil =>
          cases read
          rw [List.append_nil, List.reverse_append]
          exact .last (nested_ofPending noBrace start)
      | cons opening outer => simp [List.getLast?_cons] at read
  | cons character rest ih =>
      by_cases opens : character = '{'
      · subst opens
        rw [readFrom_opening] at read
        have inside := ih (by simp) (by simp) read
        exact .stretch noBrace width (.block inside)
      · by_cases closes : character = '}'
        · subst closes
          cases stack with
          | nil =>
              rw [readFrom.eq_def] at read
              cases read
          | cons opening outer =>
              rw [readFrom_closing] at read
              have behind := ih (by simp) (by simp) read
              rw [List.reverse_append] at behind
              refine .closing (nested_ofPending noBrace start) ?_
              rwa [← width]
        · rw [readFrom_character opens closes] at read
          have later := ih ?_ ?_ read
          · simpa using later
          · simp [Ne.symm opens, Ne.symm closes, noBrace]
          · rw [width]
            simp [Nat.add_assoc]

/-- The reader of nests and the rules for nests agree. -/
theorem read_eq_ok_iff
    {base : Nat}
    {text : List Char}
    {nests : List Nest} :
    Nest.read text base = .ok nests ↔ Nested base text nests := by
  constructor
  · intro read
    have completes : Completes [] [] base ([].reverse ++ text) nests :=
      completes_of_readFrom (by simp) rfl read
    cases completes with
    | last behind => exact behind
  · exact read_of_nested

end Nest

end IcuMessage
