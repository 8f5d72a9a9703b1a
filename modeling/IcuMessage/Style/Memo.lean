import IcuMessage.Style.Resolution

/-!
# Resolved styles

Styles are resolved once, when a formatter is built, and the option sets are
kept in a memo.  Numbers are kept by their style; dates and times also by
their category, because one style may resolve differently in the two.

A style that is not in the memo is resolved when it is asked for, so the memo
never changes an answer.
-/

namespace IcuMessage

/-- The option sets of the styles that have been resolved. -/
structure StyleMemo where
  numbers : List (Option Style × NumberOptions) := []
  dateTimes : List ((Category × Option Style) × DateTimeOptions) := []
deriving Repr, Inhabited

namespace StyleMemo

/-- The number of different styles in the memo. -/
def size (memo : StyleMemo) : Nat :=
  memo.numbers.length + memo.dateTimes.length

/-- Resolve a number style unless it is in the memo. -/
def rememberNumber (memo : StyleMemo) (sheet : StyleSheet) (style : Option Style) :
    Except Failure StyleMemo :=
  match memo.numbers.lookup style with
  | some _ => .ok memo
  | none => do
      let options ← sheet.resolveNumber style
      .ok { memo with numbers := (style, options) :: memo.numbers }

/-- Resolve a style of dates or times unless it is in the memo. -/
def rememberDateTime (memo : StyleMemo) (sheet : StyleSheet) (category : Category)
    (style : Option Style) : Except Failure StyleMemo :=
  match memo.dateTimes.lookup (category, style) with
  | some _ => .ok memo
  | none => do
      let options ← sheet.resolveDateTime category style
      .ok { memo with dateTimes := ((category, style), options) :: memo.dateTimes }

/-- Resolve a style unless it is in the memo. -/
def remember (memo : StyleMemo) (sheet : StyleSheet) (category : Category)
    (style : Option Style) : Except Failure StyleMemo :=
  match category with
  | .number => memo.rememberNumber sheet style
  | .date | .time => memo.rememberDateTime sheet category style

/-- The option set of a number style. -/
def numberSet (memo : StyleMemo) (sheet : StyleSheet) (style : Option Style) :
    Except Failure NumberOptions :=
  match memo.numbers.lookup style with
  | some options => .ok options
  | none => sheet.resolveNumber style

/-- The option set of a style of dates or times. -/
def dateTimeSet (memo : StyleMemo) (sheet : StyleSheet) (category : Category)
    (style : Option Style) : Except Failure DateTimeOptions :=
  match memo.dateTimes.lookup (category, style) with
  | some options => .ok options
  | none => sheet.resolveDateTime category style

@[simp]
theorem numberSet_empty (sheet : StyleSheet) (style : Option Style) :
    numberSet {} sheet style = sheet.resolveNumber style := rfl

@[simp]
theorem dateTimeSet_empty (sheet : StyleSheet) (category : Category)
    (style : Option Style) :
    dateTimeSet {} sheet category style = sheet.resolveDateTime category style := rfl

end StyleMemo

end IcuMessage
