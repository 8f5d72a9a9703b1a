import IcuMessage.Proofs.Pattern.PrintedArguments

/-!
# The text of printed messages

The notation of a message is taken apart at its first node.  The options of
plurals and selects are printed alike, once their keys are.
-/

namespace IcuMessage

/-- The notation of options, each a key and a block. -/
def optionsText : List (String × Message) → List Char
  | [] => []
  | (key, body) :: rest =>
      keyText key ++ '{' :: (body.print.toList ++ '}' :: optionsText rest)

/-- The branches of a plural, with their keys as they are written. -/
def writtenBranches (branches : List (PluralKey × Message)) : List (String × Message) :=
  branches.map fun branch => (branch.1.write, branch.2)

theorem toList_printSelectBranches (branches : List (String × Message)) :
    (printSelectBranches branches).toList = optionsText branches := by
  induction branches with
  | nil => rfl
  | cons branch rest ih =>
      show (" " ++ branch.1 ++ " \x7b" ++ branch.2.print ++ "\x7d" ++
        printSelectBranches rest).toList = _
      simp [optionsText, keyText, ih]

/-- Plural branches are printed as options with the texts of their keys. -/
theorem toList_printPluralBranches (branches : List (PluralKey × Message)) :
    (printPluralBranches branches).toList = optionsText (writtenBranches branches) := by
  induction branches with
  | nil => rfl
  | cons branch rest ih =>
      rw [writtenBranches] at ih
      show (" " ++ branch.1.write ++ " \x7b" ++ branch.2.print ++ "\x7d" ++
        printPluralBranches rest).toList = _
      simp [writtenBranches, optionsText, keyText, ih]

namespace Message

variable (rest : Message)

theorem toList_print_nil : (print []).toList = [] := rfl

theorem toList_print_literal (text : String) :
    (print (.literal text :: rest)).toList =
      text.toList.flatMap escapeCharacter ++ (print rest).toList := by
  show (escape text ++ print rest).toList = _
  simp [escape]

theorem toList_print_argument (name : String) :
    (print (.argument name :: rest)).toList =
      '{' :: (name.toList ++ '}' :: (print rest).toList) := by
  show ("\x7b" ++ name ++ "\x7d" ++ print rest).toList = _
  simp

theorem toList_print_formatted
    (category : Category)
    (name : String)
    (style : Option Style) :
    (print (.formatted category name style :: rest)).toList =
      '{' :: (name.toList ++ ',' :: ' ' ::
        (category.word.toList ++ (printStyle style).toList) ++ '}' :: (print rest).toList) := by
  show ("\x7b" ++ name ++ ", " ++ category.word ++ printStyle style ++ "\x7d" ++
    print rest).toList = _
  simp

/-- A plural is printed as a block with its offset and its branches as options. -/
theorem toList_print_plural
    (name : String)
    (rule : PluralRule)
    (offset : Int64)
    (branches : List (PluralKey × Message)) :
    (print (.plural name rule offset branches :: rest)).toList =
      '{' :: (name.toList ++ ',' :: ' ' :: (rule.word.toList ++ ',' ::
        ((printOffset offset).toList ++ optionsText (writtenBranches branches))) ++
          '}' :: (print rest).toList) := by
  show ("\x7b" ++ name ++ ", " ++ rule.word ++ "," ++ printOffset offset ++
    printPluralBranches branches ++ "\x7d" ++ print rest).toList = _
  simp [toList_printPluralBranches]

theorem toList_print_select
    (name : String)
    (branches : List (String × Message)) :
    (print (.select name branches :: rest)).toList =
      '{' :: (name.toList ++ ',' :: ' ' :: ("select".toList ++ ',' :: optionsText branches) ++
        '}' :: (print rest).toList) := by
  show ("\x7b" ++ name ++ ", select," ++ printSelectBranches branches ++ "\x7d" ++
    print rest).toList = _
  simp [toList_printSelectBranches]

theorem toList_print_pound :
    (print (.pound :: rest)).toList = ['#'] ++ (print rest).toList := by
  show ("#" ++ print rest).toList = _
  simp

theorem toList_print_tag
    (name : String)
    (children : Message) :
    (print (.tag name children :: rest)).toList =
      (Tag.mk false name.toList).source ++
        ((print children).toList ++
          ((Tag.mk true name.toList).source ++ (print rest).toList)) := by
  show ("<" ++ name ++ ">" ++ print children ++ "</" ++ name ++ ">" ++ print rest).toList = _
  simp [Tag.source]

end Message

end IcuMessage
