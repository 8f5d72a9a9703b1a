import IcuMessage.Style.Memo

/-!
# Validation

Validation walks through a message, all branches included, before it is ever
evaluated.  It fails at the first plural or select without a branch `other`
and at the first style that does not resolve; a branch that is missing comes
before anything inside the branches that are there.  On the way it collects
the option sets of the styles.
-/

namespace IcuMessage

mutual

/-- Check a node and resolve its styles. -/
def Node.validate (sheet : StyleSheet) : Node → StyleMemo → Except Failure StyleMemo
  | .literal _, memo | .argument _, memo | .pound, memo => .ok memo
  | .formatted category _ style, memo => memo.remember sheet category style
  | .plural name _ _ branches, memo =>
      if (branches.lookup PluralKey.other).isSome then
        validatePluralBranches sheet branches memo
      else .error (.missingOther name)
  | .select name branches, memo =>
      if (branches.lookup otherKey).isSome then
        validateSelectBranches sheet branches memo
      else .error (.missingOther name)
  | .tag _ children, memo => Message.validate sheet children memo

/-- Check a message and resolve its styles. -/
def Message.validate (sheet : StyleSheet) : Message → StyleMemo → Except Failure StyleMemo
  | [], memo => .ok memo
  | node :: rest, memo => do
      let further ← node.validate sheet memo
      Message.validate sheet rest further

/-- Check the branches of a plural and resolve their styles. -/
def validatePluralBranches (sheet : StyleSheet) :
    List (PluralKey × List Node) → StyleMemo → Except Failure StyleMemo
  | [], memo => .ok memo
  | (_, body) :: rest, memo => do
      let further ← Message.validate sheet body memo
      validatePluralBranches sheet rest further

/-- Check the branches of a select and resolve their styles. -/
def validateSelectBranches (sheet : StyleSheet) :
    List (String × List Node) → StyleMemo → Except Failure StyleMemo
  | [], memo => .ok memo
  | (_, body) :: rest, memo => do
      let further ← Message.validate sheet body memo
      validateSelectBranches sheet rest further

end

end IcuMessage
