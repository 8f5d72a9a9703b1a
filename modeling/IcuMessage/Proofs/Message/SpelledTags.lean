import IcuMessage.Proofs.Message.Induction
import IcuMessage.Proofs.Message.JoinedLiterals

/-!
# Messages with their tags spelled out

Spelling out the tags of a message puts the text of an opening and a closing
tag in place of each pair of tags, at every depth, and joins the literals that
meet.
-/

namespace IcuMessage

/-- The text of an opening tag. -/
def openingText (name : String) : String :=
  "<" ++ name ++ ">"

/-- The text of a closing tag. -/
def closingText (name : String) : String :=
  "</" ++ name ++ ">"

mutual

/-- The nodes that stand for a node when tags are spelled out. -/
def Node.spelledNodes : Node → List Node
  | .literal text => [.literal text]
  | .argument name => [.argument name]
  | .formatted category name style => [.formatted category name style]
  | .plural name rule offset branches =>
      [.plural name rule offset (spelledPluralBranches branches)]
  | .select name branches => [.select name (spelledSelectBranches branches)]
  | .pound => [.pound]
  | .tag name children =>
      .literal (openingText name) ::
        (Message.spelledNodes children ++ [.literal (closingText name)])

/-- The nodes that stand for those of a message when tags are spelled out. -/
def Message.spelledNodes : Message → List Node
  | [] => []
  | node :: rest => node.spelledNodes ++ Message.spelledNodes rest

/-- The branches of a plural with their tags spelled out. -/
def spelledPluralBranches : List (PluralKey × List Node) → List (PluralKey × List Node)
  | [] => []
  | (key, body) :: rest =>
      (key, joinLiterals (Message.spelledNodes body)) :: spelledPluralBranches rest

/-- The branches of a select with their tags spelled out. -/
def spelledSelectBranches : List (String × List Node) → List (String × List Node)
  | [] => []
  | (key, body) :: rest =>
      (key, joinLiterals (Message.spelledNodes body)) :: spelledSelectBranches rest

end

/-- A message with its tags spelled out. -/
def Message.spelled (message : Message) : Message :=
  joinLiterals (Message.spelledNodes message)

/-- Tags are spelled out in every branch of a plural, and its keys stay. -/
theorem spelledPluralBranches_eq_map (branches : List (PluralKey × Message)) :
    spelledPluralBranches branches =
      branches.map fun branch => (branch.1, Message.spelled branch.2) := by
  induction branches with
  | nil => rw [spelledPluralBranches, List.map_nil]
  | cons branch rest ih =>
      rw [spelledPluralBranches, ih, List.map_cons]
      rfl

theorem spelledSelectBranches_eq_map (branches : List (String × Message)) :
    spelledSelectBranches branches =
      branches.map fun branch => (branch.1, Message.spelled branch.2) := by
  induction branches with
  | nil => rw [spelledSelectBranches, List.map_nil]
  | cons branch rest ih =>
      rw [spelledSelectBranches, ih, List.map_cons]
      rfl

namespace Message

@[simp]
theorem spelledNodes_nil : spelledNodes [] = [] := by
  rw [spelledNodes]

@[simp]
theorem spelledNodes_cons (node : Node) (rest : Message) :
    spelledNodes (node :: rest) = node.spelledNodes ++ spelledNodes rest := by
  rw [spelledNodes]

@[simp]
theorem spelledNodes_append (front back : Message) :
    spelledNodes (front ++ back) = spelledNodes front ++ spelledNodes back := by
  induction front with
  | nil => simp
  | cons node rest ih => simp [ih]

end Message

/-- Literals may be joined before tags are spelled out. -/
theorem alike_spelledNodes_appendNode (node : Node) (before : List Node) :
    Alike (Message.spelledNodes (appendNode node before).reverse)
      (Message.spelledNodes before.reverse ++ node.spelledNodes) := by
  have plain :
      Message.spelledNodes (node :: before).reverse =
        Message.spelledNodes before.reverse ++ node.spelledNodes := by
    simp
  unfold appendNode
  split
  case h_1 last rest =>
    split
    case h_1 text =>
      simp only [List.reverse_cons, Message.spelledNodes_append, Message.spelledNodes_cons,
        Message.spelledNodes_nil, List.append_nil, List.append_assoc, Node.spelledNodes]
      exact .append (.refl _) (alike_literal_literal last text).symm
    case h_2 =>
      rw [plain]
      exact .refl _
  case h_2 =>
    rw [plain]
    exact .refl _

end IcuMessage
