import IcuMessage.Proofs.Evaluation.SameGathering
import IcuMessage.Proofs.Message.SpelledTags

/-!
# Evaluation of messages with their tags spelled out

Where no tag has an effect and tags are written out around their contents, a
message and the message with its tags spelled out have the same parts, or fail
alike (`Message.gatherIn_spelled`).
-/

namespace IcuMessage.Message

variable {environment : Environment} {pound : Option Float}

/-- A message is gathered node by node. -/
theorem gatherIn_eq_foldlM (message : Message) (gathered : Gathered) :
    message.gatherIn environment pound gathered =
      message.foldlM (fun gathered node => gatherIn [node] environment pound gathered) gathered := by
  induction message generalizing gathered with
  | nil =>
      rw [gatherIn_nil, List.foldlM_nil]
      rfl
  | cons node rest ih =>
      rw [gatherIn_cons, List.foldlM_cons]
      simp only [ih]

theorem mergesLiterals_gatherIn :
    MergesLiterals fun gathered node => gatherIn [node] environment pound gathered := by
  intro gathered first second
  simp [Gathered.addText_addText]

theorem gatherIn_joinLiterals (nodes : List Node) (gathered : Gathered) :
    (joinLiterals nodes).gatherIn environment pound gathered =
      gatherIn nodes environment pound gathered := by
  rw [gatherIn_eq_foldlM, foldlM_joinLiterals mergesLiterals_gatherIn, ← gatherIn_eq_foldlM]

/-- Literals may be joined in a message that is gathered like another one. -/
theorem GathersLike.joinLiterals
    {nodes : List Node}
    {message : Message}
    (alike : GathersLike environment nodes message) :
    GathersLike environment (joinLiterals nodes) message := by
  intro pound gathered
  rw [gatherIn_joinLiterals, alike]

/-- Where tags are written out, the text of a pair of tags may stand for it. -/
theorem GathersLike.spelledTag
    (written : environment.tags = {})
    (name : String)
    {nodes children : Message}
    (inside : GathersLike environment nodes children) :
    GathersLike environment
      (.literal (openingText name) :: (nodes ++ [.literal (closingText name)]))
      [.tag name children] := by
  intro pound gathered
  rw [gatherIn_literal, gatherIn_append, inside, gatherIn_eq_map_addAll, gatherIn_tag,
    Message.outcome_partsIn]
  cases children.gatherIn environment pound Gathered.empty with
  | error error => rfl
  | ok inner =>
      simp only [Except.map, ok_bind, gatherIn_literal, gatherIn_nil, written]
      rfl

/-- Where tags are written out, a message gathers what it gathers with its tags spelled
out. -/
theorem gathersSpelled
    (written : environment.tags = {})
    (message : Message) :
    GathersLike environment (spelledNodes message) message := by
  induction message using Message.induct with
  | nil =>
      rw [spelledNodes_nil]
      exact .refl []
  | literal text rest later =>
      rw [spelledNodes_cons, Node.spelledNodes]
      exact .cons (.refl _) later
  | argument name rest later =>
      rw [spelledNodes_cons, Node.spelledNodes]
      exact .cons (.refl _) later
  | formatted category name style rest later =>
      rw [spelledNodes_cons, Node.spelledNodes]
      exact .cons (.refl _) later
  | plural name rule offset branches rest inside later =>
      rw [spelledNodes_cons, Node.spelledNodes, spelledPluralBranches_eq_map]
      refine .cons (.plural name rule offset fun branch member => ?_) later
      exact (inside branch member).joinLiterals
  | select name branches rest inside later =>
      rw [spelledNodes_cons, Node.spelledNodes, spelledSelectBranches_eq_map]
      refine .cons (.select name fun branch member => ?_) later
      exact (inside branch member).joinLiterals
  | pound rest later =>
      rw [spelledNodes_cons, Node.spelledNodes]
      exact .cons (.refl _) later
  | tag name children rest inside later =>
      rw [spelledNodes_cons, Node.spelledNodes]
      exact .cons (.spelledTag written name inside) later

/-- Spelling out the tags of a message does not change what it is gathered as. -/
theorem gatherIn_spelled
    (written : environment.tags = {})
    (message : Message)
    (gathered : Gathered) :
    message.spelled.gatherIn environment pound gathered =
      message.gatherIn environment pound gathered :=
  (gathersSpelled written message).joinLiterals pound gathered

end IcuMessage.Message
