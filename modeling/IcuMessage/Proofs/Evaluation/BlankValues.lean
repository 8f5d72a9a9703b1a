import IcuMessage.Proofs.Evaluation.Lookups
import IcuMessage.Proofs.Evaluation.SameGathering
import IcuMessage.Proofs.Message.Replacement

/-!
# Placeholders for blank values

A replacement of nodes by others that come to the same, whatever was gathered before, may
be carried out at every depth (`Message.gathersReplaced`).  A placeholder for `null` or
`false` comes to nothing, on whichever path it is evaluated, so it may be taken out
wherever it stands: the main statement is `blank_values_erase_placeholders`.
-/

namespace IcuMessage

namespace Message

variable {environment : Environment}

/-- Where every node may be exchanged, all of them may be, from the inside out. -/
theorem gathersReplaced
    {change : Node → List Node}
    (same : ∀ node, GathersLike environment (change node) [node])
    (message : Message) :
    GathersLike environment (message.replaced change) message := by
  induction message using Message.induct with
  | nil =>
      rw [replaced_nil]
      exact .refl []
  | literal text rest later =>
      rw [replaced_cons]
      exact .cons (same _) later
  | argument name rest later =>
      rw [replaced_cons]
      exact .cons (same _) later
  | formatted category name style rest later =>
      rw [replaced_cons]
      exact .cons (same _) later
  | plural name rule offset branches rest inside later =>
      rw [replaced_cons, Node.replaced, replacedPluralBranches_eq_map]
      exact .cons ((same _).trans (.plural name rule offset inside)) later
  | select name branches rest inside later =>
      rw [replaced_cons, Node.replaced, replacedSelectBranches_eq_map]
      exact .cons ((same _).trans (.select name inside)) later
  | pound rest later =>
      rw [replaced_cons]
      exact .cons (same _) later
  | tag name children rest inside later =>
      rw [replaced_cons, Node.replaced]
      exact .cons ((same _).trans (.tag name inside)) later

end Message

/-- A name is bound to `null` or to `false`. -/
def Environment.BindsBlank (environment : Environment) (name : String) : Prop :=
  environment.values.lookup name = some .null ∨
    environment.values.lookup name = some (.boolean false)

namespace Environment.BindsBlank

variable {environment : Environment} {name : String}

/-- The value of a name that is bound to `null` or `false` is blank. -/
theorem exists_blank (blank : environment.BindsBlank name) :
    ∃ value, environment.values.lookup name = some value ∧ value.isBlank = true := by
  rcases blank with bound | bound
  · exact ⟨.null, bound, rfl⟩
  · exact ⟨.boolean false, bound, rfl⟩

/-- A plain placeholder for a blank value gathers nothing. -/
theorem gathersLike_argument (blank : environment.BindsBlank name) :
    Message.GathersLike environment [] [.argument name] := by
  intro pound gathered
  rcases blank.exists_blank with
    ⟨value, bound, empty⟩
  have nothing : environment.gatherArgument value gathered = .ok gathered := if_pos empty
  rw [Message.gatherIn_argument, value_eq_ok_iff.mpr bound, ok_bind, nothing, ok_bind]

/-- A formatted placeholder for a blank value has no text, and its style is not even looked
at. -/
theorem formattedText_eq (blank : environment.BindsBlank name) (category : Category)
    (style : Option Style) :
    environment.formattedText category name style = .ok "" := by
  rcases blank.exists_blank with
    ⟨value, bound, empty⟩
  exact formattedText_eq_ok_iff.mpr ⟨value, bound, by rw [if_pos empty]⟩

/-- A formatted placeholder for a blank value gathers nothing. -/
theorem gathersLike_formatted (blank : environment.BindsBlank name) (category : Category)
    (style : Option Style) :
    Message.GathersLike environment [] [.formatted category name style] := by
  intro pound gathered
  rw [Message.gatherIn_formatted, blank.formattedText_eq, ok_bind, Gathered.addText_empty]

/-- A placeholder for a blank value may be left out. -/
theorem gathersLike_unlessPlaceholder (blank : environment.BindsBlank name) (node : Node) :
    Message.GathersLike environment (node.unlessPlaceholder name) [node] := by
  rw [Node.unlessPlaceholder]
  split
  case isFalse => exact .refl [node]
  case isTrue placed =>
    cases node with
    | argument other =>
        obtain rfl : other = name := by simpa [Node.isPlaceholder] using placed
        exact blank.gathersLike_argument
    | formatted category other style =>
        obtain rfl : other = name := by simpa [Node.isPlaceholder] using placed
        exact blank.gathersLike_formatted category style
    | literal text => cases placed
    | plural other rule offset branches => cases placed
    | select other branches => cases placed
    | pound => cases placed
    | tag tag children => cases placed

end Environment.BindsBlank

/-- Blank values erase their placeholders.  Where a name is bound to `null` or to `false`,
a message comes to the same parts, or fails alike, with the placeholders of the name taken
out at every depth, inside a plural or outside.  If only placeholders have the name, it is
not mentioned then. -/
theorem blank_values_erase_placeholders
    {environment : Environment}
    {name : String}
    (blank : environment.BindsBlank name)
    (message : Message) :
    (∀ pound,
      ((message.withoutPlaceholders name).partsIn environment pound).outcome =
        (message.partsIn environment pound).outcome) ∧
    (message.OnlyInPlaceholders name → ¬ (message.withoutPlaceholders name).Mentions name) := by
  have alike := Message.gathersReplaced blank.gathersLike_unlessPlaceholder message
  exact ⟨alike.outcome_partsIn, Message.OnlyInPlaceholders.not_mentions⟩

/-- Placeholders of one name in a message, in a tag with an effect and in a branch; there is
no style `odd`. -/
def badgeTree : Message :=
  [.literal "to ", .argument "badge", .literal "you",
    .tag "b" [.formatted .date "badge" none, .argument "icon", .argument "badge"],
    .select "kind"
      [("new", [.literal "!", .formatted .number "badge" (some (.named "odd")), .literal "!"]),
        (otherKey, [.formatted .time "badge" none])]]

/-- The name is bound to `false`, and the tag doubles what it contains. -/
def badgeEnvironment : Environment where
  provider := .locales
  locale := { base := { language := "en" } }
  sheet := {}
  styles := {}
  tags := { effects := [("b", fun parts => parts ++ parts)] }
  pattern := ""
  values := [("badge", .boolean false), ("icon", .rich "icon"), ("kind", .text "new")]

/-- Without its placeholders for `false`, `badgeTree` gives the same parts and no longer
mentions their name. -/
theorem blank_values_erase_placeholders_badgeTree :
    badgeEnvironment.BindsBlank "badge" ∧
      badgeTree.OnlyInPlaceholders "badge" ∧
      badgeTree.withoutPlaceholders "badge" =
        [.literal "to ", .literal "you", .tag "b" [.argument "icon"],
          .select "kind" [("new", [.literal "!", .literal "!"]), (otherKey, [])]] ∧
      ((badgeTree.withoutPlaceholders "badge").partsIn badgeEnvironment none).outcome =
        (badgeTree.partsIn badgeEnvironment none).outcome ∧
      ¬ (badgeTree.withoutPlaceholders "badge").Mentions "badge" ∧
      (badgeTree.partsIn badgeEnvironment none).outcome =
        .ok [.literal "to you", .argument (.rich "icon"), .argument (.rich "icon"),
          .literal "!!"] := by
  have blank : badgeEnvironment.BindsBlank "badge" := Or.inr rfl
  have placed : badgeTree.OnlyInPlaceholders "badge" := by
    have all : ∀ node ∈ badgeTree.walk,
        node.valueName? = some "badge" → node.isPlaceholder "badge" = true := by
      decide
    exact fun node contained => all node (Message.mem_walk_iff.mpr contained)
  have erased := blank_values_erase_placeholders blank badgeTree
  exact ⟨blank, placed, rfl, erased.1 none, erased.2 placed, rfl⟩

end IcuMessage
