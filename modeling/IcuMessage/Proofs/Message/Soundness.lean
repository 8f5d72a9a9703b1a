import IcuMessage.Proofs.Message.Walk
import IcuMessage.Proofs.Style.Memo

/-!
# Sound messages

A node is sound if it is not a plural or select without a branch `other` and not a
placeholder with a style that does not resolve in its category.  Validation accepts the
messages all of whose nodes are sound, at every depth, and refuses any other one on
account of the first node on the walk that is not (`Message.validate_eq_ok_iff` and
`Message.validate_eq_error_iff`).  A style that is in the memo already makes no
difference: the memo is faithful all the way.
-/

namespace IcuMessage

/-- A plural or select has a branch `other`, and a style resolves in the category that
it is asked for. -/
def Node.Sound (sheet : StyleSheet) : Node → Prop
  | .formatted category _ style => sheet.check category style = .ok ()
  | .plural _ _ _ branches => ∃ body, (PluralKey.other, body) ∈ branches
  | .select _ branches => ∃ body, (otherKey, body) ∈ branches
  | .literal _ | .argument _ | .pound | .tag _ _ => True

/-- What is wrong with a node in itself. -/
inductive Node.Offends (sheet : StyleSheet) : Node → Failure → Prop where
  | formatted {category : Category} {name : String} {style : Option Style} {error : Failure}
      (refuses : sheet.check category style = .error error) :
      Offends sheet (.formatted category name style) error
  | plural {name : String} {rule : PluralRule} {offset : Int64}
      {branches : List (PluralKey × Message)}
      (noOther : ∀ body, (PluralKey.other, body) ∉ branches) :
      Offends sheet (.plural name rule offset branches) (.missingOther name)
  | select {name : String} {branches : List (String × Message)}
      (noOther : ∀ body, (otherKey, body) ∉ branches) :
      Offends sheet (.select name branches) (.missingOther name)

/-- All nodes of the message are sound, at every depth and in every branch. -/
def Message.Sound (sheet : StyleSheet) (message : Message) : Prop :=
  ∀ node, message.Contains node → node.Sound sheet

/-- The first of some nodes that is not sound is wrong in some way. -/
def FirstOffence (sheet : StyleSheet) (nodes : List Node) (error : Failure) : Prop :=
  ∃ before node after,
    nodes = before ++ node :: after ∧
      (∀ earlier ∈ before, earlier.Sound sheet) ∧ node.Offends sheet error

/-- The node is a placeholder that asks for a style in a category. -/
def Node.AsksFor (node : Node) (category : Category) (style : Option Style) : Prop :=
  ∃ name, node = .formatted category name style

section Steps

variable {sheet : StyleSheet} {memo : StyleMemo} {node : Node} {error : Failure}

theorem Table.isSome_lookup_iff
    {κ β : Type}
    [BEq κ]
    [LawfulBEq κ]
    {key : κ}
    {table : List (κ × β)} :
    (table.lookup key).isSome ↔ ∃ value, (key, value) ∈ table := by
  rw [List.lookup_isSome_iff]
  constructor
  · rintro ⟨⟨other, value⟩, member, same⟩
    cases eq_of_beq same
    exact ⟨value, member⟩
  · rintro ⟨value, member⟩
    exact ⟨_, member, BEq.rfl⟩

/-- A node that is not sound is wrong in some way. -/
theorem Node.sound_or_offends (sheet : StyleSheet) (node : Node) :
    node.Sound sheet ∨ ∃ error, node.Offends sheet error := by
  cases node with
  | formatted category name style =>
      cases checked : sheet.check category style with
      | ok value => exact Or.inl checked
      | error error => exact Or.inr ⟨error, .formatted checked⟩
  | plural name rule offset branches =>
      by_cases other : ∃ body, (PluralKey.other, body) ∈ branches
      · exact Or.inl other
      · exact Or.inr ⟨_, .plural (not_exists.mp other)⟩
  | select name branches =>
      by_cases other : ∃ body, (otherKey, body) ∈ branches
      · exact Or.inl other
      · exact Or.inr ⟨_, .select (not_exists.mp other)⟩
  | literal text => exact Or.inl trivial
  | argument name => exact Or.inl trivial
  | pound => exact Or.inl trivial
  | tag name children => exact Or.inl trivial

/-- A node that is wrong is refused, whatever the memo holds. -/
theorem Node.Offends.validateAlone
    (offends : node.Offends sheet error)
    (faithful : memo.Faithful sheet) :
    node.validateAlone sheet memo = .error error := by
  cases offends with
  | @formatted category name style _ refuses =>
      have step := faithful.remembered category style
      rw [Node.validateAlone]
      generalize memo.remember sheet category style = outcome at step
      cases step with
      | refused refusesToo =>
          rw [refuses] at refusesToo
          cases refusesToo
          rfl
      | kept resolves =>
          rw [refuses] at resolves
          cases resolves
  | plural noOther =>
      rw [Node.validateAlone, if_neg (mt Table.isSome_lookup_iff.mp (not_exists.mpr noOther))]
  | select noOther =>
      rw [Node.validateAlone, if_neg (mt Table.isSome_lookup_iff.mp (not_exists.mpr noOther))]

/-- A node that is sound is accepted, and the style that it may ask for is kept. -/
theorem Node.Sound.validateAlone
    (sound : node.Sound sheet)
    (faithful : memo.Faithful sheet) :
    ∃ later,
      node.validateAlone sheet memo = .ok later ∧
        later.Faithful sheet ∧
        ∀ asked, memo.Collects asked →
          later.Collects fun category style => asked category style ∨ node.AsksFor category style := by
  have unchanged
      (silent : ∀ category style, ¬ node.AsksFor category style)
      (asked : Category → Option Style → Prop)
      (collects : memo.Collects asked) :
      memo.Collects fun category style => asked category style ∨ node.AsksFor category style := by
    refine collects.congr fun category style => ?_
    rw [or_iff_left (silent category style)]
  cases node with
  | formatted category name style =>
      have resolves : sheet.check category style = .ok () := sound
      have step := faithful.remembered category style
      rw [Node.validateAlone]
      generalize memo.remember sheet category style = outcome at step
      cases step with
      | refused refuses =>
          rw [resolves] at refuses
          cases refuses
      | @kept later _ kept collects =>
          refine ⟨later, rfl, kept, fun asked before => ?_⟩
          refine (collects asked before).congr fun other otherStyle => or_congr_right ?_
          constructor
          · rintro ⟨rfl, rfl⟩
            exact ⟨name, rfl⟩
          · rintro ⟨_, same⟩
            cases same
            exact ⟨rfl, rfl⟩
  | plural name rule offset branches =>
      rw [Node.validateAlone, if_pos (Table.isSome_lookup_iff.mpr sound)]
      exact ⟨memo, rfl, faithful, unchanged (by simp [Node.AsksFor])⟩
  | select name branches =>
      rw [Node.validateAlone, if_pos (Table.isSome_lookup_iff.mpr sound)]
      exact ⟨memo, rfl, faithful, unchanged (by simp [Node.AsksFor])⟩
  | literal text => exact ⟨memo, rfl, faithful, unchanged (by simp [Node.AsksFor])⟩
  | argument name => exact ⟨memo, rfl, faithful, unchanged (by simp [Node.AsksFor])⟩
  | pound => exact ⟨memo, rfl, faithful, unchanged (by simp [Node.AsksFor])⟩
  | tag name children => exact ⟨memo, rfl, faithful, unchanged (by simp [Node.AsksFor])⟩

end Steps

/-! ## Runs -/

section Runs

variable {sheet : StyleSheet} {memo : StyleMemo} {nodes : List Node} {error : Failure}

/-- Nodes are sound, or there is a first one that offends. -/
theorem sound_or_firstOffence (sheet : StyleSheet) (nodes : List Node) :
    (∀ node ∈ nodes, node.Sound sheet) ∨ ∃ error, FirstOffence sheet nodes error := by
  induction nodes with
  | nil => exact Or.inl nofun
  | cons node rest ih =>
      rcases node.sound_or_offends sheet with sound | ⟨error, offends⟩
      · rcases ih with all | ⟨error, before, first, after, rfl, earlier, offends⟩
        · exact Or.inl (List.forall_mem_cons.mpr ⟨sound, all⟩)
        · refine Or.inr ⟨error, node :: before, first, after, rfl, ?_, offends⟩
          exact List.forall_mem_cons.mpr ⟨sound, earlier⟩
      · exact Or.inr ⟨error, [], node, rest, rfl, nofun, offends⟩

/-- Sound nodes are accepted, and the memo collects exactly what they ask for besides what
it had. -/
theorem validateAll_of_sound
    (sound : ∀ node ∈ nodes, node.Sound sheet)
    (faithful : memo.Faithful sheet) :
    ∃ later,
      validateAll sheet nodes memo = .ok later ∧
        later.Faithful sheet ∧
        ∀ asked, memo.Collects asked →
          later.Collects fun category style =>
            asked category style ∨ ∃ node ∈ nodes, node.AsksFor category style := by
  induction nodes generalizing memo with
  | nil =>
      refine ⟨memo, rfl, faithful, fun asked collects => collects.congr fun category style => ?_⟩
      simp
  | cons node rest ih =>
      rcases List.forall_mem_cons.mp sound with
        ⟨first, others⟩
      rcases first.validateAlone faithful with
        ⟨middle, accepted, kept, collects⟩
      rcases ih others kept with
        ⟨later, run, keptLater, collectsLater⟩
      refine ⟨later, ?_, keptLater, fun asked before => ?_⟩
      · rw [validateAll_cons, accepted, ok_bind, run]
      · refine (collectsLater _ (collects asked before)).congr fun category style => ?_
        simp only [List.mem_cons, exists_eq_or_imp, or_assoc]

/-- Nodes are refused for the first of them that offends. -/
theorem FirstOffence.validateAll
    (offence : FirstOffence sheet nodes error)
    (faithful : memo.Faithful sheet) :
    validateAll sheet nodes memo = .error error := by
  rcases offence with
    ⟨before, node, after, rfl, sound, offends⟩
  rcases validateAll_of_sound sound faithful with
    ⟨later, run, kept, _⟩
  rw [validateAll_append, run, ok_bind, validateAll_cons, offends.validateAlone kept, error_bind]

end Runs

namespace Message

variable {sheet : StyleSheet} {memo : StyleMemo} {message : Message} {error : Failure}

/-- A message is sound if every node on its walk is. -/
theorem sound_iff : message.Sound sheet ↔ ∀ node ∈ message.walk, node.Sound sheet := by
  simp only [Message.Sound, mem_walk_iff]

/-- From any faithful memo, the messages that are sound are accepted. -/
theorem validate_eq_ok_iff (faithful : memo.Faithful sheet) :
    (∃ later, message.validate sheet memo = .ok later) ↔ message.Sound sheet := by
  rw [sound_iff, validate_eq_validateAll_walk]
  constructor
  · rintro ⟨later, accepted⟩
    rcases sound_or_firstOffence sheet message.walk with sound | ⟨error, offence⟩
    · exact sound
    · rw [offence.validateAll faithful] at accepted
      cases accepted
  · intro sound
    rcases validateAll_of_sound sound faithful with
      ⟨later, accepted, _⟩
    exact ⟨later, accepted⟩

/-- From any faithful memo, a message is refused on account of the first node that is
not sound. -/
theorem validate_eq_error_iff (faithful : memo.Faithful sheet) :
    message.validate sheet memo = .error error ↔ FirstOffence sheet message.walk error := by
  rw [validate_eq_validateAll_walk]
  constructor
  · intro refused
    rcases sound_or_firstOffence sheet message.walk with sound | ⟨reported, offence⟩
    · rcases validateAll_of_sound sound faithful with
        ⟨later, accepted, _⟩
      rw [accepted] at refused
      cases refused
    · rw [offence.validateAll faithful] at refused
      cases refused
      exact offence
  · intro offence
    exact offence.validateAll faithful

/-- The styles of a message that validates are kept, each once. -/
theorem collects_of_validate
    {styles : StyleMemo}
    (accepted : message.validate sheet {} = .ok styles) :
    styles.Collects fun category style =>
      ∃ name, message.Contains (.formatted category name style) := by
  have faithful := StyleMemo.faithful_empty sheet
  have sound := sound_iff.mp ((validate_eq_ok_iff faithful).mp ⟨styles, accepted⟩)
  rcases validateAll_of_sound sound faithful with
    ⟨later, run, _, collects⟩
  rw [validate_eq_validateAll_walk, run] at accepted
  cases accepted
  refine (collects _ StyleMemo.collects_empty).congr fun category style => ?_
  rw [false_or]
  constructor
  · rintro ⟨_, passed, name, rfl⟩
    exact ⟨name, mem_walk_iff.mp passed⟩
  · rintro ⟨name, contained⟩
    exact ⟨_, mem_walk_iff.mpr contained, name, rfl⟩

end Message

end IcuMessage
