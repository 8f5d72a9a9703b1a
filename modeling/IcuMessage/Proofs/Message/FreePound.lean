import IcuMessage.Proofs.Message.Induction

/-!
# Free number signs

A number sign is free in a message if no plural of the message stands around
it.  Selects and tags do not bind number signs.
-/

namespace IcuMessage.Message

/-- A number sign stands outside all plurals of the message. -/
inductive HasFreePound : Message → Prop where
  | here {rest : Message} : HasFreePound (.pound :: rest)
  | select {name : String} {branches : List (String × Message)} {rest : Message}
      {branch : String × Message}
      (member : branch ∈ branches)
      (inside : HasFreePound branch.2) :
      HasFreePound (.select name branches :: rest)
  | tag {name : String} {children rest : Message}
      (inside : HasFreePound children) :
      HasFreePound (.tag name children :: rest)
  | behind {node : Node} {rest : Message}
      (later : HasFreePound rest) :
      HasFreePound (node :: rest)

theorem not_hasFreePound_nil : ¬ HasFreePound [] := by
  intro free
  cases free

theorem hasFreePound_cons_iff
    {node : Node}
    {rest : Message} :
    HasFreePound (node :: rest) ↔ HasFreePound [node] ∨ HasFreePound rest := by
  constructor
  · intro free
    cases free with
    | here => exact Or.inl .here
    | select member inside => exact Or.inl (.select member inside)
    | tag inside => exact Or.inl (.tag inside)
    | behind later => exact Or.inr later
  · rintro (free | free)
    · cases free with
      | here => exact .here
      | select member inside => exact .select member inside
      | tag inside => exact .tag inside
      | behind later => exact absurd later not_hasFreePound_nil
    · exact .behind free

/-- A number sign is free in a message if it is free in one of its nodes. -/
theorem hasFreePound_iff_exists_mem {message : Message} :
    message.HasFreePound ↔ ∃ node ∈ message, HasFreePound [node] := by
  induction message with
  | nil => simp [not_hasFreePound_nil]
  | cons node rest ih =>
      rw [hasFreePound_cons_iff, ih]
      simp

theorem not_hasFreePound_literal (text : String) : ¬ HasFreePound [.literal text] := by
  intro free
  cases free with
  | behind later => exact not_hasFreePound_nil later

theorem not_hasFreePound_argument (name : String) : ¬ HasFreePound [.argument name] := by
  intro free
  cases free with
  | behind later => exact not_hasFreePound_nil later

theorem not_hasFreePound_formatted
    (category : Category)
    (name : String)
    (style : Option Style) :
    ¬ HasFreePound [.formatted category name style] := by
  intro free
  cases free with
  | behind later => exact not_hasFreePound_nil later

/-- A plural binds all number signs in its branches. -/
theorem not_hasFreePound_plural
    (name : String)
    (rule : PluralRule)
    (offset : Int64)
    (branches : List (PluralKey × Message)) :
    ¬ HasFreePound [.plural name rule offset branches] := by
  intro free
  cases free with
  | behind later => exact not_hasFreePound_nil later

/-- A select binds no number sign. -/
theorem hasFreePound_select_iff
    {name : String}
    {branches : List (String × Message)} :
    HasFreePound [.select name branches] ↔ ∃ branch ∈ branches, HasFreePound branch.2 := by
  constructor
  · intro free
    cases free with
    | select member inside => exact ⟨_, member, inside⟩
    | behind later => exact absurd later not_hasFreePound_nil
  · rintro ⟨branch, member, inside⟩
    exact .select member inside

/-- A tag binds no number sign. -/
theorem hasFreePound_tag_iff
    {name : String}
    {children : Message} :
    HasFreePound [.tag name children] ↔ HasFreePound children := by
  constructor
  · intro free
    cases free with
    | tag inside => exact inside
    | behind later => exact absurd later not_hasFreePound_nil
  · exact .tag

end IcuMessage.Message
