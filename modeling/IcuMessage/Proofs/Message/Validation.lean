import IcuMessage.Message.Validation
import IcuMessage.Proofs.Message.Induction
import IcuMessage.Proofs.Outcome

/-!
# What validation establishes

`Message.Ready` says of a message that every style in it is held by a memo and
that every plural and select in it has a branch `other`, at every depth.  A
memo only grows during validation, so what was ready stays ready, and a message
that validates is ready for the memo that validation returns
(`Message.ready_of_validate`).
-/

namespace IcuMessage

namespace StyleMemo

/-- The option set of a style in a category is in the memo. -/
def Holds (memo : StyleMemo) : Category → Option Style → Prop
  | .number, style => (memo.numbers.lookup style).isSome
  | .date, style => (memo.dateTimes.lookup (.date, style)).isSome
  | .time, style => (memo.dateTimes.lookup (.time, style)).isSome

/-- A memo holds all that an earlier one held. -/
def Extends (later earlier : StyleMemo) : Prop :=
  ∀ category style, earlier.Holds category style → later.Holds category style

theorem Extends.refl (memo : StyleMemo) : memo.Extends memo :=
  fun _ _ held => held

theorem Extends.trans
    {first second third : StyleMemo}
    (outer : third.Extends second)
    (inner : second.Extends first) :
    third.Extends first :=
  fun category style held => outer category style (inner category style held)

private theorem isSome_lookup_cons
    {κ β : Type}
    [BEq κ]
    {key : κ}
    (head : κ)
    (value : β)
    {table : List (κ × β)}
    (found : (table.lookup key).isSome) :
    (((head, value) :: table).lookup key).isSome := by
  rw [List.lookup_cons]
  cases key == head with
  | true => rfl
  | false => exact found

/-- Remembering a number style keeps what was held, and holds the style. -/
theorem rememberNumber_spec
    {memo later : StyleMemo}
    {sheet : StyleSheet}
    {style : Option Style}
    (remembered : memo.rememberNumber sheet style = .ok later) :
    later.Extends memo ∧ later.Holds .number style := by
  rw [rememberNumber] at remembered
  split at remembered
  case h_1 options found =>
    cases remembered
    exact ⟨Extends.refl memo, by simp [Holds, found]⟩
  case h_2 =>
    rcases bind_eq_ok_iff.mp remembered with
      ⟨options, _, same⟩
    cases same
    constructor
    · intro category other held
      cases category with
      | number => exact isSome_lookup_cons _ _ held
      | date => exact held
      | time => exact held
    · simp [Holds]

theorem rememberDateTime_spec
    {memo later : StyleMemo}
    {sheet : StyleSheet}
    {category : Category}
    {style : Option Style}
    (remembered : memo.rememberDateTime sheet category style = .ok later) :
    later.Extends memo ∧ (later.dateTimes.lookup (category, style)).isSome := by
  rw [rememberDateTime] at remembered
  split at remembered
  case h_1 options found =>
    cases remembered
    exact ⟨Extends.refl memo, by simp [found]⟩
  case h_2 =>
    rcases bind_eq_ok_iff.mp remembered with
      ⟨options, _, same⟩
    cases same
    constructor
    · intro other otherStyle held
      cases other with
      | number => exact held
      | date => exact isSome_lookup_cons _ _ held
      | time => exact isSome_lookup_cons _ _ held
    · simp

/-- A style that is remembered is held, and nothing is forgotten. -/
theorem remember_spec
    {memo later : StyleMemo}
    {sheet : StyleSheet}
    {category : Category}
    {style : Option Style}
    (remembered : memo.remember sheet category style = .ok later) :
    later.Extends memo ∧ later.Holds category style := by
  cases category with
  | number => exact rememberNumber_spec remembered
  | date => exact rememberDateTime_spec remembered
  | time => exact rememberDateTime_spec remembered

end StyleMemo

/-- A message asks for no style that the memo does not hold, and every plural
and select in it has a branch `other`. -/
inductive Message.Ready (memo : StyleMemo) : Message → Prop where
  | nil : Ready memo []
  | literal {text : String} {rest : Message}
      (later : Ready memo rest) :
      Ready memo (.literal text :: rest)
  | argument {name : String} {rest : Message}
      (later : Ready memo rest) :
      Ready memo (.argument name :: rest)
  | formatted {category : Category} {name : String} {style : Option Style} {rest : Message}
      (held : memo.Holds category style)
      (later : Ready memo rest) :
      Ready memo (.formatted category name style :: rest)
  | plural {name : String} {rule : PluralRule} {offset : Int64}
      {branches : List (PluralKey × Message)} {rest : Message}
      (other : (branches.lookup .other).isSome)
      (inside : ∀ branch ∈ branches, Ready memo branch.2)
      (later : Ready memo rest) :
      Ready memo (.plural name rule offset branches :: rest)
  | select {name : String} {branches : List (String × Message)} {rest : Message}
      (other : (branches.lookup otherKey).isSome)
      (inside : ∀ branch ∈ branches, Ready memo branch.2)
      (later : Ready memo rest) :
      Ready memo (.select name branches :: rest)
  | pound {rest : Message}
      (later : Ready memo rest) :
      Ready memo (.pound :: rest)
  | tag {name : String} {children rest : Message}
      (inside : Ready memo children)
      (later : Ready memo rest) :
      Ready memo (.tag name children :: rest)

/-- A message stays ready when the memo grows. -/
theorem Message.Ready.mono
    {earlier later : StyleMemo}
    (grown : later.Extends earlier)
    {message : Message}
    (ready : message.Ready earlier) :
    message.Ready later := by
  induction ready with
  | nil => exact .nil
  | literal _ tail => exact .literal tail
  | argument _ tail => exact .argument tail
  | formatted held _ tail => exact .formatted (grown _ _ held) tail
  | plural other _ _ bodies tail => exact .plural other bodies tail
  | select other _ _ bodies tail => exact .select other bodies tail
  | pound _ tail => exact .pound tail
  | tag _ _ children tail => exact .tag children tail

theorem Message.Ready.cons
    {memo : StyleMemo}
    {node : Node}
    {rest : Message}
    (first : Message.Ready memo [node])
    (later : Message.Ready memo rest) :
    Message.Ready memo (node :: rest) := by
  cases first with
  | literal => exact .literal later
  | argument => exact .argument later
  | formatted held => exact .formatted held later
  | plural other inside => exact .plural other inside later
  | select other inside => exact .select other inside later
  | pound => exact .pound later
  | tag inside => exact .tag inside later

theorem validatePluralBranches_eq_foldlM
    (sheet : StyleSheet)
    (branches : List (PluralKey × Message))
    (memo : StyleMemo) :
    validatePluralBranches sheet branches memo =
      branches.foldlM (fun memo branch => Message.validate sheet branch.2 memo) memo := by
  induction branches generalizing memo with
  | nil =>
      rw [validatePluralBranches]
      rfl
  | cons branch rest ih =>
      rw [validatePluralBranches, List.foldlM_cons]
      simp only [ih]

theorem validateSelectBranches_eq_foldlM
    (sheet : StyleSheet)
    (branches : List (String × Message))
    (memo : StyleMemo) :
    validateSelectBranches sheet branches memo =
      branches.foldlM (fun memo branch => Message.validate sheet branch.2 memo) memo := by
  induction branches generalizing memo with
  | nil =>
      rw [validateSelectBranches]
      rfl
  | cons branch rest ih =>
      rw [validateSelectBranches, List.foldlM_cons]
      simp only [ih]

/-- Validation makes a message ready for the memo that it returns. -/
def Message.MadeReady (sheet : StyleSheet) (message : Message) : Prop :=
  ∀ memo later, message.validate sheet memo = .ok later →
    later.Extends memo ∧ message.Ready later

/-- Going through branches one by one makes them all ready. -/
theorem Message.MadeReady.branches
    {sheet : StyleSheet}
    {κ : Type}
    {branches : List (κ × Message)}
    (inside : ∀ branch ∈ branches, branch.2.MadeReady sheet)
    {memo later : StyleMemo}
    (valid :
      branches.foldlM (fun memo branch => Message.validate sheet branch.2 memo) memo =
        .ok later) :
    later.Extends memo ∧ ∀ branch ∈ branches, branch.2.Ready later := by
  induction branches generalizing memo with
  | nil =>
      cases valid
      exact ⟨StyleMemo.Extends.refl _, by simp⟩
  | cons branch rest ih =>
      rw [List.foldlM_cons] at valid
      rcases bind_eq_ok_iff.mp valid with
        ⟨middle, first, behind⟩
      rcases inside branch (by simp) memo middle first with
        ⟨firstGrown, firstReady⟩
      obtain ⟨grown, ready⟩ :=
        ih (fun branch member => inside branch (List.mem_cons_of_mem _ member)) behind
      refine ⟨grown.trans firstGrown, ?_⟩
      intro taken member
      rcases List.mem_cons.mp member with rfl | member
      · exact firstReady.mono grown
      · exact ready taken member

theorem Message.validate_singleton
    (sheet : StyleSheet)
    (node : Node)
    (memo : StyleMemo) :
    Message.validate sheet [node] memo = node.validate sheet memo := by
  rw [Message.validate]
  cases node.validate sheet memo <;> rfl

namespace Message.MadeReady

variable {sheet : StyleSheet}

theorem cons
    {node : Node}
    {rest : Message}
    (first : MadeReady sheet [node])
    (tail : MadeReady sheet rest) :
    MadeReady sheet (node :: rest) := by
  intro memo later valid
  rw [validate] at valid
  rcases bind_eq_ok_iff.mp valid with
    ⟨middle, validFirst, validRest⟩
  rw [← validate_singleton] at validFirst
  rcases first memo middle validFirst with
    ⟨firstGrown, firstReady⟩
  rcases tail middle later validRest with
    ⟨grown, ready⟩
  exact ⟨grown.trans firstGrown, (firstReady.mono grown).cons ready⟩

/-- A node that validation passes over is ready for every memo. -/
theorem leaf
    {node : Node}
    (passes : ∀ memo, node.validate sheet memo = .ok memo)
    (ready : ∀ memo, Ready memo [node]) :
    MadeReady sheet [node] := by
  intro memo later valid
  rw [validate_singleton, passes] at valid
  cases valid
  exact ⟨.refl memo, ready memo⟩

theorem formatted
    (category : Category)
    (name : String)
    (style : Option Style) :
    MadeReady sheet [.formatted category name style] := by
  intro memo later valid
  rw [validate_singleton, Node.validate] at valid
  rcases StyleMemo.remember_spec valid with
    ⟨grown, held⟩
  exact ⟨grown, .formatted held .nil⟩

/-- Validation makes a plural ready, and has seen its branch `other`. -/
theorem plural
    {branches : List (PluralKey × Message)}
    (name : String)
    (rule : PluralRule)
    (offset : Int64)
    (inside : ∀ branch ∈ branches, branch.2.MadeReady sheet) :
    MadeReady sheet [.plural name rule offset branches] := by
  intro memo later valid
  rw [validate_singleton, Node.validate] at valid
  split at valid
  case isFalse => cases valid
  case isTrue other =>
    rw [validatePluralBranches_eq_foldlM] at valid
    rcases MadeReady.branches inside valid with
      ⟨grown, ready⟩
    exact ⟨grown, .plural other ready .nil⟩

theorem select
    {branches : List (String × Message)}
    (name : String)
    (inside : ∀ branch ∈ branches, branch.2.MadeReady sheet) :
    MadeReady sheet [.select name branches] := by
  intro memo later valid
  rw [validate_singleton, Node.validate] at valid
  split at valid
  case isFalse => cases valid
  case isTrue other =>
    rw [validateSelectBranches_eq_foldlM] at valid
    rcases MadeReady.branches inside valid with
      ⟨grown, ready⟩
    exact ⟨grown, .select other ready .nil⟩

theorem tag
    {children : Message}
    (name : String)
    (inside : children.MadeReady sheet) :
    MadeReady sheet [.tag name children] := by
  intro memo later valid
  rw [validate_singleton, Node.validate] at valid
  rcases inside memo later valid with
    ⟨grown, ready⟩
  exact ⟨grown, .tag ready .nil⟩

end Message.MadeReady

/-- A message that validates is ready. -/
theorem Message.ready_of_validate
    (sheet : StyleSheet)
    (message : Message) :
    message.MadeReady sheet := by
  induction message using Message.induct with
  | nil =>
      intro memo later valid
      rw [Message.validate] at valid
      cases valid
      exact ⟨.refl memo, .nil⟩
  | literal text rest tail => exact .cons (.leaf (fun _ => rfl) fun _ => .literal .nil) tail
  | argument name rest tail => exact .cons (.leaf (fun _ => rfl) fun _ => .argument .nil) tail
  | formatted category name style rest tail =>
      exact .cons (.formatted category name style) tail
  | plural name rule offset branches rest inside tail =>
      exact .cons (.plural name rule offset inside) tail
  | select name branches rest inside tail => exact .cons (.select name inside) tail
  | pound rest tail => exact .cons (.leaf (fun _ => rfl) fun _ => .pound .nil) tail
  | tag name children rest inside tail => exact .cons (.tag name inside) tail

end IcuMessage
