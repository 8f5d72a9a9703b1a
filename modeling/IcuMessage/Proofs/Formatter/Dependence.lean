import IcuMessage.Proofs.Evaluation.Dependence
import IcuMessage.Proofs.Formatter.Safety

/-!
# Formatting depends on what is mentioned

Neither the building of a formatter nor its use can tell apart style sheets that
agree on the styles that the message mentions, or values that agree on the names that
it mentions; and if a value is missing, the message mentions its name or the provider
itself says that it is missing.

The main statement is `formatting_depends_on_mentions`.  What it leaves to the provider
cannot be left out, and values have to be one and the same to agree
(`formatting_sees_beyond_mentions`).
-/

namespace IcuMessage

namespace Formatter

/-- The formatter with another style sheet. -/
def withSheet (sheet : StyleSheet) (formatter : Formatter) : Formatter :=
  { formatter with sheet := sheet }

/-- Sheets that agree for a tree build the same formatter, or refuse it alike. -/
theorem create_congr
    {message : Message}
    {sheet other : StyleSheet}
    (styles : message.SameStyles sheet other)
    (locales : List String)
    (settings : FormatterSettings) :
    create (.tree message) locales other settings =
      withSheet other <$> create (.tree message) locales sheet settings := by
  have given :
      (liftM (Source.message (.tree message) settings.ignoreTags) : Traced Message) =
        pure message := rfl
  simp only [create, given, pure_bind, map_bind, map_pure, Message.validate_congr styles]
  rfl

variable {formatter : Formatter} {values : Bindings}

/-- A formatter does not tell apart values and sheets that agree for its message. -/
theorem formatToParts_congr
    {other : StyleSheet}
    {others : Bindings}
    (styles : formatter.message.SameStyles formatter.sheet other)
    (names : formatter.message.SameValues values others) :
    (formatter.withSheet other).formatToParts others = formatter.formatToParts values := by
  have evaluated :
      Message.evaluate ((formatter.environment values).exchange other others) formatter.message =
        Message.evaluate (formatter.environment values) formatter.message :=
    Message.evaluate_congr ⟨styles, names⟩
  show Message.parts formatter.message ((formatter.environment values).exchange other others) = _
  rw [formatToParts, Message.parts, Message.parts, Message.partsIn, Message.partsIn, evaluated]

/-- Whatever fails in a formatter that was built has a cause in its message. -/
theorem failureCause
    {source : Source}
    {locales : List String}
    {sheet : StyleSheet}
    {settings : FormatterSettings}
    {error : Failure}
    (created : (create source locales sheet settings).outcome = .ok formatter)
    (failed : (formatter.formatToParts values).outcome = .error error) :
    formatter.message.FailureCause (formatter.environment values) none error := by
  rcases create_spec created with
    ⟨_, valid, _⟩
  have ready := (Message.ready_of_validate sheet formatter.message _ _ valid).2
  rw [formatToParts, Message.parts, Message.outcome_partsIn, map_eq_error_iff] at failed
  exact ready.failsForCause _ _ _ failed

/-- A value that is missing is mentioned and not bound, or the provider says that it is
missing. -/
theorem missing_of_failureCause
    {message : Message}
    {environment : Environment}
    {pound : Option Float}
    {name pattern : String}
    (cause : message.FailureCause environment pound (.missingValue name pattern)) :
    message.Mentions name ∧ environment.values.lookup name = none ∨
      environment.provider.Raises (.missingValue name pattern) := by
  cases cause with
  | value mentioned blames =>
      cases blames with
      | missing unbound => exact Or.inl ⟨mentioned, unbound⟩
      | refused raises => exact Or.inr raises
  | refused raises => exact Or.inr raises

end Formatter

/-- With style sheets that agree on the styles that a tree mentions, formatters are
built alike or refused alike; with values that agree on the names that it mentions,
they format alike or fail alike.  A value that is missing is that of a name which the
tree mentions and which is not bound, unless the provider itself says that it is
missing. -/
theorem formatting_depends_on_mentions
    {message : Message}
    {sheet other : StyleSheet}
    (styles : message.SameStyles sheet other)
    (locales : List String)
    (settings : FormatterSettings) :
    Formatter.create (.tree message) locales other settings =
        Formatter.withSheet other <$> Formatter.create (.tree message) locales sheet settings ∧
      ∀ formatter,
        (Formatter.create (.tree message) locales sheet settings).outcome = .ok formatter →
          (∀ values others, message.SameValues values others →
            (formatter.withSheet other).formatToParts others = formatter.formatToParts values) ∧
          ∀ values name pattern,
            (formatter.formatToParts values).outcome = .error (.missingValue name pattern) →
              message.Mentions name ∧ values.lookup name = none ∨
                settings.provider.Raises (.missingValue name pattern) := by
  refine ⟨Formatter.create_congr styles locales settings, ?_⟩
  intro formatter created
  rcases Formatter.parts_of_create created with
    ⟨_, locale, memo, ⟨⟩, _, _, rfl⟩
  refine ⟨?_, ?_⟩
  · intro values others names
    exact Formatter.formatToParts_congr styles names
  · intro values name pattern failed
    exact Formatter.missing_of_failureCause (Formatter.failureCause created failed)

/-- A style name in one category, inside of a tag. -/
def styledTree : Message :=
  [.tag "b" [.formatted .number "n" (some (.named "plain"))]]

/-- Style sheets that differ in another category and under another name. -/
def styledSheets : StyleSheet × StyleSheet :=
  ({ number := [("plain", {})] },
    { number := [("plain", {}), ("round", {})], time := [("plain", shortTime)] })

/-- The sheets of `styledSheets` cannot be told apart by a tree that names one style of
numbers, nor can values by a name that the tree does not have; the name that it has is
missing where it is not bound. -/
theorem formatting_depends_on_mentions_styledTree :
    styledTree.SameStyles styledSheets.1 styledSheets.2 ∧
      ∃ formatter,
        (Formatter.create (.tree styledTree) [] styledSheets.1 {}).outcome = .ok formatter ∧
        (Formatter.create (.tree styledTree) [] styledSheets.2 {}).outcome =
          .ok (formatter.withSheet styledSheets.2) ∧
        (formatter.withSheet styledSheets.2).formatToParts [("m", .null), ("n", .null)] =
          formatter.formatToParts [("n", .null)] ∧
        (formatter.formatToParts []).outcome =
          .error (.missingValue "n" styledTree.print) ∧
        styledTree.Mentions "n" ∧ List.lookup "n" ([] : Bindings) = none := by
  have styles : styledTree.SameStyles styledSheets.1 styledSheets.2 := by
    rintro category name ⟨_, contained⟩
    cases contained with
    | behind later => cases later
    | inTag inside =>
        cases inside with
        | behind later => cases later
        | first => rfl
  have names : styledTree.SameValues [("n", .null)] [("m", .null), ("n", .null)] := by
    rintro name ⟨_, contained, asks⟩
    cases contained with
    | first => cases asks
    | behind later => cases later
    | inTag inside =>
        cases inside with
        | behind later => cases later
        | first =>
            cases asks
            rfl
  rcases formatting_depends_on_mentions styles [] {} with
    ⟨building, formatting⟩
  obtain ⟨formatter, created, failed⟩ :
      ∃ formatter,
        (Formatter.create (.tree styledTree) [] styledSheets.1 {}).outcome = .ok formatter ∧
          (formatter.formatToParts []).outcome =
            .error (.missingValue "n" styledTree.print) :=
    ⟨_, rfl, rfl⟩
  rcases formatting formatter created with
    ⟨alike, missing⟩
  refine ⟨styles, formatter, created, ?_, alike _ _ names, failed, ?_⟩
  · rw [building, map_eq_pure_bind, Traced.outcome_bind, created]
    rfl
  · rcases missing _ _ _ failed with named | raises
    · exact named
    · rcases Provider.failsOnlyPrimitively_locales.of_raises raises with
        ⟨_, _, ⟨⟩⟩

/-- A tree with one number. -/
def numberTree : Message :=
  [.formatted .number "n" none]

/-- A provider that answers every number with a name of its own that is missing. -/
def ghostProvider : Provider :=
  { Provider.locales with
    formatNumber := fun _ _ _ => .error (.missingValue "ghost" "") }

/-- A provider can say that a value is missing whose name the tree does not mention, and
the failure reaches the caller as it is.  Values that are the same by `Value.same` need not
agree: the two zeros are the same number and are written differently. -/
theorem formatting_sees_beyond_mentions :
    (∃ formatter,
      (Formatter.create (.tree numberTree) [] {} { provider := ghostProvider }).outcome =
          .ok formatter ∧
        (formatter.formatToParts [("n", .integer 1)]).outcome =
          .error (.missingValue "ghost" "") ∧
        ¬ numberTree.Mentions "ghost") ∧
      (Value.decimal 0 == Value.decimal (-0.0)) = true ∧
      ∃ formatter,
        (Formatter.create (.tree numberTree) [] {} {}).outcome = .ok formatter ∧
          (formatter.formatToParts [("n", .decimal 0)]).outcome = .ok [.literal "0"] ∧
          (formatter.formatToParts [("n", .decimal (-0.0))]).outcome =
            .ok [.literal "-0"] := by
  have unmentioned : ¬ numberTree.Mentions "ghost" := by
    rintro ⟨_, contained, asks⟩
    cases contained with
    | first => simp [Node.valueName?] at asks
    | behind later => cases later
  refine ⟨⟨_, rfl, rfl, unmentioned⟩, ?_, ?_⟩
  · rfl
  · exact ⟨_, rfl, rfl, rfl⟩

end IcuMessage
