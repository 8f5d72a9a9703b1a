import IcuMessage.Proofs.Pattern.Continuation
import IcuMessage.Proofs.Pattern.PrintedText
import IcuMessage.Proofs.Pattern.Quoting
import IcuMessage.Proofs.Pattern.TagPairing

/-!
# Reading printed options

A message reads back if its masked notation reads as tokens that pair to it, in
front of any text that a literal can stand before.  Options read back if their
messages do.
-/

namespace IcuMessage

variable {quotes : List (List Char)} {inPlural : Bool} {index base : Nat}

/-- The number signs of a message are read as such. -/
def Message.PoundsRead (inPlural : Bool) (message : Message) : Prop :=
  inPlural = false → ¬ message.HasFreePound

/-- The notation of a message is read as the message, whatever follows it. -/
structure Message.ReadsBack (message : Message) : Prop where
  complete : Complete message.print.toList
  reads : ∀ {quotes : List (List Char)} {inPlural : Bool} {index base : Nat}
    {behind : List Char} {after : List Token},
    Quotes quotes index message.print.toList → message.PoundsRead inPlural →
      Reads ⟨quotes, false⟩ inPlural
        (base + Text.byteWidth (masked index message.print.toList)) behind after True →
      ∃ tokens, Assembles tokens message ∧
        Reads ⟨quotes, false⟩ inPlural base (masked index message.print.toList ++ behind)
          (tokens ++ after) (¬ message.StartsWithLiteral)

/-- Alone, the notation of a message reads as tokens that pair to the message. -/
theorem Message.ReadsBack.alone
    {message : Message}
    (readsBack : message.ReadsBack)
    (held : Quotes quotes index message.print.toList)
    (pounds : message.PoundsRead inPlural)
    (base : Nat) :
    ∃ nests tokens,
      Nested base (masked index message.print.toList) nests ∧
        MessageReading ⟨quotes, false⟩ inPlural nests tokens ∧
        assemble tokens = .ok message := by
  have ended : Reads ⟨quotes, false⟩ inPlural
      (base + Text.byteWidth (masked index message.print.toList)) [] [] True :=
    reads_nil
  rcases readsBack.reads held pounds ended with
    ⟨tokens, assembles, nests, nested, reading, _⟩
  rw [List.append_nil] at nested reading
  exact ⟨nests, tokens, nested, reading, assembles.assemble⟩

/-- Options with distinct keys, the messages of which read back. -/
structure OptionsReadBack (entries : List (String × Message)) : Prop where
  keys : ∀ entry ∈ entries, IsKeyText entry.1.toList
  distinct : (entries.map Prod.fst).Nodup
  inside : ∀ entry ∈ entries, entry.2.ReadsBack

namespace OptionsReadBack

variable {key : String} {body : Message} {entries rest : List (String × Message)}
  {seen : List String}

theorem tail (readBack : OptionsReadBack ((key, body) :: rest)) : OptionsReadBack rest where
  keys := fun entry member => readBack.keys entry (.tail _ member)
  distinct := (List.nodup_cons.mp readBack.distinct).2
  inside := fun entry member => readBack.inside entry (.tail _ member)

/-- The keys of options that read back are different. -/
theorem ne_key
    (readBack : OptionsReadBack ((key, body) :: rest))
    {entry : String × Message}
    (member : entry ∈ rest) :
    entry.1 ≠ key := by
  rintro rfl
  have again := List.mem_map_of_mem (f := Prod.fst) member
  exact (List.nodup_cons.mp readBack.distinct).1 again

/-- No quoted section of options that read back reaches out of them. -/
theorem complete (readBack : OptionsReadBack entries) : Complete (optionsText entries) := by
  induction entries with
  | nil => exact complete_nil
  | cons entry rest ih =>
      rcases entry with
        ⟨key, body⟩
      have bare := isBare_keyText (readBack.keys _ List.mem_cons_self)
      have body := (readBack.inside _ List.mem_cons_self).complete
      exact (complete_of_no_apostrophe bare.noApostrophe).append (body.block (ih readBack.tail))

/-- The block of an option, in front of options that are read. -/
theorem block
    (readBack : OptionsReadBack ((key, body) :: rest))
    (fresh : key ∉ seen)
    (pounds : body.PoundsRead inPlural)
    (held : Quotes quotes index ('{' :: (body.print.toList ++ '}' :: optionsText rest)))
    (behind : ∀ {index base}, Quotes quotes index (optionsText rest) →
      ∃ nests, Nested base (masked index (optionsText rest)) nests ∧
        OptionsReading ⟨quotes, false⟩ inPlural (key :: seen) [] nests rest) :
    ∃ nests,
      Nested base (masked index ('{' :: (body.print.toList ++ '}' :: optionsText rest))) nests ∧
        ¬ Nest.StartWithText nests ∧
        ∀ pending, ParseContext.IsKey ⟨quotes, false⟩ pending key →
          OptionsReading ⟨quotes, false⟩ inPlural seen pending nests ((key, body) :: rest) := by
  have inside : body.ReadsBack := readBack.inside _ List.mem_cons_self
  rcases held.block inside.complete with
    ⟨inBody, later⟩
  rcases inside.alone inBody pounds (base + 1) with
    ⟨children, tokens, nested, reading, tree⟩
  rcases behind later with
    ⟨nests, laterNested, laterReading⟩
  rw [masked_block inside.complete]
  refine ⟨_, .block nested laterNested, id, ?_⟩
  intro pending denotes
  exact .block denotes fresh reading tree laterReading

/-- Options whose messages read back are read with the same keys and messages. -/
theorem read
    (readBack : OptionsReadBack entries)
    (fresh : ∀ entry ∈ entries, entry.1 ∉ seen)
    (pounds : ∀ entry ∈ entries, entry.2.PoundsRead inPlural)
    (held : Quotes quotes index (optionsText entries)) :
    ∃ nests,
      Nested base (masked index (optionsText entries)) nests ∧
        OptionsReading ⟨quotes, false⟩ inPlural seen [] nests entries := by
  induction entries generalizing seen index base with
  | nil => exact ⟨[], .nil, .nil rfl⟩
  | cons entry rest ih =>
      rcases entry with
        ⟨key, body⟩
      have named : IsKeyText key.toList := readBack.keys _ List.mem_cons_self
      have bare := isBare_keyText named
      have notAgain : ∀ entry ∈ rest, entry.1 ∉ key :: seen := by
        intro entry member again
        rcases List.mem_cons.mp again with same | before
        · exact readBack.ne_key member same
        · exact fresh entry (.tail _ member) before
      rcases readBack.block (fresh _ List.mem_cons_self) (pounds _ List.mem_cons_self)
          (held.behind bare.noApostrophe)
          (ih readBack.tail notAgain fun entry member => pounds entry (.tail _ member)) with
        ⟨nests, nested, apart, reading⟩
      rw [optionsText, masked_plain_append bare.noApostrophe]
      refine ⟨_, .text (List.cons_ne_nil _ _) bare.noBrace apart nested, ?_⟩
      exact .text (reading _ (isKey_keyText named))

/-- The options of an argument are read behind its header, which ends with the
first key. -/
theorem behindHeader
    (readBack : OptionsReadBack ((key, body) :: rest))
    (pounds : ∀ entry ∈ (key, body) :: rest, entry.2.PoundsRead inPlural)
    {header : List Char}
    (filled : header ≠ [])
    (bare : IsBare header)
    (held : Quotes quotes index
      (header ++ '{' :: (body.print.toList ++ '}' :: optionsText rest)))
    (base : Nat) :
    ∃ nests,
      Nested base
          (masked index (header ++ '{' :: (body.print.toList ++ '}' :: optionsText rest)))
          (.text header base :: nests) ∧
        OptionsReading ⟨quotes, false⟩ inPlural [] (keyText key) nests ((key, body) :: rest) := by
  have notAgain : ∀ entry ∈ rest, entry.1 ∉ [key] := by
    intro entry member again
    exact readBack.ne_key member (List.mem_singleton.mp again)
  rcases readBack.block List.not_mem_nil (pounds _ List.mem_cons_self)
      (held.behind bare.noApostrophe)
      (readBack.tail.read notAgain fun entry member => pounds entry (.tail _ member)) with
    ⟨nests, nested, apart, reading⟩
  rw [masked_plain_append bare.noApostrophe]
  exact ⟨nests, .text filled bare.noBrace apart nested,
    reading _ (isKey_keyText (readBack.keys _ List.mem_cons_self))⟩

end OptionsReadBack

end IcuMessage
