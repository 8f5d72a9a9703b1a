import IcuMessage.Proofs.Style.Layering
import IcuMessage.Proofs.Text.Words
import IcuMessage.Style.NumberSkeleton
import Mathlib.Data.List.TakeWhile

/-!
# The tokens of number skeletons

`TokenMeaning` lists the tokens of a number skeleton and what each of them settles.
A skeleton is accepted exactly if all of its words are such tokens, and otherwise
the first word that is none is refused.  What two skeletons with a blank between them
settle is what the second settles laid over what the first settles, and tokens that
settle different options may change places (`number_tokens_compose`).
-/

namespace IcuMessage

namespace NumberOptions

instance : Std.Associative overlay := ⟨overlay_assoc⟩

instance : Std.LawfulIdentity overlay {} where
  left_id := open_overlay
  right_id := overlay_open

/-- No option is settled by both sets. -/
structure Apart (first second : NumberOptions) : Prop where
  style : first.style = none ∨ second.style = none
  currency : first.currency = none ∨ second.currency = none
  minimumIntegerDigits :
    first.minimumIntegerDigits = none ∨ second.minimumIntegerDigits = none
  minimumFractionDigits :
    first.minimumFractionDigits = none ∨ second.minimumFractionDigits = none
  maximumFractionDigits :
    first.maximumFractionDigits = none ∨ second.maximumFractionDigits = none
  useGrouping : first.useGrouping = none ∨ second.useGrouping = none
  signDisplay : first.signDisplay = none ∨ second.signDisplay = none

theorem or_comm_of_none {β : Type} {first second : Option β}
    (apart : first = none ∨ second = none) :
    second.or first = first.or second := by
  rcases apart with rfl | rfl <;> simp

/-- Option sets that set different options may be laid over each other in either order. -/
theorem Apart.overlay_comm {first second : NumberOptions} (apart : first.Apart second) :
    first.overlay second = second.overlay first := by
  simp only [overlay, or_comm_of_none apart.style, or_comm_of_none apart.currency,
    or_comm_of_none apart.minimumIntegerDigits, or_comm_of_none apart.minimumFractionDigits,
    or_comm_of_none apart.maximumFractionDigits, or_comm_of_none apart.useGrouping,
    or_comm_of_none apart.signDisplay]

end NumberOptions

namespace NumberSkeleton

variable {token text : List Char} {settled options : NumberOptions} {skeleton : String}

/-- The token for fractions: a full stop, a zero for each digit that is required,
and a number sign for each further digit that is allowed. -/
def fractionPrecision (required further : Nat) : List Char :=
  '.' :: (List.replicate required '0' ++ List.replicate further '#')

/-- The tokens of number skeletons, with the options that they settle. -/
inductive TokenMeaning : List Char → NumberOptions → Prop where
  | keyword {word : String} {settled : NumberOptions}
      (listed : (word, settled) ∈ keywords) :
      TokenMeaning word.toList settled
  | currency {code : List Char}
      (three : code.length = 3)
      (letters : ∀ character ∈ code, character.isAlpha = true) :
      TokenMeaning ("currency/".toList ++ code)
        { style := some .currency,
          currency := some (String.ofList (code.map Char.toUpper)) }
  | fraction {required further : Nat}
      (bounded : required + further ≤ 255) :
      TokenMeaning (fractionPrecision required further)
        { minimumFractionDigits := some (UInt8.ofNat required),
          maximumFractionDigits := some (UInt8.ofNat (required + further)) }
  | integerWidth {signs : List Char} {digits : Nat}
      (signed : ∀ character ∈ signs, character = '*' ∨ character = '+')
      (filled : 1 ≤ digits)
      (bounded : digits ≤ 255) :
      TokenMeaning ("integer-width/".toList ++ (signs ++ List.replicate digits '0'))
        { minimumIntegerDigits := some (UInt8.ofNat digits) }
  | zeros {digits : Nat}
      (filled : 1 ≤ digits)
      (bounded : digits ≤ 255) :
      TokenMeaning (List.replicate digits '0')
        { minimumIntegerDigits := some (UInt8.ofNat digits) }

/-- A word is a token of number skeletons. -/
def IsToken (token : List Char) : Prop :=
  ∃ settled, TokenMeaning token settled

/-- Two tokens settle no option in common. -/
def SettleApart (first second : List Char) : Prop :=
  ∃ one other, TokenMeaning first one ∧ TokenMeaning second other ∧ one.Apart other

/-! ## Single tokens -/

/-- Zeros are counted if there are at least one and at most 255 of them. -/
theorem zeros?_eq_some_iff {digits : UInt8} :
    zeros? text = some digits ↔
      ∃ count, 1 ≤ count ∧ count ≤ 255 ∧ text = List.replicate count '0' ∧
        digits = UInt8.ofNat count := by
  constructor
  · intro read
    simp only [zeros?] at read
    split at read
    case isTrue => cases read
    case isFalse accepted =>
      cases read
      simp only [Bool.or_eq_true, not_or, List.isEmpty_iff, Bool.not_eq_true',
        Bool.not_eq_false, decide_eq_true_eq, Nat.not_lt] at accepted
      have same : ∀ character ∈ text, character = '0' := fun character member => by
        simpa using List.all_eq_true.mp accepted.1.2 character member
      exact ⟨text.length, List.length_pos_iff.mpr accepted.1.1, accepted.2,
        List.eq_replicate_iff.mpr ⟨rfl, same⟩, rfl⟩
  · rintro ⟨count, filled, bounded, rfl, rfl⟩
    simp [zeros?, Nat.not_lt.mpr bounded, Nat.ne_of_gt filled]

/-- The digits behind a full stop are zeros and then number signs. -/
theorem exists_of_precision?
    {digits : List Char}
    {least greatest : UInt8}
    (read : precision? digits = some (least, greatest)) :
    ∃ required further, required + further ≤ 255 ∧
      digits = List.replicate required '0' ++ List.replicate further '#' ∧
        least = UInt8.ofNat required ∧ greatest = UInt8.ofNat (required + further) := by
  simp only [precision?] at read
  split at read
  case isTrue => cases read
  case isFalse accepted =>
    cases read
    simp only [Bool.or_eq_true, not_or, Bool.not_eq_true', Bool.not_eq_false, decide_eq_true_eq,
      Nat.not_lt] at accepted
    have zeros : digits.takeWhile (· == '0') =
        List.replicate (digits.takeWhile (· == '0')).length '0' := by
      rw [List.eq_replicate_iff]
      exact ⟨rfl, fun character member => by simpa using List.mem_takeWhile_imp member⟩
    have signs : digits.dropWhile (· == '0') =
        List.replicate (digits.dropWhile (· == '0')).length '#' := by
      rw [List.eq_replicate_iff]
      exact ⟨rfl, fun character member => by simpa using List.all_eq_true.mp accepted.1 _ member⟩
    have whole : (digits.takeWhile (· == '0')).length + (digits.dropWhile (· == '0')).length =
        digits.length := by
      rw [← List.length_append, List.takeWhile_append_dropWhile]
    refine ⟨_, _, whole.trans_le accepted.2, ?_, rfl, by rw [whole]⟩
    rw [← zeros, ← signs, List.takeWhile_append_dropWhile]

/-- A fraction precision settles the digits that it requires and those that it allows. -/
theorem precision?_fraction {required further : Nat} (bounded : required + further ≤ 255) :
    precision? (List.replicate required '0' ++ List.replicate further '#') =
      some (UInt8.ofNat required, UInt8.ofNat (required + further)) := by
  have zeros : ∀ character ∈ List.replicate required '0', (character == '0') = true := by
    intro character member
    rw [List.eq_of_mem_replicate member]
    rfl
  have signs : (List.replicate further '#').takeWhile (· == '0') = [] ∧
      (List.replicate further '#').dropWhile (· == '0') = List.replicate further '#' := by
    cases further <;> simp [List.replicate_succ]
  rw [precision?, List.takeWhile_append_of_pos zeros, List.dropWhile_append_of_pos zeros,
    signs.1, signs.2]
  simp [Nat.not_lt.mpr bounded]

/-! ## One equation for each kind of token -/

theorem token?_keyword {word : String} (listed : (word, settled) ∈ keywords) :
    token? word.toList = some settled := by
  have each : ∀ entry ∈ keywords, keywords.lookup entry.1 = some entry.2 := by
    decide +kernel
  rw [token?.eq_def, String.ofList_toList, each _ listed]

/-- The characters that keywords begin with. -/
def keywordInitials : List Char :=
  ['p', '%', 'g', ',', 's', '+']

theorem lookup_keywords_eq_none {first : Char} (other : first ∉ keywordInitials)
    (rest : List Char) :
    keywords.lookup (String.ofList (first :: rest)) = none := by
  have each : ∀ entry ∈ keywords, entry.1.toList.head? ∈ keywordInitials.map some := by
    decide +kernel
  rw [Option.eq_none_iff_forall_ne_some]
  intro settled known
  have heads := each _ (Table.mem_of_lookup known)
  rw [String.toList_ofList, List.head?_cons, List.mem_map] at heads
  rcases heads with
    ⟨initial, member, same⟩
  exact other (Option.some.inj same ▸ member)

theorem afterPrefix?_append (expected rest : List Char) :
    Text.afterPrefix? expected (expected ++ rest) = some rest :=
  Text.afterPrefix?_eq_some_iff.mpr rfl

theorem afterPrefix?_eq_none (expected first : Char) (different : expected ≠ first)
    (more rest : List Char) :
    Text.afterPrefix? (expected :: more) (first :: rest) = none :=
  if_neg different

theorem token?_currency (code : List Char) :
    token? ("currency/".toList ++ code) = currency? code := by
  have unlisted : keywords.lookup (String.ofList ("currency/".toList ++ code)) = none :=
    lookup_keywords_eq_none (show 'c' ∉ keywordInitials by decide) _
  rw [token?.eq_def, unlisted, afterPrefix?_append]

theorem token?_fraction (digits : List Char) :
    token? ('.' :: digits) = fraction? digits := by
  have noCurrency : Text.afterPrefix? "currency/".toList ('.' :: digits) = none :=
    afterPrefix?_eq_none 'c' '.' (by decide) _ digits
  rw [token?.eq_def, lookup_keywords_eq_none (by decide) _, noCurrency]
  rfl

theorem token?_integerWidth (width : List Char) :
    token? ("integer-width/".toList ++ width) =
      integerWidth? (width.dropWhile fun character => character == '*' || character == '+') := by
  have unlisted : keywords.lookup (String.ofList ("integer-width/".toList ++ width)) = none :=
    lookup_keywords_eq_none (show 'i' ∉ keywordInitials by decide) _
  have noCurrency :
      Text.afterPrefix? "currency/".toList ("integer-width/".toList ++ width) = none :=
    afterPrefix?_eq_none 'c' 'i' (by decide) _ _
  have behind := afterPrefix?_append "integer-width/".toList width
  rw [token?.eq_def, unlisted, noCurrency]
  dsimp only
  rw [behind]
  split
  case h_1 stop => cases stop
  case h_2 => rfl

theorem token?_zeros (rest : List Char) :
    token? ('0' :: rest) = integerWidth? ('0' :: rest) := by
  have noCurrency : Text.afterPrefix? "currency/".toList ('0' :: rest) = none :=
    afterPrefix?_eq_none 'c' '0' (by decide) _ rest
  have noWidth : Text.afterPrefix? "integer-width/".toList ('0' :: rest) = none :=
    afterPrefix?_eq_none 'i' '0' (by decide) _ rest
  rw [token?.eq_def, lookup_keywords_eq_none (by decide) _, noCurrency]
  dsimp only
  rw [noWidth]
  rfl

/-! ## The grammar of tokens -/

/-- Whatever is read as a token has that meaning in the grammar. -/
theorem meaning_of_token? (read : token? token = some settled) :
    TokenMeaning token settled := by
  unfold token? at read
  split at read
  case h_1 known =>
    cases read
    have listed := TokenMeaning.keyword (Table.mem_of_lookup known)
    rwa [String.toList_ofList] at listed
  case h_2 =>
    split at read
    case h_1 code behind =>
      rw [Text.afterPrefix?_eq_some_iff] at behind
      subst behind
      unfold currency? at read
      split at read
      case isFalse => cases read
      case isTrue accepted =>
        cases read
        exact .currency accepted.1 (List.all_eq_true.mp accepted.2)
    case h_2 =>
      split at read
      case h_1 digits =>
        rcases Option.map_eq_some_iff.mp read with
          ⟨⟨least, greatest⟩, digitsRead, rfl⟩
        obtain ⟨required, further, bounded, rfl, rfl, rfl⟩ := exists_of_precision? digitsRead
        exact .fraction bounded
      case h_2 =>
        split at read
        case h_1 width behind =>
          rw [Text.afterPrefix?_eq_some_iff] at behind
          subst behind
          rcases Option.map_eq_some_iff.mp read with
            ⟨digits, zeros, rfl⟩
          rcases zeros?_eq_some_iff.mp zeros with
            ⟨count, filled, bounded, rest, rfl⟩
          have whole : width = width.takeWhile (fun c => c == '*' || c == '+') ++
              List.replicate count '0' := by
            rw [← rest, List.takeWhile_append_dropWhile]
          rw [whole]
          refine .integerWidth (fun character member => ?_) filled bounded
          simpa using List.mem_takeWhile_imp member
        case h_2 =>
          rcases Option.map_eq_some_iff.mp read with
            ⟨digits, zeros, rfl⟩
          rcases zeros?_eq_some_iff.mp zeros with
            ⟨count, filled, bounded, rfl, rfl⟩
          exact .zeros filled bounded

/-- Every token of the grammar is read with its meaning. -/
theorem token?_of_meaning (meaning : TokenMeaning token settled) :
    token? token = some settled := by
  cases meaning with
  | keyword listed => exact token?_keyword listed
  | currency three letters =>
      rw [token?_currency, currency?, if_pos ⟨three, List.all_eq_true.mpr letters⟩]
  | fraction bounded =>
      rw [fractionPrecision, token?_fraction, fraction?, precision?_fraction bounded]
      rfl
  | @integerWidth signs digits signed filled bounded =>
      have skipped : ∀ character ∈ signs, (character == '*' || character == '+') = true := by
        intro character member
        simpa using signed character member
      have kept : (List.replicate digits '0').dropWhile
          (fun character => character == '*' || character == '+') = List.replicate digits '0' := by
        cases digits with
        | zero => rfl
        | succ more => rfl
      rw [token?_integerWidth, List.dropWhile_append_of_pos skipped, kept, integerWidth?,
        zeros?_eq_some_iff.mpr ⟨digits, filled, bounded, rfl, rfl⟩]
      rfl
  | @zeros digits filled bounded =>
      have read := zeros?_eq_some_iff.mpr ⟨digits, filled, bounded, rfl, rfl⟩
      obtain ⟨more, rfl⟩ := Nat.exists_eq_succ_of_ne_zero (Nat.ne_of_gt filled)
      rw [List.replicate_succ] at read ⊢
      rw [token?_zeros, integerWidth?, read]
      rfl

/-- The reader of tokens and their grammar agree. -/
theorem token?_eq_some_iff : token? token = some settled ↔ TokenMeaning token settled :=
  ⟨meaning_of_token?, token?_of_meaning⟩

/-! ## All tokens of a skeleton -/

/-- What a token settles, or the error that names it. -/
def settle : List Char → Except Failure NumberOptions :=
  acceptBy token? fun token => .invalidSkeleton (String.ofList token)

theorem settle_eq_ok_iff : settle token = .ok settled ↔ TokenMeaning token settled :=
  acceptBy_eq_ok_iff.trans token?_eq_some_iff

/-- A token that the grammar does not have is refused, and quoted. -/
theorem settle_eq_error_iff {error : Failure} :
    settle token = .error error ↔
      ¬ IsToken token ∧ error = .invalidSkeleton (String.ofList token) := by
  have unknown : token? token = none ↔ ¬ IsToken token := by
    simp only [IsToken, ← token?_eq_some_iff, Option.eq_none_iff_forall_ne_some, not_exists]
  rw [← unknown]
  exact acceptBy_eq_error_iff

theorem readTokens_eq_layer (options : NumberOptions) (tokens : List (List Char)) :
    readTokens options tokens = layer settle NumberOptions.overlay options tokens := by
  induction tokens generalizing options with
  | nil => rfl
  | cons token rest ih =>
      rw [readTokens.eq_def, layer_cons, settle, acceptBy]
      dsimp only
      cases token? token with
      | none => rfl
      | some settled => exact ih (options.overlay settled)

/-- A skeleton is read by laying its tokens over each other. -/
theorem read_eq_layer (skeleton : String) :
    read skeleton = layer settle NumberOptions.overlay {} (tokens skeleton) :=
  readTokens_eq_layer {} (tokens skeleton)

/-- Tokens that settle different options may change places. -/
theorem SettleApart.exchangeable {first second : List Char}
    (apart : SettleApart first second) :
    Exchangeable settle NumberOptions.overlay first second := by
  rcases apart with
    ⟨one, other, meaning, otherMeaning, apart⟩
  refine ⟨one, other, settle_eq_ok_iff.mpr meaning, settle_eq_ok_iff.mpr otherMeaning, ?_⟩
  intro lower
  rw [NumberOptions.overlay_assoc, NumberOptions.overlay_assoc, apart.overlay_comm]

theorem head?_ne_colon_of_blank
    {blanks : List Char}
    (blank : ∀ character ∈ blanks, Text.isBlank character = true) :
    blanks.head? ≠ some ':' := by
  intro colon
  exact absurd (blank ':' (List.mem_of_mem_head? colon)) (by decide)

/-- Blanks at the end of a skeleton do not matter to its tokens. -/
theorem tokens_eq_words (skeleton : String) :
    tokens skeleton =
      Text.words (Text.dropPairs ':' ':' (Text.trimStart skeleton.toList)) := by
  rcases Text.exists_trim_append_blanks skeleton.toList with
    ⟨blanks, blank, whole⟩
  rw [whole, Text.dropPairs_append (Or.inl (head?_ne_colon_of_blank blank)),
    Text.words_append_blanks blank, tokens]

/-- A blank keeps the tokens of two skeletons apart, and only the colons of the first
are dropped. -/
theorem tokens_append {front back : String}
    (noColons : ¬ [':', ':'] <+: Text.trim back.toList) :
    tokens (front ++ " " ++ back) = tokens front ++ tokens back := by
  have space : Text.isBlank ' ' = true := by decide
  have joined : (front ++ " " ++ back).toList = front.toList ++ ' ' :: back.toList := by
    simp
  rw [tokens_eq_words (front ++ " " ++ back), joined]
  by_cases left : Text.trimStart front.toList = []
  · have blank : ∀ character ∈ front.toList ++ [' '], Text.isBlank character = true :=
      List.forall_mem_append.mpr
        ⟨Text.trimStart_eq_nil_iff.mp left, List.forall_mem_singleton.mpr space⟩
    have none : tokens front = [] := by
      rw [tokens_eq_words, left]
      rfl
    rw [← List.singleton_append, ← List.append_assoc, Text.trimStart_blanks_append blank,
      ← tokens_eq_words, none, List.nil_append]
  · have behind : tokens back = Text.words back.toList := by
      rw [tokens, Text.dropPairs_eq_self noColons, Text.words_trim]
    rw [Text.trimStart_append_of_ne_nil left, Text.dropPairs_append (Or.inl (by simp)),
      Text.words_append_blank space, ← tokens_eq_words, behind]

/-- Two skeletons in a row settle what the second settles over what the first does. -/
theorem read_append {front back : String}
    (noColons : ¬ [':', ':'] <+: Text.trim back.toList) :
    read (front ++ " " ++ back) =
      (do
        let first ← read front
        let second ← read back
        .ok (first.overlay second)) := by
  rw [read_eq_layer, tokens_append noColons, layer_open_append, read_eq_layer, read_eq_layer]

/-- A skeleton is accepted exactly if its words are tokens, and then settles what they
settle, the later over the earlier; otherwise the first word that is no token is named.
What two skeletons with a blank between them settle is what the second settles over what
the first settles, unless colons before the second would count as text.  Two neighbours
that settle different options may change places, and tokens of which any two do may
come in any order. -/
theorem number_tokens_compose :
    (∀ skeleton,
      Text.Spaced (Text.dropPairs ':' ':' (Text.trim skeleton.toList)) (tokens skeleton)) ∧
    (∀ skeleton,
      (∃ options, read skeleton = .ok options) ↔ ∀ token ∈ tokens skeleton, IsToken token) ∧
    (∀ skeleton options,
      read skeleton = .ok options ↔
        ∃ sets, List.Forall₂ TokenMeaning (tokens skeleton) sets ∧
          sets.foldl NumberOptions.overlay {} = options) ∧
    (∀ skeleton error,
      read skeleton = .error error ↔
        ∃ before token after, tokens skeleton = before ++ token :: after ∧
          (∀ earlier ∈ before, IsToken earlier) ∧ ¬ IsToken token ∧
            error = .invalidSkeleton (String.ofList token)) ∧
    (∀ front back : String, ¬ [':', ':'] <+: Text.trim back.toList →
      read (front ++ " " ++ back) =
        (do
          let first ← read front
          let second ← read back
          .ok (first.overlay second))) ∧
    (∀ skeleton other before first second after,
      tokens skeleton = before ++ first :: second :: after →
        tokens other = before ++ second :: first :: after →
          SettleApart first second → read skeleton = read other) ∧
    (∀ skeleton other, (tokens skeleton).Perm (tokens other) →
      (tokens skeleton).Pairwise SettleApart → read skeleton = read other) := by
  refine ⟨?_, ?_, ?_, ?_, ?_, ?_, ?_⟩
  · exact fun skeleton => Text.words_eq_iff.mp rfl
  · intro skeleton
    simp only [read_eq_layer, exists_layer_eq_ok_iff, settle_eq_ok_iff, IsToken]
  · intro skeleton options
    simp only [read_eq_layer, layer_eq_ok_iff, settle_eq_ok_iff]
  · intro skeleton error
    simp only [read_eq_layer, layer_eq_error_iff, settle_eq_ok_iff, settle_eq_error_iff, IsToken]
  · exact fun front back noColons => read_append noColons
  · intro skeleton other before first second after here there apart
    rw [read_eq_layer, read_eq_layer, here, there, layer_exchange apart.exchangeable]
  · intro skeleton other rearranged apart
    rw [read_eq_layer, read_eq_layer]
    exact layer_perm rearranged (apart.imp SettleApart.exchangeable)

/-- What `percent .0#` and `+! 000` settle together. -/
def signedPercentage : NumberOptions where
  style := some .percent
  minimumIntegerDigits := some 3
  minimumFractionDigits := some 1
  maximumFractionDigits := some 2
  signDisplay := some .always

/-- The tokens of `signedPercentage` can be read in two skeletons one behind the other,
and in any order. -/
theorem number_tokens_compose_signedPercentage :
    ¬ [':', ':'] <+: Text.trim "+! 000".toList ∧
      read ("::percent .0#" ++ " " ++ "+! 000") = .ok signedPercentage ∧
        read "000 percent +! .0#" = .ok signedPercentage := by
  have noColons : ¬ [':', ':'] <+: Text.trim "+! 000".toList := by
    decide +kernel
  have together : read ("::percent .0#" ++ " " ++ "+! 000") = .ok signedPercentage :=
    (number_tokens_compose.2.2.2.2.1 "::percent .0#" "+! 000" noColons).trans (by decide +kernel)
  have percent : TokenMeaning "percent".toList { style := some .percent } :=
    .keyword (by decide +kernel)
  have precision : TokenMeaning (fractionPrecision 1 1)
      { minimumFractionDigits := some 1, maximumFractionDigits := some 2 } :=
    .fraction (by decide)
  have sign : TokenMeaning "+!".toList { signDisplay := some .always } :=
    .keyword (by decide +kernel)
  have width : TokenMeaning (List.replicate 3 '0') { minimumIntegerDigits := some 3 } :=
    .zeros (by decide) (by decide)
  have rearranged : (tokens ("::percent .0#" ++ " " ++ "+! 000")).Perm
      (tokens "000 percent +! .0#") := by
    decide +kernel
  have listed : tokens ("::percent .0#" ++ " " ++ "+! 000") =
      ["percent".toList, ".0#".toList, "+!".toList, "000".toList] := by
    decide +kernel
  have apart : (tokens ("::percent .0#" ++ " " ++ "+! 000")).Pairwise SettleApart := by
    rw [listed]
    simp only [List.pairwise_cons, List.forall_mem_cons, List.not_mem_nil, false_imp_iff,
      implies_true, List.Pairwise.nil, and_true]
    refine ⟨⟨⟨_, _, percent, precision, ?_⟩, ⟨_, _, percent, sign, ?_⟩,
      ⟨_, _, percent, width, ?_⟩⟩, ⟨⟨_, _, precision, sign, ?_⟩, ⟨_, _, precision, width, ?_⟩⟩,
      ⟨_, _, sign, width, ?_⟩⟩
    all_goals constructor <;> simp
  have other := number_tokens_compose.2.2.2.2.2.2 _ "000 percent +! .0#" rearranged apart
  exact ⟨noColons, together, other ▸ together⟩

end NumberSkeleton

end IcuMessage
