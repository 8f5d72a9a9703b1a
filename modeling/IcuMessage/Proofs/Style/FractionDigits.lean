import IcuMessage.Proofs.Style.NumberTokens

/-!
# Fraction digits of number skeletons

Among the tokens of a number skeleton, those for precision settle how many fraction
digits a number has.  An option that tokens settle is what the last of them settles
(`option_of_layer`).

So a fraction precision that no other precision follows decides both bounds.  An
integer precision settles the maximum alone: the fraction digits that an earlier
token or the style of a currency requires remain (`last_precision_decides`).
-/

namespace IcuMessage.NumberSkeleton

/-- The token for whole numbers. -/
def integerPrecision : List Char :=
  "precision-integer".toList

/-- The token is about precision. -/
def IsPrecision (token : List Char) : Prop :=
  token = integerPrecision ∨ token.head? = some '.'

instance (token : List Char) : Decidable (IsPrecision token) :=
  inferInstanceAs (Decidable (_ ∨ _))

/-- The number of required digits of a fraction precision. -/
def required? (token : List Char) : Option Nat :=
  if token.head? = some '.' then some (token.count '0') else none

/-- The greatest number of digits that a token for precision allows. -/
def allowed? (token : List Char) : Option Nat :=
  if token = integerPrecision then some 0
  else if token.head? = some '.' then some (token.length - 1)
  else none

@[simp]
theorem head?_fractionPrecision (required further : Nat) :
    (fractionPrecision required further).head? = some '.' := rfl

@[simp]
theorem required?_fractionPrecision (required further : Nat) :
    required? (fractionPrecision required further) = some required := by
  rw [required?, if_pos (head?_fractionPrecision required further), fractionPrecision,
    List.count_cons_of_ne (by decide), List.count_append, List.count_replicate_self,
    List.count_replicate, if_neg (by decide), Nat.add_zero]

@[simp]
theorem allowed?_fractionPrecision (required further : Nat) :
    allowed? (fractionPrecision required further) = some (required + further) := by
  have other : fractionPrecision required further ≠ integerPrecision :=
    fun same => absurd (List.cons.inj same).1 (by decide)
  rw [allowed?, if_neg other, if_pos (head?_fractionPrecision required further)]
  simp [fractionPrecision]

@[simp]
theorem required?_integerPrecision : required? integerPrecision = none := by
  decide +kernel

@[simp]
theorem allowed?_integerPrecision : allowed? integerPrecision = some 0 :=
  if_pos rfl

theorem required?_eq_none
    {token : List Char}
    (noPrecision : ¬ IsPrecision token) :
    required? token = none :=
  if_neg fun stop => noPrecision (Or.inr stop)

theorem allowed?_eq_none
    {token : List Char}
    (noPrecision : ¬ IsPrecision token) :
    allowed? token = none := by
  rw [allowed?, if_neg fun word => noPrecision (Or.inl word),
    if_neg fun stop => noPrecision (Or.inr stop)]

/-- What an accepted token has to do with precision. -/
inductive TokenPrecision : List Char → NumberOptions → Prop where
  | integer {settled : NumberOptions}
      (least : settled.minimumFractionDigits = none)
      (greatest : settled.maximumFractionDigits = some 0) :
      TokenPrecision integerPrecision settled
  | fraction {required further : Nat} {settled : NumberOptions}
      (bounded : required + further ≤ 255)
      (least : settled.minimumFractionDigits = some (UInt8.ofNat required))
      (greatest : settled.maximumFractionDigits = some (UInt8.ofNat (required + further))) :
      TokenPrecision (fractionPrecision required further) settled
  | other {token : List Char} {settled : NumberOptions}
      (noPrecision : ¬ IsPrecision token)
      (least : settled.minimumFractionDigits = none)
      (greatest : settled.maximumFractionDigits = none) :
      TokenPrecision token settled

/-- Only one of the fixed words is about precision. -/
theorem tokenPrecision_of_keyword
    {word : String}
    {settled : NumberOptions}
    (listed : (word, settled) ∈ keywords) :
    TokenPrecision word.toList settled := by
  have each : ∀ entry ∈ keywords,
      (entry.1.toList = integerPrecision ∧ entry.2.minimumFractionDigits = none ∧
          entry.2.maximumFractionDigits = some 0) ∨
        (¬ IsPrecision entry.1.toList ∧ entry.2.minimumFractionDigits = none ∧
          entry.2.maximumFractionDigits = none) := by
    decide +kernel
  rcases each _ listed with ⟨word, least, greatest⟩ | ⟨noPrecision, least, greatest⟩
  · rw [word]
    exact .integer least greatest
  · exact .other noPrecision least greatest

theorem not_isPrecision
    {first : Char}
    {rest : List Char}
    (noLetter : first ≠ 'p')
    (noStop : first ≠ '.') :
    ¬ IsPrecision (first :: rest) := by
  rintro (word | stop)
  · exact noLetter (List.cons.inj word).1
  · exact noStop (Option.some.inj stop)

/-- Every token of the grammar settles the digits of a precision, or none. -/
theorem tokenPrecision_of_meaning
    {token : List Char}
    {settled : NumberOptions}
    (meaning : TokenMeaning token settled) :
    TokenPrecision token settled := by
  cases meaning with
  | keyword listed => exact tokenPrecision_of_keyword listed
  | currency => exact .other (not_isPrecision (by decide) (by decide)) rfl rfl
  | fraction bounded => exact .fraction bounded rfl rfl
  | integerWidth => exact .other (not_isPrecision (by decide) (by decide)) rfl rfl
  | zeros filled =>
      obtain ⟨more, rfl⟩ := Nat.exists_eq_succ_of_ne_zero (Nat.ne_of_gt filled)
      exact .other (not_isPrecision (by decide) (by decide)) rfl rfl

theorem tokenPrecision_of_readTokens
    {options result : NumberOptions}
    {tokens : List (List Char)}
    (read : readTokens options tokens = .ok result) :
    ∀ token ∈ tokens, ∃ settled, TokenPrecision token settled := by
  rw [readTokens_eq_layer] at read
  intro token member
  rcases exists_layer_eq_ok_iff.mp ⟨result, read⟩ token member with
    ⟨settled, accepted⟩
  exact ⟨settled, tokenPrecision_of_meaning (settle_eq_ok_iff.mp accepted)⟩

namespace TokenPrecision

variable {token : List Char} {settled : NumberOptions}

/-- A token requires the digits that its precision requires. -/
theorem least (precision : TokenPrecision token settled) :
    settled.minimumFractionDigits = (required? token).map UInt8.ofNat := by
  cases precision with
  | integer least => exact least
  | fraction _ least => rw [least, required?_fractionPrecision, Option.map_some]
  | other noPrecision least => rw [least, required?_eq_none noPrecision, Option.map_none]

/-- A token allows the digits that its precision allows. -/
theorem greatest (precision : TokenPrecision token settled) :
    settled.maximumFractionDigits = (allowed? token).map UInt8.ofNat := by
  cases precision with
  | integer _ greatest => exact greatest
  | fraction _ _ greatest => rw [greatest, allowed?_fractionPrecision, Option.map_some]
  | other noPrecision _ greatest => rw [greatest, allowed?_eq_none noPrecision, Option.map_none]

/-- The numbers of digits that an accepted token speaks of fit in a byte. -/
theorem le_of_required?
    (precision : TokenPrecision token settled)
    {required : Nat}
    (asks : required? token = some required) :
    required ≤ 255 := by
  cases precision with
  | integer => cases asks
  | fraction bounded =>
      rw [required?_fractionPrecision] at asks
      cases asks
      omega
  | other noPrecision =>
      rw [required?_eq_none noPrecision] at asks
      cases asks

theorem le_of_allowed?
    (precision : TokenPrecision token settled)
    {allowed : Nat}
    (asks : allowed? token = some allowed) :
    allowed ≤ 255 := by
  cases precision with
  | integer =>
      cases asks
      omega
  | fraction bounded =>
      rw [allowed?_fractionPrecision] at asks
      cases asks
      exact bounded
  | other noPrecision =>
      rw [allowed?_eq_none noPrecision] at asks
      cases asks

end TokenPrecision

/-- A number of digits that is settled last is read back from its byte. -/
theorem toNat_settled
    {settles : List Char → Option Nat}
    {tokens : List (List Char)}
    (bounded : ∀ token ∈ tokens, ∀ digits, settles token = some digits → digits ≤ 255) :
    ((tokens.reverse.findSome? fun token => (settles token).map UInt8.ofNat).map UInt8.toNat) =
      tokens.reverse.findSome? settles := by
  have split : (tokens.reverse.findSome? fun token => (settles token).map UInt8.ofNat) =
      (tokens.reverse.findSome? settles).map UInt8.ofNat :=
    List.map_findSome?.symm
  rw [split, Option.map_map]
  cases found : tokens.reverse.findSome? settles with
  | none => rfl
  | some digits =>
      rcases List.exists_of_findSome?_eq_some found with
        ⟨token, member, settled⟩
      have small := bounded token (List.mem_reverse.mp member) digits settled
      simp only [Option.map_some, Function.comp_apply, Option.some.injEq]
      exact UInt8.toNat_ofNat_of_lt' (Nat.lt_succ_of_le small)

variable {skeleton : String} {options : NumberOptions}

/-- A number of digits is as the last token that speaks of it says. -/
theorem digits_of_read
    {field : NumberOptions → Option UInt8}
    {settles : List Char → Option Nat}
    (opened : field {} = none)
    (overlaid : ∀ lower upper, field (lower.overlay upper) = (field upper).or (field lower))
    (each : ∀ {token settled}, TokenPrecision token settled →
      field settled = (settles token).map UInt8.ofNat)
    (bounded : ∀ {token settled}, TokenPrecision token settled →
      ∀ {digits}, settles token = some digits → digits ≤ 255)
    (accepted : read skeleton = .ok options) :
    (field options).map UInt8.toNat = (tokens skeleton).reverse.findSome? settles := by
  have layered := accepted
  rw [read_eq_layer] at layered
  have last := option_of_layer overlaid
    (fun token settled accepts => each (tokenPrecision_of_meaning (settle_eq_ok_iff.mp accepts)))
    layered
  rw [last, opened, Option.or_none, toNat_settled]
  intro token member digits asks
  rcases tokenPrecision_of_readTokens accepted token member with
    ⟨settled, precision⟩
  exact bounded precision asks

/-- The last token that requires digits decides how many are required. -/
theorem minimum_of_read (accepted : read skeleton = .ok options) :
    options.minimumFractionDigits.map UInt8.toNat =
      (tokens skeleton).reverse.findSome? required? :=
  digits_of_read rfl (fun _ _ => rfl) TokenPrecision.least TokenPrecision.le_of_required? accepted

/-- The last token that allows digits decides how many are allowed. -/
theorem maximum_of_read (accepted : read skeleton = .ok options) :
    options.maximumFractionDigits.map UInt8.toNat =
      (tokens skeleton).reverse.findSome? allowed? :=
  digits_of_read rfl (fun _ _ => rfl) TokenPrecision.greatest TokenPrecision.le_of_allowed? accepted

/-! ## The last token for precision -/

/-- A token stands behind some tokens, and no later one is about precision. -/
def LastPrecision (tokens before : List (List Char)) (token : List Char) : Prop :=
  ∃ after, tokens = before ++ token :: after ∧ ∀ later ∈ after, ¬ IsPrecision later

/-- The fraction digits that the last fraction precision of some tokens requires, or
a style by itself if there is none. -/
def requiredBy (style : NumberStyle) (tokens : List (List Char)) : Nat :=
  (tokens.reverse.findSome? required?).getD (NumberOptions.defaultFractionBounds style).1.toNat

/-- The fraction digits as numbers, the least and the greatest. -/
def fractionDigits (options : NumberOptions) : Nat × Nat :=
  (options.fractionBounds.1.toNat, options.fractionBounds.2.toNat)

theorem findSome?_reverse_of_last
    {settles : List Char → Option Nat}
    {tokens before : List (List Char)}
    {token : List Char}
    (silent : ∀ later, ¬ IsPrecision later → settles later = none)
    (last : LastPrecision tokens before token) :
    tokens.reverse.findSome? settles =
      (settles token).or (before.reverse.findSome? settles) := by
  rcases last with
    ⟨after, rfl, later⟩
  have behind : after.reverse.findSome? settles = none :=
    List.findSome?_eq_none_iff.mpr fun token member =>
      silent token (later token (List.mem_reverse.mp member))
  rw [List.reverse_append, List.reverse_cons, List.append_assoc, List.findSome?_append, behind,
    Option.none_or, List.findSome?_append, List.findSome?_singleton]

theorem toNat_max (first second : UInt8) :
    (max first second).toNat = max first.toNat second.toNat := by
  show (if first ≤ second then second else first).toNat = _
  split
  case isTrue below => exact (Nat.max_eq_right (UInt8.le_iff_toNat_le.mp below)).symm
  case isFalse above =>
    exact (Nat.max_eq_left (Nat.le_of_not_le (mt UInt8.le_iff_toNat_le.mpr above))).symm

/-- Bounds that are not set are those of the style, and no fewer digits are allowed than
are required. -/
theorem fractionDigits_eq (options : NumberOptions) :
    fractionDigits options =
      let defaults := NumberOptions.defaultFractionBounds options.styleOrDecimal
      let least := (options.minimumFractionDigits.map UInt8.toNat).getD defaults.1.toNat
      let greatest := (options.maximumFractionDigits.map UInt8.toNat).getD
        (max defaults.2.toNat least)
      (least, max greatest least) := by
  simp only [fractionDigits, NumberOptions.fractionBounds, toNat_max]
  cases options.minimumFractionDigits <;> cases options.maximumFractionDigits <;>
    simp [toNat_max]

/-- A fraction precision that is the last precision of an accepted skeleton decides
both bounds of the fraction digits.  An integer precision that is the last one allows
no digits beyond those that are required before it, or by the style: none are left
exactly if none are required.  Without precision the style decides.  There are no
other tokens for precision in an accepted skeleton. -/
theorem last_precision_decides (accepted : read skeleton = .ok options) :
    (∀ before required further,
      LastPrecision (tokens skeleton) before (fractionPrecision required further) →
        fractionDigits options = (required, required + further)) ∧
    (∀ before,
      LastPrecision (tokens skeleton) before integerPrecision →
        fractionDigits options =
            (requiredBy options.styleOrDecimal before, requiredBy options.styleOrDecimal before) ∧
          (fractionDigits options = (0, 0) ↔ requiredBy options.styleOrDecimal before = 0)) ∧
    ((∀ token ∈ tokens skeleton, ¬ IsPrecision token) →
      fractionDigits options =
        match options.styleOrDecimal with
        | .decimal => (0, 3)
        | .percent => (0, 0)
        | .currency => (2, 2)) ∧
    (∀ token ∈ tokens skeleton, IsPrecision token →
      token = integerPrecision ∨
        ∃ required further, token = fractionPrecision required further) := by
  have least := minimum_of_read accepted
  have greatest := maximum_of_read accepted
  refine ⟨?_, ?_, ?_, ?_⟩
  · intro before required further last
    rw [findSome?_reverse_of_last (fun _ => required?_eq_none) last,
      required?_fractionPrecision] at least
    rw [findSome?_reverse_of_last (fun _ => allowed?_eq_none) last,
      allowed?_fractionPrecision] at greatest
    rw [fractionDigits_eq, least, greatest]
    simp
  · intro before last
    rw [findSome?_reverse_of_last (fun _ => required?_eq_none) last,
      required?_integerPrecision, Option.none_or] at least
    rw [findSome?_reverse_of_last (fun _ => allowed?_eq_none) last,
      allowed?_integerPrecision, Option.some_or] at greatest
    have digits : fractionDigits options =
        (requiredBy options.styleOrDecimal before, requiredBy options.styleOrDecimal before) := by
      rw [fractionDigits_eq, least, greatest]
      simp [requiredBy]
    exact ⟨digits, by rw [digits]; simp⟩
  · intro noPrecision
    have silent : ∀ settles : List Char → Option Nat,
        (∀ token, ¬ IsPrecision token → settles token = none) →
          (tokens skeleton).reverse.findSome? settles = none := by
      intro settles none
      exact List.findSome?_eq_none_iff.mpr fun token member =>
        none token (noPrecision token (List.mem_reverse.mp member))
    rw [silent _ fun _ => required?_eq_none, Option.map_eq_none_iff] at least
    rw [silent _ fun _ => allowed?_eq_none, Option.map_eq_none_iff] at greatest
    rw [fractionDigits, NumberOptions.fractionBounds, least, greatest]
    cases options.styleOrDecimal <;> rfl
  · intro token member precise
    rcases tokenPrecision_of_readTokens accepted token member with
      ⟨settled, precision⟩
    cases precision with
    | integer => exact Or.inl rfl
    | fraction => exact Or.inr ⟨_, _, rfl⟩
    | other noPrecision => exact absurd precise noPrecision

/-- Precision of both kinds and of every style, with a fraction precision at the end. -/
def mixedSkeleton : String :=
  "::percent .000 precision-integer currency/usd .0## group-off"

/-- What the tokens of `mixedSkeleton` settle. -/
def mixedOptions : NumberOptions where
  style := some .currency
  currency := some "USD"
  minimumFractionDigits := some 1
  maximumFractionDigits := some 3
  useGrouping := some false

/-- In `mixedSkeleton` the last fraction precision decides, against an integer precision
and the digits of the currency. -/
theorem last_precision_decides_mixedSkeleton :
    read mixedSkeleton = .ok mixedOptions ∧
      (∃ before, LastPrecision (tokens mixedSkeleton) before (fractionPrecision 1 2)) ∧
        fractionDigits mixedOptions = (1, 3) := by
  have accepted : read mixedSkeleton = .ok mixedOptions := by
    decide +kernel
  have last : LastPrecision (tokens mixedSkeleton)
      ["percent".toList, ".000".toList, "precision-integer".toList, "currency/usd".toList]
      (fractionPrecision 1 2) :=
    ⟨["group-off".toList], by decide +kernel, by decide +kernel⟩
  exact ⟨accepted, ⟨_, last⟩, (last_precision_decides accepted).1 _ 1 2 last⟩

/-- An integer precision at the end leaves the digits that a fraction precision
before it requires, and those of a currency. -/
theorem integer_precision_leaves_digits :
    (∃ options, read ".00 precision-integer" = .ok options ∧
      LastPrecision (tokens ".00 precision-integer") [".00".toList] integerPrecision ∧
      fractionDigits options = (2, 2)) ∧
    (∃ options, read "currency/usd precision-integer" = .ok options ∧
      LastPrecision (tokens "currency/usd precision-integer") ["currency/usd".toList]
        integerPrecision ∧
      fractionDigits options = (2, 2)) := by
  constructor
  · refine ⟨{ minimumFractionDigits := some 2, maximumFractionDigits := some 0 }, ?_, ?_, ?_⟩
    · decide +kernel
    · exact ⟨[], by decide +kernel, by simp⟩
    · decide
  · refine ⟨{ style := some .currency, currency := some "USD", maximumFractionDigits := some 0 },
      ?_, ?_, ?_⟩
    · decide +kernel
    · exact ⟨[], by decide +kernel, by simp⟩
    · decide

end IcuMessage.NumberSkeleton
