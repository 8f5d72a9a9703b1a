import IcuMessage.Proofs.Evaluation.Agreement
import IcuMessage.Proofs.Style.Memo

/-!
# Evaluation after requests for styles

A memo of styles may be kept in place and asked for one style after the other, where
a request may repeat an earlier one and may fail (`StyleMemo.ask`).  Whatever was
asked for, evaluation with the memo gives what it gives with an empty one, events
included, for messages with any styles; and a request that fails has not changed the
memo (`style_requests_never_show`).
-/

namespace IcuMessage

namespace StyleMemo

/-- Ask for a style in place.  An option set is written only when it has been found. -/
def ask (sheet : StyleSheet) (category : Category) (style : Option Style) :
    ExceptT Failure (StateM StyleMemo) Unit := do
  let memo ← get
  match category with
  | .number =>
      if (memo.numbers.lookup style).isNone then
        let options ← sheet.resolveNumber style
        modify fun memo => { memo with numbers := (style, options) :: memo.numbers }
  | .date | .time =>
      if (memo.dateTimes.lookup (category, style)).isNone then
        let options ← sheet.resolveDateTime category style
        modify fun memo =>
          { memo with dateTimes := ((category, style), options) :: memo.dateTimes }

/-- The outcome of a request, and the memo behind it. -/
def request (memo : StyleMemo) (sheet : StyleSheet) (category : Category)
    (style : Option Style) : Except Failure Unit × StyleMemo :=
  (ask sheet category style).run.run memo

/-- The memo behind some requests, each of which may fail. -/
def behindRequests (sheet : StyleSheet) (requests : List (Category × Option Style)) :
    StyleMemo :=
  requests.foldl (fun memo request => (memo.request sheet request.1 request.2).2) {}

variable {memo : StyleMemo} {sheet : StyleSheet}

theorem request_number (style : Option Style) :
    memo.request sheet .number style =
      match memo.rememberNumber sheet style with
      | .ok later => (.ok (), later)
      | .error error => (.error error, memo) := by
  show (if (memo.numbers.lookup style).isNone then _ else _ :
    ExceptT Failure (StateM StyleMemo) Unit).run.run memo = _
  rw [rememberNumber]
  cases memo.numbers.lookup style with
  | some options => rfl
  | none => cases sheet.resolveNumber style <;> rfl

/-- Dates and times are asked for in the same way. -/
theorem request_dateTime
    {category : Category}
    (noNumber : category ≠ .number)
    (style : Option Style) :
    memo.request sheet category style =
      match memo.rememberDateTime sheet category style with
      | .ok later => (.ok (), later)
      | .error error => (.error error, memo) := by
  have opened :
      memo.request sheet category style =
        (if (memo.dateTimes.lookup (category, style)).isNone then
          (do
            let options ← sheet.resolveDateTime category style
            modify fun memo =>
              { memo with dateTimes := ((category, style), options) :: memo.dateTimes } :
            ExceptT Failure (StateM StyleMemo) Unit)
        else pure ()).run.run memo := by
    cases category with
    | number => exact absurd rfl noNumber
    | date => rfl
    | time => rfl
  rw [opened, rememberDateTime]
  cases memo.dateTimes.lookup (category, style) with
  | some options => rfl
  | none => cases sheet.resolveDateTime category style <;> rfl

/-- In place, a request that succeeds leaves the memo that remembers the style, and one
that fails leaves the memo as it was. -/
theorem request_eq_remember (category : Category) (style : Option Style) :
    memo.request sheet category style =
      match memo.remember sheet category style with
      | .ok later => (.ok (), later)
      | .error error => (.error error, memo) := by
  cases category with
  | number => exact request_number style
  | date => exact request_dateTime (by decide) style
  | time => exact request_dateTime (by decide) style

/-- A request that fails leaves the memo as it was. -/
theorem eq_of_request_fails
    {category : Category}
    {style : Option Style}
    {error : Failure}
    {later : StyleMemo}
    (failed : memo.request sheet category style = (.error error, later)) :
    later = memo := by
  rw [request_eq_remember] at failed
  cases remembered : memo.remember sheet category style with
  | ok next =>
      rw [remembered] at failed
      cases failed
  | error reported =>
      rw [remembered] at failed
      cases failed
      rfl

/-- A request keeps a memo faithful, whether or not it fails. -/
theorem Faithful.request
    (faithful : memo.Faithful sheet)
    (category : Category)
    (style : Option Style) :
    (memo.request sheet category style).2.Faithful sheet := by
  have step := faithful.remembered category style
  rw [request_eq_remember]
  generalize memo.remember sheet category style = outcome at step
  cases step with
  | refused refuses => exact faithful
  | kept resolves later collects => exact later

/-- A memo stays faithful behind any requests. -/
theorem Faithful.foldl_request
    (faithful : memo.Faithful sheet)
    (requests : List (Category × Option Style)) :
    (requests.foldl (fun memo request => (memo.request sheet request.1 request.2).2)
      memo).Faithful sheet := by
  induction requests generalizing memo with
  | nil => exact faithful
  | cons request rest ih => exact ih (faithful.request request.1 request.2)

/-- What requests leave behind in the empty memo is faithful. -/
theorem faithful_behindRequests
    (sheet : StyleSheet)
    (requests : List (Category × Option Style)) :
    (behindRequests sheet requests).Faithful sheet :=
  (faithful_empty sheet).foldl_request requests

end StyleMemo

/-! ## Evaluation -/

namespace Environment

/-- The environment with another memo. -/
def withStyles (environment : Environment) (styles : StyleMemo) : Environment :=
  { environment with styles := styles }

variable {environment : Environment} {memo : StyleMemo}

theorem dateTimeText_withStyles
    (faithful : memo.Faithful environment.sheet)
    (category : Category)
    (millis : Int64)
    (style : Option Style) :
    (environment.withStyles memo).dateTimeText category millis style =
      (environment.withStyles {}).dateTimeText category millis style := by
  have options : memo.dateTimeSet environment.sheet category style =
      StyleMemo.dateTimeSet {} environment.sheet category style :=
    faithful.dateTimeSet category style
  simp only [dateTimeText, withStyles, options]

/-- A faithful memo gives a placeholder the text that the empty memo gives it. -/
theorem formattedText_withStyles
    (faithful : memo.Faithful environment.sheet)
    (category : Category)
    (name : String)
    (style : Option Style) :
    (environment.withStyles memo).formattedText category name style =
      (environment.withStyles {}).formattedText category name style := by
  have options : memo.numberSet environment.sheet style =
      StyleMemo.numberSet {} environment.sheet style :=
    faithful.numberSet style
  have value : (environment.withStyles memo).value name =
      (environment.withStyles {}).value name := rfl
  rw [formattedText, formattedText, value]
  refine bind_congr fun value => ?_
  cases category with
  | number =>
      have text : (environment.withStyles memo).numberText name style value =
          (environment.withStyles {}).numberText name style value := by
        simp only [numberText, withStyles, options]
      simp only [text]
  | date => simp only [dateTimeText_withStyles faithful]
  | time => simp only [dateTimeText_withStyles faithful]

/-- A faithful memo changes nothing about a plain placeholder. -/
theorem gatherArgument_withStyles
    (faithful : memo.Faithful environment.sheet)
    (value : Value)
    (gathered : Gathered) :
    (environment.withStyles memo).gatherArgument value gathered =
      (environment.withStyles {}).gatherArgument value gathered := by
  cases value with
  | date millis =>
      show ((environment.withStyles memo).dateTimeText .date millis none).map _ =
        ((environment.withStyles {}).dateTimeText .date millis none).map _
      rw [dateTimeText_withStyles faithful]
  | _ => rfl

end Environment

/-- A message denotes the same with a faithful memo as with an empty one. -/
theorem Message.evaluate_withStyles
    {environment : Environment}
    {memo : StyleMemo}
    (faithful : memo.Faithful environment.sheet)
    (message : Message) :
    Message.evaluate (environment.withStyles memo) message =
      Message.evaluate (environment.withStyles {}) message := by
  have service : (environment.withStyles memo).SameService (environment.withStyles {}) :=
    ⟨rfl, rfl, rfl⟩
  refine evaluate_eq_of_agree service fun node _ => ?_
  cases node with
  | argument name => exact ⟨rfl, Environment.gatherArgument_withStyles faithful⟩
  | formatted category name style =>
      exact Environment.formattedText_withStyles faithful category name style
  | plural name rule offset branches => rfl
  | select name branches => rfl
  | literal text => trivial
  | pound => trivial
  | tag name children => trivial

/-- Requests for styles, repeated and refused ones among them, never show in what a
message evaluates to; and a request that fails leaves the memo as it was.  In place, a
request does what validation does to remember a style. -/
theorem style_requests_never_show :
    (∀ (environment : Environment) (requests : List (Category × Option Style))
        (message : Message) (pound : Option Float),
      message.partsIn
          (environment.withStyles (StyleMemo.behindRequests environment.sheet requests)) pound =
        message.partsIn (environment.withStyles {}) pound) ∧
    (∀ (sheet : StyleSheet) (memo later : StyleMemo) (category : Category)
        (style : Option Style) (error : Failure),
      memo.request sheet category style = (.error error, later) → later = memo) ∧
    ∀ (sheet : StyleSheet) (memo : StyleMemo) (category : Category) (style : Option Style),
      memo.request sheet category style =
        match memo.remember sheet category style with
        | .ok later => (.ok (), later)
        | .error error => (.error error, memo) := by
  refine ⟨?_, ?_, ?_⟩
  · intro environment requests message pound
    have faithful := StyleMemo.faithful_behindRequests environment.sheet requests
    rw [Message.partsIn, Message.partsIn, Message.evaluate_withStyles faithful]
  · intro sheet memo later category style error failed
    exact StyleMemo.eq_of_request_fails failed
  · intro sheet memo category style
    exact StyleMemo.request_eq_remember category style

/-- The style of dates is known, and no style of numbers has its name. -/
theorem style_requests_never_show_sharedName :
    ∃ memo later,
      memo = StyleMemo.behindRequests {} [(.date, some (.named "full"))] ∧
        memo.dateTimes.map Prod.fst = [(.date, some (.named "full"))] ∧
        memo.request {} .number (some (.named "full")) =
          (.error (.unknownStyle .number "full"), later) ∧
        later = memo := by
  have failed :
      (StyleMemo.behindRequests {} [(.date, some (.named "full"))]).request {} .number
          (some (.named "full")) =
        (.error (.unknownStyle .number "full"),
          StyleMemo.behindRequests {} [(.date, some (.named "full"))]) := by
    rfl
  exact ⟨_, _, rfl, rfl, failed, style_requests_never_show.2.1 _ _ _ _ _ _ failed⟩

end IcuMessage
