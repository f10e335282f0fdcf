import CovenantRadar.Cases.Lifecycle
import CovenantRadar.Covenants.Sma
import CovenantRadar.Misc.JsonRead
import CovenantRadar.Signals.Taxonomy
import CovenantRadar.Triage.Changes

/-!
# Queue filters

Source `domain/triage/views.py`: the filters of the portfolio queue, normalised once from the
JSON mapping they are stored and sent as.
-/

namespace CovenantRadar

namespace Queue

open Cases (CaseState)
open Taxonomy (SignalFamily)
open Sma (SmaBand)
open Triage (Band)

/-- Source `_CASE_STATES`: the state of a borrower's latest case, or that it has none. -/
inductive CaseFilter where
  | state (state : CaseState)
  | none
  deriving DecidableEq

/-- The text of a case filter. -/
def CaseFilter.value : CaseFilter → Text
  | .state known => known.value
  | .none => "none".toList

/-- A text without space around it, neither blank nor longer than a maximum. -/
structure TrimmedText (maximum : Nat) where
  text : Text
  trimmed : text.strip = text
  visible : text ≠ []
  bounded : text.length ≤ maximum

@[ext] theorem TrimmedText.ext {maximum : Nat} {a b : TrimmedText maximum} (text : a.text = b.text) :
    a = b := by
  cases a
  cases b
  cases text
  rfl

theorem TrimmedText.eq_iff {maximum : Nat} {a b : TrimmedText maximum} : a.text = b.text ↔ a = b :=
  ⟨TrimmedText.ext, congrArg TrimmedText.text⟩

instance {maximum : Nat} : DecidableEq (TrimmedText maximum) := fun a b =>
  decidable_of_iff (a.text = b.text) TrimmedText.eq_iff

/-- Source `_MAX_FILTER_TEXT`. -/
def maxFilterText : Nat := 200

/-- A portfolio filter: an identifier, or a code or path that no identifier is read from. -/
inductive PortfolioValue where
  | uuid (id : Uuid)
  | text (text : TrimmedText maxFilterText) (named : Uuid.ofText text.text = Option.none)
  deriving DecidableEq

/-- Source `_json_value`, on a portfolio filter. -/
def PortfolioValue.str : PortfolioValue → Text
  | .uuid id => id.str
  | .text written _ => written.text

/-- Source `QueueFilters`. -/
@[ext] structure QueueFilters where
  band : Option Band
  portfolio : Option PortfolioValue
  industry : Option (TrimmedText maxFilterText)
  assignee : Option Uuid
  smaBand : Option SmaBand
  caseState : Option CaseFilter
  signalFamily : Option SignalFamily
  deriving DecidableEq

/-- `QueueFilters()`. -/
def QueueFilters.none : QueueFilters :=
  ⟨Option.none, Option.none, Option.none, Option.none, Option.none, Option.none, Option.none⟩

/-! ## Reading a filter -/

/-- Source `_bounded_text`, on a JSON value. -/
def boundedText (field : String) (maximum : Nat) (value : Json) :
    Except PyError (TrimmedText maximum) :=
  let refused : PyError :=
    .valueError s!"{field} must be non-empty text of at most {maximum} characters."
  match value with
  | .str text =>
      if within : text.strip ≠ [] ∧ text.strip.length ≤ maximum then
        .ok ⟨text.strip, Text.strip_strip text, within.1, within.2⟩
      else .error refused
  | _ => .error refused

/-- `", ".join(sorted(choices))`. -/
def rendered (choices : List Text) : String :=
  String.ofList (", ".toList.intercalate (choices.insertionSort (· ≤ ·)))

/-- Source `_optional_choice`, with `lower=True`, on a value that is there. -/
def choice {α : Type} (field : String) (choices : List α) (valueOf : α → Text) (value : Json) :
    Except PyError α := do
  let normalized ← boundedText field maxFilterText value
  match choices.find? fun item => valueOf item == Text.lower normalized.text with
  | some item => .ok item
  | Option.none =>
      let names := rendered (choices.map valueOf)
      .error (.valueError s!"{field} must be one of {names}.")

/-- Source `_optional_sma`, on a value that is there. -/
def smaChoice (value : Json) : Except PyError SmaBand := do
  let normalized ← boundedText "sma_band" maxFilterText value
  let lowered := Text.lower normalized.text
  let canonical :=
    if lowered = "none".toList ∨ lowered = "beyond".toList then lowered
    else Text.upper normalized.text
  match [SmaBand.none, .sma0, .sma1, .sma2, .beyond].find? fun band => band.value == canonical with
  | some band => .ok band
  | Option.none =>
      .error (.valueError "sma_band must be one of SMA-0, SMA-1, SMA-2, beyond, none.")

/-- A UUID where one is read from the text, and the text itself otherwise. -/
def portfolioOf (text : TrimmedText maxFilterText) : PortfolioValue :=
  match named : Uuid.ofText text.text with
  | some id => .uuid id
  | Option.none => .text text named

/-- Source `_portfolio_value`. -/
def portfolioValue (value : Json) : Except PyError PortfolioValue :=
  (portfolioOf <$> boundedText "portfolio" maxFilterText value).mapError fun _ =>
    .valueError "portfolio must be a UUID, code, or path of at most 200 characters."

/-- Source `_optional_uuid`, on a value that is there. -/
def uuidValue (field : String) (value : Json) : Except PyError Uuid :=
  match value with
  | .str text =>
      match Uuid.ofText text with
      | some id => .ok id
      | Option.none => .error (.valueError s!"{field} must be a valid UUID.")
  | _ => .error (.typeError s!"{field} must be a UUID or None.")

/-- A value that is not null. -/
def present : Json → Option Json
  | .null => Option.none
  | value => some value

/-- `value.get(key)` of a decoded mapping, its last entry of the key; a null counts as absent. -/
def get (entries : List (Text × Json)) (key : String) : Option Json :=
  (entries.filter fun entry => entry.1 == key.toList).getLast?.bind fun entry => present entry.2

/-- A field that may be absent. -/
def optional {α : Type} (normalizer : Json → Except PyError α) :
    Option Json → Except PyError (Option α)
  | some value => some <$> normalizer value
  | Option.none => .ok Option.none

/-- Source `_coalesce_alias`. -/
def coalesceAlias {α : Type} [DecidableEq α] (field : String)
    (normalizer : Json → Except PyError α) (primary alias' : Option Json) :
    Except PyError (Option α) :=
  match primary, alias' with
  | some primary, some alias' => do
      let first ← normalizer primary
      let second ← normalizer alias'
      if first = second then return some first
      else .error (.valueError s!"{field} and its alias must identify the same value.")
  | some value, Option.none => some <$> normalizer value
  | Option.none, value => optional normalizer value

/-- The keys `QueueFilters.from_value` allows. -/
def allowedKeys : List String :=
  ["band", "portfolio", "portfolio_id", "industry", "industry_code", "assignee", "assignee_id",
    "sma_band", "case_state", "case_status", "signal_family"]

/-- Source `_CASE_STATES`. -/
def caseFilters : List CaseFilter := Cases.caseStates.map .state ++ [.none]

namespace QueueFilters

/-- Source `QueueFilters.from_value`, on a mapping. -/
def fromValue (entries : List (Text × Json)) : Except PyError QueueFilters := do
  let unknown := (entries.map Prod.fst).filter fun key => !(allowedKeys.map String.toList).contains key
  if let some first := (unknown.insertionSort (· ≤ ·)).head? then
    let name := String.ofList (Text.repr first)
    .error (.valueError s!"Unknown queue filter field {name}.")
  let band ← optional (choice "band" [Band.act, .amber, .watch] Band.text) (get entries "band")
  let portfolio ← coalesceAlias "portfolio" portfolioValue (get entries "portfolio")
    (get entries "portfolio_id")
  let industry ← coalesceAlias "industry" (boundedText "industry" maxFilterText)
    (get entries "industry") (get entries "industry_code")
  let assignee ← coalesceAlias "assignee" (uuidValue "assignee") (get entries "assignee")
    (get entries "assignee_id")
  let smaBand ← optional smaChoice (get entries "sma_band")
  let caseState ← coalesceAlias "case_state" (choice "case_state" caseFilters CaseFilter.value)
    (get entries "case_state") (get entries "case_status")
  let signalFamily ← optional (choice "signal_family" SignalFamily.families SignalFamily.value)
    (get entries "signal_family")
  return ⟨band, portfolio, industry, assignee, smaBand, caseState, signalFamily⟩

/-- A text, or `None`. -/
def textOrNull (text : Option Text) : Json := (text.map Json.str).getD .null

/-- Source `QueueFilters.to_dict`. -/
def toDict (filters : QueueFilters) : List (Text × Json) :=
  [("band".toList, textOrNull (filters.band.map Band.text)),
    ("portfolio".toList, textOrNull (filters.portfolio.map PortfolioValue.str)),
    ("industry".toList, textOrNull (filters.industry.map TrimmedText.text)),
    ("assignee".toList, textOrNull (filters.assignee.map Uuid.str)),
    ("sma_band".toList, textOrNull (filters.smaBand.map SmaBand.value)),
    ("case_state".toList, textOrNull (filters.caseState.map CaseFilter.value)),
    ("signal_family".toList, textOrNull (filters.signalFamily.map SignalFamily.value))]

end QueueFilters

/-! ## What was written is read back -/

@[simp] theorem boundedText_str (field : String) {maximum : Nat} (text : TrimmedText maximum) :
    boundedText field maximum (.str text.text) = .ok text := by
  unfold boundedText
  have within : text.text.strip ≠ [] ∧ text.text.strip.length ≤ maximum := by
    rw [text.trimmed]
    exact ⟨text.visible, text.bounded⟩
  simp only
  rw [dif_pos within]
  exact congrArg Except.ok (TrimmedText.ext text.trimmed)

theorem length_str (id : Uuid) : id.str.length = 36 := by
  simp [Uuid.str, Text.length_hex]

/-- Nothing is stripped from an identifier. -/
theorem strip_str (id : Uuid) : id.str.strip = id.str := by
  have visible : ∀ c ∈ id.str, Text.isSpace c = false := by
    intro c member
    have table : ∀ d < 16, Text.isSpace (Nat.digitChar d) = false := by decide
    rcases Uuid.mem_str member with rfl | ⟨d, small, rfl⟩
    · decide
    · exact table d small
  have front : id.str.dropWhile Text.isSpace = id.str := by
    rw [List.dropWhile_eq_self_iff]
    intro nonempty
    rw [visible _ (List.getElem_mem nonempty)]
    decide
  unfold Text.strip
  rw [front, List.rdropWhile_eq_self_iff]
  intro nonempty
  rw [visible _ (List.getLast_mem nonempty)]
  decide

/-- An identifier as a text. -/
def idText (id : Uuid) : TrimmedText maxFilterText where
  text := id.str
  trimmed := strip_str id
  visible := List.length_pos_iff.mp (by simp [length_str])
  bounded := by simp [length_str, maxFilterText]

theorem portfolioOf_idText (id : Uuid) : portfolioOf (idText id) = .uuid id := by
  unfold portfolioOf
  split
  · next other heq =>
    rw [idText, Uuid.ofText_str] at heq
    cases heq
    rfl
  · next heq =>
    rw [idText, Uuid.ofText_str] at heq
    cases heq

theorem portfolioOf_named {text : TrimmedText maxFilterText}
    (named : Uuid.ofText text.text = Option.none) : portfolioOf text = .text text named := by
  unfold portfolioOf
  split
  · next heq =>
    rw [named] at heq
    cases heq
  · rfl

@[simp] theorem portfolioValue_str (portfolio : PortfolioValue) :
    portfolioValue (.str portfolio.str) = .ok portfolio := by
  cases portfolio with
  | uuid id =>
    have read := boundedText_str "portfolio" (idText id)
    unfold portfolioValue
    rw [PortfolioValue.str, show id.str = (idText id).text from rfl, read, Except.map_ok,
      portfolioOf_idText]
    rfl
  | text written named =>
    unfold portfolioValue
    rw [PortfolioValue.str, boundedText_str, Except.map_ok, portfolioOf_named named]
    rfl

@[simp] theorem uuidValue_str (field : String) (id : Uuid) :
    uuidValue field (.str id.str) = .ok id := by
  simp [uuidValue, Uuid.ofText_str]

@[simp] theorem bandChoice_text (band : Band) :
    choice "band" [Band.act, .amber, .watch] Band.text (.str band.text) = .ok band := by
  cases band <;> decide

@[simp] theorem smaChoice_value (band : SmaBand) : smaChoice (.str band.value) = .ok band := by
  cases band <;> decide

@[simp] theorem caseChoice_value (filter : CaseFilter) :
    choice "case_state" caseFilters CaseFilter.value (.str filter.value) = .ok filter := by
  cases filter with
  | state known => cases known <;> decide
  | none => decide

@[simp] theorem familyChoice_value (family : SignalFamily) :
    choice "signal_family" SignalFamily.families SignalFamily.value (.str family.value) =
      .ok family := by
  cases family <;> decide

@[simp] theorem present_textOrNull (text : Option Text) :
    present (QueueFilters.textOrNull text) = text.map Json.str := by
  cases text <;> rfl

theorem optional_written {α : Type} {normalizer : Json → Except PyError α} {write : α → Text}
    (reads : ∀ a, normalizer (.str (write a)) = .ok a) (value : Option α) :
    optional normalizer ((value.map write).map Json.str) = .ok value := by
  cases value with
  | none => rfl
  | some a => simp [optional, reads]

theorem coalesceAlias_written {α : Type} [DecidableEq α] {field : String}
    {normalizer : Json → Except PyError α} {write : α → Text}
    (reads : ∀ a, normalizer (.str (write a)) = .ok a) (value : Option α) :
    coalesceAlias field normalizer ((value.map write).map Json.str) Option.none = .ok value := by
  cases value with
  | none => rfl
  | some a => simp [coalesceAlias, reads]

/-- Filters are read back from the mapping they are written as. -/
theorem fromValue_toDict (filters : QueueFilters) :
    QueueFilters.fromValue filters.toDict = .ok filters := by
  have known : (filters.toDict.map Prod.fst).filter
      (fun key => !(allowedKeys.map String.toList).contains key) = [] := by
    have keys : filters.toDict.map Prod.fst = ["band".toList, "portfolio".toList, "industry".toList,
      "assignee".toList, "sma_band".toList, "case_state".toList, "signal_family".toList] := rfl
    rw [keys]
    decide
  have band : get filters.toDict "band" = present (QueueFilters.textOrNull _) := rfl
  have portfolio : get filters.toDict "portfolio" = present (QueueFilters.textOrNull _) := rfl
  have industry : get filters.toDict "industry" = present (QueueFilters.textOrNull _) := rfl
  have assignee : get filters.toDict "assignee" = present (QueueFilters.textOrNull _) := rfl
  have smaBand : get filters.toDict "sma_band" = present (QueueFilters.textOrNull _) := rfl
  have caseState : get filters.toDict "case_state" = present (QueueFilters.textOrNull _) := rfl
  have family : get filters.toDict "signal_family" = present (QueueFilters.textOrNull _) := rfl
  have portfolioId : get filters.toDict "portfolio_id" = Option.none := rfl
  have industryCode : get filters.toDict "industry_code" = Option.none := rfl
  have assigneeId : get filters.toDict "assignee_id" = Option.none := rfl
  have caseStatus : get filters.toDict "case_status" = Option.none := rfl
  unfold QueueFilters.fromValue
  simp only [known, List.insertionSort_nil, List.head?_nil, band, portfolio, industry, assignee,
    smaBand, caseState, family, portfolioId, industryCode, assigneeId, caseStatus,
    present_textOrNull]
  rw [optional_written bandChoice_text, coalesceAlias_written portfolioValue_str,
    coalesceAlias_written (boundedText_str "industry"), coalesceAlias_written (uuidValue_str _),
    optional_written smaChoice_value, coalesceAlias_written caseChoice_value,
    optional_written familyChoice_value]
  rfl

end Queue

end CovenantRadar
