import CovenantRadar.Statements.Chart

/-!
# Normalising a statement

Source `domain/statements/chart.py` (`Chart.normalise`) and `domain/statements/identities.py`, on
exact rationals: from one period's supplied values to the values of the chart's lines.
-/

namespace CovenantRadar

namespace Statements

/-! ## Supplied values -/

/-- A value of the raw extract. A `Decimal` that is no number is kept by its name. -/
inductive RawValue where
  | null
  | bool (value : Bool)
  | decimal (value : Decimal)
  | notFinite (name : Text)
  | int (value : Int)
  | str (value : Text)
  | float (repr : Text)
  | other (typeName : Text)
  deriving DecidableEq

/-- The name of the value, not a number or infinite, that `Decimal(text)` reads from a text that
    is no number. -/
def notFiniteName (text : Text) : Option Text :=
  let body := (Text.strip text).filter (· ≠ '_')
  let sign : Text := if body.head? = some '-' then ['-'] else []
  let name := Text.lower (if body.head? = some '-' ∨ body.head? = some '+' then body.tail else body)
  let diagnostic (kind : String) (digits : Text) : Option Text :=
    if digits.all Text.isDecimal then
      some (sign ++ kind.toList ++ digits.dropWhile (fun c => Text.digitsValue [c] = 0))
    else none
  if name = "inf".toList ∨ name = "infinity".toList then some (sign ++ "Infinity".toList)
  else if "nan".toList.isPrefixOf name then diagnostic "NaN" (name.drop 3)
  else if "snan".toList.isPrefixOf name then diagnostic "sNaN" (name.drop 4)
  else none

/-- Source `_to_decimal`. -/
def toDecimal (field : Text) (value : RawValue) : Except StatementError ℚ :=
  let notNumeric (what : Text) : Except StatementError ℚ :=
    chartError (field ++ " must be a decimal, integer or numeric string, not ".toList ++ what ++
      ['.']) field
  let infinite (name : Text) : Except StatementError ℚ :=
    chartError (field ++ " must be a finite value, got Decimal('".toList ++ name ++
      "').".toList) field
  match value with
  | .bool _ => notNumeric "a boolean".toList
  | .decimal value => .ok value.value
  | .notFinite name => infinite name
  | .int value => .ok value
  | .str text =>
    match Decimal.ofText text, notFiniteName text with
    | some value, _ => .ok value.value
    | none, some name => infinite name
    | none, none =>
      chartError (field ++ " is not a valid decimal: ".toList ++ Text.repr text ++ ['.']) field
  | .float repr =>
    chartError (field ++ " was supplied as a float (".toList ++ repr ++
      "); statement amounts must be a Decimal, an int, or a numeric string — a float cannot ".toList ++
      "represent money exactly.".toList) field
  | .null => notNumeric "NoneType".toList
  | .other typeName => notNumeric typeName

/-- Source `_UNIT_FACTORS`. -/
def unitFactors : List (String × ℚ) :=
  [("actual", 1 / 10000000), ("thousand", 1 / 10000), ("lakh", 1 / 100), ("crore", 1)]

/-- `_UNIT_FACTORS.get(unit)`. -/
def unitFactor (unit : Text) : Option ℚ :=
  (unitFactors.find? fun entry => entry.1.toList = unit).map (·.2)

/-- Source `_convert_unit`. -/
def convertUnit (field : Text) (amount : ℚ) (unit : Text) : Except StatementError ℚ :=
  match unitFactor unit with
  | some factor => .ok (amount * factor)
  | none =>
    chartError (field ++ " has unknown unit ".toList ++ Text.repr unit ++
      "; expected one of ['actual', 'crore', 'lakh', 'thousand'].".toList) field

/-- Source `_resolve_raw_value`. -/
def resolveRawValue (code : Text) (value : RawValue) (unit : Text) : Except StatementError ℚ :=
  toDecimal code value >>= fun amount => convertUnit code amount unit

/-- One period's raw extract, keyed by line code. -/
structure RawExtract where
  values : List (Text × RawValue)
  distinct : (values.map (·.1)).Nodup

/-- `raw.get(code)`, where a line that is there without a value counts as absent. -/
def RawExtract.get (raw : RawExtract) (code : Text) : Option RawValue :=
  match raw.values.find? (·.1 = code) with
  | some (_, .null) => none
  | some (_, value) => some value
  | none => none

/-! ## Identities -/

/-- Source `Identity`. -/
structure Identity where
  name : Text
  left : List Text
  right : List Text

/-- Source `STATEMENT_IDENTITIES`. -/
def statementIdentities : List Identity :=
  [{ name := "balance_sheet_identity".toList
     left := ["total_assets".toList]
     right := ["total_liabilities".toList, "tangible_net_worth".toList] },
    { name := "profit_and_loss_identity".toList
      left := ["revenue".toList]
      right := ["cost_of_goods_sold".toList, "operating_expenses".toList, "depreciation".toList,
        "finance_cost".toList, "tax_expense".toList, "profit_after_tax".toList] }]

/-- Source `IdentityCheck`; the totals are there when every line is. -/
structure IdentityCheck where
  name : Text
  expression : Text
  leftTotal : Option ℚ
  rightTotal : Option ℚ
  difference : Option ℚ
  withinTolerance : Option Bool
  deriving DecidableEq

/-- Source `IdentityCheck.failed`. -/
def IdentityCheck.failed (check : IdentityCheck) : Bool := check.withinTolerance == some false

/-! ## The two passes -/

/-- Source `LineFlag`; every flag has the reason `negative_value_on_forbidden_sign_line`. -/
structure LineFlag where
  code : Text
  value : ℚ
  deriving DecidableEq

/-- Source `LineDiscrepancy`. -/
structure LineDiscrepancy where
  code : Text
  supplied : ℚ
  derived : ℚ
  difference : ℚ
  deriving DecidableEq

/-- The values resolved so far, in the order they were, with what was flagged. -/
structure Resolution where
  resolved : List (Text × ℚ)
  flags : List LineFlag
  discrepancies : List LineDiscrepancy

namespace Resolution

/-- `resolved.get(code)`. -/
def value (resolution : Resolution) (code : Text) : Option ℚ :=
  (resolution.resolved.find? (·.1 = code)).map (·.2)

/-- `resolved[code] = amount`, for a code that has no value. -/
def set (resolution : Resolution) (code : Text) (amount : ℚ) : Resolution :=
  { resolution with resolved := resolution.resolved ++ [(code, amount)] }

/-- `flags.append(...)`. -/
def flag (resolution : Resolution) (code : Text) (amount : ℚ) : Resolution :=
  { resolution with flags := resolution.flags ++ [{ code, value := amount }] }

/-- `discrepancies.append(...)`, beyond the tolerance. -/
def report (resolution : Resolution) (code : Text) (supplied : ℚ) (derived : Option ℚ)
    (tolerance : ℚ) : Resolution :=
  match derived with
  | some derived =>
    if tolerance < |supplied - derived| then
      { resolution with discrepancies := resolution.discrepancies ++
          [{ code, supplied, derived, difference := supplied - derived }] }
    else resolution
  | none => resolution

end Resolution

/-- The sum of a derivation, when every term has a value. -/
def derivedValue (value : Text → Option ℚ) (terms : List DerivationTerm) : Option ℚ :=
  if terms.all fun term => (value term.code).isSome then
    some (signedSum (fun code => (value code).getD 0) terms)
  else none

/-- A supplied amount is not trusted on a line that forbids negative values. -/
def Violates (line : LineDefinition) (amount : ℚ) : Prop :=
  forbidsNegative line.signConvention = true ∧ amount < 0

instance (line : LineDefinition) (amount : ℚ) : Decidable (Violates line amount) := by
  unfold Violates
  infer_instance

/-- Source `normalise`: the first loop, on one definition. -/
def baseStep (raw : RawExtract) (unit : Text) (resolution : Resolution) (line : LineDefinition) :
    Except StatementError Resolution :=
  if line.isDerived then .ok resolution
  else
    match raw.get line.code with
    | none => .ok resolution
    | some value =>
      (resolveRawValue line.code value unit).map fun amount =>
        if Violates line amount then resolution.flag line.code amount
        else resolution.set line.code amount

/-- Source `normalise`: the second loop, on one derived line. -/
def derivedStep (raw : RawExtract) (unit : Text) (tolerance : ℚ) (resolution : Resolution)
    (line : LineDefinition) (terms : List DerivationTerm) : Except StatementError Resolution :=
  let derived := derivedValue resolution.value terms
  match raw.get line.code with
  | none =>
    match derived with
    | some amount => .ok (resolution.set line.code amount)
    | none => .ok resolution
  | some value =>
    (resolveRawValue line.code value unit).map fun amount =>
      if Violates line amount then resolution.flag line.code amount
      else (resolution.set line.code amount).report line.code amount derived tolerance

/-- Source `check_identity`. -/
def checkIdentity (value : Text → Option ℚ) (tolerance : ℚ) (identity : Identity) :
    IdentityCheck :=
  let expression := List.intercalate " + ".toList identity.left ++ " = ".toList ++
    List.intercalate " + ".toList identity.right
  let total (codes : List Text) : ℚ := (codes.map fun code => (value code).getD 0).sum
  let difference := total identity.left - total identity.right
  if (identity.left ++ identity.right).all fun code => (value code).isSome then
    { name := identity.name, expression
      leftTotal := some (total identity.left)
      rightTotal := some (total identity.right)
      difference := some difference
      withinTolerance := some (decide (|difference| ≤ tolerance)) }
  else
    { name := identity.name, expression, leftTotal := none, rightTotal := none
      difference := none, withinTolerance := none }

/-- Source `NormalisationResult`. -/
structure NormalisationResult where
  lines : List (Text × ℚ)
  discrepancies : List LineDiscrepancy
  flags : List LineFlag
  identityChecks : List IdentityCheck
  isComplete : Bool

/-- `result.lines.get(code)`. -/
def NormalisationResult.value (result : NormalisationResult) (code : Text) : Option ℚ :=
  (result.lines.find? (·.1 = code)).map (·.2)

namespace Chart

/-- The codes of the extract that the chart does not define. -/
def unknownCodes (chart : Chart) (raw : RawExtract) : List Text :=
  (raw.values.map (·.1)).filter fun code => !chart.definitions.codes.contains code

/-- Source `normalise`: the second loop. -/
def deriveLines (chart : Chart) (raw : RawExtract) (unit : Text) (tolerance : ℚ)
    (resolution : Resolution) (code : Text) : Except StatementError Resolution :=
  match chart.definitions.find code with
  | none => .error (Definitions.unknownLine code)
  | some line =>
    match line.derivation with
    | none => .ok resolution
    | some terms => derivedStep raw unit tolerance resolution line terms

/-- Source `normalise`: both loops. -/
def resolve (chart : Chart) (raw : RawExtract) (unit : Text) (tolerance : ℚ) :
    Except StatementError Resolution :=
  chart.definitions.lines.foldlM (baseStep raw unit) ⟨[], [], []⟩ >>= fun base =>
    chart.derivationOrder.foldlM (chart.deriveLines raw unit tolerance) base

/-- Source `normalise`. -/
def normalise (chart : Chart) (raw : RawExtract) (unit : Text) (tolerance : ℚ) :
    Except StatementError NormalisationResult :=
  let unknown := chart.unknownCodes raw
  if unknown ≠ [] then
    chartError ("Unknown statement line code(s) in raw extract: ".toList ++
      List.intercalate ", ".toList (unknown.insertionSort (· ≤ ·)) ++ ['.']) "raw".toList
  else
    (chart.resolve raw unit tolerance).map fun resolution =>
      let checks := statementIdentities.map (checkIdentity resolution.value tolerance)
      { lines := resolution.resolved
        discrepancies := resolution.discrepancies
        flags := resolution.flags
        identityChecks := checks
        isComplete := !checks.any (·.failed) }

end Chart

end Statements

end CovenantRadar
