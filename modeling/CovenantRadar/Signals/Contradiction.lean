import CovenantRadar.Signals.Evidence

/-!
# Contradiction rules

Source `domain/signals/supersession.py`, `ContradictionRule` and the default rule
table: which observation supersedes which, as data.
-/

namespace CovenantRadar.Signals

/-- `EvidenceFacts | SignalEventFacts`: what a caller hands to the resolver, and
    what a rule is matched against. -/
inductive Observation where
  | evidence (item : EvidenceFacts)
  | event (facts : SignalEventFacts)

namespace Observation

def family : Observation → BoundedText 20
  | .evidence item => item.family
  | .event facts => facts.family

/-- Source `_evidence_type`. -/
def evidenceType : Observation → Text
  | .evidence item => item.evidenceType.text
  | .event facts => facts.evidenceType.text

/-- Source `_polarity_matches`: an evidence item does not store its polarity. -/
def polarityMatches (value : Observation) (expected : Option Bool) : Bool :=
  match expected, value with
  | none, _ => true
  | some polarity, .event facts =>
    match Json.lookup "is_adverse".toList facts.payload with
    | some (.bool candidate) => candidate == polarity
    | _ => false
  | some _, .evidence _ => true

end Observation

/-- Source `ContradictionRule`. -/
structure ContradictionRule where
  family : BoundedText 20
  supersededEventType : BoundedText 50
  supersedingEventType : BoundedText 50
  rule : BoundedText 100
  supersededIsAdverse : Option Bool := none
  supersedingIsAdverse : Option Bool := none
  deriving DecidableEq

namespace ContradictionRule

/-- Source `ContradictionRule.__post_init__`. -/
def make (family supersededEventType supersedingEventType rule : Text)
    (supersededIsAdverse supersedingIsAdverse : Option Bool) :
    Except PyError ContradictionRule := do
  let family ← BoundedText.check "family" 20 family
  let superseded ← BoundedText.check "superseded_event_type" 50 supersededEventType
  let superseding ← BoundedText.check "superseding_event_type" 50 supersedingEventType
  let rule ← BoundedText.check "rule" 100 rule
  .ok ⟨family, superseded, superseding, rule, supersededIsAdverse, supersedingIsAdverse⟩

/-- Source `ContradictionRule.matches`. -/
def matchesPair (rule : ContradictionRule) (superseded superseding : Observation) : Bool :=
  if superseded.family != rule.family || superseding.family != rule.family then false
  else if superseded.evidenceType != rule.supersededEventType.text then false
  else if superseding.evidenceType != rule.supersedingEventType.text then false
  else superseded.polarityMatches rule.supersededIsAdverse &&
    superseding.polarityMatches rule.supersedingIsAdverse

/-- Source `ContradictionRule.reverse` without the optional rule text. -/
def reverse (rule : ContradictionRule) : Except PyError ContradictionRule :=
  make rule.family.text rule.supersedingEventType.text rule.supersededEventType.text
    (rule.rule.text ++ ".reverse".toList) rule.supersedingIsAdverse rule.supersededIsAdverse

/-- A rule of the source's tables, whose texts are known to pass the checks. -/
def table (family superseded superseding rule : Text)
    (texts : Text.IsBounded 20 family ∧ Text.IsBounded 50 superseded ∧
      Text.IsBounded 50 superseding ∧ Text.IsBounded 100 rule)
    (supersededIsAdverse supersedingIsAdverse : Option Bool := none) : ContradictionRule :=
  ⟨⟨family, texts.1⟩, ⟨superseded, texts.2.1⟩, ⟨superseding, texts.2.2.1⟩, ⟨rule, texts.2.2.2⟩,
    supersededIsAdverse, supersedingIsAdverse⟩

end ContradictionRule

/-! ## The default table -/

open ContradictionRule (table)

/-- Source `_rule_pair`. -/
def rulePair (family first second code : Text)
    (forward : Text.IsBounded 20 family ∧ Text.IsBounded 50 first ∧ Text.IsBounded 50 second ∧
      Text.IsBounded 100 (code ++ ".forward".toList))
    (reverse : Text.IsBounded 20 family ∧ Text.IsBounded 50 second ∧ Text.IsBounded 50 first ∧
      Text.IsBounded 100 (code ++ ".reverse".toList)) : List ContradictionRule :=
  [table family first second (code ++ ".forward".toList) forward,
    table family second first (code ++ ".reverse".toList) reverse]

/-- Source `_DEFAULT_RULE_LIST`. -/
def defaultContradictionRules : List ContradictionRule :=
  [table "account_activity".toList "account_activity_change".toList
      "account_activity_change".toList
      ("signals.account_activity.".toList ++ "adverse_resolved.v1".toList) (by decide)
      (some true) (some false)] ++
  rulePair "payment".toList "payment_delay".toList "payment_received".toList
    "signals.payment.delay_received.v1".toList (by decide) (by decide) ++
  [table "payment".toList "payment_delay".toList "payment_delay".toList
      "signals.payment.adverse_resolved.v1".toList (by decide) (some true) (some false)] ++
  rulePair "utilisation".toList "facility_utilisation".toList "utilisation_normalised".toList
    "signals.utilisation.high_normal.v1".toList (by decide) (by decide) ++
  rulePair "treasury".toList "treasury_outflow".toList "treasury_normalised".toList
    "signals.treasury.outflow_normal.v1".toList (by decide) (by decide) ++
  rulePair "concentration".toList "concentration_exposure".toList
    "concentration_reduced".toList "signals.concentration.high_reduced.v1".toList
    (by decide) (by decide) ++
  rulePair "industry".toList "industry_indicator".toList "industry_recovered".toList
    "signals.industry.stress_recovered.v1".toList (by decide) (by decide) ++
  rulePair "news".toList "news_event".toList "news_retracted".toList
    "signals.news.adverse_retracted.v1".toList (by decide) (by decide)

/-- The `rules` argument of the resolver: absent, a sequence, or a mapping from
    family to superseding type to superseded types. -/
inductive RulesArgument where
  | default
  | sequence (rules : List ContradictionRule)
  | mapping (families : List (Text × List (Text × List Text)))
  deriving DecidableEq

/-- The rule `_normalise_rules` builds for one entry of a mapping. -/
def mappedRule (family successorType predecessorType : Text) : Except PyError ContradictionRule :=
  ContradictionRule.make family predecessorType successorType
    ("signals.".toList ++ family ++ ['.'] ++ predecessorType ++ ['.'] ++ successorType ++
      ".v1".toList) none none

/-- Source `_normalise_rules`. -/
def normaliseRules : RulesArgument → Except PyError (List ContradictionRule)
  | .default => .ok defaultContradictionRules
  | .sequence rules => .ok rules
  | .mapping families =>
    (families.flatMap fun (family, successors) =>
      successors.flatMap fun (successorType, predecessors) =>
        predecessors.map fun predecessorType => (family, successorType, predecessorType)).mapM
      fun (family, successorType, predecessorType) =>
        mappedRule family successorType predecessorType

end CovenantRadar.Signals
