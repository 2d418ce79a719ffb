import DuplicateLogic.Rules.Branches
import DuplicateLogic.Rules.Conditions
import DuplicateLogic.Rules.SelfUpdate

/-! # The rules in use

A rule is left out only when everything it can report is off. -/

namespace DuplicateLogic

/-- The rules against duplicated logic. -/
def duplicateRules : List Rule :=
  [Branches.rule, Conditions.rule, SelfUpdate.rule]

/-- The rules that the settings leave something to report. -/
def enabledRules (settings : Settings) : List Rule :=
  duplicateRules.filter fun rule => !rule.ids.all settings.isDisabled

end DuplicateLogic
