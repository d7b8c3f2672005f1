import Runbook.Fault
import Runbook.Yaml.Construct

namespace Runbook.Yaml

/-- A document that is malformed is a fault of its text; its other faults lie in single values. -/
def ReadFault.dataFault : ReadFault → DataFault
  | .malformed | .noCharacter | .badNumber | .badDate => .value
  | .tooLarge => .tooLarge
  | .noDate => .unsuited
  | .noText => .kind
  | .emptyNumber => .missingIndex
  | .badWord => .missingKey

end Runbook.Yaml
