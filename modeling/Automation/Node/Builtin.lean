import Automation.Node.Builtin.Data
import Automation.Node.Builtin.Flow
import Automation.Node.Builtin.Service
import Automation.Node.Builtin.Table
import Automation.Node.Builtin.Trigger

/-!
# The built-in catalog

The types of nodes that are known without further information, in the order in which they are
listed.
-/

namespace Automation.NodeDefinition

open Builtin in
/-- The built-in types of nodes. -/
def builtin : List NodeDefinition := [
  scheduleTrigger, webhook, manualTrigger, slack, gmail, discord, openAi, googleSheets, airtable,
    postgres, httpRequest, condition, switch, merge, splitInBatches, loop, setValues, code,
    filter, errorTrigger, wait, salesforce, hubspot, notion]

end Automation.NodeDefinition
