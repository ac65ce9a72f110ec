import HomePanel.Config
import HomePanel.Json.Record

/-!
# Reading a panel configuration

A configuration is read as a record of its four text fields under their camel-case names;
a field that is not given keeps its default. From JSON text, errors carry their position;
from a JSON value, they do not.
-/

namespace HomePanel

namespace PanelConfig

/-- Reads a configuration from JSON text. -/
def readText (text : String) : Except ReadError PanelConfig :=
  JsonRead.runOn (do
    let values ← JsonRead.stringRecord "PanelConfig" fieldNames
    JsonRead.finish
    return ofFields values) text

/-- Reads a configuration from a JSON value. -/
def ofJson (v : Json) : Except String PanelConfig :=
  (Json.stringRecord "PanelConfig" fieldNames v).map ofFields

end PanelConfig

end HomePanel
