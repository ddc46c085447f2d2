import PacketFilter.Json.Basic
import PacketFilter.ProgramSet.Basic

/-!
Configurations written as JSON documents. A mode is an object that names its type.
-/

namespace PacketFilter

def Mode.document : Mode → Json
  | classifier defaultOutput =>
      .object [("type", .string "classifier"),
        ("default_output", (defaultOutput.map Json.number).getD .null)]
  | filter action => .object [("type", .string "filter"), ("action", .string action.name)]

def Config.document (config : Config) : Json :=
  .object [("expressions", .array (config.expressions.map .string)),
    ("mode", config.mode.document)]

end PacketFilter
