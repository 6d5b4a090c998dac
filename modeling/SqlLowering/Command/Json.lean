import SqlLowering.Command.Recipe
import SqlLowering.Query.Encode

/-!
Commands and recipes as JSON.
-/

namespace SqlLowering

/-- The document of a parameter. -/
def Parameter.toJson (parameter : Parameter) : Json :=
  .object [("name", .string parameter.name), ("value", parameter.value.toJson)]

/-- The document of a command. -/
def Command.toJson (command : Command) : Json :=
  .object
    [("text", .string command.text),
      ("parameters", .array (command.parameters.map Parameter.toJson))]

/-- The document of a parameter to be bound. -/
def Binding.toJson (binding : Binding) : Json :=
  .object
    [("name", .string binding.name), ("placeholder", .string binding.placeholder),
      ("value", binding.value.toJson)]

/-- The document of a collection to be bound. -/
def ListBinding.toJson (binding : ListBinding) : Json :=
  .object
    [("prefix", .string binding.namePrefix),
      ("placeholder_prefix", .string binding.placeholderPrefix),
      ("empty_list", .string binding.emptyList), ("source", binding.source.toJson)]

/-- The document of a step. -/
def Step.toJson : Step → Json
  | .text sql => .object [("step", .string "text"), ("value", .string sql)]
  | .parameter binding => .object [("step", .string "parameter"), ("value", binding.toJson)]
  | .list binding => .object [("step", .string "parameter_list"), ("value", binding.toJson)]

/-- The document of a recipe. -/
def Recipe.toJson : Recipe → Json
  | .fixed text parameters =>
    .object
      [("mode", .string "static"), ("text", .string text),
        ("parameters", .array (parameters.map Binding.toJson))]
  | .stepwise steps =>
    .object [("mode", .string "dynamic"), ("steps", .array (steps.map Step.toJson))]

end SqlLowering
