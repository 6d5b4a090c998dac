import SqlLowering.Config.Settings
import SqlLowering.Json.Printer
import SqlLowering.Lowering.Basic
import SqlLowering.Query.Fingerprint

/-!
Reports on lowered queries, as text and as JSON.
-/

namespace SqlLowering.CommandLine

/-- A parameter of a report: bound to a value, or with the expression that its value comes from. -/
inductive ReportedParameter where
  | bound (name : String) (value : Value)
  | pending (name : String) (source : Expr)

/-- A report. -/
structure Report where
  fingerprint : String
  dialectName : String
  /-- The text of the command, unless it depends on lists that are not known. -/
  sql : Option String
  parameters : List ReportedParameter
  columns : List YieldedColumn
  plan : Plan
  row : Option Value

/-- The text and the parameters of a command that has been built. -/
def builtParts (command : Command) : Option String × List ReportedParameter :=
  (some command.text, command.parameters.map fun p => .bound p.name p.value)

/-- The text and the parameters of a command that has not been built. -/
def pendingParts : Recipe → Option String × List ReportedParameter
  | .fixed text parameters => (some text, parameters.map fun p => .pending p.name p.value)
  | .stepwise _ => (none, [])

namespace ReportedParameter

/-- The line of a parameter. -/
def line : ReportedParameter → String
  | .bound name value => name ++ " = " ++ value.text
  | .pending name source => name ++ " <- " ++ source.toJson.compact

/-- The document of a parameter. -/
def toJson : ReportedParameter → Json
  | .bound name value => .object [("name", .string name), ("value", value.toJson)]
  | .pending name source => .object [("name", .string name), ("source", source.toJson)]

end ReportedParameter

namespace Report

/-- The line of a column. -/
def columnLine (column : YieldedColumn) (ordinal : Nat) : String :=
  toString ordinal ++ ": [" ++ column.name ++ "] " ++ column.type.describe

/-- The lines that stand for the text of a command. -/
def sqlLine : Option String → String
  | some sql => sql
  | none => "-- command text depends on list inputs; pass --inputs to build it"

/-- The lines of a report. -/
def lines (report : Report) : List String :=
  ["-- fingerprint: " ++ report.fingerprint, "-- dialect: " ++ report.dialectName,
    sqlLine report.sql] ++
  (if report.parameters.isEmpty then []
    else ["", "-- parameters"] ++ report.parameters.map ReportedParameter.line) ++
  ["", "-- columns"] ++ report.columns.zipIdx.map (fun (column, i) => columnLine column i) ++
  ["", "-- plan", report.plan.toJson.pretty] ++
  match report.row with
  | some value => ["", "-- row", value.text]
  | none => []

/-- A report as text. -/
def text (report : Report) : String :=
  String.join (report.lines.map (· ++ "\n"))

/-- The document of a report. -/
def toJson (report : Report) : Json :=
  .object
    ([("fingerprint", .string report.fingerprint), ("dialect", .string report.dialectName),
      ("sql", match report.sql with
        | some sql => .string sql
        | none => .null),
      ("parameters", .array (report.parameters.map ReportedParameter.toJson)),
      ("columns", .array (report.columns.map YieldedColumn.toJson)),
      ("plan", report.plan.toJson)] ++
    match report.row with
    | some value => [("row", value.toJson)]
    | none => [])

/-- A report in a form. -/
def render (report : Report) : OutputFormat → String
  | .text => report.text
  | .json => report.toJson.pretty ++ "\n"

end Report

end SqlLowering.CommandLine
