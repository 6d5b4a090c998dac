import SqlLowering.Command.Basic
import SqlLowering.Query.Evaluation

/-!
Recipes for commands. A recipe turns inputs into the text of a command and the values of its
parameters. Its text is fixed unless it has a list whose length only the inputs know.
-/

namespace SqlLowering

/-- A parameter to be bound: its name, its placeholder in the text, and where its value comes
from. -/
structure Binding where
  name : String
  placeholder : String
  value : Expr

/-- A collection to be bound as one parameter for each element. Names and placeholders end in the
number of the element. -/
structure ListBinding where
  namePrefix : String
  placeholderPrefix : String
  /-- The text that stands for a collection without elements. -/
  emptyList : String
  source : Expr

/-- A step of building a command. -/
inductive Step where
  | text (sql : String)
  | parameter (binding : Binding)
  | list (binding : ListBinding)

/-- How a command is built from inputs. -/
inductive Recipe where
  /-- The text is fixed and only the values vary. -/
  | fixed (text : String) (parameters : List Binding)
  /-- The text depends on the lengths of lists. -/
  | stepwise (steps : List Step)

/-- Why a command could not be built. -/
inductive CommandError where
  | eval (name : String) (error : EvalError)
  | notACollection (name : String) (found : Kind)

/-- The wording of an error. -/
def CommandError.message : CommandError → String
  | .eval name error => "Parameter " ++ name ++ ": " ++ error.message
  | .notACollection name found =>
    "Parameter list " ++ name ++ " expects a collection, got " ++ found.name

/-- A parameter with its value. -/
def Binding.bind (binding : Binding) (inputs : Inputs) : Except CommandError Parameter :=
  match binding.value.eval inputs with
  | .ok value => .ok ⟨binding.name, value⟩
  | .error error => .error (.eval binding.name error)

namespace ListBinding

/-- The elements of a collection; null has none. -/
def elements (list : ListBinding) (inputs : Inputs) : Except CommandError (List Value) :=
  match list.source.eval inputs with
  | .ok (.array items) => .ok items
  | .ok .null => .ok []
  | .ok other => .error (.notACollection list.namePrefix other.kind)
  | .error error => .error (.eval list.namePrefix error)

/-- The placeholders of a collection of some size, or what stands for none. -/
def placeholders (list : ListBinding) (size : Nat) : String :=
  if size = 0 then list.emptyList
  else ", ".intercalate ((List.range size).map fun i => list.placeholderPrefix ++ toString i)

/-- The parameters of elements. -/
def parameters (list : ListBinding) (elements : List Value) : List Parameter :=
  elements.zipIdx.map fun (value, i) => ⟨list.namePrefix ++ toString i, value⟩

end ListBinding

/-- What a step adds to a command. -/
def Step.run (inputs : Inputs) : Step → Except CommandError Command
  | .text sql => .ok ⟨sql, []⟩
  | .parameter binding => return ⟨"", [← binding.bind inputs]⟩
  | .list binding => do
    let elements ← binding.elements inputs
    return ⟨binding.placeholders elements.length, binding.parameters elements⟩

/-- What steps add to a command, one after the other. -/
def Step.runAll (inputs : Inputs) : List Step → Except CommandError Command
  | [] => .ok .empty
  | step :: rest => do
    let first ← step.run inputs
    let others ← Step.runAll inputs rest
    return ⟨first.text ++ others.text, first.parameters ++ others.parameters⟩

namespace Recipe

/-- Whether the text is fixed. -/
def isFixed : Recipe → Bool
  | .fixed .. => true
  | .stepwise _ => false

/-- The fixed text, if there is one. -/
def text? : Recipe → Option String
  | .fixed text _ => some text
  | .stepwise _ => none

/-- The text and the parameters for some inputs. -/
def build (recipe : Recipe) (inputs : Inputs) : Except CommandError Command :=
  match recipe with
  | .fixed text parameters => return ⟨text, ← parameters.mapM (·.bind inputs)⟩
  | .stepwise steps => Step.runAll inputs steps

/-- What becomes of a command to which a recipe is applied, and the error if there is one. Its text
is replaced and parameters are added one by one, but every value is computed before the command is
touched. -/
def applyTo (recipe : Recipe) (command : Command) (inputs : Inputs) :
    Except CommandError Unit × Command :=
  match recipe.build inputs with
  | .error error => (.error error, command)
  | .ok built => (.ok (), built.parameters.foldl Command.addParameter (command.setText built.text))

/-- The command to which a recipe has been applied. -/
def apply (recipe : Recipe) (command : Command) (inputs : Inputs) :
    Except CommandError Command :=
  match recipe.applyTo command inputs with
  | (.error error, _) => .error error
  | (.ok (), applied) => .ok applied

end Recipe

end SqlLowering
