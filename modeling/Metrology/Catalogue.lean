import Metrology.Dimension.Named
import Metrology.Operand.Basic
import Metrology.System.BaseUnits

namespace Metrology.Catalogue

/-- What stands under a name: an operand, a table, a type of values or of failures, or the SI
symbols. -/
inductive Export
  | operand (x : Operand)
  | table (entries : List (String × Operand))
  | type
  | baseUnits (base : BaseUnits)

def text (content : String) : Export :=
  .operand (.text content)

/-- Public names, in the order of their listing. -/
def exports : List (String × Export) := [
  ("__version__", text "0.1.0"),
  ("__license__", text "MIT"),
  ("Dimension", .type),
  ("Unit", .type),
  ("Value", .type),
  ("UnitSystem", .type),
  ("BaseUnits", .type),
  ("SI", .baseUnits .si),
  ("UnitsError", .type),
  ("UnitParseError", .type),
  ("UnknownUnit", .type),
  ("MalformedExponent", .type),
  ("MalformedValue", .type),
  ("DimensionMismatch", .type)]

def names : List String :=
  exports.map (·.1)

def textsOf (names : List String) : List Operand :=
  names.map .text

/-- What the library tells about itself. -/
def selfDescription : List (String × Export) := [
  ("__name__", text "unitmaths"),
  ("__package__", text "unitmaths"),
  ("__all__", .operand (.list (textsOf names)))]

/-- Names that are listed too, but are not public. -/
def furtherNames : List String := [
  "Any", "_LAZY", "__all__", "__builtins__", "__cached__", "__dir__", "__doc__", "__file__",
  "__getattr__", "__loader__", "__name__", "__package__", "__path__", "__spec__", "_metadata",
  "core", "errors", "import_module", "units"]

def isListed (name : String) : Bool :=
  names.contains name || furtherNames.contains name

def find (name : String) : Except Failure Export :=
  match (exports ++ selfDescription).lookup name with
  | some found => .ok found
  | none => .error (.unknownExport name)

def axisNames (axes : List Axis) : Operand :=
  .tuple (textsOf (axes.map Axis.name))

/-- The axes with their places in the order of `Axis.all`. -/
def axisPlaces : List (String × Operand) :=
  Axis.all.zipIdx.map fun (axis, place) => (axis.name, .int place)

def axisLabels : List (String × Operand) :=
  Axis.written.map fun axis => (axis.name, .text axis.label)

/-- The dimensions of identifiers, their type, the two orders of axes, and the tables of these. -/
def constant (name : String) : Except Failure Export :=
  match Physics.constant? name with
  | some d => .ok (.operand (.dimension d))
  | none =>
    match name with
    | "Dimension" => .ok .type
    | "Dim" => .ok (text "Dimension")
    | "_AXIS_INDEX" => .ok (.table axisPlaces)
    | "_LABELS" => .ok (.table axisLabels)
    | "AXES" => .ok (.operand (axisNames Axis.all))
    | "CANONICAL_ORDER" => .ok (.operand (axisNames Axis.written))
    | _ => .error .missingAttribute

end Metrology.Catalogue
