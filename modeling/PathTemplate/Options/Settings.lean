import PathTemplate.Error
import PathTemplate.Settings.Document
/-!
# Options from a settings document

Each option is a key of the document. Keys that are not given keep their defaults, and a key that
is no option, or has a value of the wrong kind, makes the document unusable. What can be read must
still be free of faults.
-/

namespace PathTemplate

open Settings (Leaf)

/-- The orientation with the given name. -/
def Orientation.named? : String → Option Orientation
  | "left" => some .left
  | "right" => some .right
  | _ => none

namespace Options

/-- A text of one character. -/
def char? : Leaf → Option Char
  | .text value =>
    match value.toList with
    | [c] => some c
    | _ => none
  | _ => none

/-- The options with the value at a path set. An orientation may also be written as a group whose
only member has its name and no content. -/
def set? (o : Options) : List String × Leaf → Option Options
  | (["start_marker"], value) => (char? value).map ({ o with startMarker := · })
  | (["end_marker"], value) => (char? value).map ({ o with endMarker := · })
  | (["separator"], value) => (char? value).map ({ o with separator := · })
  | (["optional_marker"], value) => (char? value).map ({ o with optionalMarker := · })
  | (["capture"], .text name) => (Orientation.named? name).map ({ o with capture := · })
  | (["capture", name], .nothing) => (Orientation.named? name).map ({ o with capture := · })
  | (["allow_trailing_separator"], .truth value) => some { o with allowTrailingSeparator := value }
  | (["default_expression"], .text value) => some { o with defaultExpression := some value }
  | (["flags"], .text value) => some { o with flags := value }
  | _ => none

/-- The options that a document describes, if it gives each at most once. -/
def ofDocument? (d : Settings.Document) : Option Options :=
  let leaves := d.leaves
  if d.headersAgree && decide ((leaves.filterMap (·.1.head?)).Nodup) then
    leaves.foldlM set? {}
  else none

/-- The options that the text of a document describes. -/
def ofSettings (text : String) : Except Error Options :=
  match (Settings.Document.ofText? text).bind ofDocument? with
  | none => .error .settings
  | some o =>
    match o.fault? with
    | some fault => .error (.options fault)
    | none => .ok o

end Options

end PathTemplate
