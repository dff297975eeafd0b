import PathTemplate.Regex.Escape
import PathTemplate.Text.Quoted
/-!
# Options

The characters that mark the parts of a template, and how its regular expression is put together.
Options can be written down freely; `Options.fault?` finds what makes them unusable: two markers
with the same character, or a regex flag that is unknown or given twice. The first fault counts,
and the markers come before the flags.
-/

namespace PathTemplate

/-- The neighbouring separator that is left out together with an optional placeholder. -/
inductive Orientation where
  /-- The separator before it: in `a/{b?}` the text `/b` is optional as a unit. -/
  | left
  /-- The separator after it: in `{a?}/b` the text `a/` is optional as a unit. -/
  | right
  deriving DecidableEq, Repr, Inhabited

/-- The four characters with a meaning of their own in a template. -/
inductive Marker where
  | start
  | stop
  | separator
  | optional
  deriving DecidableEq, Repr, Inhabited

/-- The name of the option that holds the marker. -/
def Marker.optionName : Marker → String
  | start => "start_marker"
  | stop => "end_marker"
  | separator => "separator"
  | optional => "optional_marker"

/-- What can be wrong with options. -/
inductive OptionsError where
  /-- Two markers share a character. -/
  | clash (first second : Marker) (char : Char)
  /-- A regex flag that does not exist or makes no sense for a whole template. -/
  | unsupportedFlag (flag : Char)
  /-- A regex flag that is given twice. -/
  | duplicateFlag (flag : Char)
  deriving DecidableEq, Repr, Inhabited

/-- The fault in words. -/
def OptionsError.message : OptionsError → String
  | clash first second c =>
    s!"{first.optionName} and {second.optionName} are both {Text.quotedChar c}"
  | unsupportedFlag c => s!"unsupported regex flag {Text.quotedChar c}"
  | duplicateFlag c => s!"duplicate regex flag {Text.quotedChar c}"

/-- The syntax of templates, and how they are turned into regular expressions. -/
structure Options where
  /-- Opens a placeholder. -/
  startMarker : Char := '\x7b'
  /-- Closes a placeholder. -/
  endMarker : Char := '\x7d'
  /-- Stands between the segments of a template. -/
  separator : Char := '/'
  /-- Makes a placeholder optional when it stands right before the end marker. -/
  optionalMarker : Char := '?'
  /-- Which separator belongs to an optional placeholder. -/
  capture : Orientation := .left
  /-- Whether one trailing separator that the template does not spell out is accepted. -/
  allowTrailingSeparator : Bool := true
  /-- The regular expression for placeholders; without it, one or more characters other than the
  separator. -/
  defaultExpression : Option String := none
  /-- Inline flags for the whole regular expression. -/
  flags : String := ""
  deriving DecidableEq, Repr, Inhabited

namespace Options

/-- The markers with their characters, in the order in which they are compared. -/
def markers (o : Options) : List (Marker × Char) :=
  [(.start, o.startMarker), (.stop, o.endMarker), (.separator, o.separator),
    (.optional, o.optionalMarker)]

/-- The first marker whose character comes again, with the first marker that has it. -/
def firstClash? : List (Marker × Char) → Option OptionsError
  | [] => none
  | (first, c) :: rest =>
    match rest.find? (·.2 = c) with
    | some (second, _) => some (.clash first second c)
    | none => firstClash? rest

/-- The flags that make sense for a whole template. -/
def allowedFlags : List Char :=
  ['i', 'm', 's', 'u', 'U']

/-- The first flag that is not allowed or was `seen` before. -/
def firstFlagFault? (seen : List Char) : List Char → Option OptionsError
  | [] => none
  | flag :: rest =>
    if flag ∉ allowedFlags then some (.unsupportedFlag flag)
    else if flag ∈ seen then some (.duplicateFlag flag)
    else firstFlagFault? (flag :: seen) rest

/-- What is wrong with the options, if anything. -/
def fault? (o : Options) : Option OptionsError :=
  match firstClash? o.markers with
  | some fault => some fault
  | none => firstFlagFault? [] o.flags.toList

/-- The separator as it is written in a regular expression. -/
def escapedSeparator (o : Options) : String :=
  Regex.escape (String.singleton o.separator)

/-- The regular expression for a placeholder without an override. -/
def placeholderExpression (o : Options) : String :=
  o.defaultExpression.getD ("[^" ++ o.escapedSeparator ++ "]+")

end Options

end PathTemplate
