import Stencil.Fault
import Stencil.Diagnostic.Snippet

/-!
Errors that the engine reports. An error is its cause and the place where it arose; its class, its
code and its text are read off these. Texts come in two lengths, plain or coloured.
-/

namespace Stencil

/-- Codes by which errors can be looked up. -/
inductive ErrorCode where
  | unclosedBlock
  | nestingTooDeep
  | helperError
  | unknownHelper
  | unknownPartial
  | partialCycle
  | conversionError
  deriving DecidableEq, Repr

namespace ErrorCode

def text : ErrorCode → String
  | unclosedBlock => "C-PAR-001"
  | nestingTooDeep => "C-PAR-002"
  | helperError => "C-RUN-001"
  | unknownHelper => "C-RUN-002"
  | unknownPartial => "C-RUN-003"
  | partialCycle => "C-RUN-004"
  | conversionError => "C-RUN-005"

def all : List ErrorCode :=
  [unclosedBlock, nestingTooDeep, helperError, unknownHelper, unknownPartial, partialCycle,
    conversionError]

def ofText? (text : String) : Option ErrorCode := all.find? (·.text = text)

def category : ErrorCode → String
  | unclosedBlock | nestingTooDeep => "parser"
  | _ => "runtime"

end ErrorCode

/-- A place in a template. Whatever is unknown is left out. -/
structure Place where
  source : Option String := none
  offset : Option Int := none
  templateName : Option String := none
  deriving DecidableEq, Repr

namespace Place

def position? (place : Place) : Option Position :=
  match place.source, place.offset with
  | some source, some offset => some (Position.ofOffset source offset)
  | _, _ => none

/-- The name of the template; a template without a name, or with an empty one, has a stock name. -/
def shownName (place : Place) : String :=
  match place.templateName with
  | none => "<template>"
  | some name => if name = "" then "<template>" else name

def snippet? (place : Place) : Option Snippet := Snippet.atOffset place.source place.offset

end Place

/-! ### Errors of templates that cannot be compiled -/

/-- Why a template could not be compiled. -/
inductive CompileError.Cause where
  | unclosed (name : String)
  | tooDeep (name : String)
  | other (words : String)
  deriving DecidableEq, Repr

/-- A template could not be compiled. -/
structure CompileError where
  cause : CompileError.Cause
  name : Option String
  place : Place
  code : Option ErrorCode
  deriving DecidableEq, Repr

namespace CompileError

def Cause.words : Cause → String
  | .unclosed name => "unclosed block: " ++ name
  | .tooDeep name => "blocks nested too deeply: " ++ name
  | .other words => words

def Cause.code : Cause → ErrorCode
  | .tooDeep _ => .nestingTooDeep
  | _ => .unclosedBlock

def Cause.name? : Cause → Option String
  | .unclosed name | .tooDeep name => some name
  | .other _ => none

def ofCause (cause : Cause) (place : Place) : CompileError :=
  ⟨cause, cause.name?, place, some cause.code⟩

/-- The name of the template with line and column, as far as they are known. -/
def location (e : CompileError) : String :=
  match e.place.position? with
  | some position =>
    e.place.shownName ++ ":" ++ toString position.line ++ ":" ++ toString position.column
  | none => e.place.shownName

def headline (e : CompileError) : String := e.cause.words ++ "\n  --> " ++ e.location

def message (coloured : Bool) (e : CompileError) : String :=
  match e.place.snippet? with
  | some snippet => e.headline ++ "\n" ++ snippet.format coloured
  | none => e.headline

def compact (e : CompileError) : String :=
  match e.code with
  | some code => code.text ++ ": " ++ e.headline
  | none => e.headline

end CompileError

/-! ### Errors of renders -/

/-- Why a render failed. -/
inductive RenderError.Cause where
  | /-- A helper raised a fault. -/
    helperFailed (helper : String) (fault : Fault)
  | /-- A block helper is used as an expression or as a filter. -/
    blockHelperInline (helper : String)
  | unknownHelper (helper : String)
  | unknownPartial (name : String)
  | /-- The partial is already being rendered; the stack holds the names outside it. -/
    partialCycle (name : String) (stack : List String)
  | /-- Looking up the path raised a fault. -/
    unresolved (path : String) (fault : Fault)
  | /-- Turning a value of the given type into text raised a fault. -/
    unprintable (type : String) (fault : Fault)
  | other (words : String)
  deriving DecidableEq, Repr

/-- A render failed. -/
structure RenderError where
  cause : RenderError.Cause
  helper : Option String
  inclusion : Option String
  place : Place
  /-- The fault behind the error, if there is one. -/
  underlying : Option Fault
  code : Option ErrorCode
  deriving DecidableEq, Repr

namespace RenderError

namespace Cause

def words : Cause → String
  | helperFailed helper fault =>
    "helper '" ++ helper ++ "' raised " ++ fault.kind.name ++ ": " ++ fault.message
  | blockHelperInline helper =>
    "block helper '" ++ helper ++ "' can only be used as \x7b\x7b#" ++ helper ++
      "\x7d\x7d...\x7b\x7b/" ++ helper ++ "\x7d\x7d"
  | unknownHelper helper => "Unknown helper: " ++ helper
  | unknownPartial name => "Unknown partial: " ++ name
  | partialCycle name stack =>
    "partial cycle detected: " ++ name ++ " (" ++ " -> ".intercalate (stack ++ [name]) ++ ")"
  | unresolved path fault =>
    "cannot resolve '" ++ path ++ "': " ++ fault.kind.name ++ ": " ++ fault.message
  | unprintable type fault => "cannot convert " ++ type ++ " to text: " ++ fault.message
  | other words => words

def code : Cause → ErrorCode
  | helperFailed .. | blockHelperInline _ | other _ => .helperError
  | unknownHelper _ => .unknownHelper
  | unknownPartial _ => .unknownPartial
  | partialCycle .. => .partialCycle
  | unresolved .. | unprintable .. => .conversionError

def helper? : Cause → Option String
  | helperFailed helper _ | blockHelperInline helper | unknownHelper helper => some helper
  | _ => none

def inclusion? : Cause → Option String
  | unknownPartial name | partialCycle name _ => some name
  | _ => none

def underlying? : Cause → Option Fault
  | helperFailed _ fault | unresolved _ fault | unprintable _ fault => some fault
  | _ => none

end Cause

def ofCause (cause : Cause) (place : Place) : RenderError :=
  { cause, place
    helper := cause.helper?
    inclusion := cause.inclusion?
    underlying := cause.underlying?
    code := some cause.code }

/-- The name of the template with the line; without a line, the name alone if there is one. -/
def location? (e : RenderError) : Option String :=
  match e.place.position? with
  | some position => some (e.place.shownName ++ ":" ++ toString position.line)
  | none => e.place.templateName.filter (· ≠ "")

def locationLine (coloured : Bool) (e : RenderError) : List String :=
  e.location?.toList.map fun location => "  Location: " ++ Palette.place coloured location

def message (coloured : Bool) (e : RenderError) : String :=
  let named (label : String) (name : Option String) : List String :=
    (name.filter (· ≠ "")).toList.map fun name => "  " ++ label ++ ": " ++ name
  "\n".intercalate
    (("Render Error: " ++ e.cause.words) :: named "Helper" e.helper ++
      named "Partial" e.inclusion ++ e.locationLine coloured ++
      e.place.snippet?.toList.map (·.format coloured))

def compact (coloured : Bool) (e : RenderError) : String :=
  "\n".intercalate
    (Palette.header coloured (e.code.map ErrorCode.text) e.cause.words ::
      e.locationLine coloured)

end RenderError

/-! ### All errors -/

/-- An error that the engine reports. -/
inductive TemplateError where
  | /-- An error without a place, as a helper may report it on its own. -/
    bare (words : String) (code : Option ErrorCode)
  | compile (error : CompileError)
  | render (error : RenderError)
  deriving DecidableEq, Repr

namespace TemplateError

def message (coloured : Bool) : TemplateError → String
  | bare words _ => words
  | compile error => error.message coloured
  | render error => error.message coloured

def code : TemplateError → Option ErrorCode
  | bare _ code => code
  | compile error => error.code
  | render error => error.code

/-- Whether the second text occurs in the first. -/
def occurs : List Char → List Char → Bool
  | [], inner => inner.isEmpty
  | c :: cs, inner => inner.isPrefixOf (c :: cs) || occurs cs inner

/-- The short text of the error. A code that the text already shows is not put before it. -/
def compact (coloured : Bool) : TemplateError → String
  | bare words none => words
  | bare words (some code) =>
    if occurs words.toList code.text.toList then words else code.text ++ ": " ++ words
  | compile error => error.compact
  | render error => error.compact coloured

end TemplateError

end Stencil
