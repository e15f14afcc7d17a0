/-
# Multipage.Resource.Error -- why a source file is not a resource

Every cause has one constructor and one wording.  A cause is the fault of the file
(`ErrorCategory.structural`) unless it lies in what the host supplied: a setting, a missing
renderer, or a renderer that refused a page.
-/
import Multipage.Context
import Multipage.Text.Quoted

namespace Multipage

set_option autoImplicit false

/-- Whose fault a compile error is. -/
inductive ErrorCategory where
  /-- The file is malformed. -/
  | structural
  /-- The file asks for something that the host has not set up. -/
  | configuration
  deriving DecidableEq, Repr

inductive CompileError where
  | pageCount (path : Text) (count : Nat) (expected : Text)
  | emptySpecline
  | speclineParts (specline : Text)
  | malformedMediaType (mediaType specline : Text)
  | malformedRenderer (reference : Text)
  | duplicateMediaType (mediaType : Text)
  | contentPagesUnsupported
  | unknownRenderer (mediaType name : Text)
  | invalidSetting (field value : Text)
  | renderer (mediaType name : Text) (error : RenderError)
  deriving DecidableEq

namespace CompileError

def category : CompileError → ErrorCategory
  | .unknownRenderer _ _ | .renderer _ _ _ | .invalidSetting _ _ => .configuration
  | _ => .structural

def message : CompileError → Text
  | .pageCount path count expected =>
      path ++ " has " ++ Text.ofNat count ++ " pages; " ++ expected
  | .emptySpecline => "Content pages in negotiated resources must have a specline."
  | .speclineParts specline =>
      "A negotiated resource specline must have one or two parts: #!renderer media/type. " ++
        "Yours is: " ++ specline ++ "."
  | .malformedMediaType mediaType specline =>
      "Malformed media type " ++ mediaType ++ " in specline " ++ specline ++
        ". It must match [A-Za-z0-9.+-]+/[A-Za-z0-9.+-]+."
  | .malformedRenderer reference =>
      "Malformed renderer " ++ reference ++ ". It must match #![a-z0-9.-]+."
  | .duplicateMediaType mediaType => "Two content pages defined for " ++ mediaType ++ "."
  | .contentPagesUnsupported => "JSON resources should only have logic pages"
  | .unknownRenderer mediaType name =>
      "Unknown renderer for " ++ mediaType ++ ": " ++ name ++ "."
  | .invalidSetting field value => "Invalid " ++ field ++ ": " ++ Text.quoted value
  | .renderer mediaType name error =>
      "Renderer " ++ name ++ " failed for " ++ mediaType ++ ": " ++ error.message

end CompileError
end Multipage
