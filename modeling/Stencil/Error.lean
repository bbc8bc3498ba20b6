/-
Errors of the library, by cause, and how each one is reported.
-/
import Stencil.Markup.Fault
namespace Stencil

/-- Why an operation of the library failed. -/
inductive Error where
  /-- a component whose name is no type name -/
  | invalidComponent (name : String)
  /-- markup that cannot be read -/
  | markup (fault : Markup.Fault)
  /-- the markup of a template that cannot be read -/
  | templateMarkup (templateId : String) (fault : Markup.Fault)
  /-- neither a template nor its fallback has a source -/
  | unresolved (templateId : String)
  /-- a configuration or context text that cannot be read, with the reader's explanation -/
  | config (detail : String)
  /-- a file that cannot be read, with the system's explanation -/
  | io (detail : String)

namespace Error

/-- The kind of an error, as one word. -/
def kind : Error → String
  | .invalidComponent _ => "InvalidComponent"
  | .markup _ => "Markup"
  | .templateMarkup .. => "TemplateMarkup"
  | .unresolved _ => "UnresolvedTemplate"
  | .config _ => "Config"
  | .io _ => "Io"

/-- How an error is reported. -/
def message : Error → String
  | .invalidComponent name =>
    "Invalid component: " ++ name ++
      ". a component must declare a type name (a letter followed by letters, digits, \x27_\x27 or \x27-\x27)"
  | .markup f => "Markup error: " ++ f.message
  | .templateMarkup id f => "Markup error in template \x27" ++ id ++ "\x27: " ++ f.message
  | .unresolved id => "Template \x27" ++ id ++ "\x27 has no source and no fallback"
  | .config d => "Configuration error: " ++ d
  | .io d => "I/O error: " ++ d

/-- A markup error as the error of the template it was found in. -/
def inTemplate (templateId : String) : Error → Error
  | .markup f => .templateMarkup templateId f
  | e => e

end Error

end Stencil
