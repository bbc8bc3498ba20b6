/-
Shaping raw markup into template nodes, one node at a time. Text is kept verbatim unless it is
empty or stands directly in a table container; elements get the next key and normalized
attributes; comments, scripts, styles, links, character data and directives are dropped.
Attribute names of HTML are renamed to those of the host runtime, `true` and `false` become
booleans, `style` becomes a map of properties, and `@lang(key)` is translated.
-/
import Stencil.Node.Basic
import Stencil.Markup.Raw
import Stencil.Catalog
import Stencil.Text.Blank
namespace Stencil

open Markup

/-- HTML attribute names and their host-runtime spellings; other names pass unchanged. -/
def hostAttributeNames : List (String × String) :=
  [("accept-charset", "acceptCharset"), ("accesskey", "accessKey"),
    ("allowfullscreen", "allowFullScreen"), ("autocapitalize", "autoCapitalize"),
    ("autocomplete", "autoComplete"), ("autocorrect", "autoCorrect"),
    ("autofocus", "autoFocus"), ("autoplay", "autoPlay"), ("autosave", "autoSave"),
    ("cellpadding", "cellPadding"), ("cellspacing", "cellSpacing"), ("charset", "charSet"),
    ("class", "className"), ("classid", "classID"), ("colspan", "colSpan"),
    ("contenteditable", "contentEditable"), ("contextmenu", "contextMenu"),
    ("controlslist", "controlsList"), ("crossorigin", "crossOrigin"),
    ("datetime", "dateTime"), ("enctype", "encType"), ("enterkeyhint", "enterKeyHint"),
    ("for", "htmlFor"), ("formaction", "formAction"), ("formenctype", "formEncType"),
    ("formmethod", "formMethod"), ("formnovalidate", "formNoValidate"),
    ("formtarget", "formTarget"), ("frameborder", "frameBorder"), ("hreflang", "hrefLang"),
    ("http-equiv", "httpEquiv"), ("inputmode", "inputMode"), ("itemid", "itemID"),
    ("itemprop", "itemProp"), ("itemref", "itemRef"), ("itemscope", "itemScope"),
    ("itemtype", "itemType"), ("keyparams", "keyParams"), ("keytype", "keyType"),
    ("marginheight", "marginHeight"), ("marginwidth", "marginWidth"),
    ("maxlength", "maxLength"), ("mediagroup", "mediaGroup"), ("minlength", "minLength"),
    ("nomodule", "noModule"), ("novalidate", "noValidate"), ("playsinline", "playsInline"),
    ("radiogroup", "radioGroup"), ("readonly", "readOnly"),
    ("referrerpolicy", "referrerPolicy"), ("rowspan", "rowSpan"),
    ("spellcheck", "spellCheck"), ("srcdoc", "srcDoc"), ("srclang", "srcLang"),
    ("srcset", "srcSet"), ("tabindex", "tabIndex"), ("usemap", "useMap")]

/-- The host-runtime spelling of an HTML attribute name, if it has one. -/
def hostAttributeName (name : String) : Option String := hostAttributeNames.lookup name

/-- Containers whose children are elements only: text directly inside them is dropped. -/
def tableContainers : List String := ["table", "tbody", "thead", "tfoot", "tr"]

/-- Form controls whose `value` is only an initial value, called `defaultValue`. -/
def formControls : List String := ["input", "select", "textarea"]

/-- `true` and `false` are booleans; every other text is not. -/
def coerceBool (s : String) : Option Bool :=
  if s == "true" then some true else if s == "false" then some false else none

/-- A style text `{prop: value, ...}` as a map: braces are ignored, each comma-separated pair
is split at its first colon and both sides are trimmed; a pair without a colon or with an empty
property is skipped, and a later property wins. -/
def parseStyle (s : String) : List (String × Value) :=
  let stripped := s.toList.filter fun c => c != '{' && c != '}'
  (stripped.splitOn ',').foldl (fun out pair =>
    match pair.findIdx? (· == ':') with
    | none => out
    | some i =>
      let key := Text.trim (String.ofList (pair.take i))
      let value := Text.trim (String.ofList (pair.drop (i + 1)))
      if key.isEmpty then out else Keyed.insert out key (.string value)) []

/-- The key of a value `@lang(key)`: blanks may surround it, the key is all between `@lang(`
and the last `)`, and it holds no line feed. -/
def langKey (s : String) : Option String :=
  match Text.dropBlanks s.toList with
  | '@' :: 'l' :: 'a' :: 'n' :: 'g' :: '(' :: rest =>
    match (Text.dropTrailingBlanks rest).reverse with
    | ')' :: inner =>
      if inner.contains '\n' then none else some (String.ofList inner.reverse)
    | _ => none
  | _ => none

/-- The attribute list of a raw element as attributes of a node of element `tag`: each value
read as a style map, a boolean, a translated key or a text, each name renamed, and of a
name given twice the later value kept. -/
def normalizeAttributes (tr : Translator) (domain : String) (attrs : List (String × String))
    (tag : String) : Attributes :=
  let isControl := formControls.contains tag
  attrs.foldl (fun out (name, raw) =>
    let value : Value :=
      if name == "style" then .map (parseStyle raw)
      else match coerceBool raw with
        | some b => .bool b
        | none =>
          match langKey raw with
          | some key => .string (tr.translate key domain)
          | none => .string raw
    let name' :=
      if name == "value" && isControl then "defaultValue" else (hostAttributeName name).getD name
    Keyed.insert out name' value) []

/-- One raw node as a node, without its children; `parent` is the name of the raw element it
stands in. Dropped nodes give `none`; an element takes the next key. -/
def normalize (tr : Translator) (domain : String) (raw : RawNode) (parent : Option String) :
    Minting (Option Node) :=
  match raw.kind with
  | .text =>
    if raw.data.isEmpty then pure none
    else if parent.any tableContainers.contains then pure none
    else pure (some (.text raw.data))
  | .tag => do
    let key ← mintKey
    pure (some (.element ⟨raw.name, .tag, normalizeAttributes tr domain raw.attributes raw.name,
      [], key⟩))
  | _ => pure none

end Stencil
