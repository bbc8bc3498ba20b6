/-
Directives in attributes. An attribute whose name contains `@data-` is a spread: it is removed,
and when the context holds a map under the rest of its name, that map's entries are added. A
text value holding `@data-`, `@lang-` or `@screen-` is substituted token by token, tokens being
separated by single spaces: `@data-key` becomes the text of the context value of `key`, and a
token with a lookup that misses is dropped; `@lang-key` becomes the translation of `key`. A value
that is exactly one `@data-key` whose value is a list or a map becomes that value itself.
-/
import Stencil.Context
import Stencil.Catalog
namespace Stencil

/-! ## Matching in text -/

/-- Whether `pat` occurs in `cs`. -/
def hasInfix (pat : List Char) : List Char → Bool
  | [] => pat.isEmpty
  | c :: cs => pat.isPrefixOf (c :: cs) || hasInfix pat cs

/-- The text after the first occurrence of `pat`, if it occurs. -/
def afterInfix (pat : List Char) : List Char → Option (List Char)
  | [] => if pat.isEmpty then some [] else none
  | c :: cs => if pat.isPrefixOf (c :: cs) then some ((c :: cs).drop pat.length) else afterInfix pat cs

/-- Replaces every match of a pattern, left to right and without overlaps. `matchAt cs` is the
length of the match at the front of `cs`, if one starts there; `f` gives the replacement of a
matched text, or `none` to fail the whole replacement. -/
def replaceMatches (matchAt : List Char → Option Nat) (f : List Char → Option (List Char))
    (cs : List Char) : Option (List Char) :=
  match cs with
  | [] => some []
  | c :: rest =>
    match matchAt (c :: rest) with
    | some n =>
      if h : 0 < n then
        have : ((c :: rest).drop n).length < rest.length + 1 := by
          rw [List.length_drop, List.length_cons]
          exact Nat.sub_lt (Nat.succ_pos _) h
        match f ((c :: rest).take n), replaceMatches matchAt f ((c :: rest).drop n) with
        | some r, some more => some (r ++ more)
        | _, _ => none
      else (replaceMatches matchAt f rest).map (c :: ·)
    | none => (replaceMatches matchAt f rest).map (c :: ·)
termination_by cs.length

/-- The prefix of data directives. -/
def dataPrefix : List Char := "@data-".toList

/-- The prefix of translation directives. -/
def langPrefix : List Char := "@lang-".toList

/-- Whether a character ends a directive key. -/
def endsKey (c : Char) : Bool := c == '&' || c == ' '

/-- The key of a data directive, read after its prefix: any one character but a line feed,
then every character up to the next `&` or space. The key and the text after it. -/
def dataKey : List Char → List Char × List Char
  | [] => ([], [])
  | c :: rest =>
    if c == '\n' then (c :: rest).span (fun d => !endsKey d)
    else
      let (run, after) := rest.span (fun d => !endsKey d)
      (c :: run, after)

/-- The length of the data directive at the front of `cs`, if one is there. -/
def dataMatchAt (cs : List Char) : Option Nat :=
  if dataPrefix.isPrefixOf cs then some (dataPrefix.length + (dataKey (cs.drop dataPrefix.length)).1.length)
  else none

/-- The length of the translation directive at the front of `cs`, if one is there: the prefix
and at least one character that is no `&` or space. -/
def langMatchAt (cs : List Char) : Option Nat :=
  if langPrefix.isPrefixOf cs then
    let key := (cs.drop langPrefix.length).takeWhile (fun d => !endsKey d)
    if key.isEmpty then none else some (langPrefix.length + key.length)
  else none

/-! ## Substitution -/

/-- What substitution needs besides the context: a translator and the domain it translates in. -/
structure Translation where
  translator : Translator
  domain : String

/-- One space-free token with its directives replaced, or `none` when a data lookup misses or
finds a value without text. Data directives take precedence: a token with one is not
translated. -/
def substituteToken (tr : Translation) (ctx : Context) (token : String) : Option String :=
  let cs := token.toList
  if hasInfix dataPrefix cs then
    (replaceMatches dataMatchAt (fun m =>
      ((ctx.value? (String.ofList (m.drop dataPrefix.length))).bind Value.display).map String.toList) cs).map
      String.ofList
  else if hasInfix langPrefix cs then
    (replaceMatches langMatchAt (fun m =>
      some (tr.translator.translate (String.ofList (m.drop langPrefix.length)) tr.domain).toList) cs).map
      String.ofList
  else some token

/-- The value a directive-holding text becomes. -/
def substitute (tr : Translation) (ctx : Context) (raw : String) : Value :=
  let cs := raw.toList
  let whole : Option Value :=
    if dataPrefix.isPrefixOf cs && (dataKey (cs.drop dataPrefix.length)).2.isEmpty then
      match ctx.value? (String.ofList (cs.drop dataPrefix.length)) with
      | some (.list items) => some (.list items)
      | some (.map entries) => some (.map entries)
      | _ => none
    else none
  match whole with
  | some v => v
  | none =>
    let tokens := ((cs.splitOn ' ').map String.ofList).filterMap (substituteToken tr ctx)
    .string (" ".intercalate (tokens.filter (!·.isEmpty)))

/-- Whether a text holds a directive. -/
def hasDirective (raw : String) : Bool :=
  let cs := raw.toList
  hasInfix dataPrefix cs || hasInfix langPrefix cs || hasInfix "@screen-".toList cs

/-- The attributes with their directives applied against a context. With an empty context, or
no attributes, nothing changes. Attributes are taken in name order, each step working on the
result of the steps before. -/
def transformAttributes (tr : Translation) (attrs : Attributes) (ctx : Context) : Attributes :=
  if ctx.isEmpty || attrs.isEmpty then attrs
  else
    attrs.foldl (fun out (name, value) =>
      match afterInfix dataPrefix name.toList with
      | some key =>
        let out := Keyed.erase out name
        match ctx.value? (String.ofList key) with
        | some (.map entries) => Keyed.extend out entries
        | _ => out
      | none =>
        if name == "children" then out
        else
          match value with
          | .string raw => if hasDirective raw then Keyed.insert out name (substitute tr ctx raw) else out
          | _ => out) attrs

end Stencil
