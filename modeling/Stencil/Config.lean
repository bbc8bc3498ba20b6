/-
Engine configuration read from YAML: the default template id, the translation domain, an
optional host, template sources by id and a translation catalog. A missing field takes its
default and an unknown one is skipped, but a field given twice, or given a value of the wrong
shape, is an error. Texts accept any scalar whatever its tag, so `5` configures the text `5`;
the host is absent when it is an untagged plain null (empty, `~`, `null`, `Null`, `NULL`) or a
null with the null tag; a table is empty when the document or its value is empty, and of
repeated keys in a table the last one wins.
-/
import Stencil.Yaml.Read
import Stencil.Yaml.Decode
import Stencil.Engine
namespace Stencil

open Yaml

/-! ## Reading values of a shape -/

/-- A table of texts by text, later keys winning. -/
def Yaml.table : Decode (List (String × String)) := fun d c => do
  let (es, c) ← entries text text d c
  pure (Keyed.ofList es, c)

/-- A catalog: a table of tables of texts. -/
def Yaml.catalog : Decode Catalog := fun d c => do
  let (ds, c) ← entries text table d c
  pure (Catalog.ofList ds, c)

/-- A value read from the single document of a YAML text. -/
def Yaml.decodeText {α : Type} (read : Decode α) (text : String) : Except Error α :=
  match load text >>= (·.decode read) with
  | .ok a => .ok a
  | .error e => .error (.config e)

/-! ## The configuration -/

/-- How an engine is set up. -/
structure EngineConfig where
  defaultTemplateId : String
  translationDomain : String
  /-- the site's origin; links elsewhere navigate through the router -/
  host : Option String
  /-- markup by template id, in id order -/
  templates : List (String × String)
  translations : Catalog
deriving DecidableEq, Repr

namespace EngineConfig

/-- The configuration of an empty document. -/
def default : EngineConfig := ⟨Stencil.defaultTemplateId, defaultDomain, none, [], Catalog.empty⟩

/-- The field names of a configuration document. -/
def fieldNames : List String :=
  ["defaultTemplateId", "translationDomain", "host", "templates", "translations"]

/-- The configuration with one field read from its node; `seen` holds the fields read so
far, and an unknown field's node is stepped over. -/
def readField (acc : EngineConfig × List String) (name : String) :
    Decode (EngineConfig × List String) := fun d cur => do
  let (c, seen) := acc
  if !fieldNames.contains name then
    let ((), cur) ← skip d cur
    pure (acc, cur)
  else if seen.contains name then throw ("duplicate field " ++ name)
  else
    let seen := name :: seen
    match name with
    | "defaultTemplateId" => do
      let (v, cur) ← text d cur
      pure (({ c with defaultTemplateId := v }, seen), cur)
    | "translationDomain" => do
      let (v, cur) ← text d cur
      pure (({ c with translationDomain := v }, seen), cur)
    | "host" => do
      let (v, cur) ← optionalText d cur
      pure (({ c with host := v }, seen), cur)
    | "templates" => do
      let (v, cur) ← table d cur
      pure (({ c with templates := v }, seen), cur)
    | _ => do
      let (v, cur) ← Yaml.catalog d cur
      pure (({ c with translations := v }, seen), cur)

/-- A configuration: a mapping of fields, starting from the defaults. -/
def decode : Decode EngineConfig := fun d cur => do
  let ((c, _), cur) ← follow (foldMapHere text readField (default, [])) d cur
  pure (c, cur)

/-- The configuration a YAML text describes. -/
def ofYaml (text : String) : Except Error EngineConfig := Yaml.decodeText decode text

end EngineConfig

/-- A catalog described by YAML as a table of domains of texts. -/
def Catalog.ofYaml (text : String) : Except Error Catalog := Yaml.decodeText Yaml.catalog text

/-- Template sources described by YAML as a table of markup by id. -/
def sourcesOfYaml (text : String) : Except Error (List (String × String)) :=
  Yaml.decodeText Yaml.table text

/-- The engine a configuration sets up, with the built-in components: a host makes links to
other sites navigate. -/
def Engine.ofConfig (c : EngineConfig) : Engine :=
  { Engine.standard with
    sources := c.templates
    translator := c.translations.translator
    domain := c.translationDomain
    router := match c.host with
      | some h => .host h
      | none => .everywhere
    defaultTemplateId := c.defaultTemplateId }

end Stencil
