/-
Translators and translation catalogs. Building and binding ask a translator for the text of a key
in a domain, and any translator will do. Two are shipped: the key translator gives every key
untranslated; a catalog holds, for each domain, the text of each key, and translating a key that
a domain does not hold gives the key itself, so an empty catalog translates nothing.
-/
import Stencil.Data.Keyed
namespace Stencil

/-- The domain used when none is configured. -/
def defaultDomain : String := "timeslot"

/-- What building and binding ask of a translator: the text of a key in a domain. -/
structure Translator where
  translate : String → String → String

/-- The key translator: every key untranslated. -/
def Translator.keys : Translator where
  translate key _ := key

/-- Texts by domain and key, both in name order. -/
structure Catalog where
  domains : List (String × List (String × String))
deriving DecidableEq, Repr

namespace Catalog

/-- The catalog without domains. -/
def empty : Catalog := ⟨[]⟩

/-- The text of `key` in `domain`, if the catalog holds one. -/
def get? (c : Catalog) (key domain : String) : Option String :=
  (Keyed.get? c.domains domain).bind (Keyed.get? · key)

/-- The text of `key` in `domain`, or the key itself. -/
def translate (c : Catalog) (key domain : String) : String := (c.get? key domain).getD key

/-- Whether no domain holds a text. -/
def isEmpty (c : Catalog) : Bool := c.domains.all (·.2.isEmpty)

/-- The catalog with a text for `key` in `domain`. -/
def insert (c : Catalog) (domain key text : String) : Catalog :=
  let d := (Keyed.get? c.domains domain).getD []
  ⟨Keyed.insert c.domains domain (Keyed.insert d key text)⟩

/-- The catalog of domains given as lists of entries, later entries winning. -/
def ofList (ds : List (String × List (String × String))) : Catalog :=
  ⟨Keyed.ofList (ds.map fun d => (d.1, Keyed.ofList d.2))⟩

/-- The catalog as a translator. -/
def translator (c : Catalog) : Translator where
  translate key domain := c.translate key domain

theorem translate_empty (key domain : String) : empty.translate key domain = key := rfl

end Catalog

end Stencil
