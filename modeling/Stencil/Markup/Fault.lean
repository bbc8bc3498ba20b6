/-
What can be wrong with markup, and how each fault is reported. Faults of the reader come
first (an unterminated tag, comment, character data, declaration or instruction, a malformed
attribute list); faults of nesting come from matching closing tags against open elements.
-/
namespace Stencil.Markup

/-- A fault found while reading markup. Positions are byte offsets into the text between
`<` and `>` of the element concerned. -/
inductive Fault where
  /-- a tag runs to the end of the input without `>` -/
  | tagNotClosed
  /-- an attribute value runs to the end of the input without its closing quote -/
  | valueNotClosed (quote : Char)
  | commentNotClosed
  | cdataNotClosed
  | doctypeNotClosed
  /-- a processing instruction runs to the end of the input without `?>` -/
  | instructionNotClosed
  /-- an XML declaration runs to the end of the input without `?>` -/
  | declarationNotClosed
  /-- `<!` followed by something that starts no comment, character data or declaration -/
  | unknownBang
  /-- a document type declaration without a name -/
  | doctypeWithoutName
  /-- `=` with no value after it -/
  | expectedValue (pos : Nat)
  /-- a quoted value whose closing quote is missing -/
  | missingQuote (pos : Nat) (quote : Char)
  /-- an attribute name given twice -/
  | duplicated (pos prev : Nat)
  /-- an element still open at the end of the input (the innermost one) -/
  | unclosed (name : String)
  /-- a closing tag that does not match the innermost open element -/
  | mismatched (expected found : String)
  /-- a closing tag with no open element -/
  | unmatched (name : String)
deriving Repr, DecidableEq

/-- How a fault is reported. -/
def Fault.message : Fault → String
  | .tagNotClosed => "syntax error: tag not closed: `>` not found before end of input"
  | .valueNotClosed q =>
    "syntax error: attribute value not closed: `" ++ q.toString ++ "` not found before end of input"
  | .commentNotClosed => "syntax error: comment not closed: `-->` not found before end of input"
  | .cdataNotClosed => "syntax error: CDATA not closed: `]]>` not found before end of input"
  | .doctypeNotClosed => "syntax error: DOCTYPE not closed: `>` not found before end of input"
  | .instructionNotClosed =>
    "syntax error: processing instruction not closed: `?>` not found before end of input"
  | .declarationNotClosed => "syntax error: XML declaration not closed: `?>` not found before end of input"
  | .unknownBang => "syntax error: unknown or missed symbol in markup"
  | .doctypeWithoutName =>
    "ill-formed document: `<!DOCTYPE>` declaration does not contain a name of a document type"
  | .expectedValue pos => "position " ++ toString pos ++ ": `=` must be followed by an attribute value"
  | .missingQuote pos q =>
    "position " ++ toString pos ++ ": missing closing quote `" ++ q.toString ++ "` in attribute value"
  | .duplicated pos prev =>
    "position " ++ toString pos ++ ": duplicated attribute, previous declaration at position " ++
      toString prev
  | .unclosed name => "unclosed element <" ++ name ++ ">"
  | .mismatched expected found => "expected </" ++ expected ++ ">, found </" ++ found ++ ">"
  | .unmatched name => "closing tag </" ++ name ++ "> without matching opening tag"

end Stencil.Markup
