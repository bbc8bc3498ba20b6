/-
Reading markup into events, one at a time. Text runs stop at `<` and `&`; a `&` starts a
character reference when a `;` comes before the next `&` or `<`, and is plain text otherwise.
A tag, opening or closing, ends at the first `>` outside quotes; a comment at the first `-->`
that leaves room for `<!---->`; character data at the first `]]>`; a document type declaration
at the `>` that follows its quoted literals and its internal subset; an instruction at the
first `?>`.
-/
import Stencil.Markup.Fault
namespace Stencil.Markup

/-- The blanks of markup syntax: space, tab, carriage return and line feed. -/
def isMarkupBlank (c : Char) : Bool := c == ' ' || c == '\t' || c == '\r' || c == '\n'

/-- One step of reading. -/
inductive Event where
  /-- literal text -/
  | text (s : String)
  /-- a reference `&name;`, holding what stands between `&` and `;` -/
  | reference (name : String)
  /-- an opening tag, holding what stands between `<` and `>` -/
  | start (content : List Char)
  /-- a self-closing tag, holding what stands between `<` and `/>` -/
  | empty (content : List Char)
  /-- a closing tag, holding its name (see `closingName`) -/
  | close (name : String)
  | cdata (s : String)
  | comment (s : String)
  /-- a document type or XML declaration, or a processing instruction -/
  | directive
deriving Repr, DecidableEq

/-- Splits at the first `>` for which `ok` holds of its index and the two characters before
it; the part before the `>` and the part after it. -/
def splitAtClose (ok : Nat → Option Char → Option Char → Bool) :
    Nat → Option Char → Option Char → List Char → List Char → Option (List Char × List Char)
  | _, _, _, _, [] => none
  | i, p2, p1, acc, c :: cs =>
    if c == '>' && ok i p2 p1 then some (acc.reverse, cs)
    else splitAtClose ok (i + 1) p1 (some c) (c :: acc) cs

/-- Where an opening tag is in its text: outside quotes, or inside one of the two quotes. -/
inductive Quoting where
  | outside
  | single
  | double
deriving Repr, DecidableEq

/-- Splits a tag at the first `>` outside quotes; at the end of the input, the quoting state
it was left in. -/
def splitTag : Quoting → List Char → List Char → Except Quoting (List Char × List Char)
  | q, _, [] => .error q
  | q, acc, c :: cs =>
    match q, c with
    | .outside, '>' => .ok (acc.reverse, cs)
    | .outside, '\'' => splitTag .single (c :: acc) cs
    | .outside, '"' => splitTag .double (c :: acc) cs
    | .single, '\'' => splitTag .outside (c :: acc) cs
    | .double, '"' => splitTag .outside (c :: acc) cs
    | _, _ => splitTag q (c :: acc) cs

/-- Where the scan of a document type declaration stands. -/
inductive Doctype where
  /-- before the internal subset, inside a quoted literal when `quote` is set -/
  | prologue (quote : Option Char)
  /-- inside the internal subset, between its declarations -/
  | subset
  /-- inside a comment of the subset, after `dashes` dashes (at most two counted) -/
  | comment (dashes : Nat)
  /-- inside a processing instruction of the subset, just after a `?` when `question` -/
  | instruction (question : Bool)
  /-- inside an entity, attribute list or notation declaration of the subset, whose quoted
  literals may hold `>`; inside one when `quote` is set -/
  | literals (quote : Option Char)
  /-- inside any other markup of the subset (an element declaration among them), which ends
  at its first `>` whatever quotes it holds -/
  | markup
  /-- after the `]` that closes the internal subset -/
  | epilogue
deriving Repr, DecidableEq

/-- Whether markup of an internal subset, after its `<`, is an entity, attribute list or
notation declaration, whose quoted literals may hold `>`. -/
def holdsLiterals (cs : List Char) : Bool :=
  cs.take 7 == "!ENTITY".toList || cs.take 8 == "!ATTLIST".toList ||
    cs.take 9 == "!NOTATION".toList

/-- Splits a document type declaration at its closing `>`: the first one outside quoted
literals before the internal subset, or the first one after the `]` that closes the subset.
Inside the subset, comments, processing instructions and the quoted literals of entity,
attribute list and notation declarations (their keywords in capitals) may hold `>` and `]`;
any other markup ends at its first `>`, and quotes between markup mean nothing. -/
def splitDoctype : Doctype → List Char → List Char → Option (List Char × List Char)
  | _, _, [] => none
  | .prologue none, acc, c :: cs =>
    if c == '>' then some (acc.reverse, cs)
    else if c == '[' then splitDoctype .subset (c :: acc) cs
    else if c == '\'' || c == '"' then splitDoctype (.prologue (some c)) (c :: acc) cs
    else splitDoctype (.prologue none) (c :: acc) cs
  | .prologue (some q), acc, c :: cs =>
    splitDoctype (.prologue (if c == q then none else some q)) (c :: acc) cs
  | .subset, acc, c :: cs =>
    if c == ']' then splitDoctype .epilogue (c :: acc) cs
    else if c == '<' then
      if cs.take 3 == ['!', '-', '-'] then
        splitDoctype (.comment 0) ('-' :: '-' :: '!' :: c :: acc) (cs.drop 3)
      else if cs.head? == some '?' then
        splitDoctype (.instruction false) ('?' :: c :: acc) (cs.drop 1)
      else if holdsLiterals cs then splitDoctype (.literals none) (c :: acc) cs
      else splitDoctype .markup (c :: acc) cs
    else splitDoctype .subset (c :: acc) cs
  | .comment n, acc, c :: cs =>
    if c == '>' && n ≥ 2 then splitDoctype .subset (c :: acc) cs
    else if c == '-' then splitDoctype (.comment (min (n + 1) 2)) (c :: acc) cs
    else splitDoctype (.comment 0) (c :: acc) cs
  | .instruction q, acc, c :: cs =>
    if c == '>' && q then splitDoctype .subset (c :: acc) cs
    else splitDoctype (.instruction (c == '?')) (c :: acc) cs
  | .literals none, acc, c :: cs =>
    if c == '>' then splitDoctype .subset (c :: acc) cs
    else if c == '\'' || c == '"' then splitDoctype (.literals (some c)) (c :: acc) cs
    else splitDoctype (.literals none) (c :: acc) cs
  | .literals (some q), acc, c :: cs =>
    splitDoctype (.literals (if c == q then none else some q)) (c :: acc) cs
  | .markup, acc, c :: cs =>
    if c == '>' then splitDoctype .subset (c :: acc) cs else splitDoctype .markup (c :: acc) cs
  | .epilogue, acc, c :: cs =>
    if c == '>' then some (acc.reverse, cs) else splitDoctype .epilogue (c :: acc) cs
termination_by _ _ cs => cs.length
decreasing_by all_goals (simp only [List.length_drop, List.length_cons]; omega)

/-- ASCII case-insensitive prefix test. -/
def startsWithCaseless (cs pre : List Char) : Bool :=
  cs.length ≥ pre.length && (cs.take pre.length).map Char.toLower == pre.map Char.toLower

/-- The fault for a quoting state left open at the end of the input. -/
def Quoting.fault : Quoting → Fault
  | .outside => .tagNotClosed
  | .single => .valueNotClosed '\''
  | .double => .valueNotClosed '"'

/-- The part after `<!`: a comment, character data or a declaration. `chunk` starts at `!`. -/
def scanBang (chunk : List Char) : Except Fault (Event × List Char) :=
  match chunk.drop 1 with
  | '-' :: _ =>
    match splitAtClose (fun i p2 p1 => i > 4 && p2 == some '-' && p1 == some '-') 0 none none [] chunk with
    | none => .error .commentNotClosed
    | some (buf, rest) =>
      if buf.take 3 == ['!', '-', '-'] then
        .ok (.comment (String.ofList ((buf.drop 3).take (buf.length - 5))), rest)
      else .error .commentNotClosed
  | '[' :: _ =>
    match splitAtClose (fun _ p2 p1 => p2 == some ']' && p1 == some ']') 0 none none [] chunk with
    | none => .error .cdataNotClosed
    | some (buf, rest) =>
      if buf.take 8 == "![CDATA[".toList then
        .ok (.cdata (String.ofList ((buf.drop 8).take (buf.length - 10))), rest)
      else .error .cdataNotClosed
  | c :: _ =>
    if c == 'D' || c == 'd' then
      match splitDoctype (.prologue none) [] chunk with
      | none => .error .doctypeNotClosed
      | some (buf, rest) =>
        if startsWithCaseless buf "!DOCTYPE".toList then
          if (buf.drop 8).all isMarkupBlank then .error .doctypeWithoutName
          else .ok (.directive, rest)
        else .error .doctypeNotClosed
    else .error .unknownBang
  | [] => .error .unknownBang

/-- The name of a closing tag: its text with trailing blanks dropped, unless it is blank
throughout, when it stays as written. -/
def closingName (cs : List Char) : List Char :=
  if cs.all isMarkupBlank then cs else (cs.reverse.dropWhile isMarkupBlank).reverse

/-- Whether the text after `<?` starts an XML declaration: `xml` followed by a blank, a `?`
or the end of the input. -/
def isDeclarationStart (body : List Char) : Bool :=
  match body with
  | 'x' :: 'm' :: 'l' :: rest =>
    match rest with
    | [] => true
    | c :: _ => isMarkupBlank c || c == '?'
  | _ => false

/-- The part after `<`. -/
def scanTag (rest : List Char) : Except Fault (Event × List Char) :=
  match rest with
  | [] => .error .tagNotClosed
  | '!' :: _ => scanBang rest
  | '/' :: _ =>
    match splitTag .outside [] rest with
    | .error q => .error q.fault
    | .ok (buf, after) =>
      .ok (.close (String.ofList (closingName (buf.drop 1))), after)
  | '?' :: body =>
    let fault := if isDeclarationStart body then Fault.declarationNotClosed else .instructionNotClosed
    match splitAtClose (fun i _ p1 => i > 0 && p1 == some '?') 0 none none [] rest with
    | none => .error fault
    | some (buf, after) => if buf.length > 1 then .ok (.directive, after) else .error fault
  | _ =>
    match splitTag .outside [] rest with
    | .error q => .error q.fault
    | .ok (buf, after) =>
      if buf.getLast? == some '/' then .ok (.empty buf.dropLast, after)
      else .ok (.start buf, after)

/-- The part after `&`: a reference when `;` comes before the next `&` or `<`, else text. -/
def scanReference (rest : List Char) : Event × List Char :=
  match rest.findIdx? (fun c => c == ';' || c == '&' || c == '<') with
  | some i =>
    if rest[i]? == some ';' then (.reference (String.ofList (rest.take i)), rest.drop (i + 1))
    else (.text (String.ofList ('&' :: rest.take i)), rest.drop i)
  | none => (.text (String.ofList ('&' :: rest)), [])

/-- The next event and the input after it, or `none` at the end of the input. -/
def Event.next (input : List Char) : Except Fault (Option (Event × List Char)) :=
  match input with
  | [] => .ok none
  | '<' :: rest => (scanTag rest).map some
  | '&' :: rest => .ok (some (scanReference rest))
  | cs =>
    let (t, r) := cs.span (fun c => c != '<' && c != '&')
    .ok (some (.text (String.ofList t), r))

end Stencil.Markup
