import CrossRef.Text.Blank
import CrossRef.Text.CaseClass
import CrossRef.Text.WordChar
import CrossRef.View.Token

/-! # Grammars of markup

Three grammars of tokens: for XML, for SGML and HTML documents, and for text without markup. They
know tags with attributes, entities, comments, marked sections, declarations and processing
instructions. The grammar of SGML tells brackets, names and equals signs apart, where that of XML
takes a tag in larger pieces.
-/

namespace CrossRef.View

/-! ### Pieces of patterns -/

/-- White space, perhaps none. -/
def blanks : Piece := .run Text.isBlank 0

/-- White space, at least one character. -/
def someBlanks : Piece := .run Text.isBlank 1

/-- A character that has to be there. -/
def exactly (c : Char) : Piece := .literal (· == ·) [c]

/-- A text that has to be there. -/
def phrase (s : String) : Piece := .literal (· == ·) s.toList

/-- A text that has to be there, in any case. -/
def phraseAnyCase (s : String) : Piece := .literal Text.alike s.toList

/-- A name: word characters and those of `more`. -/
def name (more : List Char) : Piece := .run (fun c => Text.isWordChar c || more.contains c) 1

/-- The name of an element. -/
def elementName : Piece := name [':', '.', '-']

/-- The name of an attribute in SGML. -/
def attrName : Piece := name [':', '-']

/-- At least one character other than those of `stops`. -/
def allBut (stops : List Char) : Piece := .run (fun c => !stops.contains c) 1

/-- A rule whose characters are one token, with a move. -/
def movingRule (kind : Kind) (pieces : List Piece) (move : Move) : Rule := ⟨[⟨kind, pieces⟩], move⟩

/-- A rule whose characters are one token. -/
def plainRule (kind : Kind) (pieces : List Piece) : Rule := movingRule kind pieces .stay

/-! ### Rules that grammars share -/

/-- An entity: an ampersand, no white space, and the first semicolon. -/
def entityRule : Rule :=
  plainRule .entity
    [exactly '&', .run (fun c => Text.isSolid c && c != ';') 0, exactly ';']

/-- A marked section whose opening is `opening`. -/
def sectionRule (opening : Piece) : Rule :=
  plainRule .preprocessor [opening, .upTo "]]>".toList]

/-- A comment. -/
def commentRule : Rule := plainRule .comment [phrase "<!--", .upTo "-->".toList]

/-- A processing instruction. -/
def instructionRule : Rule := plainRule .preprocessor [phrase "<?", .upTo "?>".toList]

/-- A declaration. -/
def declarationRule : Rule :=
  plainRule .preprocessor [phrase "<!", .run (· != '>') 0, exactly '>']

/-- A value between two quotes. -/
def quotedRule (quote : Char) : Rule :=
  movingRule .string [exactly quote, .run (· != quote) 0, exactly quote] .leave

/-- A value without quotes. -/
def bareRule : Rule :=
  movingRule .string [.run (fun c => Text.isSolid c && c != '>') 1] .leave

/-! ### XML -/

/-- **The grammar of XML.** -/
def xml : Grammar
  | .outer =>
    [plainRule .text [.run (fun c => Text.isSolid c && c != '<' && c != '&') 1],
     plainRule .whitespace [someBlanks],
     entityRule,
     sectionRule (phrase "<![CDATA["),
     commentRule,
     instructionRule,
     declarationRule,
     movingRule .tag [exactly '<', blanks, elementName] (.enter .inTag),
     plainRule .tag [exactly '<', blanks, exactly '/', blanks, elementName, blanks, exactly '>']]
  | .inTag =>
    [plainRule .whitespace [someBlanks],
     movingRule .attr [elementName, blanks, exactly '='] (.enter .inValue),
     movingRule .tag [.optional '/', blanks, exactly '>'] .leave]
  | .inValue =>
    [plainRule .whitespace [someBlanks], quotedRule '"', quotedRule '\'', bareRule]

/-! ### SGML and HTML -/

/-- **The grammar of SGML and HTML.** -/
def sgml : Grammar
  | .outer =>
    [plainRule .text [allBut ['<', '&']],
     entityRule,
     sectionRule (phraseAnyCase "<![CDATA["),
     commentRule,
     instructionRule,
     declarationRule,
     ⟨[⟨.punctuation, [exactly '<']⟩, ⟨.text, [blanks]⟩, ⟨.tag, [elementName]⟩], .enter .inTag⟩,
     ⟨[⟨.punctuation, [exactly '<']⟩, ⟨.text, [blanks]⟩, ⟨.punctuation, [exactly '/']⟩,
       ⟨.text, [blanks]⟩, ⟨.tag, [elementName]⟩, ⟨.text, [blanks]⟩,
       ⟨.punctuation, [exactly '>']⟩], .stay⟩]
  | .inTag =>
    [plainRule .text [someBlanks],
     ⟨[⟨.attr, [attrName, blanks]⟩, ⟨.operator, [exactly '=']⟩, ⟨.text, [blanks]⟩],
       .enter .inValue⟩,
     plainRule .attr [attrName],
     ⟨[⟨.punctuation, [.optional '/']⟩, ⟨.text, [blanks]⟩, ⟨.punctuation, [exactly '>']⟩],
       .leave⟩]
  | .inValue => [quotedRule '"', quotedRule '\'', bareRule]

/-! ### Text -/

/-- **The grammar of text without markup.** -/
def plainText : Grammar := fun _ => [plainRule .text [.run (fun _ => true) 1]]

end CrossRef.View
