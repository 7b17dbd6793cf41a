import CrossRef.Failure
import CrossRef.Value.Basic
import CrossRef.View.Colour
import CrossRef.View.Language
import CrossRef.View.Markup
import CrossRef.XmlDeclaration

/-! # Highlighters

How languages are cut into tokens, which names files of a language have, and which styles there are
is known elsewhere. A *highlighter* stands for this knowledge. What is decided here is only which of
its lexers a document goes to, and what is made of the tokens.

A lexer should lose nothing: it drops a byte order mark at the beginning, makes all lines end with
line feeds, ends the last line, and cuts what it then has into tokens (`Lexer.Keeps`).

* `Highlighter.lexerFor`: the lexer of a document.
* `colouredLines`: the lines of a document in colours.
* `Highlighter.small`: a highlighter with the three grammars that are known here and two styles.
-/

namespace CrossRef.View

/-- **A lexer:** what cuts a text into tokens. -/
abbrev Lexer := List Char → List Token

/-- **What is known about languages and colours:** the lexers of XML, of SGML and of text without
markup, the lexer that the name of a file is known for, and the style that a setting asks for. -/
structure Highlighter where
  xml : Lexer
  sgml : Lexer
  text : Lexer
  named? : String → Option Lexer
  style : Value → Except Fault Style

/-- A text as it is cut into tokens: without a byte order mark, lines ended by line feeds, the last
one too. -/
def prepared (cs : List Char) : List Char :=
  let body := Text.unixLines (dropMark cs)
  if body.getLast? = some '\n' then body else body ++ ['\n']

/-- **The lexer loses nothing of a text:** its tokens, one after the other, are the text as it is
prepared. -/
def Lexer.Keeps (l : Lexer) (cs : List Char) : Prop := (l cs).flatMap (·.text) = prepared cs

/-- **The lexer of a document.** -/
def Highlighter.lexerFor (h : Highlighter) (path : String) (cs : List Char) : Lexer :=
  languageOf h.xml h.sgml h.text (h.named? path) path cs

/-- **A text in colours.** -/
def coloured (style : Style) (l : Lexer) (cs : List Char) : List Char :=
  (l cs).flatMap (colouredToken style)

/-- **The lines of a document in colours.** -/
def colouredLines (h : Highlighter) (style : Style) (path : String) (cs : List Char) :
    List (List Char) :=
  Text.feedLines (coloured style (h.lexerFor path cs) cs)

/-! ### A small highlighter -/

/-- The lexer of a grammar. -/
def Grammar.lexer (g : Grammar) : Lexer := fun cs => tokens g (prepared cs)

/-- The lexer of a grammar loses nothing. -/
theorem Grammar.keeps (g : Grammar) (cs : List Char) : g.lexer.Keeps cs :=
  flatMap_tokens g (prepared cs)

/-- The style that a setting asks for: the default one or the one without colours, or a collection
of colours, of which only the empty one is known. -/
def smallStyle : Value → Except Fault Style
  | .str name =>
    if name = "default" then .ok defaultStyle
    else if name = "bw" then .ok colourless
    else .error (.unknownStyle name)
  | .array [] | .table [] => .ok colourless
  | .array _ | .table _ | .json _ =>
    .error (.foreign "ValueError" "too many values to unpack (expected 2)")
  | v => .error (.noItems v.kindName)

/-- Endings of file names and their grammars. Definitions of document types are coloured as text. -/
def smallEndings : List (String × Grammar) :=
  [(".xml", View.xml), (".xsl", View.xml), (".rss", View.xml), (".xsd", View.xml),
   (".wsdl", View.xml), (".wsf", View.xml), (".svg", View.xml), (".html", View.sgml),
   (".htm", View.sgml), (".xhtml", View.sgml), (".dtd", View.plainText), (".txt", View.plainText)]

/-- **A highlighter with three grammars and two styles.** -/
def Highlighter.small : Highlighter where
  xml := View.xml.lexer
  sgml := View.sgml.lexer
  text := View.plainText.lexer
  named? path := (byEnding? smallEndings path).map Grammar.lexer
  style := smallStyle

end CrossRef.View
