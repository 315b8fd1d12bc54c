import Shorthand.Snippet.Builtin.Css
import Shorthand.Snippet.Builtin.Html
import Shorthand.Snippet.Builtin.Xsl
import Shorthand.Snippet.Layer

/-! # Built-in tables

Snippet tables known by name, and the variables that every abbreviation may use.
-/

namespace Shorthand.Builtin

def layerOf (pairs : List (String × String)) : Layer :=
  .ofPairs (pairs.map fun e => (e.1, .literal e.2))

def html : Layer := layerOf htmlSnippets
def css : Layer := layerOf cssSnippets
def xsl : Layer := layerOf xslSnippets

def tables : Dict Layer := [("css", css), ("html", html), ("xsl", xsl)]

def table? (name : String) : Option Layer :=
  tables.get? name

def vars : Dict String :=
  [("charset", "UTF-8"), ("lang", "en"), ("locale", "en-US")]

end Shorthand.Builtin
