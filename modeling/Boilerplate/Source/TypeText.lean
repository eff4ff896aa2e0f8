import Boilerplate.Source.Token

namespace Boilerplate.Source

/-- Words and the wildcard `?` keep apart from each other. -/
def Token.isWordlike (t : Token) : Bool := t.isWord || t.text == "?"

def needsSpace (before after : Token) : Bool :=
  before.text == "," || (before.isWordlike && after.isWordlike) || after.text == "&" ||
    before.text == "&"

def typeTextAfter (before : Token) : List Token → String
  | [] => ""
  | t :: rest => (if needsSpace before t then " " else "") ++ t.text ++ typeTextAfter t rest

def typeText : List Token → String
  | [] => ""
  | t :: rest => t.text ++ typeTextAfter t rest

end Boilerplate.Source
