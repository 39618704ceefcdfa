import Homelab.Markup.Cursor

/-!
# Tokens of a markup text

The words of the markup.  Where indentation opens or closes a collection there is a
token for it as well, and a key that is written without a mark of its own has one put
in front of it, so that the structure of a document can be read from its tokens
alone.
-/

namespace Homelab
namespace Markup

/-- A line with word for the reader. -/
inductive Directive where
  | version (major : Nat)
  | handle (name written : String)
  | unknown
deriving DecidableEq

/-- A token. -/
inductive Token where
  | directive (d : Directive)
  | documentStart
  | documentEnd
  | textEnd
  | blockSequence
  | blockMapping
  | blockEnd
  | openList
  | closeList
  | openMap
  | closeMap
  | item
  | comma
  | key
  | value
  | alias (name : String)
  | anchor (name : String)
  | tag (handle : Option String) (rest : String)
  | scalar (text : List Char) (plain : Bool)
deriving DecidableEq

end Markup
end Homelab
