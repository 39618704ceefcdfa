import Homelab.Resolution.Pass

/-!
# Rewriting by a table

What a pass comes to, said without the order of asking: given the value of every
token in a table, each text of the document is rewritten on its own.
-/

namespace Homelab

/-- The values of tokens by their texts; a token that is not found has none. -/
abbrev TokenTable := String → Option Value

namespace TokenTable

/-- A piece of a longer text, its token replaced by the text of its value. -/
def piece (table : TokenTable) (serves : Target → Bool) (c : Reference.Piece) : List Char :=
  match c.reference? with
  | none => c.chars
  | some r =>
      if serves r.target then
        match (table r.text).bind Value.inlineText? with
        | some s => s.toList
        | none => c.chars
      else c.chars

/-- A text rewritten by a table. -/
def text (table : TokenTable) (serves : Target → Bool) (inLongerTexts : Bool) (s : String) :
    Value :=
  match Reference.parse? s with
  | some r => if serves r.target then (table r.text).getD (.str s) else .str s
  | none =>
      if inLongerTexts then
        .str (String.ofList ((Reference.pieces s.toList).flatMap (table.piece serves)))
      else .str s

mutual

/-- A document with each of its texts rewritten. -/
def rewrite (f : String → Value) : Value → Value
  | .scalar (.str s) => f s
  | .scalar s => .scalar s
  | .list items => .list (rewriteItems f items)
  | .map entries => .map (rewriteEntries f entries)
  | .set members => .set members

/-- The members of a list, rewritten. -/
def rewriteItems (f : String → Value) : List Value → List Value
  | [] => []
  | v :: rest => rewrite f v :: rewriteItems f rest

/-- The values of a mapping, rewritten. -/
def rewriteEntries (f : String → Value) : List (Scalar × Value) → List (Scalar × Value)
  | [] => []
  | (k, v) :: rest => (k, rewrite f v) :: rewriteEntries f rest

end

end TokenTable
end Homelab
