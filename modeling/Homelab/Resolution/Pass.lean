import Homelab.Reference
import Homelab.Value.Written

/-!
# Passes over a document

A pass puts values in the place of the tokens of some kinds, in texts and never in
keys.  A text that is one token becomes the value itself.  In a longer text a token
in braces becomes the text of its value; the rest of the text stays as it is.  A
token for which nothing is found stays too.

A pass walks the document in the order of writing and remembers what it has asked
for, so that each token is looked up at most once.
-/

namespace Homelab

namespace Reference

/-- The texts of references, each once, in the order of their first occurrence. -/
def texts (refs : List Reference) : List String :=
  (refs.map Reference.text).eraseDups

end Reference

namespace Value

mutual

/-- The tokens of a document in the order of writing. -/
def references : Value → List Reference
  | .scalar (.str s) => Reference.findAll s
  | .scalar _ => []
  | .list items => itemReferences items
  | .map entries => entryReferences entries
  | .set _ => []

/-- The tokens of the members of a list. -/
def itemReferences : List Value → List Reference
  | [] => []
  | v :: rest => references v ++ itemReferences rest

/-- The tokens of the values of a mapping. -/
def entryReferences : List (Scalar × Value) → List Reference
  | [] => []
  | (_, v) :: rest => references v ++ entryReferences rest

end

/-- The texts of the tokens of a document, each once. -/
def unresolved (v : Value) : List String :=
  Reference.texts v.references

/-- A document without tokens. -/
def ensureResolved (v : Value) : Except Failure Unit :=
  match v.unresolved with
  | [] => .ok ()
  | tokens => .error (.unresolved tokens)

/-- What a value reads as inside a longer text: a text is itself, anything else is
written as JSON. -/
def inlineText? : Value → Option String
  | .str s => some s
  | v => Json.compact? v

mutual

/-- A document with every text outside of keys put through a function. -/
def mapTextsM {m : Type → Type} [Monad m] (f : String → m Value) : Value → m Value
  | .scalar (.str s) => f s
  | .scalar s => pure (.scalar s)
  | .list items => do return .list (← mapItemsM f items)
  | .map entries => do return .map (← mapEntriesM f entries)
  | .set members => pure (.set members)

/-- The members of a list, put through a function. -/
def mapItemsM {m : Type → Type} [Monad m] (f : String → m Value) :
    List Value → m (List Value)
  | [] => pure []
  | v :: rest => do
      let v ← mapTextsM f v
      return v :: (← mapItemsM f rest)

/-- The values of a mapping, put through a function. -/
def mapEntriesM {m : Type → Type} [Monad m] (f : String → m Value) :
    List (Scalar × Value) → m (List (Scalar × Value))
  | [] => pure []
  | (k, v) :: rest => do
      let v ← mapTextsM f v
      return (k, v) :: (← mapEntriesM f rest)

end

end Value

/-- A pass: the tokens that it serves, whether it does so inside longer texts, and
how it looks one up. -/
structure Pass (m : Type → Type) where
  serves : Target → Bool
  inLongerTexts : Bool
  lookup : Reference → m (Option Value)

/-- What has been asked for so far, by the text of the token. -/
abbrev Memo := List (String × Option Value)

namespace Pass

variable {m : Type → Type} [Monad m]

/-- The value of a token, looked up at its first occurrence. -/
def ask (p : Pass m) (r : Reference) : StateT Memo m (Option Value) := do
  match (← get).lookup r.text with
  | some found => pure found
  | none =>
      let found ← p.lookup r
      modify ((r.text, found) :: ·)
      pure found

/-- The value of a token inside a longer text, as text. -/
def inline [MonadExceptOf Failure m] (v : Value) : StateT Memo m (List Char) :=
  match v.inlineText? with
  | some s => pure s.toList
  | none => throwThe Failure (.unwritten v)

/-- What becomes of a piece of a longer text. -/
def piece [MonadExceptOf Failure m] (p : Pass m) (c : Reference.Piece) :
    StateT Memo m (List Char) :=
  match c.reference? with
  | none => pure c.chars
  | some r =>
      if p.serves r.target then do
        match ← p.ask r with
        | some v => inline v
        | none => pure c.chars
      else pure c.chars

/-- What becomes of the pieces of a longer text. -/
def spliced [MonadExceptOf Failure m] (p : Pass m) :
    List Reference.Piece → StateT Memo m (List Char)
  | [] => pure []
  | c :: rest => do
      let cs ← p.piece c
      return cs ++ (← spliced p rest)

/-- What becomes of a text. -/
def onText [MonadExceptOf Failure m] (p : Pass m) (s : String) : StateT Memo m Value :=
  match Reference.parse? s with
  | some r =>
      if p.serves r.target then do
        match ← p.ask r with
        | some v => pure v
        | none => pure (.str s)
      else pure (.str s)
  | none =>
      if p.inLongerTexts then do
        return .str (String.ofList (← p.spliced (Reference.pieces s.toList)))
      else pure (.str s)

/-- A pass over a document. -/
def run [MonadExceptOf Failure m] (p : Pass m) (document : Value) : m Value :=
  (document.mapTextsM p.onText).run' []

end Pass
end Homelab
