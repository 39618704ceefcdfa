import Homelab.Text.Blank
import Homelab.Text.Lines
import Homelab.Value.Path

/-!
# Reference tokens

A text value may be a token that stands for a value found elsewhere:

* `vault:<item>.<path>`, a text field of a vault item;
* `inventory:<path>` and `config:<path>`, a value of the inventory or of the
  document itself;
* `vm:id:<label>` and `lxc:id:<label>`, a machine number to be reserved;
* `ip:<network>:<label>`, an address to be reserved;
* `host:ip`, the address of the build host.

The tokens of the inventory, of the document and of the build host may also
stand in braces inside a longer text.  A text is cut into pieces, single
characters and braced tokens, from left to right; the pieces put together are
the text again.  The text of a token is its identity.
-/

namespace Homelab

/-- The kinds of guest machines that a token can ask a number for. -/
inductive GuestKind where
  | vm
  | lxc
deriving DecidableEq

/-- The name of a kind of guest. -/
def GuestKind.name : GuestKind → String
  | vm => "vm"
  | lxc => "lxc"

/-- What a token stands for. -/
inductive Target where
  | secret (item : String) (path : List String)
  | inventory (path : List String)
  | config (path : List String)
  | machine (kind : GuestKind) (label : String)
  | address (network label : String)
  | hostAddress
deriving DecidableEq

/-- A token: its text and what it stands for. -/
structure Reference where
  text : String
  target : Target
deriving DecidableEq

namespace Reference

/-- A character of a label or a network name. -/
def isLabelChar (c : Char) : Bool :=
  c ≠ '"' && c ≠ ':' && !Text.isBlank c

/-- A character of a path. -/
def isPathChar (c : Char) : Bool :=
  c ≠ '"' && c ≠ '\x7b' && c ≠ '\x7d' && !Text.isBlank c

/-- Some characters, all of one class. -/
def isRun (allowed : Char → Bool) (cs : List Char) : Bool :=
  !cs.isEmpty && cs.all allowed

/-- The segments of a path: what stands between dots, where it is not empty. -/
def segments (cs : List Char) : List String :=
  ((Text.fields '.' cs).filter fun piece => !piece.isEmpty).map String.ofList

/-- One line end at the end of a whole token is not part of it. -/
def dropLineEnd (cs : List Char) : List Char :=
  if cs.getLast? = some '\n' then cs.dropLast else cs

/-- The path after a keyword and a colon. -/
def pathAfter? (keyword : String) (cs : List Char) : Option (List Char) :=
  (Text.after? (keyword.toList ++ [':']) cs).filter (isRun isPathChar)

/-- A token of the inventory or of the document; a path of dots alone has no
segment and makes no token. -/
def pathTarget? (cs : List Char) : Option Target :=
  match pathAfter? "inventory" cs with
  | some path => if segments path = [] then none else some (.inventory (segments path))
  | none =>
      match pathAfter? "config" cs with
      | some path => if segments path = [] then none else some (.config (segments path))
      | none => none

/-- A vault token: no double quote after the keyword, and at least one segment. -/
def secretTarget? (cs : List Char) : Option (Option Target) :=
  match (Text.after? "vault:".toList cs).filter (isRun (· ≠ '"')) with
  | none => none
  | some path =>
      match segments path with
      | [] => some none
      | item :: rest => some (some (.secret item rest))

/-- A token for a machine number. -/
def machineTarget? (cs : List Char) : Option Target :=
  let label? (kind : GuestKind) : Option Target :=
    ((Text.after? (kind.name ++ ":id:").toList cs).filter (isRun isLabelChar)).map fun label =>
      .machine kind (String.ofList label)
  match label? .vm with
  | some t => some t
  | none => label? .lxc

/-- A token for an address: a network and a label, with a colon between them. -/
def addressTarget? (cs : List Char) : Option Target :=
  match (Text.after? "ip:".toList cs).bind (Text.cut? ':') with
  | some (network, label) =>
      if isRun isLabelChar network && isRun isLabelChar label then
        some (.address (String.ofList network) (String.ofList label))
      else none
  | none => none

/-- What may stand between the braces of an embedded token. -/
def isEmbeddable (inner : List Char) : Bool :=
  inner = "host:ip".toList || (pathAfter? "inventory" inner).isSome ||
    (pathAfter? "config" inner).isSome

/-- What the inside of an embedded token stands for. -/
def embeddedTarget? (inner : List Char) : Option Target :=
  if inner = "host:ip".toList then some .hostAddress else pathTarget? inner

/-- A character other than a brace. -/
def notBrace (c : Char) : Bool := c ≠ '\x7b' && c ≠ '\x7d'

/-- The embedded token after an opening brace: its inside, and what is left after
its closing brace. -/
def embedded? (afterBrace : List Char) : Option (List Char × List Char) :=
  match afterBrace.dropWhile notBrace with
  | '\x7d' :: rest =>
      let inner := afterBrace.takeWhile notBrace
      if isEmbeddable inner then some (inner, rest) else none
  | _ => none

/-- What follows an embedded token is shorter than what follows its brace. -/
theorem embedded?_length {cs inner rest : List Char} (h : embedded? cs = some (inner, rest)) :
    rest.length < cs.length := by
  unfold embedded? at h
  split at h
  · rename_i tail hd
    have hlen := congrArg List.length (List.takeWhile_append_dropWhile (p := notBrace) (l := cs))
    simp only [List.length_append, hd, List.length_cons] at hlen
    simp only at h
    split at h
    · simp only [Option.some.injEq, Prod.mk.injEq] at h
      rw [← h.2]
      omega
    · simp at h
  · simp at h

/-- A piece of a text: a character, or an embedded token by its inside. -/
inductive Piece where
  | char (c : Char)
  | token (inner : List Char)
deriving DecidableEq

namespace Piece

/-- The characters of a piece. -/
def chars : Piece → List Char
  | char c => [c]
  | token inner => '\x7b' :: inner ++ ['\x7d']

/-- The reference that an embedded token makes. -/
def reference? : Piece → Option Reference
  | char _ => none
  | token inner =>
      (embeddedTarget? inner).map fun t => ⟨String.ofList (chars (token inner)), t⟩

end Piece

/-- The pieces of a text, from left to right. -/
def pieces (cs : List Char) : List Piece :=
  match cs with
  | [] => []
  | c :: rest =>
      if c = '\x7b' then
        match _h : embedded? rest with
        | some (inner, left) => .token inner :: pieces left
        | none => .char c :: pieces rest
      else .char c :: pieces rest
termination_by cs.length
decreasing_by
  · simpa using Nat.lt_succ_of_lt (embedded?_length _h)
  · simp
  · simp

/-- A text that is one embedded token and nothing else. -/
def bracedTarget? (cs : List Char) : Option Target :=
  match cs with
  | '\x7b' :: rest =>
      match embedded? rest with
      | some (inner, []) => embeddedTarget? inner
      | _ => none
  | _ => none

/-- What a text stands for that is, in its entirety, one token.  A final line end
is no part of the token, except in a vault path, which takes in any character
but the double quote. -/
def wholeTarget? (cs : List Char) : Option Target :=
  if cs = "host:ip".toList then some .hostAddress
  else
    match secretTarget? cs with
    | some t => t
    | none =>
        let line := dropLineEnd cs
        match machineTarget? line with
        | some t => some t
        | none =>
            match addressTarget? line with
            | some t => some t
            | none =>
                if (pathAfter? "inventory" line).isSome || (pathAfter? "config" line).isSome then
                  pathTarget? line
                else bracedTarget? cs

/-- The token that a text is in its entirety. -/
def parse? (s : String) : Option Reference :=
  (wholeTarget? s.toList).map fun t => ⟨s, t⟩

/-- The tokens inside a text, from left to right. -/
def embeddedIn (s : String) : List Reference :=
  (pieces s.toList).filterMap Piece.reference?

/-- The tokens of a text: the text itself if it is one, else those inside it. -/
def findAll (s : String) : List Reference :=
  match parse? s with
  | some r => [r]
  | none => embeddedIn s

/-- The pieces of a text put together are the text. -/
theorem flatMap_chars_pieces (cs : List Char) : (pieces cs).flatMap Piece.chars = cs := by
  fun_induction pieces cs with
  | case1 => rfl
  | case2 rest inner left h ih =>
    unfold embedded? at h
    split at h
    · rename_i tail hd
      simp only at h
      split at h
      · simp only [Option.some.injEq, Prod.mk.injEq] at h
        obtain ⟨rfl, rfl⟩ := h
        have happ := List.takeWhile_append_dropWhile (p := notBrace) (l := rest)
        rw [hd] at happ
        simp [Piece.chars, ih, happ]
      · simp at h
    · simp at h
  | case3 rest h ih => simp [Piece.chars, ih]
  | case4 c rest hc ih => simp [Piece.chars, ih]

end Reference
end Homelab
