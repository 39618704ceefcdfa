import Homelab.Text.Lines

/-!
# Patterns

A pattern fits texts: a star any text, a question mark any character, and brackets any
character of a set, which may have ranges and may be turned round.  A quoted character
fits only itself.
-/

namespace Homelab
namespace Script

/-- Characters, each with whether it is quoted. -/
abbrev Pattern := List (Char × Bool)

namespace Pattern

/-- The members of a set as ranges. -/
def ranges : List Char → List (Char × Char)
  | a :: '-' :: b :: rest => (a, b) :: ranges rest
  | a :: rest => (a, a) :: ranges rest
  | [] => []

/-- A set that a pattern begins with behind its opening bracket, and what is left.  A
closing bracket that comes first is a member. -/
def set? (p : Pattern) : Option ((Char → Bool) × Pattern) :=
  let turned := p.head? = some ('!', false) || p.head? = some ('^', false)
  let p := if turned then p.drop 1 else p
  let (first, rest) := p.splitAt 1
  let (more, left) := rest.span (· ≠ (']', false))
  let found := ranges ((first ++ more).map Prod.fst)
  match left with
  | _ :: left => some (fun c => (found.any fun r => r.1 ≤ c && c ≤ r.2) != turned, left)
  | [] => none

/-- A pattern fits a text; the fuel is at least the number of characters of both. -/
def fitsFrom : (fuel : Nat) → Pattern → List Char → Bool
  | 0, _, _ => false
  | _, [], cs => cs.isEmpty
  | fuel + 1, (p, quoted) :: rest, cs =>
      let literally := match cs with
        | c :: more => c = p && fitsFrom fuel rest more
        | [] => false
      if quoted then literally
      else
        match p with
        | '*' =>
            fitsFrom fuel rest cs ||
              (match cs with
              | _ :: more => fitsFrom fuel ((p, quoted) :: rest) more
              | [] => false)
        | '?' => match cs with
            | _ :: more => fitsFrom fuel rest more
            | [] => false
        | '[' => match set? rest, cs with
            | some (isMember, left), c :: more => isMember c && fitsFrom fuel left more
            | some _, [] => false
            | none, _ => literally
        | _ => literally

/-- A pattern fits a text as a whole. -/
def fits (p : Pattern) (cs : List Char) : Bool := fitsFrom (p.length + cs.length + 1) p cs

/-- A pattern fits more than one text. -/
def isOpen (p : Pattern) : Bool :=
  p.any fun c => !c.2 && (c.1 = '*' || c.1 = '?' || c.1 = '[')

/-- A text without the beginning that a pattern fits. -/
def withoutStart (p : Pattern) (longest : Bool) (cs : List Char) : List Char :=
  let counts := List.range (cs.length + 1)
  match (if longest then counts.reverse else counts).find? fun n => p.fits (cs.take n) with
  | some n => cs.drop n
  | none => cs

/-- A text without the end that a pattern fits. -/
def withoutEnd (p : Pattern) (longest : Bool) (cs : List Char) : List Char :=
  let counts := List.range (cs.length + 1)
  match (if longest then counts else counts.reverse).find? fun n => p.fits (cs.drop n) with
  | some n => cs.take n
  | none => cs

end Pattern
end Script
end Homelab
