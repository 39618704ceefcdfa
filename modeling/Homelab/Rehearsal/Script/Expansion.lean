import Homelab.Rehearsal.Script.Formula
import Homelab.Rehearsal.Script.Pattern
import Homelab.Rehearsal.Script.State
import Homelab.Rehearsal.Script.Word

/-!
# Substitutions

A word becomes fields: its parts are replaced by what they stand for, what is not in
quotes is cut at separators, and a pattern becomes the names of the files that it fits,
if there are any.  Substitutions may run scripts and set variables.
-/

namespace Homelab
namespace Script

/-- A piece of a word after its substitutions: a character, a mark that there is a field
even if it is empty, or a separator of fields. -/
inductive Piece where
  | char (c : Char) (quoted : Bool)
  | present
  | gap (c : Char)
deriving DecidableEq

/-- How a shell runs a script. -/
abbrev Runner := List Char → State → State

/-- The characters of a text as pieces. -/
def literalPieces (quoted : Bool) (cs : List Char) : List Piece :=
  (if quoted then [.present] else []) ++ cs.map fun c => .char c quoted

/-- The value of a substitution as pieces. -/
def valuePieces (s : State) (quoted : Bool) (cs : List Char) : List Piece :=
  if quoted then cs.map fun c => .char c true
  else
    let separators := ((s.value? "IFS").getD " \t\n").toList
    cs.flatMap fun c =>
      if !separators.contains c then [.char c false]
      else if Shell.isSpace c then [.gap c]
      else [.present, .gap c]

/-- Pieces as text. -/
def pieceText (ps : List Piece) : List Char :=
  ps.filterMap fun p => match p with
    | .char c _ => some c
    | .gap c => some c
    | .present => none

/-- Pieces as a pattern. -/
def piecePattern (ps : List Piece) : Pattern :=
  ps.filterMap fun p => match p with
    | .char c quoted => some (c, quoted)
    | .gap c => some (c, false)
    | .present => none

/-- The arguments of a script as pieces: each one is a field of its own, or they are
joined by the first separator. -/
def argumentPieces (s : State) (joined quoted : Bool) : List Piece :=
  let between := (((s.value? "IFS").getD " ").toList.take 1).map fun c => Piece.char c true
  (if joined && quoted then between else [.gap ' ']).intercalate
    (s.arguments.map fun a =>
      (if quoted then [.present] else []) ++ valuePieces s quoted a.toList)

/-- What a script prints, without line ends behind it. -/
def outputOf (runner : Runner) (script : List Char) (s : State) : List Char × State :=
  let t := runner script { s with sinks := (.captured, s.sinks.2), captured := [], traps := [] }
  let text := ((Text.ofBytes? (t.capturedBytes.filter (· != 0))).getD "").toList
  ((text.reverse.dropWhile (· = '\n')).reverse,
    { s.after t with captured := s.captured, status := s.status, inner := t.status })

/-- The number that the value of a variable stands for in a formula. -/
def numberOf (s : State) (name : String) : Int :=
  match Formula.evaluate (fun _ => 0) (s.value name).toList with
  | .ok (n, _) => n
  | .error _ => 0

/-- The value of a formula, and a shell with the variables that it sets. -/
def formulaText (formula : List Char) (s : State) : List Char × State :=
  match Formula.evaluate (numberOf s) formula with
  | .ok (n, written) =>
      ((toString n).toList, written.reverse.foldl (fun s w => s.assign w.1 (toString w.2)) s)
  | .error fault =>
      ([], s.fatal ("arithmetic expression: " ++ fault.text ++ ": \"" ++ String.ofList formula ++ "\""))

/-- The pieces of a word, and the shell behind its substitutions; the fuel bounds the
number of parts and how deep they stand in each other. -/
def piecesOf (runner : Runner) : (fuel : Nat) → Word → State → List Piece × State
  | 0, _, s => ([], s)
  | _, [], s => ([], s)
  | fuel + 1, part :: rest, s =>
      let (found, s) : List Piece × State := match part with
        | .text cs quoted => (literalPieces quoted cs, s)
        | .arguments joined quoted => (argumentPieces s joined quoted, s)
        | .output script quoted =>
            let (text, s) := outputOf runner script s
            (valuePieces s quoted text, s)
        | .number formula quoted =>
            let (ps, s) := piecesOf runner fuel (partsInQuotes formula) s
            let (text, s) := formulaText (pieceText ps) s
            (valuePieces s quoted text, s)
        | .variable "" _ _ _ => ([], s.fatal "Bad substitution")
        | .variable name use other quoted =>
            let value? := s.value? name
            let value := (value?.getD "").toList
            let lacks (empty : Bool) := value?.isNone || (empty && value.isEmpty)
            let others (s : State) :=
              piecesOf runner fuel (if quoted then partsInQuotes other else partsOf other) s
            let plain (cs : List Char) (s : State) : List Piece × State :=
              if value?.isNone && s.demanding then ([], s.fatal (name ++ ": parameter not set"))
              else (valuePieces s quoted cs, s)
            match use with
            | .plain => plain value s
            | .length => plain (Nat.repr value.length).toList s
            | .fallback empty => if lacks empty then others s else plain value s
            | .alternative empty => if lacks empty then ([], s) else others s
            | .assign empty =>
                if lacks empty then
                  let (ps, s) := others s
                  let text := pieceText ps
                  (valuePieces s quoted text, s.assign name (String.ofList text))
                else plain value s
            | .demand empty =>
                if lacks empty then
                  let (ps, s) := others s
                  let text := String.ofList (pieceText ps)
                  let said :=
                    if text ≠ "" then text
                    else if empty then "parameter not set or null"
                    else "parameter not set"
                  ([], s.fatal (name ++ ": " ++ said))
                else plain value s
            | .withoutStart longest =>
                let (ps, s) := piecesOf runner fuel (partsOf other) s
                plain (Pattern.withoutStart (piecePattern ps) longest value) s
            | .withoutEnd longest =>
                let (ps, s) := piecesOf runner fuel (partsOf other) s
                plain (Pattern.withoutEnd (piecePattern ps) longest value) s
      let (more, s) := piecesOf runner fuel rest s
      (found ++ more, s)

/-- The pieces between separators. -/
def cutAtGaps : List Piece → List (List Piece)
  | [] => [[]]
  | .gap _ :: rest => [] :: cutAtGaps rest
  | p :: rest =>
      match cutAtGaps rest with
      | first :: more => (p :: first) :: more
      | [] => [[p]]

/-- The fields that a field becomes as a pattern for the names of files. -/
def fileNames (s : State) (field : List Piece) : List String :=
  let p := piecePattern field
  let text := String.ofList (pieceText field)
  if p.isOpen then
    let found := (s.disk.names s.directory).filter fun name =>
      p.fits name.toList && (!name.startsWith "." || text.startsWith ".")
    if found.isEmpty then [text] else found
  else [text]

/-- A word in which a tilde in front stands for the home directory. -/
def withHome (s : State) (w : Word) : Word :=
  match w with
  | .text ('~' :: cs) false :: rest =>
      if cs.head?.all (· = '/') then .text (s.value "HOME").toList true :: .text cs false :: rest else w
  | _ => w

/-- A word that is nothing but the arguments in quotes. -/
def isOnlyArguments (w : Word) : Bool := w = [.text [] true, .arguments false true]

/-- The fields of a word. -/
def fieldsOf (runner : Runner) (fuel : Nat) (w : Word) (s : State) : List String × State :=
  let w := if isOnlyArguments w then w.drop 1 else withHome s w
  let (ps, s) := piecesOf runner fuel w s
  (((cutAtGaps ps).filter fun f => !f.isEmpty).flatMap (fileNames s), s)

/-- The fields of some words. -/
def fieldsOfAll (runner : Runner) (fuel : Nat) : List Word → State → List String × State
  | [], s => ([], s)
  | w :: rest, s =>
      let (found, s) := fieldsOf runner fuel w s
      let (more, s) := fieldsOfAll runner fuel rest s
      (found ++ more, s)

/-- The text of a word that stays one field. -/
def textOf (runner : Runner) (fuel : Nat) (w : Word) (s : State) : String × State :=
  let (ps, s) := piecesOf runner fuel (withHome s w) s
  (String.ofList (pieceText ps), s)

/-- A word as a pattern. -/
def patternOf (runner : Runner) (fuel : Nat) (w : Word) (s : State) : Pattern × State :=
  let (ps, s) := piecesOf runner fuel w s
  (piecePattern ps, s)

end Script
end Homelab
