import Homelab.Rehearsal.Script.Escape
import Homelab.Rehearsal.Script.Quoting
import Homelab.Rehearsal.Script.Written

/-!
# Formatted output

Formats, as the shell itself and the program of the same name know them.  A format is
used again as long as arguments are left, and missing arguments are empty or zero.  An
argument that should be a number and is none counts as far as it is one, and the operator
is told; what makes no sense in the format ends the output.
-/

namespace Homelab
namespace Script
namespace Format

/-- Who writes: the shell itself, or the program; and whether characters may be wider than
a byte. -/
structure Writer where
  isProgram : Bool
  wide : Bool
deriving DecidableEq

namespace Writer

/-- The escapes of a format. -/
def formatContext (w : Writer) : Escape.Context := if w.isProgram then .format else .shellFormat

/-- The escapes of an argument. -/
def textContext (w : Writer) : Escape.Context := if w.isProgram then .text else .shellText

/-- The numbers that are computed with. -/
def fineness (w : Writer) : Fineness := if w.isProgram then .extended else .double

end Writer

/-- What is wrong with an argument, or with the format. -/
inductive Complaint where
  | noNumber (argument : String)
  | notAll (argument : String)
  | outOfRange (argument : String)
  | ignored (bytes : List UInt8)
  | width (argument : String)
  | precision (argument : String)
  | oversized
  | escape (fault : Escape.Fault)
  | unknown (bytes : List UInt8)
  | unended (directive : String)
deriving DecidableEq

/-- Only a warning is told. -/
def Complaint.isWarning : Complaint → Bool
  | ignored _ => true
  | _ => false

/-- Nothing is written any more. -/
def Complaint.isFatal : Complaint → Bool
  | width _ | precision _ | oversized | escape _ | unknown _ | unended _ => true
  | _ => false

/-- How an argument is written: with the flags, with a least width and a precision, and as
the letter says. -/
structure Directive where
  flags : List Char
  left : Bool
  width : Nat
  precision : Option Nat
  letter : Char
deriving DecidableEq

namespace Directive

/-- A flag is given. -/
def has (d : Directive) (flag : Char) : Bool := d.flags.contains flag

/-- The sign of a number. -/
def sign (d : Directive) (negative : Bool) : List Char :=
  if negative then ['-'] else if d.has '+' then ['+'] else if d.has ' ' then [' '] else []

/-- A text filled up to the width: behind it, between its beginning and the rest, or in
front of it. -/
def padded (d : Directive) (zeros : Bool) (beginning digits : List Char) : List Char :=
  let free := d.width - beginning.length - digits.length
  if d.left then beginning ++ digits ++ List.replicate free ' '
  else if zeros then beginning ++ List.replicate free '0' ++ digits
  else List.replicate free ' ' ++ beginning ++ digits

/-- A text of bytes, cut to the precision and filled up to the width. -/
def text (d : Directive) (bytes : List UInt8) : List UInt8 :=
  let kept := match d.precision with
    | some p => bytes.take p
    | none => bytes
  let blanks := List.replicate (d.width - kept.length) (0x20 : UInt8)
  if d.left then kept ++ blanks else blanks ++ kept

/-- The digits of an integer, with zeros in front up to the precision. -/
def precise (d : Directive) (base n : Nat) : List Char :=
  if n = 0 && d.precision = some 0 then []
  else Written.filled (d.precision.getD 0) (Nat.toDigits base n)

/-- An integer as the letter says. -/
def integer (d : Directive) (negative : Bool) (n : Nat) : List Char :=
  let zeros := d.has '0' && d.precision.isNone
  let marked := d.has '#'
  match d.letter with
  | 'o' =>
      let digits := d.precise 8 n
      d.padded zeros [] (if marked && digits.head? ≠ some '0' then '0' :: digits else digits)
  | 'x' => d.padded zeros (if marked && n ≠ 0 then ['0', 'x'] else []) (d.precise 16 n)
  | 'X' =>
      d.padded zeros (if marked && n ≠ 0 then ['0', 'X'] else []) ((d.precise 16 n).map Char.toUpper)
  | 'u' => d.padded zeros [] (d.precise 10 n)
  | _ => d.padded zeros (d.sign negative) (d.precise 10 n)

/-- A number with a fraction as the letter says: the marks in front of the digits, and the
digits. -/
def digits (d : Directive) (f : Fineness) (m : Nat) (q : Int) : List Char × List Char :=
  let marked := d.has '#'
  let count := d.precision.getD 6
  match d.letter.toLower with
  | 'a' => (['0', 'x'], Written.hexadecimal f marked m q d.precision)
  | 'f' =>
      let (whole, places) := Written.places m q count
      ([], Written.pointed marked whole places)
  | 'e' =>
      let ((whole, places), e) := Written.scientific m q count
      ([], Written.pointed marked whole places ++ Written.powerText 'e' 2 e)
  | _ => ([], Written.shorter marked m q count)

/-- A number with a fraction. -/
def quantity (d : Directive) (f : Fineness) (x : Quantity) : List Char :=
  let shown (cs : List Char) := if d.letter.isUpper then cs.map Char.toUpper else cs
  let sign := d.sign x.negative
  match x with
  | .finite _ m q =>
      let (mark, digits) := d.digits f m q
      d.padded (d.has '0') (sign ++ shown mark) (shown digits)
  | .infinite _ => d.padded false sign (shown ['i', 'n', 'f'])
  | .undefined _ => d.padded false sign (shown ['n', 'a', 'n'])

end Directive

/-- A character that quotes the one behind it, which stands for its code then. -/
def isQuote (c : Char) : Bool := c = '\'' || c = '"'

/-- The code of a quoted character, and what is wrong with the argument. -/
def code? (w : Writer) (argument : String) : Option (Nat × Option Complaint) :=
  match argument.toList with
  | quote :: rest =>
      if !isQuote quote then none
      else
        let bytes := Text.toBytes rest
        if !w.isProgram then some ((bytes.headD 0).toNat, none)
        else
          match rest with
          | [] => none
          | c :: more =>
              let (n, ignored) := if w.wide then (c.toNat, Text.toBytes more)
                else ((bytes.headD 0).toNat, bytes.drop 1)
              some (n, if ignored.isEmpty then none else some (.ignored ignored))
  | [] => none

/-- What is wrong with an argument at whose beginning a number was looked for. -/
def complaint? {α : Type} (w : Writer) (argument : String) (found : Leading α) : Option Complaint :=
  let rest := if found.left.isEmpty then none
    else some (if found.isFound then Complaint.notAll argument else .noNumber argument)
  let range := if found.isOutOfRange then some (Complaint.outOfRange argument) else none
  if w.isProgram then range <|> rest else rest <|> range

/-- The number that an argument stands for, and what is wrong with it. -/
def numberOf {α : Type} (w : Writer) (ofCode : Nat → α) (read : List Char → Leading α) (argument : String) :
    α × Option Complaint :=
  match code? w argument with
  | some (n, complaint) => (ofCode n, complaint)
  | none =>
      let found := read argument.toList
      (found.value, complaint? w argument found)

/-- An integer with a sign. -/
def integerOf (w : Writer) (argument : String) : Int × Option Complaint :=
  numberOf w (fun n => (n : Int)) Leading.integer argument

/-- The greatest number that a width or a precision can be. -/
def sizeLimit : Nat := Nat.pow 2 31 - 1

/-- A size in a directive: its value, what is left of the format and of the arguments, and
what is wrong with the argument that it comes from. -/
structure Size where
  value : Int
  left : List Char
  arguments : List String
  complaints : List Complaint

/-- What is wrong with the size that an argument of the program asks for: it is out of
range.  A precision below zero is none at all. -/
def sizeFault? (isPrecision : Bool) (argument : String) (n : Int) : Option Complaint :=
  let limit : Int := sizeLimit
  if isPrecision then (if limit < n then some (.precision argument) else none)
  else if n < -limit - 1 || limit < n then some (.width argument)
  else none

/-- The size that a star stands for.  The shell takes the lowest bits of the argument. -/
def starredSize (w : Writer) (isPrecision : Bool) (left : List Char) (arguments : List String) : Size :=
  match arguments with
  | [] => ⟨0, left, [], []⟩
  | argument :: arguments =>
      let (n, complaint) := integerOf w argument
      if w.isProgram then
        ⟨n, left, arguments, complaint.toList ++ (sizeFault? isPrecision argument n).toList⟩
      else ⟨Int.bmod n (Nat.pow 2 32), left, arguments, complaint.toList⟩

/-- The size at the beginning of a text: digits, or a star that stands for an argument. -/
def sizeOf (w : Writer) (isPrecision : Bool) (cs : List Char) (arguments : List String) : Size :=
  match cs with
  | '*' :: left => starredSize w isPrecision left arguments
  | _ =>
      let (digits, left) := cs.span Text.isAsciiDigit
      ⟨Text.natOfDigits digits, left, arguments, []⟩

/-- The flags that a directive can have. -/
def flags (w : Writer) : List Char := if w.isProgram then "-+ #0'I".toList else "-+ #0".toList

/-- Flags go with a letter.  The shell does not mind; of the program, a flag for groups of
digits or other digits needs a decimal, a mark needs a number that can be marked, zeros
need a number, and a character has no precision. -/
def isFitting (w : Writer) (flags : List Char) (isPrecise : Bool) (letter : Char) : Bool :=
  let isAmong (letters : String) := letters.toList.contains letter
  if w.isProgram then
    isAmong "aAcdeEfFgGiosuxX" &&
      !((flags.contains '\'' || flags.contains 'I') && isAmong "aAceEosxX") &&
      !(flags.contains '#' && isAmong "cdisu") && !(flags.contains '0' && isAmong "cs") &&
      !(isPrecise && letter = 'c')
  else isAmong "aAbcdeEfFgGiosuxX"

/-- A directive that has been read, if nothing in it ends the output; what is left of the
format and of the arguments, and what is wrong, up to what ends the output. -/
structure Reading where
  directive : Option Directive
  left : List Char
  arguments : List String
  complaints : List Complaint

/-- What is wrong, up to what ends the output. -/
def upToFatal : List Complaint → List Complaint
  | [] => []
  | c :: rest => if c.isFatal then [c] else c :: upToFatal rest

/-- A directive of flags, sizes and a letter; a directive that makes no sense is shown by
its bytes, of which the letter has one. -/
def assembled (w : Writer) (read given : List Char) (width : Size) (precision : Option Size)
    (rest : List Char) : Reading :=
  let found (letter : Char) : Directive :=
    ⟨given, given.contains '-' || width.value < 0, width.value.natAbs,
      (precision.map Size.value).bind fun p => if p < 0 then none else some p.toNat, letter⟩
  let letterFault : List Complaint := match rest with
    | [] => [.unended (String.ofList read)]
    | letter :: _ =>
        if isFitting w given precision.isSome letter then []
        else [.unknown (Text.toBytes read ++ (Text.charBytes letter).take 1)]
  let d := found (rest.headD ' ')
  let oversized : List Complaint :=
    if sizeLimit < d.width || sizeLimit < d.precision.getD 0 then [.oversized] else []
  let complaints := upToFatal (width.complaints ++ ((precision.map Size.complaints).getD []) ++
    letterFault ++ oversized)
  ⟨if complaints.any Complaint.isFatal then none else some d, rest.drop 1,
    (precision.map Size.arguments).getD width.arguments, complaints⟩

/-- The directive behind a percent sign.  The program passes over letters for the length
of a number, and knows the letters for escapes and quoted text alone only. -/
def directive (w : Writer) (cs : List Char) (arguments : List String) : Reading :=
  let alone := (cs.head?.filter fun c => w.isProgram && (c = 'b' || c = 'q'))
  match alone with
  | some c => ⟨some ⟨[], false, 0, none, c⟩, cs.drop 1, arguments, []⟩
  | none =>
      let (given, rest) := cs.span (flags w).contains
      let width := sizeOf w false rest arguments
      let precision : Option Size := match width.left with
        | '.' :: more => some (sizeOf w true more width.arguments)
        | _ => none
      let rest := (precision.map Size.left).getD width.left
      let rest := if w.isProgram then rest.dropWhile "lLhjtz".toList.contains else rest
      assembled w ('%' :: cs.take (cs.length - rest.length)) given width precision rest

/-- What is written for an argument: bytes, what is wrong with it, and whether it ends the
output. -/
structure Piece where
  bytes : List UInt8
  complaint : Option Complaint
  isEnded : Bool

/-- What a directive makes of an argument. -/
def piece (w : Writer) (d : Directive) (argument : String) : Piece :=
  let written (text : List Char) (complaint : Option Complaint) : Piece :=
    ⟨Text.toBytes text, complaint, false⟩
  let bytes := Text.toBytes argument.toList
  match d.letter with
  | 'd' | 'i' =>
      let (n, complaint) := integerOf w argument
      written (d.integer (n < 0) n.natAbs) complaint
  | 'o' | 'u' | 'x' | 'X' =>
      let (n, complaint) := numberOf w id Leading.unsigned argument
      written (d.integer false n) complaint
  | 'c' => ⟨({ d with precision := none } : Directive).text [bytes.headD 0], none, false⟩
  | 's' => ⟨d.text bytes, none, false⟩
  | 'q' => written (Quoting.forShell w.wide false argument).toList none
  | 'b' =>
      let o := Escape.output w.wide w.textContext argument
      ⟨d.text o.bytes, o.fault.map Complaint.escape, o.isEnded⟩
  | _ =>
      let (x, complaint) := numberOf w w.fineness.ofNat (Leading.quantity w.fineness) argument
      written (d.quantity w.fineness x) complaint

/-- What a format has come to: its bytes, what was wrong, whether the output has ended, and
the arguments left. -/
structure Outcome where
  bytes : List UInt8
  complaints : List Complaint
  isEnded : Bool
  left : List String

/-- An outcome behind bytes and complaints. -/
def Outcome.after (bytes : List UInt8) (complaints : List Complaint) (o : Outcome) : Outcome :=
  { o with bytes := bytes ++ o.bytes, complaints := complaints ++ o.complaints }

/-- An argument of the program that is not there is written as nothing by the letters for
escapes and quoted text. -/
def isSkipped (w : Writer) (d : Directive) (arguments : List String) : Bool :=
  w.isProgram && arguments.isEmpty && (d.letter = 'b' || d.letter = 'q')

/-- One use of a format. -/
def once (w : Writer) : (fuel : Nat) → List String → List Char → Outcome
  | 0, arguments, _ => ⟨[], [], false, arguments⟩
  | _, arguments, [] => ⟨[], [], false, arguments⟩
  | fuel + 1, arguments, '%' :: '%' :: rest => (once w fuel arguments rest).after [0x25] []
  | fuel + 1, arguments, '\\' :: rest =>
      match Escape.read w.wide w.formatContext rest with
      | .bytes bytes left => (once w fuel arguments left).after bytes []
      | .ending => ⟨[], [], true, arguments⟩
      | .fault fault => ⟨[], [.escape fault], true, arguments⟩
  | fuel + 1, arguments, '%' :: rest =>
      let r := directive w rest arguments
      match r.directive with
      | none => ⟨[], r.complaints, true, r.arguments⟩
      | some d =>
          if isSkipped w d r.arguments then once w fuel r.arguments r.left
          else
            let p := piece w d (r.arguments.headD "")
            let complaints := r.complaints ++ p.complaint.toList
            if p.isEnded then ⟨p.bytes, complaints, true, r.arguments.drop 1⟩
            else (once w fuel (r.arguments.drop 1) r.left).after p.bytes complaints
  | fuel + 1, arguments, c :: rest => (once w fuel arguments rest).after (Text.charBytes c) []

/-- A format, used again as long as arguments are left and it has taken one. -/
def repeated (w : Writer) (template : List Char) : (fuel : Nat) → List String → Outcome
  | 0, arguments => ⟨[], [], false, arguments⟩
  | fuel + 1, arguments =>
      let o := once w (template.length + 1) arguments template
      if o.isEnded || o.left.isEmpty || o.left.length = arguments.length then o
      else (repeated w template fuel o.left).after o.bytes o.complaints

/-- What a format and its arguments come to. -/
def print (w : Writer) (template : String) (arguments : List String) : Outcome :=
  repeated w template.toList (arguments.length + 1) arguments

end Format
end Script
end Homelab
