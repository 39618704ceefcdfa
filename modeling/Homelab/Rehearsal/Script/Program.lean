import Homelab.Rehearsal.Script.Condition
import Homelab.Rehearsal.Script.Format
import Homelab.Rehearsal.Script.Formula
import Homelab.Rehearsal.Script.Pattern
import Homelab.Text.Lines

/-!
# Programs

The usual programs that scripts are made with.  A program is given words, variables, the
disk and what is on its first stream; it prints, changes the disk and ends with a
status.  What programs say about a fault begins with their name.
-/

namespace Homelab
namespace Script

/-- What a program finds when it begins. -/
structure Place where
  directory : String
  vars : List (String × String)
  disk : Disk
  input : List UInt8

/-- What a program leaves behind: what it has printed, each piece with whether it was on
the second stream, its status, the disk, and what is left on its first stream. -/
structure Ended where
  printed : List (Bool × List UInt8)
  code : Nat
  disk : Disk
  left : List UInt8

namespace Program

/-- Bytes of text. -/
def bytesOf (text : String) : List UInt8 := Text.toBytes text.toList

/-- The text of bytes; none of them is lost if they are no text. -/
def charsOf (bytes : List UInt8) : List Char :=
  match Text.ofBytes? bytes with
  | some text => text.toList
  | none => bytes.map fun b => Char.ofNat b.toNat

/-- The lines of bytes, without their ends. -/
def linesOf : List UInt8 → List (List UInt8)
  | [] => []
  | b :: rest =>
      if b = 0x0a then [] :: linesOf rest
      else
        match rest, linesOf rest with
        | [], _ => [[b]]
        | _ :: _, line :: more => (b :: line) :: more
        | _ :: _, [] => [[b]]

/-- Lines with their ends. -/
def unlines (lines : List (List UInt8)) : List UInt8 :=
  lines.flatMap fun line => line ++ [0x0a]

/-- A program that has printed text and does not read. -/
def told (p : Place) (text : String) : Ended := ⟨[(false, bytesOf text)], 0, p.disk, p.input⟩

/-- A program that has failed with a complaint. -/
def failed (p : Place) (code : Nat) (text : String) : Ended :=
  ⟨[(true, bytesOf (text ++ "\n"))], code, p.disk, p.input⟩

/-- A program that has ended with a status and has printed nothing. -/
def silent (p : Place) (code : Nat) : Ended := ⟨[], code, p.disk, p.input⟩

/-- A program that needs another word. -/
def lacking (p : Place) (name wanted : String) : Ended :=
  failed p 1 (name ++ ": missing " ++ wanted ++ "\nTry '" ++ name ++ " --help' for more information.")

/-- Characters may be wider than a byte: so say the variables for the language. -/
def isWide (p : Place) : Bool :=
  let language := ["LC_ALL", "LC_CTYPE", "LANG"].filterMap fun n =>
    (p.vars.lookup n).filter (· != "")
  language.head?.any fun l =>
    l.startsWith "C." && ((l.toLower.toList.drop 2).filter Char.isAlphanum) = "utf8".toList

/-- Quoted text in what programs say. -/
def quoted (p : Place) (text : String) : String := Quoting.inMessage (isWide p) text

/-- The name of a file in quotes, in what programs say. -/
def marked (p : Place) (name : String) : String := Quoting.forShell (isWide p) true name

/-- The name of a file in front of a colon: quoted if it needs to be. -/
def named (p : Place) (name : String) : String :=
  Quoting.forShell (isWide p) (name.toList.contains ':') name

/-- The bytes of the files that are named, one after the other; without names those of
the first stream.  A name that stands for no file is complained about. -/
def sources (p : Place) (name : String) (complaint : String → String) (files : List String) :
    List (Bool × List UInt8) × Bool × List UInt8 :=
  if files.isEmpty then ([(false, p.input)], true, [])
  else
    let found := files.map fun f =>
      if f = "-" then (false, p.input)
      else
        match p.disk.item? p.directory f with
        | some (.file bytes) => (false, bytes)
        | some .folder => (true, bytesOf (name ++ ": " ++ complaint f ++ ": Is a directory\n"))
        | none =>
            (true, bytesOf (name ++ ": " ++ complaint f ++ ": No such file or directory\n"))
    (found, found.all fun e => !e.1, if files.contains "-" then [] else p.input)

/-- What a program prints that works on all that it reads. -/
def filtered (p : Place) (name : String) (complaint : String → String) (files : List String)
    (work : List UInt8 → List UInt8) : Ended :=
  let (found, all, left) := sources p name complaint files
  let faults := found.filter fun e => e.1
  let bytes := (found.filter fun e => !e.1).flatMap Prod.snd
  ⟨faults ++ [(false, work bytes)], if all then 0 else 1, p.disk, left⟩

/-- Short options in front of the words of a program: the letters, and the words behind
them.  Two dashes end the options. -/
def letters : List String → List Char × List String
  | [] => ([], [])
  | word :: rest =>
      match word.toList with
      | ['-', '-'] => ([], rest)
      | '-' :: c :: cs =>
          let (more, left) := letters rest
          (c :: cs ++ more, left)
      | _ => ([], word :: rest)

/-- The number of pieces that is asked for in front of the words of a program, whether
the pieces are bytes, and the words left. -/
def amount (words : List String) : Option String × Bool × List String :=
  match words with
  | [] => (none, false, [])
  | word :: rest =>
      match word.toList with
      | ['-', 'n'] => (rest.head?, false, rest.drop 1)
      | ['-', 'c'] => (rest.head?, true, rest.drop 1)
      | '-' :: 'n' :: cs => (some (String.ofList cs), false, rest)
      | '-' :: 'c' :: cs => (some (String.ofList cs), true, rest)
      | '-' :: c :: cs =>
          if Text.isAsciiDigit c then (some (String.ofList (c :: cs)), false, rest)
          else (none, false, words)
      | _ => (none, false, words)

/-- The first or the last pieces of what is read. -/
def part (p : Place) (name : String) (first : Bool) (words : List String) : Ended :=
  let (asked, ofBytes, files) := amount words
  let asked := (asked.getD "10").toList
  let (sign, digits) := asked.span fun c => c = '+' || c = '-'
  if digits.isEmpty || !digits.all Text.isAsciiDigit then
    failed p 1 (name ++ ": invalid number of " ++ (if ofBytes then "bytes" else "lines") ++ ": " ++
      quoted p (String.ofList asked))
  else
    let n := Text.natOfDigits digits
    let pick {α : Type} (items : List α) : List α :=
      if first then items.take (if sign = ['-'] then items.length - n else n)
      else items.drop (if sign = ['+'] then n - 1 else items.length - n)
    filtered p name (fun f => "cannot open " ++ marked p f ++ " for reading") files fun bytes =>
      if ofBytes then pick bytes
      else
        let picked := unlines (pick (linesOf bytes))
        if bytes.getLast? = some 0x0a || first && picked.length ≤ bytes.length then picked
        else picked.dropLast

/-- A number with blanks in front. -/
def aligned (width n : Nat) : String :=
  let digits := Nat.repr n
  String.ofList (List.replicate (width - digits.length) ' ') ++ digits

/-- The number of words in bytes. -/
def wordCount (bytes : List UInt8) : Nat :=
  let isSpace (b : UInt8) := b = 0x20 || (0x09 ≤ b && b ≤ 0x0d)
  (bytes.foldl
    (fun (count, inside) b => if isSpace b then (count, false) else (if inside then count else count + 1, true))
    ((0, false) : Nat × Bool)).1

/-- The lines, words and bytes of files are counted. -/
def counted (p : Place) (words : List String) : Ended :=
  let (options, files) := letters words
  let wanted (c : Char) := options.isEmpty || options.contains c
  let counts (bytes : List UInt8) : List Nat :=
    (if wanted 'l' then [bytes.count 0x0a] else []) ++ (if wanted 'w' then [wordCount bytes] else []) ++
      (if options.contains 'm' then [(charsOf bytes).length] else []) ++
      (if wanted 'c' then [bytes.length] else [])
  let (found, all, left) := sources p "wc" (named p) files
  let total := counts ((found.filter fun e => !e.1).flatMap Prod.snd)
  let sizes := (found.filter fun e => !e.1).flatMap Prod.snd
  let width :=
    if files.isEmpty then (if total.length = 1 then 1 else 7)
    else if files.length = 1 && total.length = 1 then 1
    else (Nat.repr sizes.length).length
  let row (ns : List Nat) (name : Option String) : List UInt8 :=
    bytesOf (Text.joinWith " " (ns.map (aligned width)) ++
      (match name with
      | some f => " " ++ f
      | none => "") ++ "\n")
  if files.isEmpty then ⟨[(false, row total none)], 0, p.disk, left⟩
  else
    let rows := (files.zip found).map fun (f, e) => if e.1 then e else (false, row (counts e.2) (some f))
    let sums := if files.length = 1 then [] else [(false, row total (some "total"))]
    ⟨rows ++ sums, if all then 0 else 1, p.disk, left⟩

/-- The numbers from one to another one. -/
def numbers (p : Place) (words : List String) : Ended :=
  match words.find? fun w => (Condition.number? w).isNone with
  | some w =>
      failed p 1 ("seq: invalid floating point argument: " ++ quoted p w ++
        "\nTry 'seq --help' for more information.")
  | none =>
      match words.filterMap Condition.number? with
      | [] => lacking p "seq" "operand"
      | first :: rest =>
          let (low, step, high) : Int × Int × Int := match rest with
            | [] => (1, 1, first)
            | [last] => (first, 1, last)
            | step :: last :: _ => (first, step, last)
          if step = 0 then failed p 1 ("seq: invalid Zero increment value: " ++ quoted p "0")
          else
            let span := if step > 0 then high - low else low - high
            let count := if span < 0 then 0 else (span / step.natAbs).toNat + 1
            told p (String.join ((List.range count).map fun (i : Nat) =>
              toString (low + step * i) ++ "\n"))

/-- The characters of a set of `tr`: ranges and classes are written out. -/
def charSet : List Char → List Char
  | a :: '-' :: b :: rest =>
      ((List.range (b.toNat + 1 - a.toNat)).map fun i => Char.ofNat (a.toNat + i)) ++ charSet rest
  | '[' :: ':' :: 'u' :: 'p' :: 'p' :: 'e' :: 'r' :: ':' :: ']' :: rest =>
      "ABCDEFGHIJKLMNOPQRSTUVWXYZ".toList ++ charSet rest
  | '[' :: ':' :: 'l' :: 'o' :: 'w' :: 'e' :: 'r' :: ':' :: ']' :: rest =>
      "abcdefghijklmnopqrstuvwxyz".toList ++ charSet rest
  | '[' :: ':' :: 'd' :: 'i' :: 'g' :: 'i' :: 't' :: ':' :: ']' :: rest =>
      "0123456789".toList ++ charSet rest
  | '[' :: ':' :: 's' :: 'p' :: 'a' :: 'c' :: 'e' :: ':' :: ']' :: rest =>
      " \t\n\r".toList ++ charSet rest
  | c :: rest => c :: charSet rest
  | [] => []

/-- The characters of a set of `tr` without escapes; a backslash in front of a character
that is no escape is left away. -/
def plainSet : (fuel : Nat) → List Char → List Char
  | 0, _ => []
  | _, [] => []
  | fuel + 1, '\\' :: c :: rest =>
      if Leading.isOctal c then
        let (byte, left) := Escape.octal false (c :: rest)
        Char.ofNat byte.toNat :: plainSet fuel left
      else ((Escape.control? c).filter fun _ => c ≠ 'e').getD c :: plainSet fuel rest
  | fuel + 1, c :: rest => c :: plainSet fuel rest

/-- The bytes of a set of `tr`. -/
def byteSet (word : String) : List UInt8 :=
  Text.toBytes (charSet (plainSet (word.length + 1) word.toList))

/-- Bytes are replaced, removed or squeezed. -/
def replaced (p : Place) (words : List String) : Ended :=
  let (options, sets) := letters words
  match sets with
  | [] => lacking p "tr" "operand"
  | first :: rest =>
      let members := byteSet first
      let isMember (b : UInt8) := members.contains b != (options.contains 'c' || options.contains 'C')
      let images := (rest.head?.map byteSet).getD []
      let image (b : UInt8) : UInt8 :=
        if !isMember b then b
        else
          let i := if options.contains 'c' then images.length else members.idxOf b
          images.getD i (images.getLastD b)
      let squeeze (among : List UInt8) (bytes : List UInt8) : List UInt8 :=
        (bytes.foldl
          (fun kept b => if kept.head? = some b && among.contains b then kept else b :: kept)
          []).reverse
      filtered p "tr" id [] fun bytes =>
        if options.contains 'd' then bytes.filter fun b => !isMember b
        else
          let mapped := if images.isEmpty then bytes else bytes.map image
          if options.contains 's' then squeeze (if images.isEmpty then members else images) mapped
          else mapped

/-- The order of lines: by the first byte in which they differ. -/
def precedes : List UInt8 → List UInt8 → Bool
  | [], _ => true
  | _ :: _, [] => false
  | a :: as, b :: bs => if a = b then precedes as bs else a.toNat < b.toNat

/-- The number that a line begins with, as its whole part and the digits behind the point;
both are negative below zero. -/
def lineNumber (line : List UInt8) : Int × Int × Nat :=
  let cs := (charsOf line).dropWhile fun c => c = ' ' || c = '\t'
  let (sign, digits) : Int × List Char := match cs with
    | '-' :: rest => (-1, rest)
    | _ => (1, cs)
  let whole := digits.takeWhile Text.isAsciiDigit
  let places := match digits.drop whole.length with
    | '.' :: rest => rest.takeWhile Text.isAsciiDigit
    | _ => []
  (sign * Text.natOfDigits whole, sign * Text.natOfDigits places, places.length)

/-- Of two numbers, each with its places, the first is the smaller one. -/
def isBelow (a b : Int × Int × Nat) : Bool :=
  let scaled (x : Int × Int × Nat) (other : Nat) : Int :=
    (x.1 * (Nat.pow 10 x.2.2 : Nat) + x.2.1) * (Nat.pow 10 other : Nat)
  scaled a b.2.2 < scaled b a.2.2

/-- Lines without those that are like the one before. -/
def distinct (lines : List (List UInt8)) : List (Nat × List UInt8) :=
  lines.foldr
    (fun line kept =>
      match kept with
      | (n, other) :: rest => if other = line then (n + 1, other) :: rest else (1, line) :: kept
      | [] => [(1, line)])
    []

/-- Lines in order. -/
def sorted (p : Place) (words : List String) : Ended :=
  let (options, files) := letters words
  filtered p "sort" (fun f => "cannot read: " ++ named p f) files fun bytes =>
    let lines := (linesOf bytes).mergeSort fun a b =>
      let (x, y) := (lineNumber a, lineNumber b)
      if options.contains 'n' && (isBelow x y || isBelow y x) then isBelow x y else precedes a b
    let lines := if options.contains 'r' then lines.reverse else lines
    unlines (if options.contains 'u' then (distinct lines).map Prod.snd else lines)

/-- Lines without those that are like the one before, with their numbers if asked for. -/
def unrepeated (p : Place) (words : List String) : Ended :=
  let (options, files) := letters words
  filtered p "uniq" (named p) files fun bytes =>
    unlines ((distinct (linesOf bytes)).map fun (n, line) =>
      if options.contains 'c' then bytesOf (aligned 7 n ++ " ") ++ line else line)

/-- A piece of an expression that lines are searched for: what one character has to be,
and whether it may come any number of times. -/
structure Step where
  isMember : Char → Bool
  many : Bool

/-- The steps of an expression; a dot stands for any character, brackets for one of a
set, and a star for any number of what is in front of it. -/
def stepsOf : (fuel : Nat) → List Char → List Step
  | 0, _ => []
  | _, [] => []
  | fuel + 1, c :: rest =>
      let (isMember, left) : (Char → Bool) × List Char := match c with
        | '.' => (fun _ => true, rest)
        | '\\' => (fun d => some d = rest.head?, rest.drop 1)
        | '[' => match Pattern.set? (rest.map fun d => (d, false)) with
            | some (isMember, left) => (isMember, left.map Prod.fst)
            | none => (fun d => d = c, rest)
        | _ => (fun d => d = c, rest)
      match left with
      | '*' :: left => ⟨isMember, true⟩ :: stepsOf fuel left
      | _ => ⟨isMember, false⟩ :: stepsOf fuel left

/-- Steps fit the beginning of a text, or all of it. -/
def stepsFit (toEnd : Bool) : (fuel : Nat) → List Step → List Char → Bool
  | 0, _, _ => false
  | _, [], cs => !toEnd || cs.isEmpty
  | fuel + 1, step :: steps, cs =>
      let once (next : List Step) := match cs with
        | c :: rest => step.isMember c && stepsFit toEnd fuel next rest
        | [] => false
      if step.many then stepsFit toEnd fuel steps cs || once (step :: steps) else once steps

/-- An expression fits somewhere in a text. -/
def isFound (expression text : List Char) : Bool :=
  let (atStart, rest) : Bool × List Char := match expression with
    | '^' :: rest => (true, rest)
    | _ => (false, expression)
  let toEnd := rest.getLast? = some '$'
  let steps := stepsOf (rest.length + 1) (if toEnd then rest.dropLast else rest)
  let fuel := steps.length + text.length + 1
  if atStart then stepsFit toEnd fuel steps text
  else (List.range (text.length + 1)).any fun i => stepsFit toEnd fuel steps (text.drop i)

/-- The lines in which an expression is found. -/
def searched (p : Place) (words : List String) : Ended :=
  let (options, rest) := letters words
  match rest with
  | [] => failed p 2 "Usage: grep [OPTION]... PATTERNS [FILE]...\nTry 'grep --help' for more information."
  | expression :: files =>
      let plain (cs : List Char) := if options.contains 'i' then cs.map Char.toLower else cs
      let (found, all, left) := sources p "grep" id files
      let lines := linesOf ((found.filter fun e => !e.1).flatMap Prod.snd)
      let expression := if options.contains 'F' then expression.toList.flatMap fun c => ['\\', c]
        else expression.toList
      let kept := lines.filter fun line =>
        isFound (plain expression) (plain (charsOf line)) != options.contains 'v'
      let output :=
        if options.contains 'q' then []
        else if options.contains 'c' then bytesOf (Nat.repr kept.length ++ "\n")
        else unlines kept
      ⟨(found.filter fun e => e.1) ++ [(false, output)],
        if !all then 2 else if kept.isEmpty then 1 else 0, p.disk, left⟩

/-- The names in a folder. -/
def listed (p : Place) (words : List String) : Ended :=
  let (_, named) := letters words
  let places := if named.isEmpty then ["."] else named
  let shown := places.map fun name =>
    match p.disk.item? p.directory name with
    | none =>
        (true, bytesOf ("ls: cannot access " ++ marked p name ++ ": No such file or directory\n"))
    | some (.file _) => (false, bytesOf (name ++ "\n"))
    | some .folder =>
        (false, unlines (((p.disk.names (Disk.path p.directory name)).filter fun n =>
          !n.startsWith ".").map bytesOf))
  ⟨(shown.filter fun e => e.1) ++ (shown.filter fun e => !e.1),
    if shown.any fun e => e.1 then 2 else 0, p.disk, p.input⟩

/-- Each name is worked on; a change of the disk or a complaint comes of it. -/
def forEach (p : Place) (names : List String) (work : Disk → String → Except String Disk) : Ended :=
  let (disk, faults) := names.foldl
    (fun (disk, faults) name =>
      match work disk name with
      | .ok disk => (disk, faults)
      | .error e => (disk, faults ++ [(true, bytesOf (e ++ "\n"))]))
    (p.disk, [])
  ⟨faults, if faults.isEmpty then 0 else 1, disk, p.input⟩

/-- Files that are not there are made. -/
def touched (p : Place) (words : List String) : Ended :=
  forEach p (letters words).2 fun disk name =>
    let path := Disk.path p.directory name
    if (disk.lookup path).isSome then .ok disk
    else if disk.canHold path then .ok (disk.write path [])
    else .error ("touch: cannot touch " ++ marked p name ++ ": No such file or directory")

/-- Files are removed, and folders if that is asked for. -/
def removed (p : Place) (words : List String) : Ended :=
  let (options, names) := letters words
  let forced := options.contains 'f'
  let deep := options.contains 'r' || options.contains 'R'
  if names.isEmpty && !forced then lacking p "rm" "operand"
  else
    forEach p names fun disk name =>
      let path := Disk.path p.directory name
      match disk.lookup path with
      | some (.file _) => .ok (disk.remove path)
      | some .folder =>
          if deep then .ok (disk.remove path)
          else .error ("rm: cannot remove " ++ marked p name ++ ": Is a directory")
      | none =>
          if forced then .ok disk
          else .error ("rm: cannot remove " ++ marked p name ++ ": No such file or directory")

/-- The folders of a path that are not there are made, the outer ones first. -/
def withFolders (disk : Disk) : (fuel : Nat) → String → Disk
  | 0, _ => disk
  | fuel + 1, path =>
      if (disk.lookup path).isSome then disk
      else withFolders disk fuel (Disk.parent path) ++ [(path, .folder)]

/-- Folders are made. -/
def founded (p : Place) (words : List String) : Ended :=
  let (options, names) := letters words
  if names.isEmpty then lacking p "mkdir" "operand"
  else
    forEach p names fun disk name =>
      let path := Disk.path p.directory name
      let refused (why : String) : Except String Disk :=
        .error ("mkdir: cannot create directory " ++ quoted p name ++ ": " ++ why)
      if options.contains 'p' then .ok (withFolders disk path.length path)
      else if (disk.lookup path).isSome then refused "File exists"
      else if disk.canHold path then .ok (disk ++ [(path, .folder)])
      else refused "No such file or directory"

/-- The numbers that a list of numbers and ranges asks for. -/
def isListed (list : String) (n : Nat) : Bool :=
  (Text.fieldsOf ',' list).any fun range =>
    match (Text.fieldsOf '-' range).map String.toList with
    | [one] => n = Text.natOfDigits one
    | [low, high] =>
        (low.isEmpty || Text.natOfDigits low ≤ n) && (high.isEmpty || n ≤ Text.natOfDigits high)
    | _ => false

/-- The value of an option: behind its letter, or the next word. -/
def optionValue? (letter : Char) : List String → Option String
  | [] => none
  | word :: rest =>
      match word.toList with
      | '-' :: c :: cs =>
          if c = letter then if cs.isEmpty then rest.head? else some (String.ofList cs)
          else optionValue? letter rest
      | _ => optionValue? letter rest

/-- Pieces of lines: fields between a mark, or characters. -/
def cutOut (p : Place) (words : List String) : Ended :=
  let mark := ((optionValue? 'd' words).getD "\t").toList.headD '\t'
  let pick {α : Type} (list : String) (items : List α) : List α :=
    (items.zipIdx.filter fun item => isListed list (item.2 + 1)).map Prod.fst
  let work (line : List Char) : List Char :=
    match optionValue? 'f' words, optionValue? 'c' words with
    | some list, _ =>
        if line.contains mark then [mark].intercalate (pick list (Text.fields mark line)) else line
    | none, some list => pick list line
    | none, none => line
  if (optionValue? 'f' words).isNone && (optionValue? 'c' words).isNone then
    failed p 1 ("cut: you must specify a list of bytes, characters, or fields\n" ++
      "Try 'cut --help' for more information.")
  else
    filtered p "cut" id [] fun bytes =>
      unlines ((linesOf bytes).map fun line => Text.toBytes (work (charsOf line)))

/-- A file is copied, and removed from its place if it is moved. -/
def copied (p : Place) (name : String) (words : List String) : Ended :=
  match (letters words).2 with
  | [] => lacking p name "file operand"
  | [source] =>
      failed p 1 (name ++ ": missing destination file operand after " ++ marked p source ++ "\nTry '" ++
        name ++ " --help' for more information.")
  | source :: target :: _ =>
      let path := Disk.path p.directory source
      let goal := Disk.path p.directory target
      let goal := if p.disk.lookup goal = some .folder
        then Disk.path goal (String.ofList (Text.lastName path)) else goal
      match p.disk.lookup path with
      | some (.file bytes) =>
          if p.disk.canHold goal then
            let disk := if name = "mv" then p.disk.remove path else p.disk
            ⟨[], 0, disk.write goal bytes, p.input⟩
          else failed p 1 (name ++ ": cannot create regular file " ++ marked p target ++ ": No such file or directory")
      | some .folder => failed p 1 (name ++ ": -r not specified; omitting directory " ++ marked p source)
      | none => failed p 1 (name ++ ": cannot stat " ++ marked p source ++ ": No such file or directory")

/-- The value of a formula that is written as words. -/
def reckoned (p : Place) (words : List String) : Ended :=
  if words.isEmpty then lacking p "expr" "operand"
  else
    let formula := " ".intercalate (words.map fun w => if w = "=" then "==" else w)
    match Formula.evaluate (fun _ => 0) formula.toList with
    | .ok (n, _) => ⟨[(false, bytesOf (toString n ++ "\n"))], if n = 0 then 1 else 0, p.disk, p.input⟩
    | .error .division => failed p 2 "expr: division by zero"
    | .error _ =>
        match words with
        | [word] => told p (word ++ "\n")
        | _ => failed p 2 "expr: syntax error"

/-- What `printf` says about its format or an argument. -/
def complaint (p : Place) : Format.Complaint → List UInt8
  | .noNumber a => bytesOf (quoted p a ++ ": expected a numeric value")
  | .notAll a => bytesOf (quoted p a ++ ": value not completely converted")
  | .outOfRange a => bytesOf (quoted p a ++ ": Numerical result out of range")
  | .ignored bytes =>
      bytesOf "warning: " ++ bytes ++
        bytesOf ": character(s) following character constant have been ignored"
  | .width a => bytesOf ("invalid field width: " ++ quoted p a)
  | .precision a => bytesOf ("invalid precision: " ++ quoted p a)
  | .oversized => bytesOf "cannot perform formatted output: Value too large for defined data type"
  | .escape fault => bytesOf fault.message
  | .unknown bytes => bytes ++ bytesOf ": invalid conversion specification"
  | .unended d => bytesOf (d ++ ": invalid conversion specification")

/-- Output of `printf`, with what it says about its arguments.  An escape that ends the
output makes it succeed. -/
def printed (p : Place) (words : List String) : Ended :=
  match if words.head? = some "--" then words.drop 1 else words with
  | [] => lacking p "printf" "operand"
  | template :: arguments =>
      let o := Format.print ⟨true, isWide p⟩ template arguments
      let isStopped := o.complaints.any Format.Complaint.isFatal
      let isFaulty := o.complaints.any fun c => !c.isWarning
      let excess :=
        if o.left.isEmpty || o.isEnded then []
        else [bytesOf ("warning: ignoring excess arguments, starting with " ++ quoted p (o.left.headD ""))]
      let said := (o.complaints.map (complaint p) ++ excess).map fun text =>
        (true, bytesOf "printf: " ++ text ++ [0x0a])
      ⟨(false, o.bytes) :: said, if isStopped || (isFaulty && !o.isEnded) then 1 else 0, p.disk, p.input⟩

/-- The options in front of the words of `echo`: whether escapes are read, whether a line
end is left away, and the words behind them. -/
def echoOptions : (escapes plain : Bool) → List String → Bool × Bool × List String
  | escapes, plain, word :: rest =>
      match word.toList with
      | '-' :: c :: cs =>
          if (c :: cs).all "eEn".toList.contains then
            let escapes : Bool := (c :: cs).foldl (fun e c => if c = 'n' then e else c == 'e') escapes
            echoOptions escapes (plain || (c :: cs).contains 'n') rest
          else (escapes, plain, word :: rest)
      | _ => (escapes, plain, word :: rest)
  | escapes, plain, [] => (escapes, plain, [])

/-- Words with blanks between them; escapes are read if that is asked for. -/
def echoed (p : Place) (words : List String) : Ended :=
  let (escapes, plain, words) := echoOptions false false words
  let text := " ".intercalate words
  let o : Escape.Output := if escapes then Escape.output (isWide p) .echo text else ⟨bytesOf text, false, none⟩
  ⟨[(false, if plain || o.isEnded then o.bytes else o.bytes ++ [0x0a])], 0, p.disk, p.input⟩

/-- The condition that words write. -/
def tested (p : Place) (name : String) (words : List String) : Ended :=
  match Condition.holds p.disk p.directory words with
  | .ok found => silent p (if found then 0 else 1)
  | .error e => failed p 2 (name ++ ": " ++ e)

/-- What a program of a name does; none if there is no such program. -/
def run? (p : Place) (name : String) (words : List String) : Option Ended :=
  match name with
  | "true" => some (silent p 0)
  | "false" => some (silent p 1)
  | "echo" => some (echoed p words)
  | "printf" => some (printed p words)
  | "pwd" => some (told p (p.directory ++ "\n"))
  | "test" => some (tested p name words)
  | "[" =>
      some (if words.getLast? = some "]" then tested p name words.dropLast
        else failed p 2 "[: missing ‘]’")
  | "cat" =>
      let (found, all, left) := sources p "cat" (named p) (letters words).2
      some ⟨found, if all then 0 else 1, p.disk, left⟩
  | "head" => some (part p name true words)
  | "tail" => some (part p name false words)
  | "wc" => some (counted p words)
  | "seq" => some (numbers p words)
  | "yes" =>
      let line := bytesOf ((if words.isEmpty then "y" else " ".intercalate words) ++ "\n")
      some ⟨[(false, (List.replicate 4096 line).flatten)], 0, p.disk, p.input⟩
  | "tr" => some (replaced p words)
  | "sort" => some (sorted p words)
  | "uniq" => some (unrepeated p words)
  | "grep" => some (searched p words)
  | "rev" =>
      some (filtered p name (fun f => "cannot open " ++ f) words fun bytes =>
        unlines ((linesOf bytes).map fun line => Text.toBytes (charsOf line).reverse))
  | "tac" =>
      some (filtered p name (fun f => "failed to open " ++ marked p f ++ " for reading") words fun bytes =>
        unlines (linesOf bytes).reverse)
  | "ls" => some (listed p words)
  | "touch" => some (touched p words)
  | "rm" => some (removed p words)
  | "cp" | "mv" => some (copied p name words)
  | "cut" => some (cutOut p words)
  | "expr" => some (reckoned p words)
  | "mkdir" => some (founded p words)
  | "basename" =>
      some (match words with
        | [] => lacking p name "operand"
        | path :: rest =>
            let last := String.ofList (Text.lastName path)
            let ending := rest.headD ""
            told p ((if last ≠ ending && last.endsWith ending then
              String.ofList (last.toList.take (last.length - ending.length)) else last) ++ "\n"))
  | "dirname" =>
      some (if words.isEmpty then lacking p name "operand"
        else
          told p (String.join (words.map fun path =>
            let names := path.toList.reverse.dropWhile (· = '/')
            let above := ((names.dropWhile (· ≠ '/')).dropWhile (· = '/')).reverse
            (if !above.isEmpty then String.ofList above
              else if path.startsWith "/" then "/"
              else ".") ++ "\n")))
  | "printenv" =>
      some (if words.isEmpty then told p (String.join (p.vars.map fun v => v.1 ++ "=" ++ v.2 ++ "\n"))
        else
          let found := words.filterMap fun n => p.vars.lookup n
          ⟨[(false, bytesOf (String.join (found.map (· ++ "\n"))))],
            if found.length = words.length then 0 else 1, p.disk, p.input⟩)
  | "sleep" =>
      some (if words.isEmpty then lacking p name "operand"
        else
          match words.find? fun w =>
              !(w.toList.takeWhile fun c => Text.isAsciiDigit c || c = '.').any Text.isAsciiDigit with
          | some w =>
              failed p 1 ("sleep: invalid time interval " ++ quoted p w ++
                "\nTry 'sleep --help' for more information.")
          | none => silent p 0)
  | "uname" => some (told p "Linux\n")
  | "whoami" => some (told p "root\n")
  | "id" => some (told p (if words = ["-u"] || words = ["-g"] then "0\n" else "uid=0(root) gid=0(root) groups=0(root)\n"))
  | "tee" =>
      let (options, names) := letters words
      let paths := names.map (Disk.path p.directory)
      some ⟨[(false, p.input)], 0,
        paths.foldl
          (fun disk path =>
            disk.write path ((if options.contains 'a' then disk.bytes path else []) ++ p.input))
          p.disk,
        []⟩
  | "sync" => some (silent p 0)
  | _ => none

end Program
end Script
end Homelab
