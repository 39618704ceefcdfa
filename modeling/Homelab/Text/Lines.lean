/-!
# Lines and fields

Cutting text at a separator and at line ends, and putting the pieces together
again.  A text file may end its lines with a line feed, a carriage return or
both; reading one turns each of these into a line feed.
-/

namespace Homelab
namespace Text

/-- The pieces of a text between occurrences of a separator; there is always
one piece more than there are separators. -/
def fields (sep : Char) : List Char → List (List Char)
  | [] => [[]]
  | c :: rest =>
      if c = sep then [] :: fields sep rest
      else
        match fields sep rest with
        | [] => [[c]]
        | piece :: pieces => (c :: piece) :: pieces

/-- The pieces of a string between occurrences of a separator. -/
def fieldsOf (sep : Char) (s : String) : List String :=
  (fields sep s.toList).map String.ofList

/-- What stands before and after the first occurrence of a separator. -/
def cut? (sep : Char) : List Char → Option (List Char × List Char)
  | [] => none
  | c :: rest =>
      if c = sep then some ([], rest)
      else (cut? sep rest).map fun p => (c :: p.1, p.2)

/-- What stands before and after the last occurrence of a separator. -/
def cutLast? (sep : Char) (cs : List Char) : Option (List Char × List Char) :=
  (cut? sep cs.reverse).map fun p => (p.2.reverse, p.1.reverse)

/-- The text after a beginning, if it begins so. -/
def after? : (start : List Char) → List Char → Option (List Char)
  | [], cs => some cs
  | _ :: _, [] => none
  | a :: start, c :: cs => if a = c then after? start cs else none

/-- Every line end of a text file becomes a line feed. -/
def plainNewlines : List Char → List Char
  | [] => []
  | '\r' :: '\n' :: rest => '\n' :: plainNewlines rest
  | c :: rest => (if c = '\r' then '\n' else c) :: plainNewlines rest

/-- The characters that end a line of command output. -/
def isLineEnd (c : Char) : Bool :=
  [0x0a, 0x0b, 0x0c, 0x0d, 0x1c, 0x1d, 0x1e, 0x85, 0x2028, 0x2029].contains c.toNat

/-- The lines of a text, without their ends; a carriage return and the line
feed after it end one line together. -/
def lines : List Char → List (List Char)
  | [] => []
  | '\r' :: '\n' :: rest => [] :: lines rest
  | c :: rest =>
      if isLineEnd c then [] :: lines rest
      else
        match rest with
        | [] => [[c]]
        | _ :: _ =>
            match lines rest with
            | [] => [[c]]
            | line :: more => (c :: line) :: more

/-- The pieces with a separator between neighbours. -/
def joinWith (sep : String) : List String → String
  | [] => ""
  | [s] => s
  | s :: rest => s ++ sep ++ joinWith sep rest

/-- Even an empty text is one piece. -/
theorem fields_ne_nil (sep : Char) (cs : List Char) : fields sep cs ≠ [] := by
  cases cs with
  | nil => simp [fields]
  | cons c rest =>
      by_cases h : c = sep
      · simp [fields, h]
      · simp only [fields, h, if_false]
        split <;> simp

end Text
end Homelab
