import Homelab.Text.Lines

/-!
# Paths of files

A path is made of names with slashes between them.  A path that begins with a slash
does not depend on where it is joined to.  The normal form of a path has no empty
names, no single dots, and no double dots after a name.
-/

namespace Homelab
namespace Text

/-- A path below another one. -/
def joinPath (base path : String) : String :=
  if path.toList.head? = some '/' then path
  else if base = "" || base.toList.getLast? = some '/' then base ++ path
  else base ++ "/" ++ path

/-- The slashes at the beginning of a path that count: two are kept, more are one. -/
def leadingSlashes (cs : List Char) : Nat :=
  match (cs.takeWhile (· = '/')).length with
  | 0 => 0
  | 2 => 2
  | _ => 1

/-- The names of a path in normal form, the last one first. -/
def pathNames (rooted : Bool) (names : List (List Char)) : List (List Char) :=
  names.foldl
    (fun kept name =>
      if name.isEmpty || name = ['.'] then kept
      else if name ≠ ['.', '.'] then name :: kept
      else
        match kept with
        | [] => if rooted then [] else [name]
        | last :: rest => if last = ['.', '.'] then name :: kept else rest)
    []

/-- The normal form of a path. -/
def normalPath (path : String) : String :=
  let cs := path.toList
  let slashes := leadingSlashes cs
  let names := (pathNames (slashes ≠ 0) (fields '/' cs)).reverse
  let text := String.ofList (List.replicate slashes '/') ++ joinWith "/" (names.map String.ofList)
  if text = "" then "." else text

/-- The names of a path, without empty ones and single dots. -/
def plainNames (path : String) : List (List Char) :=
  (fields '/' path.toList).filter fun name => !name.isEmpty && name != ['.']

/-- A path without empty names and single dots. -/
def plainPath (path : String) : String :=
  let text := String.ofList (List.replicate (leadingSlashes path.toList) '/') ++
    joinWith "/" ((plainNames path).map String.ofList)
  if text = "" then "." else text

/-- The last name of a path. -/
def lastName (path : String) : List Char :=
  ((fields '/' (plainPath path).toList).getLast?).getD []

/-- The suffix of the last name of a path, with the dot in front of it; a dot that
begins or ends the name makes no suffix. -/
def suffix (path : String) : String :=
  match cutLast? '.' (lastName path) with
  | some (stem, rest) =>
      if stem.isEmpty || rest.isEmpty then "" else String.ofList ('.' :: rest)
  | none => ""

end Text
end Homelab
