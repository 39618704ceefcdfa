/-!
# Starting processes

What is put to the system to start a process is a list of words, some variables and perhaps a
directory.  The system does not take a variable whose name holds the sign that ends names, nor any
text with a null character.
-/

namespace Homelab
namespace Process

/-- A text with a null character. -/
def holdsNull (s : String) : Bool := s.toList.any fun c => c.toNat = 0

/-- Why a process cannot be put to the system at all, if that is so. -/
def refusal? (words : List String) (vars : List (String × String)) (directory : Option String) :
    Option String :=
  if vars.any fun v => v.1.toList.contains '=' then some "illegal environment variable name"
  else if (words ++ directory.toList).any holdsNull ||
      vars.any fun v => holdsNull v.1 || holdsNull v.2 then
    some "embedded null byte"
  else none

end Process
end Homelab
