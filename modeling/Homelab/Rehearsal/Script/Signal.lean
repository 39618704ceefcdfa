import Homelab.Text.Digit

/-!
# Signals

The signals that a process can be sent, by name and by number.
-/

namespace Homelab
namespace Script
namespace Signal

/-- The names of the signals, by their numbers; the first one only asks whether there is
such a process, or is the end of a script. -/
def names : List String :=
  ["EXIT", "HUP", "INT", "QUIT", "ILL", "TRAP", "ABRT", "BUS", "FPE", "KILL", "USR1", "SEGV", "USR2",
    "PIPE", "ALRM", "TERM", "STKFLT", "CHLD", "CONT", "STOP", "TSTP", "TTIN", "TTOU", "URG", "XCPU",
    "XFSZ", "VTALRM", "PROF", "WINCH", "IO", "PWR", "SYS"]

/-- The number of a signal that is named or numbered. -/
def number? (word : String) : Option Nat :=
  if word ≠ "" && word.toList.all Text.isAsciiDigit then
    let n := Text.natOfDigits word.toList
    if n < 65 then some n else none
  else
    let name := word.toUpper
    if names.contains name then some (names.idxOf name) else none

/-- The name of a signal. -/
def name (n : Nat) : String := names.getD n (Nat.repr n)

/-- A signal does nothing to a process that does not wait for it. -/
def isIgnored (n : Nat) : Bool := [0, 17, 18, 23, 28].contains n

/-- What a shell says about a process that a signal has ended. -/
def notice (n : Nat) : String :=
  match n with
  | 1 => "Hangup"
  | 2 | 13 => ""
  | 3 => "Quit"
  | 4 => "Illegal instruction"
  | 5 => "Trace/breakpoint trap"
  | 6 => "Aborted"
  | 7 => "Bus error"
  | 8 => "Floating point exception"
  | 9 => "Killed"
  | 10 => "User defined signal 1"
  | 11 => "Segmentation fault"
  | 12 => "User defined signal 2"
  | 14 => "Alarm clock"
  | 15 => "Terminated"
  | _ => "Unknown signal " ++ Nat.repr n

end Signal
end Script
end Homelab
