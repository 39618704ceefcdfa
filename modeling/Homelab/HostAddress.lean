import Homelab.Inventory
import Homelab.Shell
import Homelab.Text.Blank

/-!
# The address of the build host

Files for an unattended installation are served from the machine that runs the
build, so templates need its address on the network of the build.  It is taken from
the list of interfaces that the host prints: the first address, in the order of
printing, that lies in the subnet of the network.  A subnet without a length holds
only itself.
-/

namespace Homelab
namespace HostAddress

/-- A character of an address in the list of interfaces. -/
def isAddressChar (c : Char) : Bool :=
  Text.isHexDigit c || c = ':' || c = '.'

/-- The rest of a line after the word that announces an address. -/
def afterWord? (line : List Char) : Option (List Char) :=
  (Text.after? "inet".toList line).map fun rest =>
    if rest.head? = some '6' then rest.tail else rest

/-- The address that a line announces: a word, blanks, an address, a slash and a
digit, and then anything. -/
def announced? (line : List Char) : Option (List Char) :=
  match afterWord? line with
  | none => none
  | some rest =>
      let more := rest.dropWhile Text.isBlank
      let address := more.takeWhile isAddressChar
      match more.dropWhile isAddressChar with
      | '/' :: digit :: _ =>
          if rest.length ≠ more.length && !address.isEmpty && Text.isDecimalDigit digit then
            some address
          else none
      | _ => none

/-- The address on a line, if it lies in a subnet. -/
def onLine? (subnet : Interface) (line : List Char) : Option Address :=
  match (announced? (Text.stripChars line)).bind Address.readChars? with
  | some a => if subnet.covers a then some a else none
  | none => none

/-- The first address in a list of interfaces that lies in a subnet. -/
def find? (subnet : Interface) (output : String) : Option Address :=
  (Text.lines output.toList).findSome? (onLine? subnet)

/-- The text of the first address in a list of interfaces that lies in a subnet given
as text. -/
def findIn (subnet output : String) : Except Failure (Option String) :=
  match Interface.read? subnet with
  | none => .error (.subnet subnet)
  | some i => .ok ((find? i output).map Address.text)

/-- Where the address is looked up: the inventory, the name of the network, and the
build host if it is another machine. -/
structure Source where
  inventory : Inventory
  network : String
  host : Option String

/-- The command that lists the interfaces. -/
def listInterfaces (host : Option String) : Command :=
  ⟨["ip", "addr", "show"], [], false, none, host⟩

/-- The address of the build host, looked up anew. -/
def lookUp (source : Source) : Act String :=
  match source.inventory.network? source.network with
  | none => throw (.networkNotFound source.network)
  | some n => do
      let output ← Act.runCommand (listInterfaces source.host)
      match ← Act.ofExcept (findIn n.subnet output) with
      | some address => pure address
      | none => throw (.noHostAddress source.network n.subnet)

/-- The address of the build host: once found it is remembered, and the host is not
asked again. -/
def provide (source : Source) : StateT (Option String) Act String := do
  match ← get with
  | some address => pure address
  | none =>
      let address ← lookUp source
      set (some address)
      pure address

end HostAddress
end Homelab
