import Homelab.Text.FilePath

/-!
# The words of a command line

Options for the whole program come first, then the name of a command, and then its
options.  An option has a long name behind two dashes and maybe a letter behind one;
some take a value, which is the next word or the rest of the same one, and of several
values the last one counts.  Letters may be joined behind one dash.  Two dashes alone
end the options.  A command takes no words beside its options.
-/

namespace Homelab
namespace CommandLine

/-- Options for the whole program. -/
structure Options where
  verbose : Bool
  debug : Bool
deriving DecidableEq

/-- The files that a command works on. -/
structure Files where
  manifest : String
  inventory : String
  credentials : Option String
deriving DecidableEq

/-- What an operator asks for. -/
inductive Request where
  | module (files : Files) (destroy : Bool)
  | template (files : Files) (buildHost : Option String) (replace : Bool)
deriving DecidableEq

/-- The commands, by the tools that they drive. -/
inductive Tool where
  | terraform
  | packer
deriving DecidableEq

namespace Usage

/-- What words have turned out to be. -/
inductive Reading (α : Type) where
  | misuse
  | help
  | found (a : α)

/-- An option: its long name, its letter if it has one, and whether it takes a value. -/
structure Spec where
  long : String
  letter : Option Char
  takesValue : Bool
deriving DecidableEq

/-- An option that has been found, with its value if it takes one. -/
abbrev Given := List (String × String)

/-- The option with a long name. -/
def ofLong? (specs : List Spec) (name : List Char) : Option Spec :=
  specs.find? fun s => s.long.toList = name

/-- The option with a letter. -/
def ofLetter? (specs : List Spec) (c : Char) : Option Spec :=
  specs.find? fun s => s.letter = some c

/-- The options that letters behind one dash stand for, and the words left after them. -/
def letters (specs : List Spec) (words : List String) : List Char →
    Option (Given × List String)
  | [] => some ([], words)
  | c :: more =>
      match ofLetter? specs c with
      | none => none
      | some s =>
          if s.takesValue then
            match more, words with
            | [], [] => none
            | [], value :: rest => some ([(s.long, value)], rest)
            | _, _ => some ([(s.long, String.ofList more)], words)
          else (letters specs words more).map fun r => ((s.long, "") :: r.1, r.2)

/-- The option that a word with two dashes stands for, and the words left after it. -/
def long (specs : List Spec) (word : List Char) (words : List String) :
    Option (Given × List String) :=
  match Text.cut? '=' word with
  | some (name, value) =>
      match ofLong? specs name with
      | some s => if s.takesValue then some ([(s.long, String.ofList value)], words) else none
      | none => none
  | none =>
      match ofLong? specs word with
      | none => none
      | some s =>
          if s.takesValue then
            match words with
            | [] => none
            | value :: rest => some ([(s.long, value)], rest)
          else some ([(s.long, "")], words)

/-- The options among some words, and the other words.  Without `throughout` the first
other word ends the options. -/
def parse (specs : List Spec) (throughout : Bool) : (fuel : Nat) → List String →
    Option (Given × List String)
  | 0, _ => none
  | _, [] => some ([], [])
  | fuel + 1, word :: rest =>
      match word.toList with
      | ['-', '-'] => some ([], rest)
      | '-' :: '-' :: name =>
          match long specs name rest with
          | none => none
          | some (given, left) => (parse specs throughout fuel left).map fun r => (given ++ r.1, r.2)
      | '-' :: c :: more =>
          match letters specs rest (c :: more) with
          | none => none
          | some (given, left) => (parse specs throughout fuel left).map fun r => (given ++ r.1, r.2)
      | _ =>
          if throughout then (parse specs throughout fuel rest).map fun r => (r.1, word :: r.2)
          else some ([], word :: rest)

/-- The option that asks for help. -/
def helpSpec : Spec := ⟨"help", none, false⟩

/-- The options for the whole program. -/
def programSpecs : List Spec := [helpSpec, ⟨"verbose", some 'v', false⟩, ⟨"debug", none, false⟩]

/-- The options of both commands. -/
def sharedSpecs : List Spec :=
  [helpSpec, ⟨"manifest", some 'm', true⟩, ⟨"inventory-file", some 'i', true⟩,
   ⟨"bw-auth", none, true⟩]

/-- The options of a command. -/
def specs : Tool → List Spec
  | .terraform => sharedSpecs ++ [⟨"destroy", none, false⟩]
  | .packer => sharedSpecs ++ [⟨"ssh-info", none, true⟩, ⟨"override", none, false⟩]

/-- The tool of a command's name. -/
def tool? : String → Option Tool
  | "terraform" => some .terraform
  | "packer" => some .packer
  | _ => none

/-- An option has been given. -/
def has (given : Given) (name : String) : Bool := (given.lookup name).isSome

/-- The last value of an option. -/
def value? (given : Given) (name : String) : Option String := given.reverse.lookup name

/-- The options for the whole program, the command, and the words after its name. -/
def options (words : List String) : Reading (Options × Tool × List String) :=
  match parse programSpecs false (words.length + 1) words with
  | none => .misuse
  | some (given, rest) =>
      if has given "help" then .help
      else
        match rest with
        | [] => .misuse
        | name :: rest =>
            match tool? name with
            | none => .misuse
            | some t => .found (⟨has given "verbose", has given "debug"⟩, t, rest)

/-- An option that names a file, if the file is there; nothing if the option is not
given. -/
def file? (isFile : String → Bool) (given : Given) (name : String) : Option (Option String) :=
  match value? given name with
  | none => some none
  | some path => if isFile path then some (some (Text.plainPath path)) else none

/-- The files of a command. -/
def files? (isFile : String → Bool) (given : Given) : Option Files :=
  match file? isFile given "manifest", file? isFile given "inventory-file",
    file? isFile given "bw-auth" with
  | some (some manifest), some (some inventory), some credentials =>
      some ⟨manifest, inventory, credentials⟩
  | _, _, _ => none

/-- What is asked for by the words after the name of a command; the files named must be
there. -/
def request (isFile : String → Bool) (t : Tool) (words : List String) : Reading Request :=
  match parse (specs t) true (words.length + 1) words with
  | none => .misuse
  | some (given, rest) =>
      if has given "help" then .help
      else if !rest.isEmpty then .misuse
      else
        match files? isFile given, file? isFile given "ssh-info" with
        | some files, some buildHost =>
            match t with
            | .terraform => .found (.module files (has given "destroy"))
            | .packer => .found (.template files buildHost (has given "override"))
        | _, _ => .misuse

/-- A short word on the use of the program. -/
def helpText : String :=
  "Usage: provisioner [--verbose|--debug] terraform|packer --manifest FILE --inventory-file FILE\n" ++
  "  both:      [--bw-auth FILE]\n" ++
  "  terraform: [--destroy]\n" ++
  "  packer:    [--ssh-info FILE] [--override]\n"

end Usage
end CommandLine
end Homelab
