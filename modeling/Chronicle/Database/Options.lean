import Chronicle.Database.Address

/-!
# Options of an address

The query of an address holds options for the driver. Several hosts are named either by one list of
hosts and one of ports, or by repeating the option for hosts, each with its port behind a colon; the
two ways cannot be mixed.

## Main definitions

* `Address.option?` — the values of an option.
* `Hosts`, `Address.hosts` — the hosts and ports that the options name.
* `Address.checkOptions` — whether the options fit together.
-/

namespace Chronicle

/-- Hosts as the options name them. -/
structure Hosts where
  names : List String := []
  /-- The ports that stand with the hosts; an empty list if none do. -/
  ports : List (Option String) := []

namespace Hosts

/-- Whether a character may stand in the name of a host that a port follows. -/
def isNameChar (c : Char) : Bool := c.isAlphanum || c == '-' || c == '.'

/-- The port behind a host. An empty one counts as absent. -/
def portOf (digits : List Char) : Option String :=
  if digits.isEmpty then none else some (String.ofList digits)

/-- A single host with a port behind a colon; a line feed at the end does not count. -/
def withPort? (s : String) : Option Hosts :=
  let cs := s.toList
  match cs.dropWhile isNameChar with
  | ':' :: rest =>
    let digits := rest.takeWhile Text.isDigit
    match rest.dropWhile Text.isDigit with
    | [] | ['\n'] =>
      some ⟨[String.ofList (cs.takeWhile isNameChar)], [portOf digits]⟩
    | _ => none
  | _ => none

/-- A list of hosts in one option. Only a single one can have its port with it, and only if there is
no option for ports. -/
def ofList (hasPorts : Bool) (s : String) : Hosts :=
  let names := s.splitOn ","
  if hasPorts || names.length ≠ 1 then { names } else (withPort? s).getD { names }

/-- Hosts in options of their own, each with or without a port. -/
def ofItems (items : List String) : Except EngineFault Hosts :=
  let pieces := items.map fun item => item.splitOn ":"
  if pieces.all fun p => 2 < p.length then .error .tooManyParts
  else .ok ⟨pieces.map fun p => p.headD "", pieces.map fun p => p[1]?⟩

end Hosts

namespace Address

def option? (a : Address) (name : String) : Option (List String) := a.query.lookup name

/-- The hosts that the options name. -/
def hosts (a : Address) : Except EngineFault Hosts :=
  match a.option? "host" with
  | none | some [] => .ok {}
  | some [one] => .ok (Hosts.ofList (a.option? "port").isSome one)
  | some items => Hosts.ofItems items

/-- The ports that the options name, as texts. -/
def portTexts (a : Address) (hosts : Hosts) : Except EngineFault (List (Option String)) :=
  match a.option? "port" with
  | none => .ok hosts.ports
  | some given =>
    if !hosts.ports.isEmpty then .error .mixedHosts
    else match given with
      | [one] => .ok ((one.splitOn ",").map some)
      | items => .ok (items.map some)

/-- A port as a number; an empty text is none. -/
def portNumber : Option String → Except Text.IntegerFault (Option Int)
  | none | some "" => .ok none
  | some s => some <$> Text.readInteger s

/-- Whether the numbers of hosts and ports fit together. -/
def arePaired (hosts ports : Nat) : Bool :=
  if ports = 0 then true
  else if hosts = 0 then ports ≤ 1
  else hosts = ports || (hosts ≤ 1 && ports ≤ 1)

/-- Fails if the hosts and ports do not fit together. Of several hosts each needs a name and, like
the others, a port. -/
def checkHosts (a : Address) : Except EngineFault Unit := do
  let hosts ← a.hosts
  let texts ← a.portTexts hosts
  let ports ← (texts.mapM portNumber).mapError fun _ => .badPorts texts
  if !arePaired hosts.names.length ports.length then throw .unpairedPorts
  if 1 < hosts.names.length then
    if hosts.names.any String.isEmpty then throw .missingHost
    if ports.isEmpty || ports.any fun port => port.getD 0 = 0 then throw .missingPort

/-- Fails if an option is there and no integer. -/
def checkInteger (a : Address) (name : String) : Except EngineFault Unit :=
  match a.option? name with
  | none | some [] => .ok ()
  | some [one] =>
    match Text.readInteger one with
    | .ok _ => .ok ()
    | .error fault => .error (.notAnInteger one fault)
  | some _ => .error .repeatedOption

/-- The words for true and false. -/
def truthWords : List String :=
  ["true", "yes", "on", "y", "t", "1", "false", "no", "off", "n", "f", "0"]

/-- Fails if an option is there and no truth value, in either case of its letters and with blanks
around it. An option that is given more than once is true. -/
def checkTruth (a : Address) (name : String) : Except EngineFault Unit :=
  match a.option? name with
  | some [one] =>
    let word := (String.ofList (Text.trim Text.isSpace one.toList)).toLower
    if truthWords.contains word then .ok () else .error (.notATruthValue word)
  | _ => .ok ()

/-- Fails if the options do not fit together. -/
def checkOptions (a : Address) : Except EngineFault Unit := do
  a.checkHosts
  a.checkInteger "prepared_statement_cache_size"
  a.checkTruth "async_fallback"

end Address

end Chronicle
